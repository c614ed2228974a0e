import JournalHerald.Value.Text

/-!
# Problems of unchecked data

What a check of dynamic values against an expected shape can complain about. Checks report every problem
they find, each with the place it is at.

* `Schema.Fault` is the complaint, `Schema.Fault.message` its wording;
* `Schema.Problem` is a fault at a place, `Schema.Problem.place` names the place, and `Schema.Problem.text`
  is the line that reports it.
-/

namespace JournalHerald.Schema

/-- What is wrong with a value. -/
inductive Fault where
  /-- A field that has to be there is not. -/
  | missing
  /-- A field that is not known is there. -/
  | unknownField
  | notText
  /-- A text with a surrogate in it, where the characters of the text matter. -/
  | brokenText
  | emptyText
  | notList
  /-- The value is no object, where one with the named shape is needed. -/
  | notObject (shape : Text)
  | notTruthValue
  | unclearTruthValue
  | notNumber
  | unreadableNumber
  | fractionalNumber
  | infiniteNumber
  | oversizedNumber
  | notPositive
  | negative
  | unknownStyle (value : Value)
  | notShip
  | notBody
  deriving Repr

/-- Alternatives in quotes, separated by commas and, before the last one, a word. -/
def alternatives (options : List Text) : Text :=
  match options.reverse with
  | [] => ""
  | [s] => "'" ++ s ++ "'"
  | last :: before =>
    Text.joinWith ", " (before.reverse.map fun s => "'" ++ s ++ "'") ++ " or '" ++ last ++ "'"

/-- A fault in words. -/
def Fault.message : Fault → Text
  | .missing => "Field required"
  | .unknownField => "Extra inputs are not permitted"
  | .notText => "Input should be a valid string"
  | .brokenText => "Input should be a valid string, unable to parse raw data as a unicode string"
  | .emptyText => "String should have at least 1 character"
  | .notList => "Input should be a valid list"
  | .notObject shape => "Input should be a valid dictionary or instance of " ++ shape
  | .notTruthValue => "Input should be a valid boolean"
  | .unclearTruthValue => "Input should be a valid boolean, unable to interpret input"
  | .notNumber => "Input should be a valid integer"
  | .unreadableNumber =>
    "Input should be a valid integer, unable to parse string as an integer"
  | .fractionalNumber =>
    "Input should be a valid integer, got a number with a fractional part"
  | .infiniteNumber => "Input should be a finite number"
  | .oversizedNumber => "Unable to parse input string as an integer, exceeded maximum size"
  | .notPositive => "Input should be greater than 0"
  | .negative => "Input should be greater than or equal to 0"
  | .unknownStyle value =>
    "Value error, Unknown color type " ++ value.literal ++ ", expected one of " ++
      Text.joinWith ", " (Style.all.map Style.label)
  | .notShip => "Input should be " ++ alternatives (ShipType.all.map ShipType.identifier)
  | .notBody => "Input should be " ++ alternatives (BodyType.all.map BodyType.identifier)

/-- A fault and the path of field names and list positions that leads to it. -/
structure Problem where
  path : List Text
  fault : Fault
  deriving Repr

/-- Where a problem is: the names on its path, or a word for the whole of the data if nothing is left to show
of the path. -/
def Problem.place (p : Problem) : Text :=
  let names := Text.joinWith "." p.path
  if names.isEmpty then "(root)" else names

/-- The line that reports a problem. -/
def Problem.text (p : Problem) : Text :=
  p.place ++ ": " ++ p.fault.message

/-- The same problem seen from further out. -/
def Problem.within (step : Text) (p : Problem) : Problem :=
  { p with path := step :: p.path }

end JournalHerald.Schema
