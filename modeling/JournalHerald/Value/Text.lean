import JournalHerald.Value
import JournalHerald.Number.Shortest
import JournalHerald.Text.Quoted

/-!
# The text of a value

* `Value.literal` is the written form of a value inside a list or an object, with quoted texts;
* `Value.display` is its plain form, with texts as they are;
* `Value.render` is how a message shows it: nothing for null, the description of a ship or body, and
  durations in words.
-/

namespace JournalHerald.Value

/-- A member of a catalogue, written with its name and its identifier. -/
def memberLiteral (catalogue name identifier : Text) : Text :=
  "<" ++ catalogue ++ "." ++ name ++ ": " ++ Text.quoted identifier ++ ">"

/-- The written form of a style. -/
def styleLiteral (s : Style) : Text :=
  memberLiteral "StyleTag" s.label s.color

mutual

/-- The written form of a value. -/
def literal : Value → Text
  | .null => "None"
  | .bool b => if b then "True" else "False"
  | .int i => Text.intText i
  | .float x => x.text
  | .text s => Text.quoted s
  | .list items => "[" ++ Text.joinWith ", " (literals items) ++ "]"
  | .object fields => "\x7b" ++ Text.joinWith ", " (fieldLiterals fields) ++ "\x7d"
  | .ship s => memberLiteral "ShipType" s.name s.identifier
  | .body b => memberLiteral "BodyType" b.name b.identifier
  | .style s => styleLiteral s
  | .duration d => d.literal
  | .moment t => t.literal
  | .date t => t.dateLiteral
  | .part p => "MessagePart(text=" ++ Text.quoted p.text ++ ", style=" ++ styleLiteral p.style ++ ")"

/-- The written forms of the items of a list. -/
def literals : List Value → List Text
  | [] => []
  | v :: rest => literal v :: literals rest

/-- The written forms of the fields of an object. -/
def fieldLiterals : List (Text × Value) → List Text
  | [] => []
  | (name, v) :: rest => (Text.quoted name ++ ": " ++ literal v) :: fieldLiterals rest

end

/-- The plain form of a value. -/
def display : Value → Text
  | .text s => s
  | .ship s => "ShipType." ++ s.name
  | .body b => "BodyType." ++ b.name
  | .style s => "StyleTag." ++ s.label
  | .duration d => d.clock
  | .moment t => t.iso " "
  | .date t => t.isoDate
  | v => v.literal

/-- How a message shows a value. -/
def render : Value → Text
  | .null => ""
  | .ship s => s.description
  | .body b => b.description
  | .style s => s.color
  | .duration d => Duration.describe (some d)
  | v => v.display

end JournalHerald.Value
