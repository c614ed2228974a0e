import JournalHerald.Schema.Problem
import JournalHerald.Text.Blank

/-!
# Checks of dynamic values

A check turns a dynamic value into a value of a definite type or reports its problems. Checks are lenient:
numbers may come as texts or as floating-point numbers without a fraction, truth values as numbers or words.
A text with a surrogate in it is a text, but it is refused where its characters have to be looked at.

* `Check.text`, `Check.truth`, `Check.number` and `Check.style` check single values;
* `Check.optionalText` also accepts null;
* `Check.ap` joins checks, and `Check.within` tells where a problem is.
-/

namespace JournalHerald.Schema

/-- The outcome of a check: a value, or at least one problem. -/
abbrev Checked (α : Type) := Except (List Problem) α

namespace Check

/-- Report a single fault of the value itself. -/
def fail {α : Type} (fault : Fault) : Checked α :=
  .error [⟨[], fault⟩]

/-- A text, or a member of a catalogue, which stands for a text. -/
def text (v : Value) : Checked Text :=
  match v.spelled? with
  | some s => .ok s
  | none => fail .notText

/-- A text with at least one character. -/
def nonemptyText (v : Value) : Checked Text := do
  let t ← text v
  if t.any CodePoint.isSurrogate then fail .brokenText
  else if t = "" then fail .emptyText
  else return t

/-- A text or null. -/
def optionalText : Value → Checked (Option Text)
  | .null => .ok none
  | v => (text v).map some

/-- The words for true. -/
def trueWords : List Text := ["1", "true", "t", "yes", "y", "on"]

/-- The words for false. -/
def falseWords : List Text := ["0", "false", "f", "no", "n", "off"]

/-- Half the number of values of a word of 64 bits. -/
def wordBound : Nat := Nat.pow 2 63

/-- A truth value, the number one or zero, or a word for one of them in any case. -/
def truth : Value → Checked Bool
  | .bool b => .ok b
  | .int i =>
    if i = 1 then .ok true
    else if i = 0 then .ok false
    else if -(wordBound : Int) ≤ i ∧ i < wordBound then fail .unclearTruthValue
    else fail .notTruthValue
  | .float x =>
    if x.equalsInt 1 then .ok true
    else if x.equalsInt 0 then .ok false
    else
      match x.toInt? with
      | some i => if x.isWhole ∧ i.natAbs < wordBound then fail .unclearTruthValue else fail .notTruthValue
      | none => fail .notTruthValue
  | .text t =>
    let word := t.map CodePoint.asciiLower
    if t.any CodePoint.isSurrogate then fail .brokenText
    else if trueWords.contains word then .ok true
    else if falseWords.contains word then .ok false
    else fail .unclearTruthValue
  | _ => fail .notTruthValue

/-! ### Numbers in texts

The text of a number is made plain before it is read: what may stand in front of the number or behind it is
taken away, and so are single underscores between digits. What is left has to be a whole number as JSON writes
it, with no more than `maxDigits` digits. -/

/-- Pass over the zeros and underscores that follow a zero. The last of them, `last`, is kept in front of a
decimal point and at the end of the text; what cannot follow them leaves nothing. -/
def pastZeros? (last : CodePoint) : Text → Option Text
  | [] => some [last]
  | c :: rest =>
    if c = '0' ∨ c = '_' then pastZeros? c rest
    else if c = '.' then some (last :: c :: rest)
    else if c = '-' ∨ Text.isAsciiDigit c then some (c :: rest)
    else none

/-- Drop needless zeros in front of a number. A number begins with a digit or a minus sign. -/
def dropZeros? : Text → Option Text
  | [] => none
  | c :: rest =>
    if c = '0' then pastZeros? c rest
    else if c = '-' ∨ Text.isAsciiDigit c then some (c :: rest)
    else none

/-- Drop a decimal point behind which there are zeros only, and at least one. -/
def dropZeroFraction (t : Text) : Text :=
  let whole := Text.dropWhileEnd (· == .char '0') t
  match whole.reverse with
  | .char '.' :: rest => if whole.length < t.length then rest.reverse else t
  | _ => t

/-- Every underscore stands by itself between two other code points; `inside` says that one of these has
just been passed. -/
def groupsDigits (inside : Bool) : Text → Bool
  | [] => inside
  | c :: rest => if c = '_' then inside && groupsDigits false rest else groupsDigits true rest

/-- Drop the underscores if each of them stands by itself between two other code points. -/
def dropUnderscores (t : Text) : Text :=
  if groupsDigits false t then t.filter (· != .char '_') else t

/-- Make the text of a number plain: white space around it and a plus sign go first, and a minus sign is
set aside until the end. -/
def plainNumber? (t : Text) : Option Text :=
  let plain (unsigned : Text) : Option Text :=
    (dropZeros? unsigned).map fun t => dropUnderscores (dropZeroFraction t)
  match Text.trimBoth Text.isWhiteSpace t with
  | .char '+' :: .char '-' :: _ => none
  | .char '+' :: rest => plain rest
  | .char '-' :: rest => (plain rest).map ('-' :: ·)
  | t => plain t

/-- The most digits that a number may have. -/
def maxDigits : Nat := 4300

/-- What follows the minus sign of a number, if it has one. -/
def unsigned (t : Text) : Text :=
  if t.head? = some (.char '-') then t.drop 1 else t

/-- A text begins with a number of too many digits. -/
def isOversized (t : Text) : Bool :=
  let digits := (unsigned t).takeWhile Text.isAsciiDigit
  digits.head? != some (.char '0') && maxDigits < digits.length

/-- Read a whole number as JSON writes it, of which no digit but a single one is a leading zero. -/
def wholeNumber? (t : Text) : Option Int :=
  let digits := unsigned t
  if isOversized t ∨ digits.isEmpty ∨ !digits.all Text.isAsciiDigit then none
  else if digits.head? = some (.char '0') ∧ 1 < digits.length then none
  else
    some (Double.signed (t.head? == some (.char '-')) (Text.ofDigits (digits.filterMap Text.asciiDigitValue?)))

/-- The whole number that a text denotes. Only a text that begins with too many digits as it stands is called
too long; one that shows them when it has been made plain cannot be read. -/
def numberText (t : Text) : Checked Int :=
  if t.any CodePoint.isSurrogate then fail .brokenText
  else if isOversized t then fail .oversizedNumber
  else
    match (plainNumber? t).bind wholeNumber? with
    | some i => .ok i
    | none => fail .unreadableNumber

/-- A whole number, or what denotes one. -/
def number : Value → Checked Int
  | .int i => .ok i
  | .bool b => .ok (if b then 1 else 0)
  | .float x =>
    match x.toInt? with
    | none => fail .infiniteNumber
    | some i =>
      if !x.isWhole then fail .fractionalNumber
      else if i.natAbs < wordBound then .ok i
      else fail .oversizedNumber
  | .text t => numberText t
  -- a member of a catalogue passes for a number and turns out to be none
  | .ship _ | .body _ | .style _ => fail .oversizedNumber
  | _ => fail .notNumber

/-- A whole number above zero. -/
def positive (v : Value) : Checked Int := do
  let i ← number v
  if 0 < i then return i else fail .notPositive

/-- A whole number from zero on. -/
def natural (v : Value) : Checked Int := do
  let i ← number v
  if 0 ≤ i then return i else fail .negative

/-- A style or its name. -/
def style : Value → Checked Style
  | .style s => .ok s
  | .text s =>
    match Style.parse? s with
    | some style => .ok style
    | none => fail (.unknownStyle (.text s))
  | v => fail (.unknownStyle v)

/-- Report the problems of a check under a field name or a list position. -/
def within {α : Type} (step : Text) : Checked α → Checked α
  | .ok a => .ok a
  | .error problems => .error (problems.map (·.within step))

/-- Apply the outcome of one check to that of another, with the problems of both in order. -/
def ap {α β : Type} : Checked (α → β) → Checked α → Checked β
  | .ok f, .ok a => .ok (f a)
  | .ok _, .error qs => .error qs
  | .error ps, .ok _ => .error ps
  | .error ps, .error qs => .error (ps ++ qs)

/-- The outcome of a check, unless there are further problems, which come last. -/
def also {α : Type} (checked : Checked α) (problems : List Problem) : Checked α :=
  match checked, problems with
  | checked, [] => checked
  | .ok _, ps => .error ps
  | .error qs, ps => .error (qs ++ ps)

end Check

end JournalHerald.Schema
