import JournalHerald.Json.Fault
import JournalHerald.Value
import JournalHerald.Number.Shortest
import JournalHerald.Text.Quoted

/-!
# Writing JSON

JSON texts in ASCII: every other character is written by its UTF-16 code units. The fields of an object
keep their order.

* `Value.plain` replaces the members of catalogues by their names, pieces of messages by objects and
  moments by their ISO form, which leaves durations and huge numbers as the only values without a JSON form;
* `Json.write?` writes a value on one line, `Json.pretty?` over several lines.
-/

namespace JournalHerald

mutual

/-- The value with names, objects and texts in place of the values that JSON does not know. -/
def Value.plain : Value → Value
  | .ship s => .text s.name
  | .body b => .text b.name
  | .style s => .text s.label
  | .part p => .object [("text", .text p.text), ("style", .text p.style.label)]
  | .moment t => .text (t.iso "T")
  | .date t => .text t.isoDate
  | .list items => .list (Value.plainItems items)
  | .object fields => .object (Value.plainFields fields)
  | v => v

/-- `Value.plain` on every item of a list. -/
def Value.plainItems : List Value → List Value
  | [] => []
  | v :: rest => v.plain :: Value.plainItems rest

/-- `Value.plain` on every field of an object. -/
def Value.plainFields : List (Text × Value) → List (Text × Value)
  | [] => []
  | (name, v) :: rest => (name, v.plain) :: Value.plainFields rest

end

namespace Json

/-- The escape of one UTF-16 code unit. -/
def unitEscape (n : Nat) : Text :=
  '\\' :: .char 'u' :: Text.hexDigits 4 n

/-- One code point of a string. -/
def escapePoint (c : CodePoint) : Text :=
  let n := c.toNat
  if c = '"' ∨ c = '\\' then ['\\', c]
  else if c = '\n' then "\\n"
  else if c = '\r' then "\\r"
  else if c = '\t' then "\\t"
  else if c = '\x08' then "\\b"
  else if c = '\x0c' then "\\f"
  else if 32 ≤ n ∧ n < 127 then [c]
  else if n < 0x10000 then unitEscape n
  else unitEscape (0xD800 + (n - 0x10000) / 0x400) ++ unitEscape (0xDC00 + (n - 0x10000) % 0x400)

/-- A string in double quotes. -/
def writeString (t : Text) : Text :=
  "\"" ++ t.flatMap escapePoint ++ "\""

/-- A number. -/
def writeDouble : Double → Text
  | .nan => "NaN"
  | .infinite negative => if negative then "-Infinity" else "Infinity"
  | x => x.text

/-- A whole number, unless it has more digits than are accepted when it is read. -/
def writeInt? (i : Int) : Option Text :=
  if maxDigits < (Text.natText i.natAbs).length then none else some (Text.intText i)

/-- The texts that a layout puts between the tokens at each depth of nesting. -/
structure Layout where
  /-- Behind an opening bracket and in front of a closing one, for a container with content. -/
  edge : Nat → Text
  /-- Between two items. -/
  between : Nat → Text

/-- Everything on one line, with a space behind commas. -/
def Layout.line : Layout := ⟨fun _ => [], fun _ => ", "⟩

/-- One item to a line, indented by two spaces for each level. -/
def Layout.indented : Layout :=
  let newLine (depth : Nat) : Text := '\n' :: List.replicate (2 * depth) ' '
  ⟨newLine, fun depth => ',' :: newLine depth⟩

/-- Put brackets around written items. -/
def enclose (layout : Layout) (depth : Nat) (opening closing : CodePoint) (items : List Text) : Text :=
  match items with
  | [] => [opening, closing]
  | first :: rest =>
    opening :: layout.edge (depth + 1) ++ first ++
      rest.flatMap (fun item => layout.between (depth + 1) ++ item) ++
      layout.edge depth ++ [closing]

mutual

/-- The JSON text of a value at a depth of nesting. Catalogue members, pieces of messages, moments and
durations have none, and neither have whole numbers of too many digits. -/
def writeAt? (layout : Layout) (depth : Nat) : Value → Option Text
  | .null => some "null"
  | .bool b => some (if b then "true" else "false")
  | .int i => writeInt? i
  | .float x => some (writeDouble x)
  | .text t => some (writeString t)
  | .list items => do
    let items ← writeItems? layout (depth + 1) items
    return enclose layout depth '[' ']' items
  | .object fields => do
    let fields ← writeFields? layout (depth + 1) fields
    return enclose layout depth '{' '}' fields
  | _ => none

/-- The JSON texts of the items of a list. -/
def writeItems? (layout : Layout) (depth : Nat) : List Value → Option (List Text)
  | [] => some []
  | v :: rest => do
    let v ← writeAt? layout depth v
    let rest ← writeItems? layout depth rest
    return v :: rest

/-- The JSON texts of the fields of an object. -/
def writeFields? (layout : Layout) (depth : Nat) : List (Text × Value) → Option (List Text)
  | [] => some []
  | (name, v) :: rest => do
    let v ← writeAt? layout depth v
    let rest ← writeFields? layout depth rest
    return (writeString name ++ ": " ++ v) :: rest

end

/-- The JSON text of a value on one line. -/
def write? (v : Value) : Option Text :=
  writeAt? .line 0 v

/-- The JSON text of a value with one item to a line. -/
def pretty? (v : Value) : Option Text :=
  writeAt? .indented 0 v

end Json

end JournalHerald
