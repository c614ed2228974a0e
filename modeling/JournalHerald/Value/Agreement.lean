import JournalHerald.Value

/-!
# Agreement of values

Two values of JSON agree if they mean the same: numbers by their value, truth values as one and zero, lists
item by item, objects field by field in any order.
-/

namespace JournalHerald.Value

/-- The values are numbers or truth values and equal. -/
def sameNumber (a b : Value) : Bool :=
  match a, b with
  | .float x, .float y => x.equals y
  | .float _, b => match b.int? with
    | some i => a.equalsInt i
    | none => false
  | a, b => match a.int? with
    | some i => b.equalsInt i
    | none => false

mutual

/-- The values mean the same. -/
def agrees (a b : Value) : Bool :=
  match a, b with
  | .null, .null => true
  | .text s, .text t => s == t
  | .list xs, .list ys => agreesItems xs ys
  | .object fs, .object gs => fs.length == gs.length && agreesFields fs gs
  | a, b => sameNumber a b

/-- The lists agree item by item. -/
def agreesItems (xs ys : List Value) : Bool :=
  match xs, ys with
  | [], [] => true
  | x :: xs, y :: ys => x.agrees y && agreesItems xs ys
  | _, _ => false

/-- Every field of the first object agrees with the field of its name in the second. -/
def agreesFields (fs : List (Text × Value)) (gs : List (Text × Value)) : Bool :=
  match fs with
  | [] => true
  | (name, v) :: rest =>
    (match Fields.get? gs name with
      | some w => v.agrees w
      | none => false) && agreesFields rest gs

end

end JournalHerald.Value
