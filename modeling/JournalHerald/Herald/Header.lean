import JournalHerald.Text

/-!
# Headers

The header of an announcement is the kind of its event with a space in front of every capital letter but the
first character: `MissionAccepted` becomes `Mission Accepted`.
-/

namespace JournalHerald.Herald

/-- An ASCII capital letter. -/
def isCapital (c : CodePoint) : Bool :=
  65 ≤ c.toNat && c.toNat ≤ 90

/-- A text with a space in front of every capital letter. -/
def spaced (t : Text) : Text :=
  t.flatMap fun c => if isCapital c then [' ', c] else [c]

/-- The header for a kind of event. -/
def header : Text → Text
  | [] => []
  | c :: rest => c :: spaced rest

end JournalHerald.Herald
