import JournalHerald.Text

/-!
# Lines

A line ends at a line feed, a carriage return, or the two together, and each of these reads as one line
feed.

* `nextLine` cuts the first line off a text, `lines` cuts a text into its lines;
* `isWhole` says that a line has its end;
* `joinLineEnds` writes every line end as a line feed.
-/

namespace JournalHerald.Text

/-- The first line of a text, with its end read as a line feed, and what follows it. The last line has no
line feed if the text ends without a line end. -/
def nextLine : Text → Text × Text
  | [] => ([], [])
  | .char '\n' :: rest => (['\n'], rest)
  | .char '\r' :: .char '\n' :: rest => (['\n'], rest)
  | .char '\r' :: rest => (['\n'], rest)
  | c :: rest => let (line, rest) := nextLine rest; (c :: line, rest)

/-- Cutting a line off a text leaves less of it. -/
theorem length_nextLine (t : Text) : (nextLine t).2.length ≤ t.length - 1 := by
  fun_induction nextLine t with
  | case1 => simp
  | case2 rest => simp
  | case3 rest => simp
  | case4 rest => simp
  | case5 c rest _ _ line rest' h ih => simp_all; omega

/-- The lines of a text, the last one without an end if the text has none. -/
def lines (t : Text) : List Text :=
  match t with
  | [] => []
  | c :: rest => (nextLine (c :: rest)).1 :: lines (nextLine (c :: rest)).2
termination_by t.length
decreasing_by
  have := length_nextLine (c :: rest)
  simp only [List.length_cons] at this ⊢
  omega

/-- A line has its end. -/
def isWhole (line : Text) : Bool :=
  line.getLast? == some (.char '\n')

/-- The text with every line end as a line feed. -/
def joinLineEnds : Text → Text
  | [] => []
  | .char '\r' :: .char '\n' :: rest => '\n' :: joinLineEnds rest
  | .char '\r' :: rest => '\n' :: joinLineEnds rest
  | c :: rest => c :: joinLineEnds rest

end JournalHerald.Text
