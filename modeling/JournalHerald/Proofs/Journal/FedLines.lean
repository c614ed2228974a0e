import JournalHerald.Journal.History
import JournalHerald.Proofs.Journal.Lines

/-!
# Lines that end with a line feed

In a text without carriage returns a line ends at a line feed and nowhere else. Such a text is made
of the lines that have their ends, and of what is behind the last line feed, which is a line that is
still being written.

* `Text.fedLines` are the lines that have their ends, `Text.IsFed` says what such a line is;
* `Text.fedLines_flatten_append` finds them in a text that is given by its lines;
* `wholeLines_eq_fedLines` says that these are the lines that the history of a file consists of.
-/

namespace JournalHerald

namespace Text

/-- The lines of a text that have their ends, each with its line feed. -/
def fedLines (t : Text) : List Text :=
  (t.splitOn (.char '\n')).dropLast.map (· ++ [.char '\n'])

/-- A line with a line feed at its end and nowhere else. -/
def IsFed (line : Text) : Prop :=
  ∃ body, .char '\n' ∉ body ∧ line = body ++ [.char '\n']

variable {t body rest line : Text}

theorem isWhole_iff : isWhole line = true ↔ line.getLast? = some (.char '\n') := by
  simp [isWhole]

theorem IsFed.isWhole (h : line.IsFed) : isWhole line = true := by
  obtain ⟨body, -, rfl⟩ := h
  exact isWhole_iff.2 (by simp)

theorem isWhole_eq_false (h : .char '\n' ∉ line) : isWhole line = false := by
  refine Bool.eq_false_iff.2 fun hwhole => h ?_
  exact List.mem_of_getLast? (isWhole_iff.1 hwhole)

/-! ### The lines of a text -/

theorem fedLines_eq_nil (h : .char '\n' ∉ t) : fedLines t = [] := by
  rw [fedLines, List.splitOn_eq_singleton h]
  rfl

theorem fedLines_cons (h : .char '\n' ∉ body) (rest : Text) :
    fedLines (body ++ .char '\n' :: rest) = (body ++ [.char '\n']) :: fedLines rest := by
  rw [fedLines, List.splitOn_append_cons_self_of_not_mem h,
    List.dropLast_cons_of_ne_nil (List.splitOn_ne_nil _ _), List.map_cons, fedLines]

/-- Lines with their ends, and behind them a line that has none. -/
theorem fedLines_flatten_append {completed : List Text}
    (hcompleted : ∀ line ∈ completed, IsFed line) (hrest : .char '\n' ∉ rest) :
    fedLines (completed.flatten ++ rest) = completed := by
  induction completed with
  | nil => exact fedLines_eq_nil hrest
  | cons line completed ih =>
    obtain ⟨⟨body, hbody, rfl⟩, htail⟩ := List.forall_mem_cons.1 hcompleted
    rw [List.flatten_cons, List.append_assoc, List.append_assoc, List.singleton_append,
      fedLines_cons hbody, ih htail]

/-- Every text is made of its lines that have their ends and of a line that has none. -/
theorem exists_eq_flatten_append (t : Text) : ∃ (completed : List Text) (rest : Text),
    (∀ line ∈ completed, IsFed line) ∧ .char '\n' ∉ rest ∧ t = completed.flatten ++ rest := by
  induction t with
  | nil => exact ⟨[], [], by simp⟩
  | cons c t ih =>
    obtain ⟨completed, rest, hcompleted, hrest, rfl⟩ := ih
    by_cases hc : c = .char '\n'
    · subst hc
      refine ⟨[.char '\n'] :: completed, rest, ?_, hrest, rfl⟩
      exact List.forall_mem_cons.2 ⟨⟨[], by simp, rfl⟩, hcompleted⟩
    · cases completed with
      | nil => exact ⟨[], c :: rest, by simp, by simp [Ne.symm hc, hrest], rfl⟩
      | cons line completed =>
        obtain ⟨⟨body, hbody, rfl⟩, htail⟩ := List.forall_mem_cons.1 hcompleted
        refine ⟨(c :: body ++ [.char '\n']) :: completed, rest, ?_, hrest, by simp⟩
        exact List.forall_mem_cons.2 ⟨⟨c :: body, by simp [Ne.symm hc, hbody], rfl⟩, htail⟩

/-- What is written behind a text leaves its lines as they are. -/
theorem fedLines_prefix_append (t more : Text) : fedLines t <+: fedLines (t ++ more) := by
  obtain ⟨completed, rest, hcompleted, hrest, rfl⟩ := exists_eq_flatten_append t
  obtain ⟨completed', rest', hcompleted', hrest', heq⟩ := exists_eq_flatten_append (rest ++ more)
  have hall : ∀ line ∈ completed ++ completed', IsFed line := fun line hline =>
    (List.mem_append.1 hline).elim (hcompleted line) (hcompleted' line)
  rw [fedLines_flatten_append hcompleted hrest, List.append_assoc, heq, ← List.append_assoc,
    ← List.flatten_append, fedLines_flatten_append hall hrest']
  exact List.prefix_append ..

/-! ### Cutting a text into lines -/

theorem nextLine_of_not_mem (hreturn : .char '\r' ∉ t) (hfeed : .char '\n' ∉ t) :
    nextLine t = (t, []) := by
  fun_induction nextLine t with
  | case1 => rfl
  | case2 rest => simp at hfeed
  | case3 rest => simp at hreturn
  | case4 rest => simp at hreturn
  | case5 c rest _ _ _ line rest' h ih =>
    have hnext := ih (fun hmem => hreturn (by simp [hmem])) (fun hmem => hfeed (by simp [hmem]))
    rw [h] at hnext
    cases hnext
    rfl

theorem nextLine_append_feed (hreturn : .char '\r' ∉ body) (hfeed : .char '\n' ∉ body)
    (rest : Text) : nextLine (body ++ .char '\n' :: rest) = (body ++ [.char '\n'], rest) := by
  induction body with
  | nil => rfl
  | cons c body ih =>
    rw [List.mem_cons, not_or] at hreturn hfeed
    rw [List.cons_append, nextLine, ih hreturn.2 hfeed.2]
    · rfl
    · exact fun h => hfeed.1 h.symm
    · exact fun _ h => absurd h.symm hreturn.1
    · exact fun h => hreturn.1 h.symm

/-- The next line of a text is one with its end, or the whole text, which has no end. -/
theorem nextLine_cases (hreturn : .char '\r' ∉ t) :
    (IsFed (nextLine t).1 ∨ (.char '\n' ∉ (nextLine t).1 ∧ (nextLine t).2 = [])) ∧
      t = (nextLine t).1 ++ (nextLine t).2 := by
  by_cases hfeed : .char '\n' ∈ t
  · obtain ⟨body, rest, rfl, hbody⟩ := List.eq_append_cons_of_mem hfeed
    rw [List.mem_append, not_or] at hreturn
    rw [nextLine_append_feed hreturn.1 hbody]
    exact ⟨.inl ⟨body, hbody, rfl⟩, by simp⟩
  · rw [nextLine_of_not_mem hreturn hfeed]
    exact ⟨.inr ⟨hfeed, rfl⟩, by simp⟩

theorem lines_flatten_append {completed : List Text} (hcompleted : ∀ line ∈ completed, IsFed line)
    (hreturn : .char '\r' ∉ completed.flatten) (rest : Text) :
    lines (completed.flatten ++ rest) = completed ++ lines rest := by
  induction completed with
  | nil => simp
  | cons line completed ih =>
    obtain ⟨⟨body, hbody, rfl⟩, htail⟩ := List.forall_mem_cons.1 hcompleted
    simp only [List.flatten_cons, List.mem_append, not_or] at hreturn
    rw [List.flatten_cons, List.append_assoc, List.append_assoc, List.singleton_append,
      lines_of_ne_nil (by simp), nextLine_append_feed hreturn.1.1 hbody, ih htail hreturn.2,
      List.cons_append]

end Text

namespace Journal

/-- Without carriage returns, the whole lines of a text are those that end with a line feed. -/
theorem wholeLines_eq_fedLines {text : Text} (hreturn : .char '\r' ∉ text) :
    History.wholeLines text = text.fedLines := by
  obtain ⟨completed, rest, hcompleted, hrest, rfl⟩ := Text.exists_eq_flatten_append text
  rw [List.mem_append, not_or] at hreturn
  have hlast : (Text.lines rest).takeWhile Text.isWhole = [] := by
    by_cases hne : rest = []
    · simp [hne]
    · rw [Text.lines_of_ne_nil hne, Text.nextLine_of_not_mem hreturn.2 hrest]
      simp [Text.isWhole_eq_false hrest]
  rw [History.wholeLines, Text.lines_flatten_append hcompleted hreturn.1,
    Text.fedLines_flatten_append hcompleted hrest, List.takeWhile_append_of_pos, hlast,
    List.append_nil]
  exact fun line hline => (hcompleted line hline).isWhole

end Journal

end JournalHerald
