import JournalHerald.Proofs.Journal.Lines

/-!
# Line ends

A line can end in three ways. To write every end as a line feed leaves no carriage return and takes no line
away, and it leaves a text alone that has no carriage return to begin with.

* `not_mem_joinLineEnds` and `joinLineEnds_of_notMem` are about carriage returns;
* `lines_joinLineEnds` is about the lines.
-/

namespace JournalHerald.Text

theorem not_mem_joinLineEnds (t : Text) : .char '\r' ∉ t.joinLineEnds := by
  fun_induction joinLineEnds t with
  | case1 => simp
  | case2 rest ih => simpa using ih
  | case3 rest _ ih => simpa using ih
  | case4 c rest _ hreturn ih => simpa [eq_comm, ih] using hreturn

theorem joinLineEnds_eq_nil_iff {t : Text} : t.joinLineEnds = [] ↔ t = [] := by
  fun_cases joinLineEnds t <;> simp [*]

/-- Cutting off a line and joining line ends can be done in either order. -/
theorem nextLine_joinLineEnds (t : Text) :
    nextLine t.joinLineEnds = ((nextLine t).1, (nextLine t).2.joinLineEnds) := by
  fun_induction nextLine t with
  | case1 => rfl
  | case2 rest => rfl
  | case3 rest => rfl
  | case4 rest hfeed =>
    rw [joinLineEnds]
    · rfl
    · exact hfeed
  | case5 c rest hfeed hpair hreturn line rest' h ih =>
    rw [h] at ih
    rw [joinLineEnds, nextLine]
    · simp only [ih]
    all_goals simp_all

theorem lines_joinLineEnds (t : Text) : lines t.joinLineEnds = lines t := by
  fun_induction lines t with
  | case1 => exact lines_nil
  | case2 c rest ih =>
    have hne : joinLineEnds (c :: rest) ≠ [] := by
      rw [ne_eq, joinLineEnds_eq_nil_iff]
      exact List.cons_ne_nil c rest
    rw [lines_of_ne_nil hne, nextLine_joinLineEnds, ih]

theorem joinLineEnds_of_notMem {t : Text} (h : .char '\r' ∉ t) : t.joinLineEnds = t := by
  fun_induction joinLineEnds t with
  | case1 => rfl
  | case2 rest ih => simp at h
  | case3 rest _ ih => simp at h
  | case4 c rest _ _ ih => rw [ih fun hmem => h (List.mem_cons_of_mem c hmem)]

end JournalHerald.Text
