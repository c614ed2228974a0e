import JournalHerald.Text.Lines
import Mathlib.Data.List.Infix

/-!
# Texts of whole lines

A text whose last line has its end can be put before another text, and the lines of the two together
are those of the one and then those of the other. This fails for other texts: a last line without an
end goes on in the text behind it, and a carriage return at the end makes one line end with a line
feed behind it.

* `Text.Ended` are the texts of whole lines;
* `Text.lines_append` is about the lines of two texts together.
-/

namespace JournalHerald.Text

/-- Every line of the text has its end. -/
def Ended (t : Text) : Prop :=
  ∀ c ∈ t.getLast?, c = .char '\n'

instance (t : Text) : Decidable t.Ended :=
  inferInstanceAs (Decidable (∀ c ∈ t.getLast?, c = .char '\n'))

variable {a b t : Text}

theorem ended_nil : Ended [] := by
  simp [Ended]

theorem Ended.append (ha : a.Ended) (hb : b.Ended) : Ended (a ++ b) := by
  intro c hc
  rw [List.getLast?_append, Option.mem_def, Option.or_eq_some_iff] at hc
  rcases hc with hc | ⟨-, hc⟩
  · exact hb c hc
  · exact ha c hc

theorem Ended.of_suffix (ht : t.Ended) (h : a <:+ t) : a.Ended := by
  obtain ⟨front, rfl⟩ := h
  intro c hc
  refine ht c ?_
  rw [List.getLast?_append, Option.mem_def, Option.or_eq_some_iff]
  exact .inl hc

/-- A text that begins with something else than a line end goes on behind it. -/
theorem Ended.ne_nil_of_cons {c : CodePoint} (h : Ended (c :: t)) (hc : c ≠ .char '\n') :
    t ≠ [] := by
  rintro rfl
  exact hc (h c rfl)

theorem Ended.tail {c : CodePoint} (h : Ended (c :: t)) : t.Ended :=
  h.of_suffix (List.suffix_cons c t)

/-! ### The first line -/

theorem nextLine_suffix (t : Text) : (nextLine t).2 <:+ t := by
  fun_induction nextLine t with
  | case1 => exact List.suffix_rfl
  | case2 rest => exact List.suffix_cons ..
  | case3 rest => exact ⟨[.char '\r', .char '\n'], rfl⟩
  | case4 rest => exact List.suffix_cons ..
  | case5 c rest _ _ _ line rest' h ih =>
    rw [h] at ih
    exact ih.trans (List.suffix_cons c rest)

theorem isWhole_nextLine (ht : t.Ended) (hne : t ≠ []) : isWhole (nextLine t).1 = true := by
  fun_induction nextLine t with
  | case1 => exact absurd rfl hne
  | case2 rest => rfl
  | case3 rest => rfl
  | case4 rest => rfl
  | case5 c rest hfeed _ _ line rest' h ih =>
    have hrest := ht.ne_nil_of_cons hfeed
    have hline := ih ht.tail hrest
    rw [h] at hline
    have hlast : line.getLast? = some (.char '\n') := by simpa [isWhole] using hline
    simp [isWhole, List.getLast?_cons, hlast]

theorem nextLine_append (ha : a.Ended) (hne : a ≠ []) (b : Text) :
    nextLine (a ++ b) = ((nextLine a).1, (nextLine a).2 ++ b) := by
  fun_induction nextLine a with
  | case1 => exact absurd rfl hne
  | case2 rest => rfl
  | case3 rest => rfl
  | case4 rest hfeed =>
    obtain ⟨c, more, rfl⟩ := List.exists_cons_of_ne_nil (ha.ne_nil_of_cons (by decide))
    have hc : c ≠ .char '\n' := by rintro rfl; exact hfeed more rfl
    simp [nextLine, hc]
  | case5 c rest hfeed _ hreturn line rest' h ih =>
    have hrest := ha.ne_nil_of_cons hfeed
    have hnext := ih ha.tail hrest
    rw [h] at hnext
    rw [List.cons_append, nextLine]
    · simp only [hnext]
    all_goals simp_all

/-! ### All lines -/

@[simp] theorem lines_nil : lines [] = [] := by
  rw [lines]

theorem lines_of_ne_nil (hne : t ≠ []) : lines t = (nextLine t).1 :: lines (nextLine t).2 := by
  obtain ⟨c, rest, rfl⟩ := List.exists_cons_of_ne_nil hne
  rw [lines]

theorem lines_append (ha : a.Ended) (b : Text) : lines (a ++ b) = lines a ++ lines b := by
  fun_induction lines a with
  | case1 => simp
  | case2 c rest ih =>
    have hne : c :: rest ≠ [] := by simp
    have hsuffix := nextLine_suffix (c :: rest)
    rw [lines_of_ne_nil (by simp), nextLine_append ha hne, ih (ha.of_suffix hsuffix),
      List.cons_append]

theorem isWhole_of_mem_lines (ht : t.Ended) : ∀ line ∈ lines t, isWhole line = true := by
  fun_induction lines t with
  | case1 => simp
  | case2 c rest ih =>
    have hne : c :: rest ≠ [] := by simp
    refine List.forall_mem_cons.2 ⟨isWhole_nextLine ht hne, ih ?_⟩
    exact ht.of_suffix (nextLine_suffix (c :: rest))

end JournalHerald.Text
