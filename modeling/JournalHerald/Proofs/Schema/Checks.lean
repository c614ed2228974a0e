import JournalHerald.Schema.Check

/-!
# Checks and their problems

A check gives a value or the problems of what it has been given. Checks are put together so that the
problems of all parts are reported, in the order of the parts.

* `ap_eq_ok`, `within_eq_ok` and `exists_ap_iff` say when a check made of others succeeds;
* `problems` are the problems that a check reports, `problems_ap` and its like those of a check made of
  others;
* `Reports` says that a check does not fail without a problem.
-/

namespace JournalHerald.Schema.Check

/-! ### Checks that succeed -/

theorem ap_eq_ok {α β : Type} {f : Checked (α → β)} {a : Checked α} {b : β}
    (h : ap f a = .ok b) : ∃ g x, f = .ok g ∧ a = .ok x ∧ b = g x := by
  cases f <;> cases a <;> cases h
  exact ⟨_, _, rfl, rfl, rfl⟩

theorem map_eq_ok {α β : Type} {f : α → β} {checked : Checked α} {b : β}
    (h : checked.map f = .ok b) : ∃ a, checked = .ok a ∧ b = f a := by
  cases checked <;> cases h
  exact ⟨_, rfl, rfl⟩

theorem bind_eq_ok {α β : Type} {checked : Checked α} {f : α → Checked β} {b : β}
    (h : checked >>= f = .ok b) : ∃ a, checked = .ok a ∧ f a = .ok b := by
  cases checked with
  | error ps => cases h
  | ok a => exact ⟨a, rfl, h⟩

theorem within_eq_ok {α : Type} {step : Text} {checked : Checked α} {a : α} :
    within step checked = .ok a ↔ checked = .ok a := by
  cases checked <;> simp [within]

theorem text_eq_ok {v : Value} {t : Text} : text v = .ok t ↔ v.spelled? = some t := by
  unfold text
  split <;> simp_all [fail]

/-- What passes for an optional text is its spelling, and nothing if it is null. -/
theorem eq_spelled_of_optionalText {v : Value} {t : Option Text} (h : optionalText v = .ok t) :
    t = v.spelled? := by
  unfold optionalText at h
  split at h
  · cases h; rfl
  · cases htext : text v with
    | error problems => rw [htext] at h; cases h
    | ok s => rw [htext] at h; cases h; exact (text_eq_ok.1 htext).symm

section

variable {α β : Type} {checked : Checked α}

theorem exists_map_iff {f : α → β} : (∃ b, checked.map f = .ok b) ↔ ∃ a, checked = .ok a := by
  cases checked <;> simp [Except.map]

theorem exists_ap_iff {f : Checked (α → β)} :
    (∃ b, ap f checked = .ok b) ↔ (∃ g, f = .ok g) ∧ ∃ a, checked = .ok a := by
  cases f <;> cases checked <;> simp [ap]

theorem exists_within_iff {step : Text} :
    (∃ a, within step checked = .ok a) ↔ ∃ a, checked = .ok a :=
  exists_congr fun _ => within_eq_ok

theorem exists_text_iff {v : Value} : (∃ t, text v = .ok t) ↔ v.spelled?.isSome = true := by
  simp only [text_eq_ok, Option.isSome_iff_exists]

/-! ### Problems -/

/-- The problems that a check reports, of which there are none if it succeeds. -/
def problems : Checked α → List Problem
  | .ok _ => []
  | .error ps => ps

theorem problems_map (f : α → β) (checked : Checked α) :
    problems (checked.map f) = problems checked := by
  cases checked <;> rfl

/-- The problems of two checks are reported one after the other. -/
theorem problems_ap (f : Checked (α → β)) (checked : Checked α) :
    problems (ap f checked) = problems f ++ problems checked := by
  cases f <;> cases checked <;> simp [ap, problems]

theorem problems_within (step : Text) (checked : Checked α) :
    problems (within step checked) = (problems checked).map (·.within step) := by
  cases checked <;> rfl

theorem problems_also (checked : Checked α) (more : List Problem) :
    problems (also checked more) = problems checked ++ more := by
  cases checked <;> cases more <;> simp [also, problems]

/-! ### Checks that report -/

/-- If the check fails, there is a problem that it reports. -/
def Reports (checked : Checked α) : Prop := checked ≠ .error []

theorem reports_ok (a : α) : Reports (.ok a) := by
  rintro ⟨⟩

theorem reports_fail (fault : Fault) : Reports (fail fault : Checked α) := by
  rintro ⟨⟩

theorem eq_error_of_problems_ne_nil (h : problems checked ≠ []) :
    checked = .error (problems checked) := by
  cases checked with
  | ok a => exact absurd rfl h
  | error ps => rfl

theorem Reports.ne_nil {ps : List Problem} (h : Reports checked) (hchecked : checked = .error ps) :
    ps ≠ [] := by
  rintro rfl
  exact h hchecked

theorem Reports.map (h : Reports checked) (f : α → β) : Reports (checked.map f) := by
  cases checked with
  | ok a => exact reports_ok _
  | error ps => simpa [Reports, Except.map] using h

theorem Reports.bind (h : Reports checked) {f : α → Checked β} (hf : ∀ a, Reports (f a)) :
    Reports (checked >>= f) := by
  cases checked with
  | ok a => exact hf a
  | error ps => simpa [Reports, bind, Except.bind] using h

theorem Reports.within (h : Reports checked) (step : Text) : Reports (within step checked) := by
  cases checked with
  | ok a => exact reports_ok a
  | error ps => simpa [Reports, Check.within] using h

theorem Reports.ap {f : Checked (α → β)} (hf : Reports f) (h : Reports checked) :
    Reports (ap f checked) := by
  cases f <;> cases checked <;> simp_all [Reports, Check.ap]

theorem Reports.also (h : Reports checked) (more : List Problem) : Reports (also checked more) := by
  cases checked <;> cases more <;> simp_all [Reports, Check.also]

end

/-! ### Single values -/

section

variable (v : Value)

theorem reports_text : Reports (text v) := by
  unfold text
  split
  · exact reports_ok _
  · exact reports_fail _

theorem reports_nonemptyText : Reports (nonemptyText v) := by
  refine (reports_text v).bind fun t => ?_
  split
  · exact reports_fail _
  · split
    · exact reports_fail _
    · exact reports_ok t

theorem reports_optionalText : Reports (optionalText v) := by
  unfold optionalText
  split
  · exact reports_ok _
  · exact (reports_text _).map some

theorem reports_truth : Reports (truth v) := by
  unfold truth
  cases v <;> dsimp only <;> repeat' split
  all_goals first | exact reports_ok _ | exact reports_fail _

theorem reports_number : Reports (number v) := by
  unfold number numberText
  cases v <;> dsimp only <;> repeat' split
  all_goals first | exact reports_ok _ | exact reports_fail _

theorem reports_positive : Reports (positive v) := by
  refine (reports_number v).bind fun i => ?_
  split
  · exact reports_ok i
  · exact reports_fail _

theorem reports_natural : Reports (natural v) := by
  refine (reports_number v).bind fun i => ?_
  split
  · exact reports_ok i
  · exact reports_fail _

theorem reports_style : Reports (style v) := by
  unfold style
  split
  · exact reports_ok _
  · split
    · exact reports_ok _
    · exact reports_fail _
  · exact reports_fail _

end

end JournalHerald.Schema.Check
