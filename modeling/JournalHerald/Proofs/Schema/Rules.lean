import JournalHerald.Settings
import JournalHerald.Proofs.Schema.Checks
import JournalHerald.Proofs.Value.Fields
import Mathlib.Data.List.Basic
import Mathlib.Data.List.Pairwise

/-!
# The problems of an object

An object is checked field by field, and then for fields that are not known. Here its problems are told
without a check, by a rule for each field (`objectProblems`).

The problems of a field depend on its own value alone. So a field that is given a valid value takes its
own problems away and leaves the others as they are (`objectProblems_set`). An unknown field with a
surrogate in its name is the exception that hides everything else.

* `Rule` says what can be wrong with a field, `Rule.of` is the rule that a check of a field goes by;
* `violations` are all problems of an object in their order;
* `problems_items` are the problems of a list.
-/

namespace JournalHerald.Schema

/-! ### Spellings -/

namespace FieldName

/-- The two spellings of a field, the one that comes first in front. -/
def spellings (name : FieldName) : List Text := [name.camelCase, name.underscored]

variable {name : FieldName} {fields : Fields} {spelling : Text} {v : Value}

theorem given?_eq_some (h : name.given? fields = some (spelling, v)) :
    spelling ∈ name.spellings ∧ fields.get? spelling = some v := by
  unfold given? at h
  split at h
  · next hcamel =>
    cases h
    exact ⟨List.mem_cons_self, hcamel⟩
  · obtain ⟨w, hw, heq⟩ := Option.map_eq_some_iff.1 h
    cases heq
    exact ⟨by simp [spellings], hw⟩

theorem given?_of_camelCase (h : fields.get? name.camelCase = some v) :
    name.given? fields = some (name.camelCase, v) := by
  rw [given?, h]

/-- Which spelling counts is told by the names of the fields. -/
theorem map_fst_given? (name : FieldName) (fields : Fields) :
    (name.given? fields).map Prod.fst =
      name.spellings.find? fun s => decide (s ∈ fields.map Prod.fst) := by
  have hmem : ∀ s, decide (s ∈ fields.map Prod.fst) = (fields.get? s).isSome :=
    fun s => by rw [Bool.eq_iff_iff, decide_eq_true_eq, Fields.isSome_get?_iff]
  rw [given?, spellings, List.find?_cons, List.find?_cons, List.find?_nil, hmem, hmem]
  cases fields.get? name.camelCase <;> cases fields.get? name.underscored <;> rfl

theorem given?_set_self (h : name.given? fields = some (spelling, v)) (w : Value) :
    name.given? (fields.set spelling w) = some (spelling, w) := by
  obtain ⟨-, hget⟩ := given?_eq_some h
  have hfst : (name.given? (fields.set spelling w)).map Prod.fst = some spelling := by
    rw [map_fst_given?, Fields.map_fst_set (Fields.mem_keys_of_get? hget), ← map_fst_given?, h]
    rfl
  obtain ⟨⟨s, u⟩, hgiven, rfl⟩ := Option.map_eq_some_iff.1 hfst
  have hu := (given?_eq_some hgiven).2
  rw [Fields.get?_set] at hu
  rw [hgiven, Option.some.inj hu]

theorem given?_set_of_notMem (h : spelling ∉ name.spellings) (w : Value) :
    name.given? (fields.set spelling w) = name.given? fields := by
  simp only [spellings, List.mem_cons, List.not_mem_nil, or_false, not_or] at h
  rw [given?, given?, Fields.get?_set_of_ne (Ne.symm h.1), Fields.get?_set_of_ne (Ne.symm h.2)]

end FieldName

/-! ### Rules -/

/-- A field as a check of an object sees it. -/
structure Rule where
  name : FieldName
  /-- The field has to be given. -/
  required : Bool
  /-- What is wrong with a value of the field, if anything. -/
  faults : Value → List Problem

namespace Rule

/-- The rule of a field with a default, if it has one, and a check for its value. -/
def of {α : Type} (name : FieldName) (default : Option α) (check : Value → Checked α) : Rule :=
  ⟨name, default.isNone, fun v => Check.problems (check v)⟩

/-- What is wrong with a field of an object. -/
def problems (rule : Rule) (fields : Fields) : List Problem :=
  match rule.name.given? fields with
  | some (spelling, v) => (rule.faults v).map (·.within spelling)
  | none => if rule.required then [⟨[rule.name.camelCase], .missing⟩] else []

end Rule

theorem problems_check {α : Type} (name : FieldName) (default : Option α)
    (check : Value → Checked α) (fields : Fields) :
    Check.problems (name.check default check fields) = (Rule.of name default check).problems fields := by
  cases hgiven : name.given? fields with
  | some given =>
    simp only [FieldName.check, Rule.problems, Rule.of, hgiven, Check.problems_within]
  | none => cases default <;> simp [FieldName.check, Rule.problems, Rule.of, hgiven, Check.problems]

theorem reports_check {α : Type} {name : FieldName} {default : Option α}
    {check : Value → Checked α} (h : ∀ v, Check.Reports (check v)) (fields : Fields) :
    Check.Reports (name.check default check fields) := by
  unfold FieldName.check
  split
  · exact (h _).within _
  · exact Check.reports_ok _
  · rintro ⟨⟩

/-! ### Unknown fields -/

/-- No surrogate stands in the name of an unknown field. -/
def HasWholeNames (names : List FieldName) (fields : Fields) : Prop :=
  ∀ name ∈ unknownNames names fields, ∀ c ∈ name, c.isSurrogate = false

instance (names : List FieldName) (fields : Fields) : Decidable (HasWholeNames names fields) :=
  inferInstanceAs (Decidable (∀ _ ∈ _, ∀ _ ∈ _, _))

/-- The problems of unknown fields, in the order in which these are given. -/
def unknownProblems (names : List FieldName) (fields : Fields) : List Problem :=
  (unknownNames names fields).map fun name => ⟨[name], .unknownField⟩

theorem unknownNames_set {names : List FieldName} {fields : Fields} {name : Text}
    (h : name ∈ fields.map Prod.fst) (v : Value) :
    unknownNames names (fields.set name v) = unknownNames names fields := by
  have hused : ∀ known : FieldName, ((known.given? (fields.set name v)).map fun given => given.1) =
      (known.given? fields).map fun given => given.1 := by
    intro known
    rw [FieldName.map_fst_given?, FieldName.map_fst_given?, Fields.map_fst_set h]
  simp only [unknownNames, hused, Fields.map_fst_set h]

/-- The spelling that counts is not unknown. -/
theorem notMem_unknownNames {names : List FieldName} {known : FieldName} (hknown : known ∈ names)
    {fields : Fields} {spelling : Text} {v : Value} (h : known.given? fields = some (spelling, v)) :
    spelling ∉ unknownNames names fields := by
  intro hmem
  have hused := (List.mem_filter.1 hmem).2
  simp only [Bool.not_eq_true', List.contains_eq_mem, decide_eq_false_iff_not, List.mem_filterMap,
    not_exists, not_and] at hused
  exact hused known hknown (by rw [h]; rfl)

theorem problems_closing {α : Type} (names : List FieldName) (fields : Fields) (checked : Checked α) :
    Check.problems (Check.closing names fields checked) =
      if HasWholeNames names fields then Check.problems checked ++ unknownProblems names fields
      else [⟨[], .brokenText⟩] := by
  have hbroken : ((unknownNames names fields).any fun name => name.any CodePoint.isSurrogate) = true ↔
      ¬HasWholeNames names fields := by
    simp [HasWholeNames]
  unfold Check.closing
  by_cases hwhole : HasWholeNames names fields
  · rw [if_pos hwhole]
    dsimp only
    rw [if_neg (mt hbroken.1 (not_not.2 hwhole)), Check.problems_also]
    rfl
  · rw [if_neg hwhole]
    dsimp only
    rw [if_pos (hbroken.2 hwhole)]
    rfl

theorem reports_closing {α : Type} {checked : Checked α} (h : Check.Reports checked)
    (names : List FieldName) (fields : Fields) : Check.Reports (Check.closing names fields checked) := by
  unfold Check.closing
  dsimp only
  split
  · exact Check.reports_fail _
  · exact h.also _

/-! ### Lists -/

/-- The problems of the items of a list come in the order of the items, each with its position. -/
theorem problems_items {α : Type} (check : Value → Checked α) (first : Nat) (items : List Value) :
    Check.problems (Check.items check first items) =
      (items.zipIdx first).flatMap fun item =>
        (Check.problems (check item.1)).map (·.within (Text.natText item.2)) := by
  induction items generalizing first with
  | nil => rfl
  | cons v items ih =>
    rw [Check.items, Check.problems_ap, Check.problems_map, Check.problems_within, ih,
      List.zipIdx_cons, List.flatMap_cons]

theorem reports_items {α : Type} {check : Value → Checked α} (h : ∀ v, Check.Reports (check v))
    (first : Nat) (items : List Value) : Check.Reports (Check.items check first items) := by
  induction items generalizing first with
  | nil => exact Check.reports_ok []
  | cons v items ih => exact (((h v).within _).map _).ap (ih _)

/-! ### Objects -/

/-- The problem is at a field of the object, or below it. -/
def Problem.IsAt (name : Text) (p : Problem) : Prop := p.path.head? = some name

instance (name : Text) : DecidablePred (Problem.IsAt name) :=
  fun _ => inferInstanceAs (Decidable (_ = _))

/-- Everything that is wrong with an object: first its fields in the order of their rules, then the unknown
fields. -/
def violations (rules : List Rule) (fields : Fields) : List Problem :=
  (rules.flatMap fun rule => rule.problems fields) ++ unknownProblems (rules.map Rule.name) fields

/-- What is reported of an object. -/
def objectProblems (rules : List Rule) (fields : Fields) : List Problem :=
  if HasWholeNames (rules.map Rule.name) fields then violations rules fields
  else [⟨[], .brokenText⟩]

/-- No two rules have a spelling in common. -/
def Distinct (rules : List Rule) : Prop :=
  rules.Pairwise fun a b => ∀ spelling ∈ a.name.spellings, spelling ∉ b.name.spellings

section

variable {rules : List Rule} {rule : Rule} {fields : Fields} {spelling : Text} {v w : Value}

theorem Distinct.notMem_spellings (h : Distinct rules) {other : Rule} (hrule : rule ∈ rules)
    (hother : other ∈ rules) (hne : other ≠ rule) (hspelling : spelling ∈ rule.name.spellings) :
    spelling ∉ other.name.spellings := by
  have hsymm : Std.Symm fun a b : Rule => ∀ s ∈ a.name.spellings, s ∉ b.name.spellings :=
    ⟨fun _ _ hab s hb ha => hab s ha hb⟩
  exact List.Pairwise.forall h hrule hother hne.symm spelling hspelling

theorem isAt_of_mem_problems {p : Problem} (h : p ∈ rule.problems fields) :
    ∃ s ∈ rule.name.spellings, p.IsAt s := by
  rw [Rule.problems] at h
  split at h
  · next s u hgiven =>
    obtain ⟨q, -, rfl⟩ := List.mem_map.1 h
    exact ⟨s, (FieldName.given?_eq_some hgiven).1, rfl⟩
  · split at h
    · rw [List.mem_singleton.1 h]
      exact ⟨_, List.mem_cons_self, rfl⟩
    · cases h

theorem Problem.IsAt.eq {p : Problem} {s t : Text} (hs : p.IsAt s) (ht : p.IsAt t) : s = t :=
  Option.some.inj (hs.symm.trans ht)

/-- A valid value takes the problems of its field away. -/
theorem problems_set_self (hgiven : rule.name.given? fields = some (spelling, v))
    (hvalid : rule.faults w = []) :
    rule.problems (fields.set spelling w) =
      (rule.problems fields).filter fun p => ¬p.IsAt spelling := by
  rw [Rule.problems, FieldName.given?_set_self hgiven, Rule.problems, hgiven]
  simp only [hvalid, List.map_nil]
  refine (List.filter_eq_nil_iff.2 fun p hp => ?_).symm
  obtain ⟨q, -, rfl⟩ := List.mem_map.1 hp
  rw [decide_eq_true_eq, not_not]
  rfl

/-- The problems of a field do not depend on the other fields. -/
theorem problems_set_of_notMem (h : spelling ∉ rule.name.spellings) :
    rule.problems (fields.set spelling w) =
      (rule.problems fields).filter fun p => ¬p.IsAt spelling := by
  have hsame : rule.problems (fields.set spelling w) = rule.problems fields := by
    rw [Rule.problems, Rule.problems, FieldName.given?_set_of_notMem h]
  rw [hsame]
  refine (List.filter_eq_self.2 fun p hp => ?_).symm
  obtain ⟨s, hs, hp⟩ := isAt_of_mem_problems hp
  rw [decide_eq_true_eq]
  intro hat
  exact h (hat.eq hp ▸ hs)

/-- The unknown fields remain unknown, and nothing else does. -/
theorem unknownProblems_set {names : List FieldName} (hknown : rule.name ∈ names)
    (hgiven : rule.name.given? fields = some (spelling, v)) :
    unknownProblems names (fields.set spelling w) =
      (unknownProblems names fields).filter fun p => ¬p.IsAt spelling := by
  have hkey := Fields.mem_keys_of_get? (FieldName.given?_eq_some hgiven).2
  rw [unknownProblems, unknownNames_set hkey, ← unknownProblems]
  refine (List.filter_eq_self.2 fun p hp => ?_).symm
  obtain ⟨name, hname, rfl⟩ := List.mem_map.1 hp
  rw [decide_eq_true_eq]
  intro hat
  obtain rfl : name = spelling := Option.some.inj hat
  exact notMem_unknownNames hknown hgiven hname

/-- **No problem hides another one.** Where a field is given a valid value in place of its own, exactly
the problems at this field are no longer reported. -/
theorem objectProblems_set (hdistinct : Distinct rules) (hrule : rule ∈ rules)
    (hgiven : rule.name.given? fields = some (spelling, v)) (hvalid : rule.faults w = []) :
    objectProblems rules (fields.set spelling w) =
      (objectProblems rules fields).filter fun p => ¬p.IsAt spelling := by
  obtain ⟨hspelling, hget⟩ := FieldName.given?_eq_some hgiven
  -- which fields are unknown is told by the names of the fields, and these stay the same
  have hnames : HasWholeNames (rules.map Rule.name) (fields.set spelling w) ↔
      HasWholeNames (rules.map Rule.name) fields := by
    rw [HasWholeNames, HasWholeNames, unknownNames_set (Fields.mem_keys_of_get? hget)]
  have hfields : ∀ other ∈ rules, other.problems (fields.set spelling w) =
      (other.problems fields).filter fun p => ¬p.IsAt spelling := by
    intro other hother
    by_cases heq : other = rule
    · rw [heq]
      exact problems_set_self hgiven hvalid
    · exact problems_set_of_notMem (hdistinct.notMem_spellings hrule hother heq hspelling)
  by_cases hwhole : HasWholeNames (rules.map Rule.name) fields
  · rw [objectProblems, objectProblems, if_pos hwhole, if_pos (hnames.2 hwhole), violations, violations,
      List.filter_append, List.filter_flatMap, unknownProblems_set (List.mem_map_of_mem hrule) hgiven,
      List.flatMap_congr hfields]
  · rw [objectProblems, objectProblems, if_neg hwhole, if_neg (mt hnames.1 hwhole)]
    rfl

end

end JournalHerald.Schema
