import JournalHerald.Proofs.Schema.Rules

/-!
# Settings that are written and read again

Settings can be spelled in many ways: fields in two spellings, truth values as words, numbers as texts,
styles in any letter case. They are written in one way only, and what is written is read as the same
settings (`check_toValue`), so that to write what has been read gives a canonical form, which does not
change any more (`canonical_of_check`).

The settings that can be read at all are those whose numbers and kinds of events are within their bounds
(`WellFormed`). For each kind of value this is what a check of it gives, and what its own written form
is checked for.
-/

namespace JournalHerald

/-! ### Single values -/

namespace Schema.Check

variable {v : Value} {i : Int} {t : Text}

theorem pos_of_positive (h : positive v = .ok i) : 0 < i := by
  obtain ⟨j, -, hj⟩ := bind_eq_ok h
  split at hj
  · next hpos =>
    cases hj
    exact hpos
  · cases hj

theorem positive_int (h : 0 < i) : positive (.int i) = .ok i :=
  if_pos h

theorem nonneg_of_natural (h : natural v = .ok i) : 0 ≤ i := by
  obtain ⟨j, -, hj⟩ := bind_eq_ok h
  split at hj
  · next hnonneg =>
    cases hj
    exact hnonneg
  · cases hj

theorem natural_int (h : 0 ≤ i) : natural (.int i) = .ok i :=
  if_pos h

theorem whole_of_nonemptyText (h : nonemptyText v = .ok t) :
    t ≠ [] ∧ ∀ c ∈ t, c.isSurrogate = false := by
  obtain ⟨u, -, hu⟩ := bind_eq_ok h
  split at hu
  · cases hu
  · next hwhole =>
    split at hu
    · cases hu
    · next hne =>
      cases hu
      exact ⟨hne, by simpa using hwhole⟩

theorem nonemptyText_text (hne : t ≠ []) (h : ∀ c ∈ t, c.isSurrogate = false) :
    nonemptyText (.text t) = .ok t := by
  have hwhole : ¬(t.any CodePoint.isSurrogate) = true := by simpa using h
  exact (if_neg hwhole).trans (if_neg hne)

theorem optionalText_ofText? (t : Option Text) : optionalText (.ofText? t) = .ok t := by
  cases t <;> rfl

theorem parse?_label (s : Style) : Style.parse? s.label = some s := by
  cases s <;> decide

theorem style_label (s : Style) : style (.text s.label) = .ok s := by
  rw [style, parse?_label]

end Schema.Check

/-! ### Fields and lists -/

namespace Schema

section

variable {α : Type} {name : FieldName} {default : Option α} {check : Value → Checked α}
  {fields : Fields} {a : α}

/-- The value of a field is its default or has been checked. -/
theorem check_eq_ok (h : name.check default check fields = .ok a) :
    default = some a ∨ ∃ v, check v = .ok a := by
  unfold FieldName.check at h
  split at h
  · exact .inr ⟨_, Check.within_eq_ok.1 h⟩
  · cases h
    exact .inl rfl
  · cases h

theorem check_of_get? {v : Value} (hget : fields.get? name.camelCase = some v) (hv : check v = .ok a) :
    name.check default check fields = .ok a := by
  unfold FieldName.check
  rw [FieldName.given?_of_camelCase hget]
  exact Check.within_eq_ok.2 hv

theorem closing_eq_ok {names : List FieldName} {checked : Checked α}
    (h : Check.closing names fields checked = .ok a) : checked = .ok a := by
  unfold Check.closing at h
  dsimp only at h
  split at h
  · cases h
  · unfold Check.also at h
    split at h
    · exact h
    · cases h
    · cases h

theorem closing_of_known {names : List FieldName} (h : unknownNames names fields = [])
    (checked : Checked α) : Check.closing names fields checked = checked := by
  rw [Check.closing, h]
  cases checked <;> rfl

theorem items_eq_ok {items : List Value} {first : Nat} {as : List α}
    (h : Check.items check first items = .ok as) : ∀ a ∈ as, ∃ v, check v = .ok a := by
  induction items generalizing first as with
  | nil =>
    cases h
    simp
  | cons v items ih =>
    obtain ⟨g, rest, hg, hrest, rfl⟩ := Check.ap_eq_ok h
    obtain ⟨a, ha, rfl⟩ := Check.map_eq_ok hg
    exact List.forall_mem_cons.2 ⟨⟨v, Check.within_eq_ok.1 ha⟩, ih hrest⟩

theorem items_map {β : Type} {check : Value → Checked β} {written : β → Value} {bs : List β}
    (h : ∀ b ∈ bs, check (written b) = .ok b) (first : Nat) :
    Check.items check first (bs.map written) = .ok bs := by
  induction bs generalizing first with
  | nil => rfl
  | cons b bs ih =>
    obtain ⟨hb, hbs⟩ := List.forall_mem_cons.1 h
    rw [List.map_cons, Check.items, hb, ih hbs]
    rfl

end

end Schema

open Schema

/-! ### Announcements -/

namespace Announcement

/-- The announcement can be read from settings. -/
structure WellFormed (a : Announcement) : Prop where
  kind_ne_nil : a.kind ≠ []
  kind_whole : ∀ c ∈ a.kind, c.isSurrogate = false
  duration_nonneg : 0 ≤ a.displayDuration

theorem wellFormed_of_check {v : Value} {a : Announcement} (h : check v = .ok a) : a.WellFormed := by
  unfold check at h
  split at h
  · obtain ⟨_, image, h3, -, rfl⟩ := Check.ap_eq_ok (closing_eq_ok h)
    obtain ⟨_, duration, h2, hduration, rfl⟩ := Check.ap_eq_ok h3
    obtain ⟨_, format, h1, -, rfl⟩ := Check.ap_eq_ok h2
    obtain ⟨kind, hkind, rfl⟩ := Check.map_eq_ok h1
    obtain hkind | ⟨v, hkind⟩ := check_eq_ok hkind
    · cases hkind
    obtain ⟨hne, hwhole⟩ := Check.whole_of_nonemptyText hkind
    refine ⟨hne, hwhole, ?_⟩
    obtain hduration | ⟨v, hduration⟩ := check_eq_ok hduration
    · cases hduration
      exact Int.le_refl 0
    · exact Check.nonneg_of_natural hduration
  · cases h

/-- The written form of an announcement is read as the announcement. -/
theorem check_toValue {a : Announcement} (h : a.WellFormed) : check a.toValue = .ok a := by
  rw [toValue, check]
  unfold checkFields
  rw [check_of_get? rfl (Check.nonemptyText_text h.kind_ne_nil h.kind_whole),
    check_of_get? (a := a.format) rfl rfl,
    check_of_get? rfl (Check.natural_int h.duration_nonneg),
    check_of_get? rfl (Check.optionalText_ofText? a.image)]
  exact closing_of_known rfl _

end Announcement

/-! ### Settings -/

namespace Settings

/-- The settings can be read from a file. -/
structure WellFormed (s : Settings) : Prop where
  duration_pos : 0 < s.displayDuration
  announcements : ∀ a ∈ s.announcements, a.WellFormed

theorem wellFormed_of_check {v : Value} {s : Settings} (h : check v = .ok s) : s.WellFormed := by
  unfold check at h
  split at h
  · obtain ⟨_, announcements, h5, hannouncements, rfl⟩ := Check.ap_eq_ok (closing_eq_ok h)
    obtain ⟨_, tokenStyle, h4, -, rfl⟩ := Check.ap_eq_ok h5
    obtain ⟨_, textStyle, h3, -, rfl⟩ := Check.ap_eq_ok h4
    obtain ⟨_, duration, h2, hduration, rfl⟩ := Check.ap_eq_ok h3
    obtain ⟨_, filter, h1, -, rfl⟩ := Check.ap_eq_ok h2
    obtain ⟨feedback, -, rfl⟩ := Check.map_eq_ok h1
    obtain hduration | ⟨v, hduration⟩ := check_eq_ok hduration
    · cases hduration
    obtain hannouncements | ⟨w, hannouncements⟩ := check_eq_ok hannouncements
    · cases hannouncements
    refine ⟨Check.pos_of_positive hduration, fun a ha => ?_⟩
    unfold checkAnnouncements at hannouncements
    split at hannouncements
    · obtain ⟨u, hu⟩ := items_eq_ok hannouncements a ha
      exact Announcement.wellFormed_of_check hu
    · cases hannouncements
  · cases h

/-- **The written form of settings is read as these settings.** -/
theorem check_toValue {s : Settings} (h : s.WellFormed) : check s.toValue = .ok s := by
  have hannouncements : checkAnnouncements (.list (s.announcements.map Announcement.toValue)) =
      .ok s.announcements :=
    items_map (fun a ha => Announcement.check_toValue (h.announcements a ha)) 0
  rw [toValue, check]
  unfold checkFields
  rw [check_of_get? (a := s.allowFeedback) rfl rfl, check_of_get? (a := s.filterOnCommander) rfl rfl,
    check_of_get? rfl (Check.positive_int h.duration_pos), check_of_get? rfl (Check.style_label s.textStyle),
    check_of_get? rfl (Check.style_label s.tokenStyle), check_of_get? rfl hannouncements]
  exact closing_of_known rfl _

/-! ### Main statement -/

/-- The written form of the settings that a value stands for. -/
def rewritten (v : Value) : Checked Value :=
  (check v).map toValue

/-- Settings that are read and written so many times. -/
def rewrittenTimes : Nat → Value → Checked Value
  | 0, v => .ok v
  | n + 1, v => rewritten v >>= rewrittenTimes n

theorem rewrittenTimes_toValue {s : Settings} (h : s.WellFormed) (n : Nat) :
    rewrittenTimes n s.toValue = .ok s.toValue := by
  induction n with
  | zero => rfl
  | succ n ih =>
    rw [rewrittenTimes, rewritten, check_toValue h]
    exact ih

/-- **What has been read keeps its form once it is written.** The settings that can be read from some value
are the well-formed ones. If a value is read as settings, in whatever spelling, the written form of these is
read as the same settings, any number of rounds of reading and writing leave this form, and it is the form
of no other settings that can be read. -/
theorem canonical_of_check (s : Settings) :
    ((∃ v, check v = .ok s) ↔ s.WellFormed) ∧
    ∀ v, check v = .ok s →
      check s.toValue = .ok s ∧
      (∀ n, rewrittenTimes (n + 1) v = .ok s.toValue) ∧
      ∀ w t, check w = .ok t → (t.toValue = s.toValue ↔ t = s) := by
  refine ⟨⟨fun ⟨v, hv⟩ => wellFormed_of_check hv, fun h => ⟨_, check_toValue h⟩⟩, fun v hv => ?_⟩
  have hs := wellFormed_of_check hv
  refine ⟨check_toValue hs, fun n => ?_, fun w t ht => ⟨fun hform => ?_, fun h => by rw [h]⟩⟩
  · rw [rewrittenTimes, rewritten, hv]
    exact rewrittenTimes_toValue hs n
  · have hread := check_toValue (wellFormed_of_check ht)
    rw [hform, check_toValue hs] at hread
    exact (Except.ok.inj hread).symm

/-- A file that says yes in words, counts the seconds in a text and in a number with a point, and names
fields and styles in all ways. -/
theorem canonical_of_check_spellings :
    let spelled : Value := .object
      [("default_display_duration", .text " +1_0.0 "), ("allow_anonymous_error_feedback", .text "YES"),
       ("filterOnCurrentCommander", .int 0), ("default_text_color_type", .text "hEADLINE"),
       ("defaultTokenColorType", .text "friendly"),
       ("events", .list [.object [("format", .text ""), ("type", .text "Died"),
         ("display_duration", .float (.ofInt 5))]])]
    let s : Settings :=
      { allowFeedback := true, filterOnCommander := false, displayDuration := 10, textStyle := .headline,
        tokenStyle := .friendly, announcements := [{ kind := "Died", format := "", displayDuration := 5 }] }
    check spelled = .ok s ∧ check s.toValue = .ok s ∧
      (∀ n, rewrittenTimes (n + 1) spelled = .ok s.toValue) ∧
      ∀ w t, check w = .ok t → (t.toValue = s.toValue ↔ t = s) := by
  intro spelled s
  have hspelled : check spelled = .ok s := by rfl
  exact ⟨hspelled, (canonical_of_check s).2 spelled hspelled⟩

end Settings

end JournalHerald
