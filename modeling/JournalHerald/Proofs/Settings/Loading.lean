import JournalHerald.Proofs.Json.Limits
import JournalHerald.Proofs.Settings.Canonical
import JournalHerald.Proofs.Settings.Files

/-!
# What loading settings can come to

The settings are loaded from whatever stands in the place of their file. What stands there is kept, and a
new user starts with the defaults, which can be loaded themselves.

Either there are settings then, or a fault is reported with at least one problem, or the program ends
without a word. The last of these happens exactly if the content of the file is garbled: it is not UTF-8, or
it breaks a limit for JSON texts before it breaks their grammar (`load_outcome`).
-/

namespace JournalHerald

open Schema

/-! ### Checks that report -/

theorem Announcement.reports_check (v : Value) : Check.Reports (check v) := by
  unfold check
  split
  · next fields =>
    have hkind : Check.Reports ((kindField.check none Check.nonemptyText fields).map mk) :=
      (Schema.reports_check Check.reports_nonemptyText fields).map mk
    exact reports_closing (((hkind.ap (Schema.reports_check Check.reports_text fields)).ap
      (Schema.reports_check Check.reports_natural fields)).ap
      (Schema.reports_check Check.reports_optionalText fields)) fieldNames fields
  · exact Check.reports_fail _

namespace Settings

theorem reports_checkAnnouncements (v : Value) : Check.Reports (checkAnnouncements v) := by
  unfold checkAnnouncements
  split
  · exact reports_items Announcement.reports_check 0 _
  · exact Check.reports_fail _

/-- Settings that cannot be read have a problem. -/
theorem reports_check (v : Value) : Check.Reports (check v) := by
  unfold check
  split
  · next fields =>
    have hfeedback : Check.Reports ((feedbackField.check none Check.truth fields).map mk) :=
      (Schema.reports_check Check.reports_truth fields).map mk
    exact reports_closing (((((hfeedback.ap (Schema.reports_check Check.reports_truth fields)).ap
      (Schema.reports_check Check.reports_positive fields)).ap
      (Schema.reports_check Check.reports_style fields)).ap
      (Schema.reports_check Check.reports_style fields)).ap
      (Schema.reports_check reports_checkAnnouncements fields)) fieldNames fields
  · exact Check.reports_fail _

/-! ### Texts -/

section

variable {text : Text}

theorem wellFormed_of_ofText? {s : Settings} (h : ofText? text = .ok s) : s.WellFormed := by
  unfold ofText? at h
  split at h
  · cases h
  · split at h
    · next hcheck =>
      cases h
      exact wellFormed_of_check hcheck
    · cases h

theorem problems_ne_nil_of_ofText? {fault : LoadFault} (h : ofText? text = .error fault) (path : Text) :
    fault.problems path ≠ [] := by
  unfold ofText? at h
  split at h
  · cases h
    exact List.cons_ne_nil _ _
  · split at h
    · cases h
    · next hcheck =>
      cases h
      rw [LoadFault.problems, ne_eq, List.map_eq_nil_iff]
      exact (reports_check _).ne_nil hcheck

theorem unreported_ofText?_iff :
    (∃ fault, ofText? text = .error fault ∧ fault.isReported = false) ↔ Json.BreaksLimit text := by
  unfold ofText? Json.BreaksLimit
  cases Json.parse text with
  | error error => simp [LoadFault.isReported]
  | ok v => cases hcheck : check v <;> simp [hcheck, LoadFault.isReported]

end

/-! ### Bytes -/

theorem ofBytes?_of_not_isValidUTF8 {content : ByteArray} (h : ¬content.IsValidUTF8) :
    ofBytes? content = .error .undecodable := by
  have hnone : String.fromUTF8? content = none := dif_neg h
  rw [ofBytes?, hnone]

/-- The bytes are those of a string, or no string has them. -/
theorem exists_toUTF8_or (content : ByteArray) :
    (∃ s : String, content = s.toUTF8) ∨ ¬content.IsValidUTF8 := by
  by_cases h : content.IsValidUTF8
  · exact .inl ⟨.ofByteArray content h, rfl⟩
  · exact .inr h

/-- The content of a file has no settings in it, and the user is not told why. -/
inductive Garbled : ByteArray → Prop where
  | undecodable {content : ByteArray} : ¬content.IsValidUTF8 → Garbled content
  | oversized {s : String} : Json.BreaksLimit (Text.joinLineEnds s) → Garbled s.toUTF8

theorem garbled_toUTF8_iff {s : String} : Garbled s.toUTF8 ↔ Json.BreaksLimit (Text.joinLineEnds s) := by
  refine ⟨fun h => ?_, .oversized⟩
  generalize hcontent : s.toUTF8 = content at h
  cases h with
  | undecodable h =>
    rw [← hcontent] at h
    exact absurd s.isValidUTF8 h
  | @oversized t h =>
    have hst : some s = some t := by rw [← fromUTF8?_toUTF8, ← fromUTF8?_toUTF8, hcontent]
    rwa [Option.some.inj hst]

theorem unreported_ofBytes?_iff {content : ByteArray} :
    (∃ fault, ofBytes? content = .error fault ∧ fault.isReported = false) ↔ Garbled content := by
  obtain ⟨s, rfl⟩ | hinvalid := exists_toUTF8_or content
  · rw [ofBytes?_toUTF8, garbled_toUTF8_iff]
    exact unreported_ofText?_iff
  · rw [ofBytes?_of_not_isValidUTF8 hinvalid]
    exact ⟨fun _ => .undecodable hinvalid, fun _ => ⟨_, rfl, rfl⟩⟩

theorem wellFormed_of_ofBytes? {content : ByteArray} {s : Settings} (h : ofBytes? content = .ok s) :
    s.WellFormed := by
  obtain ⟨t, rfl⟩ | hinvalid := exists_toUTF8_or content
  · rw [ofBytes?_toUTF8] at h
    exact wellFormed_of_ofText? h
  · rw [ofBytes?_of_not_isValidUTF8 hinvalid] at h
    cases h

theorem problems_ne_nil_of_ofBytes? {content : ByteArray} {fault : LoadFault}
    (h : ofBytes? content = .error fault) (path : Text) : fault.problems path ≠ [] := by
  obtain ⟨t, rfl⟩ | hinvalid := exists_toUTF8_or content
  · rw [ofBytes?_toUTF8] at h
    exact problems_ne_nil_of_ofText? h path
  · rw [ofBytes?_of_not_isValidUTF8 hinvalid] at h
    cases h
    exact List.cons_ne_nil _ _

/-! ### Entries of the folder -/

theorem wellFormed_of_ofEntry? {e : Entry} {s : Settings} (h : ofEntry? e = .ok s) : s.WellFormed := by
  cases e with
  | folder => cases h
  | file content => exact wellFormed_of_ofBytes? h

theorem problems_ne_nil_of_ofEntry? {e : Entry} {fault : LoadFault} (h : ofEntry? e = .error fault)
    (path : Text) : fault.problems path ≠ [] := by
  cases e with
  | folder =>
    cases h
    exact List.cons_ne_nil _ _
  | file content => exact problems_ne_nil_of_ofBytes? h path

theorem unreported_ofEntry?_iff {e : Entry} :
    (∃ fault, ofEntry? e = .error fault ∧ fault.isReported = false) ↔
      ∃ content, e = .file content ∧ Garbled content := by
  cases e with
  | folder => simp [LoadFault.isReported]
  | file content => simp [unreported_ofBytes?_iff]

end Settings

namespace Folder

/-! ### Main statement -/

/-- The defaults can be written into the folder: their copy is not in the way as a folder. -/
def IsWritable (folder : Folder) : Prop := folder.pristine ≠ some .folder

theorem load_of_isWritable {folder : Folder} (h : folder.IsWritable) :
    folder.load = (folder.prepare, Settings.ofEntry? folder.source) := by
  unfold load
  split
  · next hfolder => exact absurd hfolder h
  · rfl

theorem source_of_settings {folder : Folder} {e : Entry} (h : folder.settings = some e) :
    folder.source = e := by
  rw [source, h]
  rfl

/-- **What loading settings comes to.** Let the defaults be writable. What stands in the place of the
settings is left as it is, and the defaults are put there if there is nothing, and loaded. If there are
settings, they are within their bounds. If there are none, the fault has at least one problem. It is one
that is not reported exactly if the content of the file is garbled, which a file in UTF-8 is only if its
text exceeds the limits for JSON texts. -/
theorem load_outcome (folder : Folder) (h : folder.IsWritable) :
    (∀ e, folder.settings = some e → folder.load.1.settings = some e) ∧
    (folder.settings = none → folder.load.1.settings = some defaultEntry ∧ ∃ s, folder.load.2 = .ok s) ∧
    (∀ s, folder.load.2 = .ok s → s.WellFormed) ∧
    (∀ fault, folder.load.2 = .error fault → ∀ path, fault.problems path ≠ []) ∧
    ((∃ fault, folder.load.2 = .error fault ∧ fault.isReported = false) ↔
      ∃ content, folder.settings = some (.file content) ∧ Settings.Garbled content) ∧
    (∀ s : String, Settings.Garbled s.toUTF8 → Json.Exceeds Json.maxNesting (Text.joinLineEnds s)) := by
  rw [load_of_isWritable h]
  refine ⟨fun e he => ?_, fun hnone => ?_, fun s hs => Settings.wellFormed_of_ofEntry? hs,
    fun fault hfault => Settings.problems_ne_nil_of_ofEntry? hfault, ?_,
    fun s hgarbled => (Settings.garbled_toUTF8_iff.1 hgarbled).exceeds⟩
  · show some folder.source = some e
    rw [source_of_settings he]
  · have hsource : folder.source = defaultEntry := by
      rw [source, hnone]
      rfl
    show some folder.source = some defaultEntry ∧ ∃ s, Settings.ofEntry? folder.source = .ok s
    rw [hsource]
    exact ⟨rfl, Settings.exists_ofEntry?_defaultEntry⟩
  · show (∃ fault, Settings.ofEntry? folder.source = .error fault ∧ _) ↔ _
    cases hsettings : folder.settings with
    | some e =>
      rw [source_of_settings hsettings, Settings.unreported_ofEntry?_iff]
      simp only [Option.some.injEq]
    | none =>
      obtain ⟨s, hs⟩ := Settings.exists_ofEntry?_defaultEntry
      rw [source, hsettings]
      simp [hs]

/-- A new user has settings. A user whose file holds a number and no object is told so, and keeps the
file. -/
theorem load_outcome_number :
    let folder : Folder := { settings := some (.file "5".toUTF8) }
    IsWritable {} ∧ (∃ s, (load {}).2 = .ok s ∧ s.WellFormed) ∧
    folder.IsWritable ∧ folder.load.1.settings = folder.settings ∧
    ∃ fault, folder.load.2 = .error fault ∧ fault.isReported = true ∧ ∀ path, fault.problems path ≠ [] := by
  intro folder
  have hempty : IsWritable {} := nofun
  have hfolder : folder.IsWritable := nofun
  obtain ⟨-, hnew, hbounds, -⟩ := load_outcome {} hempty
  obtain ⟨-, s, hs⟩ := hnew rfl
  obtain ⟨hkept, -, -, hproblems, hreported, hexceeds⟩ := load_outcome folder hfolder
  have hload : folder.load.2 = .error (.invalid [⟨[], .notObject "SiouxData"⟩]) := by
    rw [load_of_isWritable hfolder]
    exact (Settings.ofBytes?_toUTF8 "5").trans rfl
  refine ⟨hempty, ⟨s, hs, hbounds s hs⟩, hfolder, hkept _ rfl, _, hload, ?_, hproblems _ hload⟩
  by_contra hunreported
  obtain ⟨content, hcontent, hgarbled⟩ := hreported.1 ⟨_, hload, Bool.eq_false_iff.2 hunreported⟩
  cases hcontent
  exact Json.not_exceeds_of_length_le (by decide) (hexceeds "5" hgarbled)

/-- A single byte that is no UTF-8: there are no settings, and the user is not told why. -/
theorem load_unreported_byte :
    let folder : Folder := { settings := some (.file ⟨#[0xff]⟩) }
    folder.IsWritable ∧ folder.load.2 = .error .undecodable ∧ LoadFault.undecodable.isReported = false := by
  intro folder
  have hinvalid : ¬(⟨#[0xff]⟩ : ByteArray).IsValidUTF8 := by
    rw [← ByteArray.validateUTF8_eq_true_iff]
    decide +kernel
  exact ⟨nofun, Settings.ofBytes?_of_not_isValidUTF8 hinvalid, rfl⟩

end Folder

end JournalHerald
