import JournalHerald.Proofs.Json.Values
import JournalHerald.Proofs.Text.LineEnds
import JournalHerald.Settings.Folder

/-!
# Files of settings

What is written to a file as the JSON text of a value is read from it as this value (`ofEntry?_pretty`). So the
defaults that a new user starts with can be loaded (`exists_ofEntry?_defaultEntry`).
-/

namespace JournalHerald

/-! ### Characters of a file -/

/-- A text of characters alone is the text of a string. -/
theorem Text.ofString_string {t : Text} (h : ∀ c ∈ t, c.isSurrogate = false) : ofString t.string = t := by
  rw [ofString, string, String.toList_ofList, List.map_map]
  refine (List.map_congr_left fun c hc => ?_).trans (List.map_id t)
  cases c with
  | char c => rfl
  | surrogate index => cases h _ hc

namespace Settings

theorem fromUTF8?_toUTF8 (s : String) : String.fromUTF8? s.toUTF8 = some s :=
  dif_pos s.isValidUTF8

theorem ofBytes?_toUTF8 (s : String) : ofBytes? s.toUTF8 = ofText? (Text.joinLineEnds s) := by
  rw [ofBytes?, fromUTF8?_toUTF8]

@[simp] theorem ofEntry?_file (content : ByteArray) : ofEntry? (.file content) = ofBytes? content :=
  rfl

@[simp] theorem ofEntry?_folder : ofEntry? .folder = .error .isFolder :=
  rfl

/-- The text of a value goes into a file and back as it is. -/
theorem ofEntry?_pretty {v : Value} (h : Json.Legible Json.maxNesting v) :
    ∃ w, Json.pretty? v = some w ∧
      ∀ s, check v.joined = .ok s → ofEntry? (.file (Text.string w).toUTF8) = .ok s := by
  obtain ⟨w, hw, hchars, hparse⟩ := h.parse_pretty
  have hwhole : ∀ c ∈ w, c.isSurrogate = false := by
    intro c hc
    cases c with
    | char c => rfl
    | surrogate index =>
      obtain hgraphic | hbreak := hchars _ hc
      · have : 0xD800 + index.val < 127 := hgraphic.2
        omega
      · cases hbreak
  have hends : .char '\r' ∉ w := by
    intro hmem
    have := hchars _ hmem
    revert this
    decide
  refine ⟨w, hw, fun s hs => ?_⟩
  rw [ofEntry?_file, ofBytes?_toUTF8, Text.ofString_string hwhole, Text.joinLineEnds_of_notMem hends]
  simp only [ofText?, hparse, hs]

/-! ### The defaults -/

open Json

theorem legible_defaultAnnouncement (kind format : Text) {duration : Option Int}
    (h : ∀ d ∈ duration, IsShort d) (n : Nat) :
    Legible (n + 1) (defaultAnnouncement kind format duration) := by
  cases duration with
  | none =>
    refine legible_object (rfl : _ = ["type", "format"].map Text.ofString) (by decide) ?_
    simp only [List.forall_mem_cons]
    exact ⟨.text _, .text _, List.forall_mem_nil _⟩
  | some d =>
    refine legible_object (rfl : _ = ["type", "format", "displayDuration"].map Text.ofString) (by decide) ?_
    simp only [List.forall_mem_cons]
    exact ⟨.text _, .text _, .int (h d rfl), List.forall_mem_nil _⟩

theorem legible_defaults (n : Nat) : Legible (n + 3) defaults := by
  have hshort : ∀ {d : Int}, d.natAbs < 10 ^ 2 → IsShort d :=
    fun hd => isShort_of_lt (Nat.lt_of_lt_of_le hd (Nat.pow_le_pow_right (by decide) (by decide)))
  have husual : ∀ kind format, Legible (n + 1) (defaultAnnouncement kind format none) := by
    intro kind format
    refine legible_defaultAnnouncement kind format ?_ n
    rintro _ ⟨⟩
  have htimed : ∀ kind format {d : Int}, d.natAbs < 10 ^ 2 →
      Legible (n + 1) (defaultAnnouncement kind format (some d)) := by
    intro kind format d hd
    refine legible_defaultAnnouncement kind format ?_ n
    rintro _ ⟨⟩
    exact hshort hd
  have hannouncements : Legible (n + 2) (.list defaultAnnouncements) := by
    refine .list ?_
    simp only [defaultAnnouncements, List.forall_mem_cons]
    exact ⟨husual _ _, husual _ _, husual _ _, husual _ _, htimed _ _ (by decide), husual _ _,
      husual _ _, htimed _ _ (by decide), List.forall_mem_nil _⟩
  refine legible_object (rfl : _ = ["allowAnonymousErrorFeedback", "filterOnCurrentCommander",
    "defaultDisplayDuration", "defaultTextColorType", "defaultTokenColorType", "events"].map Text.ofString)
    (by decide) ?_
  simp only [List.forall_mem_cons]
  exact ⟨.bool _, .bool _, .int (hshort (by decide)), .text _, .text _, hannouncements,
    List.forall_mem_nil _⟩

/-- **The defaults can be loaded.** -/
theorem exists_ofEntry?_defaultEntry : ∃ s, ofEntry? Folder.defaultEntry = .ok s := by
  obtain ⟨w, hw, hread⟩ := ofEntry?_pretty (legible_defaults 987)
  have htext : defaultText = w := by
    rw [defaultText, hw]
    rfl
  have hok : (check defaults.joined).isOk = true := by
    decide +kernel
  cases hcheck : check defaults.joined with
  | ok s => exact ⟨s, by rw [Folder.defaultEntry, htext, hread s hcheck]⟩
  | error problems =>
    rw [hcheck] at hok
    cases hok

end Settings

end JournalHerald
