import JournalHerald.Settings.Folder
import JournalHerald.Proofs.Schema.Rules

/-!
# What is reported of settings

Settings that cannot be read are reported with all that is wrong with them. The problems are those that
the rules of the fields tell one by one (`problems_check`), so that to repair a field takes exactly its own
problems off the report (`reported_violations`).

There is one exception: an unknown field whose name has a surrogate in it is reported alone
(`reported_ne_violations_surrogate`).

* `Announcement.rules` and `Settings.rules` are the rules, in the order of the report;
* `reported` is what a check reports of a value, `LoadFault.message` tells it to the user.
-/

namespace JournalHerald

open Schema

namespace Announcement

/-- What can be wrong with the fields of an announcement. -/
def rules : List Rule :=
  [.of kindField none Check.nonemptyText, .of formatField none Check.text,
   .of durationField (some 0) Check.natural, .of imageField (some none) Check.optionalText]

/-- What is wrong with a value for an announcement. -/
def faults : Value → List Problem
  | .object fields => objectProblems rules fields
  | _ => [⟨[], .notObject "SiouxEvent"⟩]

theorem problems_check (v : Value) : Check.problems (check v) = faults v := by
  cases v with
  | object fields =>
    rw [check, checkFields]
    simp only [problems_closing, Check.problems_ap, Check.problems_map, Schema.problems_check, faults,
      objectProblems, violations, rules, List.flatMap_cons, List.flatMap_nil, List.append_assoc,
      List.append_nil]
    rfl
  | _ => rfl

end Announcement

namespace Settings

/-- What is wrong with a value for the announcements. -/
def announcementsFaults : Value → List Problem
  | .list items => items.zipIdx.flatMap fun item =>
      (Announcement.faults item.1).map (·.within (Text.natText item.2))
  | _ => [⟨[], .notList⟩]

/-- What can be wrong with the fields of settings. -/
def rules : List Rule :=
  [.of feedbackField none Check.truth, .of filterField none Check.truth,
   .of durationField none Check.positive, .of textStyleField none Check.style,
   .of tokenStyleField none Check.style, ⟨announcementsField, true, announcementsFaults⟩]

/-- What is reported of a value for settings. -/
def reported (v : Value) : List Problem :=
  Check.problems (check v)

theorem problems_checkAnnouncements (v : Value) :
    Check.problems (checkAnnouncements v) = announcementsFaults v := by
  cases v with
  | list items => simp only [checkAnnouncements, announcementsFaults, problems_items, Announcement.problems_check]
  | _ => rfl

theorem distinct_rules : Distinct rules := by
  unfold Distinct
  decide +kernel

/-- The report on an object follows the rules. -/
theorem reported_object (fields : Fields) : reported (.object fields) = objectProblems rules fields := by
  have hannouncements : Rule.of announcementsField none checkAnnouncements =
      ⟨announcementsField, true, announcementsFaults⟩ :=
    congrArg (Rule.mk announcementsField true) (funext problems_checkAnnouncements)
  rw [reported, check, checkFields]
  simp only [problems_closing, Check.problems_ap, Check.problems_map, problems_check, hannouncements,
    objectProblems, violations, rules, List.flatMap_cons, List.flatMap_nil, List.append_assoc,
    List.append_nil]
  rfl

/-- What is reported of the object in a text is told to the user. -/
theorem ofText?_of_reported {text : Text} {v : Value} (hparse : Json.parse text = .ok v)
    (hreported : reported v ≠ []) : ofText? text = .error (.invalid (reported v)) := by
  have hcheck : check v = .error (reported v) := Check.eq_error_of_problems_ne_nil hreported
  simp only [ofText?, hparse, hcheck]

/-! ### Main statement -/

/-- **What is wrong with settings is reported at once, field by field.** Unless an unknown field has a
surrogate in its name, the report on an object lists everything that is wrong with it: the fields in
their order, in a list of announcements item by item, then the unknown fields in the order in which they
are given. With such a name it consists of a single problem. In any case, to put a valid value in place
of the value of a field takes exactly the problems at this field off the report. A user whose file holds
the object is told all of the report below a heading. -/
theorem reported_violations (fields : Fields) :
    (HasWholeNames fieldNames fields → reported (.object fields) = violations rules fields) ∧
    (¬HasWholeNames fieldNames fields → reported (.object fields) = [⟨[], .brokenText⟩]) ∧
    (∀ rule ∈ rules, ∀ spelling v w, rule.name.given? fields = some (spelling, v) → rule.faults w = [] →
      reported (.object (fields.set spelling w)) =
        (reported (.object fields)).filter fun p => ¬p.IsAt spelling) ∧
    (∀ text, Json.parse text = .ok (.object fields) → reported (.object fields) ≠ [] →
      ∃ fault, ofText? text = .error fault ∧ fault.isReported = true ∧
        ∀ path, fault.problems path = (reported (.object fields)).map Problem.text ∧
          fault.message path = Text.joinWith "\n" (("Failed to load SiouxData at " ++ path) ::
            (reported (.object fields)).map Problem.text)) := by
  refine ⟨fun hwhole => ?_, fun hbroken => ?_, ?_, ?_⟩
  · rw [reported_object, objectProblems]
    exact if_pos hwhole
  · rw [reported_object, objectProblems]
    exact if_neg hbroken
  · intro rule hrule spelling v w hgiven hvalid
    rw [reported_object, reported_object]
    exact objectProblems_set distinct_rules hrule hgiven hvalid
  · intro text hparse hreported
    exact ⟨_, ofText?_of_reported hparse hreported, rfl, fun path => ⟨rfl, rfl⟩⟩

/-- A file with an announcement of nothing and an unknown field: the report names the fields that are
missing at both levels, and it is shorter by two problems once there are no announcements. An unknown
field that is half a character is reported alone. -/
theorem reported_violations_nothing :
    let fields : Fields := [("events", .list [.object [("type", .text "")]]), ("x", .int 1)]
    let text : Text := "\x7b\"events\":[\x7b\"type\":\"\"\x7d],\"x\":1\x7d"
    let missing (name : Text) : Problem := ⟨[name], .missing⟩
    HasWholeNames fieldNames fields ∧
    reported (.object fields) =
      [missing "allowAnonymousErrorFeedback", missing "filterOnCurrentCommander",
       missing "defaultDisplayDuration", missing "defaultTextColorType", missing "defaultTokenColorType",
       ⟨["events", "0", "type"], .emptyText⟩, ⟨["events", "0", "format"], .missing⟩,
       ⟨["x"], .unknownField⟩] ∧
    reported (.object (fields.set "events" (.list []))) =
      (reported (.object fields)).filter (fun p => ¬p.IsAt "events") ∧
    (∃ fault, ofText? text = .error fault ∧ fault.isReported = true ∧
      ∀ path, fault.problems path = (reported (.object fields)).map Problem.text ∧
        fault.message path = Text.joinWith "\n" (("Failed to load SiouxData at " ++ path) ::
          (reported (.object fields)).map Problem.text)) ∧
    reported (.object [([.surrogate 0], .null)]) = [⟨[], .brokenText⟩] := by
  intro fields text missing
  have hwhole : HasWholeNames fieldNames fields := by decide
  have hbroken : ¬HasWholeNames fieldNames [([.surrogate 0], .null)] := by decide
  have hparse : Json.parse text = .ok (.object fields) := by rfl
  obtain ⟨hall, -, hrepair, hmessage⟩ := reported_violations fields
  have hreported := hall hwhole
  refine ⟨hwhole, hreported.trans rfl, ?_, hmessage text hparse ?_, (reported_violations _).2.1 hbroken⟩
  · exact hrepair ⟨announcementsField, true, announcementsFaults⟩ (by simp [rules]) "events" _ (.list [])
      rfl rfl
  · rw [hreported]
    exact List.cons_ne_nil _ _

/-- Half a character for the name of an unknown field: that a message is to stay for no time at all is
not reported. -/
theorem reported_ne_violations_surrogate :
    let fields : Fields :=
      [([.surrogate 0], .int 1), ("allowAnonymousErrorFeedback", .bool true),
       ("filterOnCurrentCommander", .bool true), ("defaultDisplayDuration", .int 0),
       ("defaultTextColorType", .text "Default"), ("defaultTokenColorType", .text "Name"),
       ("events", .list [])]
    violations rules fields =
      [⟨["defaultDisplayDuration"], .notPositive⟩, ⟨[[.surrogate 0]], .unknownField⟩] ∧
    reported (.object fields) = [⟨[], .brokenText⟩] := by
  exact ⟨rfl, rfl⟩

end Settings

end JournalHerald
