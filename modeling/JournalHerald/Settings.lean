import JournalHerald.Schema.Check

/-!
# Settings

What the user can choose: how messages look, how long they stay on the display, and which kinds of events are
announced, each with a message format of its own. Settings come as an object whose fields may each be named
in camel case or with underscores. A field without a value of its own type is reported, and so is every field
that is not known.

* `Settings` and `Announcement` are the choices;
* `Settings.check` builds settings from an unchecked value, `Settings.toValue` turns them into an object;
* `Settings.announcementFor?` finds the announcement for a kind of event.
-/

namespace JournalHerald

namespace Schema

/-- The two spellings of a field name. -/
structure FieldName where
  camelCase : Text
  underscored : Text
  deriving DecidableEq, Repr

namespace FieldName

/-- The spelling under which a field is given, and its value. Camel case comes first. -/
def given? (name : FieldName) (fields : Fields) : Option (Text × Value) :=
  match fields.get? name.camelCase with
  | some v => some (name.camelCase, v)
  | none => (fields.get? name.underscored).map fun v => (name.underscored, v)

/-- Check the value of a field. A field that is not given has a default or is missing. -/
def check {α : Type} (name : FieldName) (default : Option α) (check : Value → Checked α)
    (fields : Fields) : Checked α :=
  match name.given? fields, default with
  | some (spelling, v), _ => Check.within spelling (check v)
  | none, some a => .ok a
  | none, none => .error [⟨[name.camelCase], .missing⟩]

end FieldName

/-- The names of fields that are none of the given ones, or whose field is given in its other spelling as
well. -/
def unknownNames (names : List FieldName) (fields : Fields) : List Text :=
  let used := names.filterMap fun name => (name.given? fields).map (·.1)
  (fields.map (·.1)).filter fun name => !used.contains name

/-- The outcome of a check of the known fields of an object, together with the problems of the unknown ones.
These come last, but one with a surrogate in its name leaves only that to be reported. -/
def Check.closing {α : Type} (names : List FieldName) (fields : Fields) (checked : Checked α) : Checked α :=
  let unknown := unknownNames names fields
  if unknown.any fun name => name.any CodePoint.isSurrogate then Check.fail .brokenText
  else Check.also checked (unknown.map fun name => ⟨[name], .unknownField⟩)

/-- Check every item of a list, each problem within the position of its item. -/
def Check.items {α : Type} (check : Value → Checked α) : Nat → List Value → Checked (List α)
  | _, [] => .ok []
  | i, v :: rest =>
    Check.ap ((Check.within (Text.natText i) (check v)).map List.cons)
      (Check.items check (i + 1) rest)

end Schema

open Schema

/-- How one kind of event is announced. -/
structure Announcement where
  /-- The kind of the event. -/
  kind : Text
  /-- The format of the message. -/
  format : Text
  /-- How many seconds the message stays; zero stands for the usual number. -/
  displayDuration : Int := 0
  image : Option Text := none
  deriving DecidableEq, Repr, Inhabited

namespace Announcement

/-- The field for the kind of event. -/
def kindField : FieldName := ⟨"type", "type"⟩

/-- The field for the format. -/
def formatField : FieldName := ⟨"format", "format"⟩

/-- The field for the seconds on the display. -/
def durationField : FieldName := ⟨"displayDuration", "display_duration"⟩

/-- The field for the image. -/
def imageField : FieldName := ⟨"image", "image"⟩

/-- The fields of an announcement. -/
def fieldNames : List FieldName := [kindField, formatField, durationField, imageField]

/-- The announcement with the given fields. -/
def checkFields (fields : Fields) : Checked Announcement :=
  let step1 := (kindField.check none Check.nonemptyText fields).map Announcement.mk
  let step2 := Check.ap step1 (formatField.check none Check.text fields)
  let step3 := Check.ap step2 (durationField.check (some 0) Check.natural fields)
  let step4 := Check.ap step3 (imageField.check (some none) Check.optionalText fields)
  Check.closing fieldNames fields step4

/-- The announcement that a value stands for. -/
def check : Value → Checked Announcement
  | .object fields => checkFields fields
  | _ => Check.fail (.notObject "SiouxEvent")

/-- The announcement as an object. -/
def toValue (a : Announcement) : Value :=
  .object
    [(kindField.camelCase, .text a.kind), (formatField.camelCase, .text a.format),
     (durationField.camelCase, .int a.displayDuration), (imageField.camelCase, .ofText? a.image)]

end Announcement

/-- The choices of the user. -/
structure Settings where
  /-- Errors may be reported without the user's name. -/
  allowFeedback : Bool
  /-- Counts cover the current commander only. -/
  filterOnCommander : Bool
  /-- How many seconds a message usually stays. -/
  displayDuration : Int
  /-- The style of texts outside placeholders. -/
  textStyle : Style
  /-- The style of values that have none of their own. -/
  tokenStyle : Style
  announcements : List Announcement
  deriving DecidableEq, Repr, Inhabited

namespace Settings

/-- The field for the consent to error reports. -/
def feedbackField : FieldName :=
  ⟨"allowAnonymousErrorFeedback", "allow_anonymous_error_feedback"⟩

/-- The field for the restriction of counts. -/
def filterField : FieldName := ⟨"filterOnCurrentCommander", "filter_on_current_commander"⟩

/-- The field for the usual seconds on the display. -/
def durationField : FieldName := ⟨"defaultDisplayDuration", "default_display_duration"⟩

/-- The field for the style of texts. -/
def textStyleField : FieldName := ⟨"defaultTextColorType", "default_text_color_type"⟩

/-- The field for the style of values. -/
def tokenStyleField : FieldName := ⟨"defaultTokenColorType", "default_token_color_type"⟩

/-- The field for the announcements. -/
def announcementsField : FieldName := ⟨"events", "events"⟩

/-- The fields of settings. -/
def fieldNames : List FieldName :=
  [feedbackField, filterField, durationField, textStyleField, tokenStyleField, announcementsField]

/-- A list of announcements. -/
def checkAnnouncements : Value → Checked (List Announcement)
  | .list items => Check.items Announcement.check 0 items
  | _ => Check.fail .notList

/-- The settings with the given fields. -/
def checkFields (fields : Fields) : Checked Settings :=
  let step1 := (feedbackField.check none Check.truth fields).map Settings.mk
  let step2 := Check.ap step1 (filterField.check none Check.truth fields)
  let step3 := Check.ap step2 (durationField.check none Check.positive fields)
  let step4 := Check.ap step3 (textStyleField.check none Check.style fields)
  let step5 := Check.ap step4 (tokenStyleField.check none Check.style fields)
  let step6 := Check.ap step5 (announcementsField.check none checkAnnouncements fields)
  Check.closing fieldNames fields step6

/-- The settings that a value stands for, or its problems: those of the fields in their order, then the
unknown fields. -/
def check : Value → Checked Settings
  | .object fields => checkFields fields
  | _ => Check.fail (.notObject "SiouxData")

/-- The settings as an object. -/
def toValue (s : Settings) : Value :=
  .object
    [(feedbackField.camelCase, .bool s.allowFeedback),
     (filterField.camelCase, .bool s.filterOnCommander),
     (durationField.camelCase, .int s.displayDuration),
     (textStyleField.camelCase, .text s.textStyle.label),
     (tokenStyleField.camelCase, .text s.tokenStyle.label),
     (announcementsField.camelCase, .list (s.announcements.map Announcement.toValue))]

/-- The first announcement for a kind of event. -/
def announcementFor? (s : Settings) (kind : Text) : Option Announcement :=
  s.announcements.find? fun a => a.kind == kind

end Settings

end JournalHerald
