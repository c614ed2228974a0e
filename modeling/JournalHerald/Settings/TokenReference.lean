import JournalHerald.Message.Composer
import JournalHerald.Settings.Defaults

/-!
# The token reference

A text for the user that lists what a message format can name: the special placeholders, the fields of the
world state, the counters, the styles and the kinds of events that are announced.
-/

namespace JournalHerald.Settings

/-- The name of the file with the token reference. -/
def referenceName : Text := "TokenReference.txt"

/-- A line of so many dashes. -/
def rule (width : Nat) : Text := List.replicate width '-'

/-- The line above and below the headings but the first. -/
def referenceRule : Text := rule 32

/-- A heading with an empty line above it. -/
def referenceHeading (title : Text) : List Text :=
  [[], referenceRule, title, referenceRule]

/-- The line for a style. -/
def styleLine (s : Style) : Text :=
  s.label ++ " " ++ s.color

/-- The lines that do not depend on the settings. -/
def referenceLines : List Text :=
  [rule 31,
   "Tokens available for all events",
   rule 31,
   "Count        (example output: 1, 2, 3, etc.)",
   "OrdinalCount (example output: 1st, 2nd, 3rd, etc.)",
   "MissionList  (lists all missions, filtered on star system and/or station if they are specified)"] ++
  World.fieldNames ++
  Message.CounterName.all.map Message.CounterName.label ++
  referenceHeading "Special events" ++
  [hourlyKind ++ " - Triggers on the hour every hour"] ++
  referenceHeading "Color types (\x7btoken:ColorType\x7d)" ++
  ((Style.all.filter (· ≠ .error)).map styleLine) ++
  [[], referenceRule,
   "Any field of the triggering journal event can be used as a token, " ++
     "e.g. \x7bStarSystem\x7d or \x7bTotalReward\x7d."]

/-- The lines for the announcements in the settings. -/
def announcementLines (s : Settings) : List Text :=
  referenceHeading "Configured events" ++ s.announcements.map Announcement.kind

/-- The token reference, with the announcements of the settings if there are settings. -/
def tokenReference (settings : Option Settings) : Text :=
  Text.joinWith "\n"
    (referenceLines ++ (settings.map announcementLines).getD []) ++ "\n"

end JournalHerald.Settings
