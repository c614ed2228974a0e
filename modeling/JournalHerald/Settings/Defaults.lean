import JournalHerald.Settings

/-!
# Default settings

The settings that a new user starts with. They are written to a file for the user to change, so they are kept
as the object that the file holds.
-/

namespace JournalHerald.Settings

/-- The kind of the announcement that is made every hour. No journal entry has this kind. -/
def hourlyKind : Text := "GamePlayed"

/-- An announcement in the default settings. -/
def defaultAnnouncement (kind format : Text) (duration : Option Int) : Value :=
  let optional : Fields := match duration with
    | some d => [("displayDuration", .int d)]
    | none => []
  .object (("type", .text kind) :: ("format", .text format) :: optional)

/-- The default announcements. -/
def defaultAnnouncements : List Value :=
  [defaultAnnouncement hourlyKind
    ("Sessions played: \x7bSessionsPlayed\x7d\nTime played: \x7bTotalTimePlayed\x7d\n" ++
      "This session: \x7bCurrentSessionPlayed\x7d") none,
   defaultAnnouncement "FSDJump"
    ("Welcome to \x7bstarSystem:Name\x7d, Cmdr \x7bcommander:Name\x7d!\n" ++
      "This is your \x7bordinalCount\x7d visit.\nMissions here: \x7bmissionList\x7d") none,
   defaultAnnouncement "Docked"
    ("Docked at \x7bstationName:Name\x7d in \x7bstarSystem:Name\x7d for the \x7bordinalCount\x7d time.\n" ++
      "Missions for this station: \x7bmissionList\x7d") none,
   defaultAnnouncement "Bounty"
    ("Bounty of \x7btotalReward:Friendly\x7d credits on \x7btarget\x7d.\n" ++
      "That makes \x7bcount\x7d bounties, Cmdr \x7bcommander:Name\x7d.") none,
   defaultAnnouncement "MissionAccepted"
    ("Mission accepted: \x7blocalisedName:Name\x7d\n" ++
      "Destination: \x7bdestinationSystem\x7d \x7bdestinationStation\x7d\n" ++
      "Open missions:\n\x7bmissionList\x7d") (some 15),
   defaultAnnouncement "MissionCompleted"
    ("Mission completed: \x7blocalisedName:Name\x7d\nMissions completed so far: \x7bcount\x7d") none,
   defaultAnnouncement "Touchdown"
    "Touchdown on \x7bbody:Name\x7d, your \x7bordinalCount\x7d landing here." none,
   defaultAnnouncement "Died"
    "Cmdr \x7bcommander:Name\x7d died for the \x7bordinalCount:Warning\x7d time." (some 5)]

/-- The default settings as an object. -/
def defaults : Value :=
  .object
    [(feedbackField.camelCase, .bool false),
     (filterField.camelCase, .bool true),
     (durationField.camelCase, .int 10),
     (textStyleField.camelCase, .text Style.default.label),
     (tokenStyleField.camelCase, .text Style.information.label),
     (announcementsField.camelCase, .list defaultAnnouncements)]

end JournalHerald.Settings
