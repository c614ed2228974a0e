import JournalHerald.Main
import JournalHerald.Time.TimestampReader
import JournalHerald.Proofs.Runs
import JournalHerald.Proofs.Message.Segments
import JournalHerald.Proofs.Message.Grammar
import JournalHerald.Proofs.Message.Pass
import JournalHerald.Proofs.Message.Parts
import JournalHerald.Proofs.Message.Dependence
import JournalHerald.Proofs.Message.Questions
import JournalHerald.Proofs.Message.Faults
import JournalHerald.Proofs.Message.Traces
import JournalHerald.Proofs.Message.Memory
import JournalHerald.Proofs.Message.Calls
import JournalHerald.Proofs.Message.LetterCase
import JournalHerald.Proofs.Message.ErrorStyle
import JournalHerald.Proofs.Schema.Checks
import JournalHerald.Proofs.Schema.Rules
import JournalHerald.Proofs.Settings.Canonical
import JournalHerald.Proofs.Settings.Violations
import JournalHerald.Proofs.Settings.Files
import JournalHerald.Proofs.Settings.Loading
import JournalHerald.Proofs.Message.Groups
import JournalHerald.Proofs.Message.Missions
import JournalHerald.Proofs.Message.Dimensions
import JournalHerald.Proofs.Text.Order
import JournalHerald.Proofs.Text.Lowercase
import JournalHerald.Proofs.Text.LineEnds
import JournalHerald.Proofs.Text.Decoding
import JournalHerald.Proofs.Dispatch.Steps
import JournalHerald.Proofs.Dispatch.Order
import JournalHerald.Proofs.Dispatch.Generations
import JournalHerald.Proofs.Value.Presence
import JournalHerald.Proofs.Chronicle.Occurrences
import JournalHerald.Proofs.Chronicle.Histogram
import JournalHerald.Proofs.Chronicle.OwnCount
import JournalHerald.Proofs.Chronicle.OpenMissions
import JournalHerald.Proofs.Journal.Lines
import JournalHerald.Proofs.Journal.Scene
import JournalHerald.Proofs.Journal.Following
import JournalHerald.Proofs.Journal.Delivery
import JournalHerald.Proofs.Journal.Pace
import JournalHerald.Proofs.Journal.FedLines
import JournalHerald.Proofs.Journal.Growth
import JournalHerald.Proofs.Journal.CutCharacters
import JournalHerald.Proofs.Journal.BrokenLines
import JournalHerald.Proofs.Number.Whole
import JournalHerald.Proofs.Number.Quotient
import JournalHerald.Proofs.Time.Universal
import JournalHerald.Proofs.Chronicle.GameStarts
import JournalHerald.Proofs.Chronicle.KnownWorld
import JournalHerald.Proofs.Chronicle.Independence
import JournalHerald.Proofs.Chronicle.FailedMissions
import JournalHerald.Proofs.Chronicle.Offsets
import JournalHerald.Proofs.Chronicle.Resync
import JournalHerald.Proofs.Chronicle.BodyTypes
import JournalHerald.Proofs.Dispatch.Acknowledgements
import JournalHerald.Proofs.Display.Commands
import JournalHerald.Proofs.Json.Strings
import JournalHerald.Proofs.Json.Values
import JournalHerald.Proofs.Json.Limits
import JournalHerald.Proofs.Text.Numerals
import JournalHerald.Proofs.Value.Fields
import JournalHerald.Proofs.Display.Lines
import JournalHerald.Proofs.Journal.Ids
import JournalHerald.Proofs.Herald.Announcements
import JournalHerald.Proofs.Herald.Alarms
import JournalHerald.Proofs.Herald.Replay
