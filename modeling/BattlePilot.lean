import BattlePilot.Time.Span
import BattlePilot.Number.Literal
import BattlePilot.Text.Lowercase
import BattlePilot.Text.Blank
import BattlePilot.Text.Lines
import BattlePilot.Script.CommandText
import BattlePilot.Report.Json
import BattlePilot.Main
import BattlePilot.Battle.Replay
import BattlePilot.Script.WellFormed
import BattlePilot.Screen.ScenarioFile
import BattlePilot.Screen.Operation
import BattlePilot.Screen.ScreenJson
import BattlePilot.Settings.Rules
import BattlePilot.Settings.Json
import BattlePilot.Yaml.Reader
import BattlePilot.Yaml.Decode
import BattlePilot.Log.Retention
import BattlePilot.Battle.StateJson
import BattlePilot.Script.Parser
import BattlePilot.Script.CommandJson
import BattlePilot.Text.Directory
import BattlePilot.Proofs.Play.FallenCourse
import BattlePilot.Proofs.Play.TurnCourses
import BattlePilot.Proofs.Play.CommandCourses
import BattlePilot.Proofs.Play.TakeoverCourses
import BattlePilot.Proofs.Fight.Over
import BattlePilot.Proofs.Fight.Replayed
import BattlePilot.Proofs.Screen.Received
import BattlePilot.Proofs.Fight.Leaving
import BattlePilot.Proofs.Fight.Justified
import BattlePilot.Proofs.Fight.InTurn
import BattlePilot.Proofs.Fight.LooksForEnd
import BattlePilot.Proofs.Fight.Attacks
import BattlePilot.Proofs.Fight.Markers
import BattlePilot.Proofs.Fight.Blocks
import BattlePilot.Proofs.Fight.RaidStops
import BattlePilot.Proofs.Fight.Conduct
import BattlePilot.Proofs.Fight.ConductedTurns
import BattlePilot.Proofs.Fight.ConductedCommands
import BattlePilot.Proofs.Fight.LeftForGood
import BattlePilot.Proofs.Fight.Submitted
import BattlePilot.Proofs.Fight.AutomationKept
import BattlePilot.Proofs.Fight.NotBegun
import BattlePilot.Proofs.Script.RoundTrip
import BattlePilot.Proofs.Script.LongWaits
import BattlePilot.Proofs.Script.LineLocal
import BattlePilot.Proofs.Script.Restyled
import BattlePilot.Proofs.Fight.OnTime
import BattlePilot.Proofs.Play.Hits
import BattlePilot.Proofs.Play.HittingCommands
import BattlePilot.Proofs.Fight.SlotsFound
import BattlePilot.Proofs.Play.KeepingCourses
import BattlePilot.Proofs.Play.AutoTurn
import BattlePilot.Proofs.Play.EnablingAuto
import BattlePilot.Proofs.Play.StallRecovery
import BattlePilot.Proofs.Play.ChainAccounts
import BattlePilot.Proofs.Play.NoTrace
import BattlePilot.Proofs.Play.BackupScrolls
import BattlePilot.Proofs.Time.Words
import BattlePilot.Proofs.Log.Stamps
import BattlePilot.Proofs.Screen.ClickRules
import BattlePilot.Proofs.Screen.SplitSleep
import BattlePilot.Proofs.Screen.Vanishing
import BattlePilot.Proofs.Script.PrintedWaits
import BattlePilot.Proofs.Play.Patience
import BattlePilot.Proofs.Script.Segments
