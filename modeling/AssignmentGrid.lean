import AssignmentGrid.Assignment
import AssignmentGrid.Backend.Basic
import AssignmentGrid.Backend.Error
import AssignmentGrid.Backend.Job
import AssignmentGrid.Backend.Scope
import AssignmentGrid.Backend.Script
import AssignmentGrid.Backend.User
import AssignmentGrid.Backend.Write
import AssignmentGrid.Calendar.Date
import AssignmentGrid.CellEdit
import AssignmentGrid.Cli.Arguments
import AssignmentGrid.Cli.Failure
import AssignmentGrid.Cli.Level
import AssignmentGrid.Cli.Loading
import AssignmentGrid.Cli.Program
import AssignmentGrid.Cli.Session
import AssignmentGrid.Cli.Usage
import AssignmentGrid.Credentials
import AssignmentGrid.Decimal.Integer
import AssignmentGrid.Decimal.Layout
import AssignmentGrid.Decimal.Reading
import AssignmentGrid.Decimal.Shortest
import AssignmentGrid.Event
import AssignmentGrid.Grid.Basic
import AssignmentGrid.Grid.Edit
import AssignmentGrid.Grid.Input
import AssignmentGrid.Grid.Load
import AssignmentGrid.Grid.Report
import AssignmentGrid.Grid.Row
import AssignmentGrid.GridError
import AssignmentGrid.Hours
import AssignmentGrid.HoursWrite
import AssignmentGrid.Http.Address
import AssignmentGrid.Http.Client
import AssignmentGrid.Http.Escape
import AssignmentGrid.Http.HostName
import AssignmentGrid.Http.HostNumber
import AssignmentGrid.Http.Message
import AssignmentGrid.Http.Path
import AssignmentGrid.Http.Punycode
import AssignmentGrid.Http.Server
import AssignmentGrid.Json.Cursor
import AssignmentGrid.Json.Decode
import AssignmentGrid.Json.Number
import AssignmentGrid.Json.Offence
import AssignmentGrid.Json.Parser
import AssignmentGrid.Json.Passage
import AssignmentGrid.Json.Printer
import AssignmentGrid.Json.Record
import AssignmentGrid.Json.Token
import AssignmentGrid.Json.Value
import AssignmentGrid.Load.Acquisition
import AssignmentGrid.Load.Request
import AssignmentGrid.Main
import AssignmentGrid.Proofs.Acquisition
import AssignmentGrid.Proofs.AcquisitionCourse
import AssignmentGrid.Proofs.Action
import AssignmentGrid.Proofs.AddressHost
import AssignmentGrid.Proofs.BackendCoding
import AssignmentGrid.Proofs.BesideLoads
import AssignmentGrid.Proofs.CommandParts
import AssignmentGrid.Proofs.CommentLines
import AssignmentGrid.Proofs.CommitEnd
import AssignmentGrid.Proofs.CommitTargets
import AssignmentGrid.Proofs.Consistency
import AssignmentGrid.Proofs.ContiguousCells
import AssignmentGrid.Proofs.DataRequests
import AssignmentGrid.Proofs.Doubles
import AssignmentGrid.Proofs.ExactTotals
import AssignmentGrid.Proofs.FailedCalls
import AssignmentGrid.Proofs.FillCommand
import AssignmentGrid.Proofs.FilteredRows
import AssignmentGrid.Proofs.FiniteNumbers
import AssignmentGrid.Proofs.HeldMoves
import AssignmentGrid.Proofs.HeldRows
import AssignmentGrid.Proofs.HiddenRows
import AssignmentGrid.Proofs.HoursBounds
import AssignmentGrid.Proofs.IndependentWrites
import AssignmentGrid.Proofs.IntegerNames
import AssignmentGrid.Proofs.Interleaving
import AssignmentGrid.Proofs.JobPath
import AssignmentGrid.Proofs.JsonGrammar
import AssignmentGrid.Proofs.JsonObjects
import AssignmentGrid.Proofs.JsonPrinting
import AssignmentGrid.Proofs.JsonScanning
import AssignmentGrid.Proofs.Keeping
import AssignmentGrid.Proofs.LastLoad
import AssignmentGrid.Proofs.LateSettling
import AssignmentGrid.Proofs.LoadEnd
import AssignmentGrid.Proofs.LoadRun
import AssignmentGrid.Proofs.LoadedTotals
import AssignmentGrid.Proofs.Mirror
import AssignmentGrid.Proofs.MovedRows
import AssignmentGrid.Proofs.OpenedGrid
import AssignmentGrid.Proofs.OverlappingWrites
import AssignmentGrid.Proofs.PeopleShown
import AssignmentGrid.Proofs.QuietInput
import AssignmentGrid.Proofs.Reachable
import AssignmentGrid.Proofs.ReadHours
import AssignmentGrid.Proofs.RecountedTotals
import AssignmentGrid.Proofs.References
import AssignmentGrid.Proofs.RefreshedTotals
import AssignmentGrid.Proofs.RefusedTotals
import AssignmentGrid.Proofs.RemovedRow
import AssignmentGrid.Proofs.RosterFiling
import AssignmentGrid.Proofs.RosterIndex
import AssignmentGrid.Proofs.RosterLookup
import AssignmentGrid.Proofs.RosterRevision
import AssignmentGrid.Proofs.RosterStep
import AssignmentGrid.Proofs.RowByRow
import AssignmentGrid.Proofs.RowServer
import AssignmentGrid.Proofs.SelectedBlock
import AssignmentGrid.Proofs.ServerAgreement
import AssignmentGrid.Proofs.Session
import AssignmentGrid.Proofs.SettingsFile
import AssignmentGrid.Proofs.SheetStep
import AssignmentGrid.Proofs.SnapshotCoding
import AssignmentGrid.Proofs.SnapshotGrouping
import AssignmentGrid.Proofs.Spelling
import AssignmentGrid.Proofs.Traffic
import AssignmentGrid.Proofs.UntouchedEdit
import AssignmentGrid.Proofs.VerticalMoves
import AssignmentGrid.Proofs.WireForms
import AssignmentGrid.Proofs.WriteAttempts
import AssignmentGrid.Proofs.WriteCommands
import AssignmentGrid.Proofs.WriteEffect
import AssignmentGrid.Proofs.WriteEnd
import AssignmentGrid.Proofs.WriteOutcome
import AssignmentGrid.Proofs.WritePlan
import AssignmentGrid.Roster
import AssignmentGrid.Selection
import AssignmentGrid.Settings
import AssignmentGrid.Snapshot
import AssignmentGrid.StatusFilter
import AssignmentGrid.Text.Blank
import AssignmentGrid.Text.CharRange
import AssignmentGrid.Text.Column
import AssignmentGrid.Text.Composition
import AssignmentGrid.Text.Direction
import AssignmentGrid.Text.Folding
import AssignmentGrid.Text.Joining
import AssignmentGrid.Text.Line
import AssignmentGrid.Text.Marks
import AssignmentGrid.Text.Place
import AssignmentGrid.Text.Quoted
import AssignmentGrid.Totals
import AssignmentGrid.Week.Axis
import AssignmentGrid.Week.Key
import AssignmentGrid.Proofs.AxisColumns
import AssignmentGrid.Proofs.AlignedTable
import AssignmentGrid.Proofs.UnassignCommand
import AssignmentGrid.Proofs.WriteGrouping
