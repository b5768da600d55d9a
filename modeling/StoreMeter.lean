import StoreMeter.Binary64.Basic
import StoreMeter.Binary64.Decimal
import StoreMeter.Charts
import StoreMeter.Cli.Options
import StoreMeter.Cli.Program
import StoreMeter.Conductor
import StoreMeter.Fault
import StoreMeter.LateWorkers
import StoreMeter.Ledger
import StoreMeter.Live.Storage
import StoreMeter.Live.Threads
import StoreMeter.Log.Entry
import StoreMeter.Log.Line
import StoreMeter.Main
import StoreMeter.Outcome
import StoreMeter.Phase
import StoreMeter.Prog
import StoreMeter.Proofs.Aggregation
import StoreMeter.Proofs.Binary64.Canonical
import StoreMeter.Proofs.Binary64.Nearest
import StoreMeter.Proofs.Binary64.Order
import StoreMeter.Proofs.Binary64.Range
import StoreMeter.Proofs.Binary64.Shares
import StoreMeter.Proofs.Binary64.Values
import StoreMeter.Proofs.Charts
import StoreMeter.Proofs.Checks
import StoreMeter.Proofs.Cleanup
import StoreMeter.Proofs.Cli.Deeds
import StoreMeter.Proofs.Cli.ExitStatus
import StoreMeter.Proofs.Cloud.Clients
import StoreMeter.Proofs.Cloud.Directories
import StoreMeter.Proofs.Cloud.Failures
import StoreMeter.Proofs.Cloud.Fleet
import StoreMeter.Proofs.Cloud.Holdings
import StoreMeter.Proofs.Cloud.Keeper
import StoreMeter.Proofs.Cloud.Looking
import StoreMeter.Proofs.Cloud.Refinement
import StoreMeter.Proofs.Cloud.Streams
import StoreMeter.Proofs.Cloud.Targets
import StoreMeter.Proofs.Concert.Accounting
import StoreMeter.Proofs.Concert.Attendance
import StoreMeter.Proofs.Concert.Backends
import StoreMeter.Proofs.Concert.Borders
import StoreMeter.Proofs.Concert.Calm
import StoreMeter.Proofs.Concert.Chronicle
import StoreMeter.Proofs.Concert.Conduct
import StoreMeter.Proofs.Concert.Contracts
import StoreMeter.Proofs.Concert.Custody
import StoreMeter.Proofs.Concert.Deletions
import StoreMeter.Proofs.Concert.Diaries
import StoreMeter.Proofs.Concert.Endurance
import StoreMeter.Proofs.Concert.Exact
import StoreMeter.Proofs.Concert.FaultFree
import StoreMeter.Proofs.Concert.Isolation
import StoreMeter.Proofs.Concert.Itinerary
import StoreMeter.Proofs.Concert.Latecomers
import StoreMeter.Proofs.Concert.Layout
import StoreMeter.Proofs.Concert.Leftovers
import StoreMeter.Proofs.Concert.Machine
import StoreMeter.Proofs.Concert.Noninterference
import StoreMeter.Proofs.Concert.Orderly
import StoreMeter.Proofs.Concert.Outcomes
import StoreMeter.Proofs.Concert.Outline
import StoreMeter.Proofs.Concert.Parts
import StoreMeter.Proofs.Concert.Refusals
import StoreMeter.Proofs.Concert.Remains
import StoreMeter.Proofs.Concert.Runs
import StoreMeter.Proofs.Concert.Scores
import StoreMeter.Proofs.Concert.Scripts
import StoreMeter.Proofs.Concert.Solos
import StoreMeter.Proofs.Concert.Stages
import StoreMeter.Proofs.Concert.Timeouts
import StoreMeter.Proofs.Concert.Walk
import StoreMeter.Proofs.Contents
import StoreMeter.Proofs.Couplings
import StoreMeter.Proofs.Errands
import StoreMeter.Proofs.Minutes
import StoreMeter.Proofs.Objects
import StoreMeter.Proofs.Preparation
import StoreMeter.Proofs.Proceedings
import StoreMeter.Proofs.Reading
import StoreMeter.Proofs.Sessions
import StoreMeter.Proofs.Setup
import StoreMeter.Proofs.Shelves
import StoreMeter.Proofs.Sizes
import StoreMeter.Proofs.Sizes.Exact
import StoreMeter.Proofs.Sizes.Grammar
import StoreMeter.Proofs.Sizes.Shown
import StoreMeter.Proofs.Speed.Exact
import StoreMeter.Proofs.Speed.Rounded
import StoreMeter.Proofs.Speed.Sum
import StoreMeter.Proofs.Surroundings
import StoreMeter.Proofs.Tallies
import StoreMeter.Proofs.Upload.Account
import StoreMeter.Proofs.Upload.Course
import StoreMeter.Proofs.Upload.History
import StoreMeter.Proofs.Upload.Layout
import StoreMeter.Proofs.Upload.Lifecycle
import StoreMeter.Proofs.Upload.Steps
import StoreMeter.Proofs.Upload.WholeObjects
import StoreMeter.Proofs.Writing
import StoreMeter.Rehearsal.Backend
import StoreMeter.Rehearsal.Client
import StoreMeter.Rehearsal.CommandLine
import StoreMeter.Rehearsal.Journal
import StoreMeter.Rehearsal.Steps
import StoreMeter.Rehearsal.World
import StoreMeter.Report
import StoreMeter.Run
import StoreMeter.Scalar
import StoreMeter.Settings
import StoreMeter.Shelf
import StoreMeter.Size
import StoreMeter.Sorting
import StoreMeter.Sorting.Lemmas
import StoreMeter.Speed.Profile
import StoreMeter.Speed.Sum
import StoreMeter.Storage.Local
import StoreMeter.Storage.Local.Path
import StoreMeter.Storage.Local.Tree
import StoreMeter.Storage.Memory
import StoreMeter.Storage.Operation
import StoreMeter.Storage.S3.Objects
import StoreMeter.Storage.S3.Request
import StoreMeter.Storage.S3.Upload
import StoreMeter.Summary
import StoreMeter.Tally
import StoreMeter.Text.Blank
import StoreMeter.Text.Json
import StoreMeter.Text.Numeral
import StoreMeter.Text.Printable
import StoreMeter.Text.Quoted
import StoreMeter.Value
import StoreMeter.Worker
