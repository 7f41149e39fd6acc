import Cliptown.Lib.Runs
import Cliptown.Lib.Search
import Cliptown.Lib.Table
import Cliptown.Lib.PosixPath
import Cliptown.Lib.FileTree
import Cliptown.Lib.Disk
import Cliptown.Lib.LexicalPath
import Cliptown.Lib.Realpath
import Cliptown.Lib.Checks
import Cliptown.Lib.Json
import Cliptown.Lib.Chain
import Cliptown.Lib.Transaction
import Cliptown.Lib.Levels
import Cliptown.Lib.Log
import Cliptown.Lib.Utf8
import Cliptown.Lib.Lines
import Cliptown.Lib.Js
import Cliptown.Lib.Sql
import Cliptown.Lib.Window
import Cliptown.Lib.Mailbox
import Cliptown.Lib.Percent
import Cliptown.Town.Layout
import Cliptown.Town.Path
import Cliptown.World.State
import Cliptown.World.Chunks
import Cliptown.World.Migrations
import Cliptown.Town.Move
import Cliptown.Town.Arrival
import Cliptown.Town.Replan
import Cliptown.Town.Coherence
import Cliptown.Town.Continuity
import Cliptown.Town.TilePaths
import Cliptown.Console.ActionLocks
import Cliptown.Console.LockExpiry
import Cliptown.Console.Presence
import Cliptown.Worker.Frames
import Cliptown.Worker.OutBus
import Cliptown.Worker.Args
import Cliptown.Worker.Workdir
import Cliptown.Worker.RoundTrip
import Cliptown.Task.Sm
import Cliptown.Task.Operators
import Cliptown.Task.SkillTables
import Cliptown.Task.Board
import Cliptown.Task.BoardInvariants
import Cliptown.Task.State
import Cliptown.Task.Skills
import Cliptown.Task.SkillSteps
import Cliptown.Task.SelfReview
import Cliptown.Task.Caller
import Cliptown.Task.SkillTools
import Cliptown.Task.Statements
import Cliptown.Task.Mcp
import Cliptown.Task.McpSpecs
import Cliptown.Task.McpBoard
import Cliptown.Task.McpStatements
import Cliptown.Task.Console
import Cliptown.Task.ConsoleBoard
import Cliptown.Task.ConsoleStatements
import Cliptown.Task.Admin
import Cliptown.Task.Scheduler
import Cliptown.Task.SchedulerBoard
import Cliptown.Task.SchedulerStatements
import Cliptown.Task.Effects
import Cliptown.Task.McpEffects
import Cliptown.Task.Startup
import Cliptown.Task.System
import Cliptown.Task.LoopEffects
import Cliptown.Task.Parties
import Cliptown.Task.Roles
import Cliptown.Task.Running
import Cliptown.Task.MoveIntent
import Cliptown.Task.Attempts
import Cliptown.Task.Assignments
import Cliptown.Task.Ready
import Cliptown.Task.Proximity
import Cliptown.Task.Notices
import Cliptown.Task.StatusChanges
import Cliptown.Task.Reviews
import Cliptown.Task.Faces
import Cliptown.Task.Recasts
import Cliptown.Task.Rounds
import Cliptown.Task.Overflows
import Cliptown.Task.NoticeRuns
import Cliptown.Task.Settings
import Cliptown.Task.Approvals
import Cliptown.Task.Rejections
import Cliptown.Task.Sessions
import Cliptown.Task.Owners
import Cliptown.Task.Blockers
import Cliptown.Task.Tenancy
import Cliptown.Task.Tenants
import Cliptown.Budget.Report
import Cliptown.Budget.Ledger
import Cliptown.Budget.Pause
import Cliptown.Budget.Thresholds
import Cliptown.Budget.Outbound
import Cliptown.Suite.Tables
import Cliptown.Suite.Requests
import Cliptown.Suite.Allocation
import Cliptown.Suite.Messages
import Cliptown.Suite.Mirror
import Cliptown.Suite.Restart
import Cliptown.Suite.Dissolved
import Cliptown.Suite.Viewer
import Cliptown.Suite.Privacy
import Cliptown.Suite.Directives
import Cliptown.Worker.Supervisor
import Cliptown.Worker.Dissolve
import Cliptown.Worker.PerTask
import Cliptown.Worker.Execenv
import Cliptown.Task.Authority
import Cliptown.Task.Kanban
import Cliptown.Task.Admins
import Cliptown.Task.Tokens
import Cliptown.Task.RevisionLog
import Cliptown.Task.SkillFrames
import Cliptown.Task.SkillReplica
import Cliptown.Task.SkillFiles
import Cliptown.Sandbox.Resolve
import Cliptown.Sandbox.Worker
import Cliptown.Sandbox.Command
import Cliptown.Sandbox.Tail
import Cliptown.Console.Reassembly
import Cliptown.Console.MessageLog
import Cliptown.Adapter.Codex
import Cliptown.Adapter.Sessions
import Cliptown.Adapter.Streams
import Cliptown.Adapter.Sse
import Cliptown.Adapter.Opencode
import Cliptown.Adapter.Serve
import Cliptown.Worker.Session
import Cliptown.Worker.WatchLoop
import Cliptown.Worker.McpCalls
import Cliptown.Gate.Catalog
import Cliptown.Gate.Credentials
import Cliptown.Gate.Dispatch
import Cliptown.Gate.McpHttp
import Cliptown.Gate.Gateway
import Cliptown.Gate.SkillsEndpoint
import Cliptown.Console.Connection
import Cliptown.Console.Link
import Cliptown.Console.Store
import Cliptown.Console.Mirror
import Cliptown.Lib.Timestamps
import Cliptown.Lib.Retention
import Cliptown.World.Backups
import Cliptown.Task.ExecenvGc
import Cliptown.Gate.WorkerLink
import Cliptown.Gate.WorkerCalls
import Cliptown.Gate.Liveness
