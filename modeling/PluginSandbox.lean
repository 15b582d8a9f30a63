import PluginSandbox.Lib.Runs
import PluginSandbox.Lib.Table
import PluginSandbox.Lib.Bytes
import PluginSandbox.Lib.Words
import PluginSandbox.Lib.Ledger
import PluginSandbox.Lib.Potential
import PluginSandbox.Lib.History
import PluginSandbox.Lib.FileTree
import PluginSandbox.Lib.Slots
import PluginSandbox.Db.Repository
import PluginSandbox.Db.Sqlite
import PluginSandbox.Db.Postgres
import PluginSandbox.Db.Mongo
import PluginSandbox.Db.Stored
import PluginSandbox.Db.Contract
import PluginSandbox.Db.Agreement
import PluginSandbox.Db.Constraints
import PluginSandbox.Sandbox.Guest
import PluginSandbox.Sandbox.Run
import PluginSandbox.Sandbox.Engine
import PluginSandbox.Sandbox.ModuleCache
import PluginSandbox.Sandbox.Robustness
import PluginSandbox.Sandbox.Sdk
import PluginSandbox.Sandbox.Marshalling
import PluginSandbox.Compiler.Worker
import PluginSandbox.Server.Api
import PluginSandbox.Server.Step
import PluginSandbox.Server.Transition
import PluginSandbox.Server.Jobs
import PluginSandbox.Server.Convergence
import PluginSandbox.Server.Invariants
import PluginSandbox.Server.Versions
import PluginSandbox.Server.Orphans
import PluginSandbox.Server.Noninterference
import PluginSandbox.Server.Undisturbed
import PluginSandbox.Db.Atomicity
import PluginSandbox.Db.Streams
import PluginSandbox.Sandbox.Classification
import PluginSandbox.Sandbox.Delivery
import PluginSandbox.Sandbox.MemoryUsed
import PluginSandbox.Sandbox.Traced
import PluginSandbox.Sandbox.Boundary
import PluginSandbox.Sandbox.TempFiles
import PluginSandbox.Sandbox.Budget
import PluginSandbox.Server.Payload
import PluginSandbox.Server.Progress
import PluginSandbox.Server.Acknowledged
import PluginSandbox.Server.Backends
import PluginSandbox.Dashboard.App
import PluginSandbox.Dashboard.View
import PluginSandbox.Dashboard.Editor
import PluginSandbox.Dashboard.Results
import PluginSandbox.Dashboard.Polling
import PluginSandbox.Server.Handlers
import PluginSandbox.Server.Termination
import PluginSandbox.Server.Origins
import PluginSandbox.Server.Answers
import PluginSandbox.Server.Executions
import PluginSandbox.Server.Catalog
import PluginSandbox.Server.Refinement
import PluginSandbox.Server.ForeignKeys
import PluginSandbox.Server.SameRuns
import PluginSandbox.Server.Budgets
import PluginSandbox.Server.Abandoned
import PluginSandbox.Db.Reads
import PluginSandbox.Dashboard.Held
import PluginSandbox.Dashboard.Buttons
import PluginSandbox.Compiler.Project
import PluginSandbox.Compiler.Hermetic
import PluginSandbox.Compiler.Recovery
import PluginSandbox.Session.Step
import PluginSandbox.Session.Shown
import PluginSandbox.Session.CatchesUp
