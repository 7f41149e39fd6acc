import Cliptown.Task.SelfReview

/-!
# What the tools check

* `HandlerResult` — a handler answers a value, or a code with a message.
* `requireStr`, `loadTask`, `callerIsManagerOfTask`, `checkAssignee` — the checks that handlers share.
* `statusReply`, `auditEntry` — what they answer and leave behind.
-/

namespace Cliptown.Task

open Cliptown.Lib Cliptown.Town Cliptown.World

/-- A code and a message. -/
abbrev McpError := String × String

/-- Source: `mcp_dispatch.rs` `HandlerResult` -/
abbrev HandlerResult := Except McpError Json

/-- The longest body that is taken, in characters. Source: `mcp_dispatch.rs` `MAX_BODY_LENGTH` -/
def maxBodyLength : ℕ := 4096

/-- Source: `mcp_dispatch.rs` `check_body_length` -/
def checkBodyLength (field body : String) : Except McpError Unit :=
  ensure (body.length ≤ maxBodyLength)
    ("body_too_long", field ++ " exceeds " ++ toString maxBodyLength ++ " chars (got " ++
      toString body.length ++ ")")

/-- Source: `mcp_dispatch.rs` `require_str` -/
def requireStr (args : Json) (key : String) : Except McpError String :=
  require (args.getStr key) ("bad_args", key ++ " required")

/-- A row by its id. Source: `mcp_dispatch.rs` `load_task` -/
def loadTask (db : Db) (taskId : String) : Except McpError TaskRow :=
  require (db.tasks.lookup taskId) ("unknown_task", "no task: " ++ taskId)

/-- The refusal of a status change. -/
def illegal {α : Type} (r : Except String α) : Except McpError α :=
  match r with
  | .ok a => .ok a
  | .error reason => .error ("illegal_transition", reason)

theorem illegal_eq_ok {α : Type} {r : Except String α} {a : α} : illegal r = .ok a ↔ r = .ok a := by
  cases r <;> simp [illegal]

/-- A task that belongs to the caller's startup. -/
def ensureSameStartup (caller : AvatarView) (startupId : String) : Except McpError Unit :=
  ensure (startupId = caller.startupId) ("cross_startup", "task belongs to another startup")

/-- The assignee of a task, by its id. -/
def assigneeOf (db : Db) (taskId : String) : Option String :=
  (db.tasks.lookup taskId).bind TaskRow.assigneeAgentId

/-- Source: `mcp_dispatch.rs` `caller_is_manager_of_task` -/
def callerIsManagerOfTask (db : Db) (caller : AvatarView) (task : TaskRow) : Bool :=
  match task.parentId with
  | some parentId => assigneeOf db parentId = some caller.agentId
  | none =>
      match task.assigneeAgentId with
      | some assignee => (db.agents.lookup assignee).bind Agent.managerId = some caller.agentId
      | none => false

/-- Source: `mcp_dispatch.rs` `caller_manages_parent` -/
def callerManagesParent (db : Db) (caller : AvatarView) (parentId : String) : Bool :=
  assigneeOf db parentId = some caller.agentId

/-- An assignee that somebody else picks exists and belongs to the caller's startup. -/
def checkAssignee (db : Db) (caller : AvatarView) (assignee : String) : Except McpError Unit := do
  let agent ← require (db.agents.lookup assignee) ("unknown_assignee", "no such agent")
  ensure (agent.startupId = caller.startupId) ("cross_startup", "assignee in different startup")

/-- The same for an assignee that need not be picked. -/
def checkRequested (db : Db) (caller : AvatarView) : Option String → Except McpError Unit
  | some assignee => checkAssignee db caller assignee
  | none => .ok ()

/-- The reply of a handler that changes a status. -/
def statusReply (taskId : String) (status : TaskStatus) : Json :=
  .obj [("task_id", .str taskId), ("new_status", .str status.toStr)]

/-- An audit entry of an agent. -/
def auditEntry (actor kind agentId : String) (rest : List (String × Json)) : Json :=
  .obj ([("actor", .str actor), ("kind", .str kind), ("agent_id", .str agentId)] ++ rest)

end Cliptown.Task
