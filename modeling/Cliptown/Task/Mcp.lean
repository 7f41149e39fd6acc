import Cliptown.Task.SkillTools

/-!
# The tools of the agents

The handlers of `mcp_dispatch.rs` that read or write tasks, and the dispatch over the tool's name. A
handler answers a value or a code with a message; the state after a refusal is the one before, except
that `task_done` first records the self-review that refuses it.

* `handleTaskDone`, `handleTaskFailed` — the reports of the assignee.
* `handleSubtaskCreate`, `handleAcceptProposal`, `handleRejectProposal` — subtasks.
* `handleTaskAccept`, `handleTaskRequestChanges` — reviews.
* `handleTaskSetPreference`, `handleTaskSetBlocking`, `handleTaskSteal` — settings and work-stealing.
* `callTool`, `dispatchMcp` — one call.
-/

namespace Cliptown.Task

open Cliptown.Lib Cliptown.Town Cliptown.World Cliptown.Worker

section Handlers

variable (cfg : Config) (env : Env) (s : LoopState) (caller : AvatarView) (args : Json)

/-! ### Movement and speech -/

/-- A cast to `i32`. -/
def toI32 (n : ℤ) : ℤ := (n + 0x80000000) % 0x100000000 - 0x80000000

/-- A coordinate of `target_tile`. -/
def tileCoord (t : Json) (axis : String) : Except McpError ℤ := do
  let n ← require ((t.get axis).bind Json.asI64) ("bad_args", "target_tile." ++ axis ++ " missing")
  return toI32 n

/-- Where a `move_intent` wants to go. -/
def moveTarget (L : TownLayout) (caller : AvatarView) (args : Json) :
    Except McpError (String × Tile) :=
  match args.getStr "target_room", args.get "target_tile" with
  | some room, some t => do
      let x ← tileCoord t "x"
      let y ← tileCoord t "y"
      return (room, (x, y))
  | some room, none => do
      let r ← require (L.room room) ("bad_args", "unknown room: " ++ room)
      return (room, (r.bounds.x + r.bounds.w / 2, r.bounds.y + r.bounds.h / 2))
  | none, some t => do
      let x ← tileCoord t "x"
      let y ← tileCoord t "y"
      return (caller.roomId, (x, y))
  | none, none => .error ("bad_args", "must provide target_room or target_tile")

/-- Source: `mcp_dispatch.rs` `handle_move_intent` -/
def handleMoveIntent : HandlerResult × LoopState :=
  match moveTarget cfg.layout caller args with
  | .error e => (.error e, s)
  | .ok (room, target) =>
      let (result, world, paths) := startMove cfg.astar s.world s.paths cfg.layout
        (graphFromLayout cfg.layout) caller.agentId room target
      let s := { s with world, paths }
      match result with
      | .ok => (.ok (.obj [("target_room", .str room),
          ("target_tile", .obj [("x", .int target.1), ("y", .int target.2)]),
          ("queued_steps", .int ((paths.lookup caller.agentId).elim 0 fun q => q.length))]), s)
      | .noPath => (.error ("no_path", "no path to target"), s)
      | .permissionDenied =>
          (.error ("no_permission", "cannot enter target room"),
            s.emitSystemEvent env (some caller.startupId) "permission_violation"
              (.obj [("agent_id", .str caller.agentId), ("kind", .str "move_intent_denied"),
                ("target_room", .str room)]) "alert")
      | .noSuchAgent => (.error ("unknown_agent", "agent not found"), s)

/-- Source: `mcp_dispatch.rs` `is_public_room` -/
def isPublicRoom (roomId : String) : Bool :=
  roomId = "lobby" ∨ roomId = "cafe" ∨ roomId = "library"

/-- Whether an avatar overhears what the caller says. -/
def overhears (caller : AvatarView) (peerId : String) (peer : AvatarView) : Bool :=
  peerId ≠ caller.agentId ∧ peer.roomId = caller.roomId ∧
    (peer.startupId = caller.startupId ∨ isPublicRoom caller.roomId)

/-- Who overhears what the caller says, in the order of the hash map. -/
def listeners : List String :=
  (env.order s.world.avatars.keys).filter fun peerId =>
    (s.world.avatars.lookup peerId).any (overhears caller peerId)

/-- The permission of a directive: the caller manages the recipient. -/
def checkDirective (db : Db) (caller : AvatarView) (recipient : String) : Except McpError Unit := do
  let r ← require (db.agents.lookup recipient)
    ("unknown_recipient", "no such agent: " ++ recipient)
  ensure (r.startupId = caller.startupId) ("cross_startup", "directive cannot cross startups")
  ensure (r.managerId = some caller.agentId)
    ("no_permission", "directive requires manager-of-recipient")

/-- A directive names its recipient. -/
def checkSpeech (db : Db) (caller : AvatarView) (kind : String) (toAgentId : Option String) :
    Except McpError Unit :=
  if kind = "directive" then do
    let recipient ← require toAgentId ("bad_args", "directive requires to_agent_id")
    checkDirective db caller recipient
  else .ok ()

/-- Tell those who overhear a chat, or the recipient of a directive. -/
def pushSpeech (kind : String) (toAgentId : Option String) (body : String) : LoopState :=
  if kind = "chat" then
    (listeners env s caller).foldl (fun s peerId => s.push env peerId
      (.obj [("type", .str "chat_received"), ("v", .int 1), ("from_agent_id", .str caller.agentId),
        ("body", .str body), ("room_id", .str caller.roomId)])) s
  else
    match toAgentId with
    | some recipient => s.push env recipient (.obj [("type", .str "directive"), ("v", .int 1),
        ("from_agent_id", .str caller.agentId), ("body", .str body)])
    | none => s

/-- Source: `mcp_dispatch.rs` `handle_speak` -/
def handleSpeak : Except McpError (Json × LoopState) := do
  let body ← requireStr args "body"
  checkBodyLength "body" body
  let kind := (args.getStr "kind").getD "chat"
  let toAgentId := args.getStr "to_agent_id"
  ensure (kind = "chat" ∨ kind = "directive") ("bad_args", "unknown speak kind: " ++ kind)
  checkSpeech s.db caller kind toAgentId
  let db ← require (s.db.insertMessage env.newId
    { startupId := caller.startupId, roomId := if kind = "chat" then some caller.roomId else none
      authorId := caller.agentId, body, kind, ts := env.now }) ("sql", cfg.sqlText)
  let s := { s with db }
  return (.obj [("message_id", .str env.newId)], pushSpeech env s caller kind toAgentId body)

/-! ### Reports of the assignee -/

/-- What `task_done` checks before anything is written: the task, the caller and the path. -/
def taskDoneChecks : Except McpError (String × String × TaskRow) := do
  let taskId ← requireStr args "task_id"
  let artifactPath ← requireStr args "artifact_path"
  let task ← loadTask s.db taskId
  ensureSameStartup caller task.startupId
  ensure (task.assigneeAgentId = some caller.agentId) ("no_permission", "task_done requires assignee")
  let canonical := canonicalArtifactPath caller.startupId taskId
  ensure (artifactPath = canonical)
    ("bad_artifact_path", "expected " ++ canonical ++ ", got " ++ artifactPath)
  match env.files.resolve ("workspaces/" ++ caller.startupId) ("artifacts/" ++ taskId ++ ".md") with
  | .ok _ => return (taskId, artifactPath, task)
  | .error e => .error ("sandbox_violation", e)

/-- Whether the call asks for the self-review: by default it does. -/
def autoCheck : Bool :=
  ((args.get "auto_check").bind Json.asBool).getD true

/-- The self-review that guards `task_done`. -/
def taskDoneReview (taskId artifactPath : String) : SelfReviewOutcome :=
  if autoCheck args then selfReviewRun env.files caller.startupId taskId artifactPath else .passed

/-- Tell the assignee of the parent that a subtask is done. -/
def pushSubtaskDone (parentId : Option String) (taskId artifactPath : String) (reviewRound : ℕ) :
    LoopState :=
  match parentId with
  | some parentId =>
      match assigneeOf s.db parentId with
      | some manager => s.push env manager (.obj [("type", .str "subtask_done"), ("v", .int 1),
          ("parent_id", .str parentId), ("child_id", .str taskId),
          ("artifact_path", .str artifactPath), ("review_round", .int reviewRound)])
      | none => s
  | none => s

/-- The trace of the self-review, if the call asked for one. -/
def recordReview (taskId : String) (outcome : SelfReviewOutcome) : LoopState :=
  if autoCheck args then selfReviewRecord env s taskId caller.agentId outcome else s

/-- What `task_done` writes when nothing speaks against it. -/
def submitTask (taskId artifactPath : String) (task : TaskRow) (newStatus : TaskStatus) :
    LoopState :=
  let s := s.updateTask taskId (fun t => { t with
    status := newStatus, artifactPath := some artifactPath, updatedAt := env.now }) fun _ => rfl
  let s := s.appendAudit env taskId (auditEntry "agent" "task_done" caller.agentId [])
  let s := s.setAvatarStatus caller.agentId .idle
  pushSubtaskDone env s task.parentId taskId artifactPath task.reviewRound

/-- Source: `mcp_dispatch.rs` `handle_task_done` -/
def handleTaskDone : HandlerResult × LoopState :=
  match taskDoneChecks env s caller args with
  | .error e => (.error e, s)
  | .ok (taskId, artifactPath, task) =>
      let outcome := taskDoneReview env caller args taskId artifactPath
      let s := recordReview env s caller args taskId outcome
      if outcome.ok then
        match illegal (next task.status .taskDoneMcp) with
        | .error e => (.error e, s)
        | .ok newStatus => (.ok (statusReply taskId newStatus),
            submitTask env s caller taskId artifactPath task newStatus)
      else (.error ("must_fix", cfg.jsonText (.arr (outcome.mustFix.map CheckResult.toJson))), s)

/-- Source: `mcp_dispatch.rs` `handle_task_failed` -/
def handleTaskFailed : Except McpError (Json × LoopState) := do
  let taskId ← requireStr args "task_id"
  let reason := (args.getStr "reason").getD ""
  let task ← loadTask s.db taskId
  ensureSameStartup caller task.startupId
  ensure (task.assigneeAgentId = some caller.agentId)
    ("no_permission", "task_failed requires assignee")
  let newStatus ← illegal (next task.status .fail)
  let s := s.setStatus env taskId newStatus
  let s := s.appendAudit env taskId
    (auditEntry "agent" "task_failed" caller.agentId [("reason", .str reason)])
  return (statusReply taskId newStatus, s.setAvatarStatus caller.agentId .idle)

/-! ### Subtasks -/

/-- A row of a task that has just been created: the other columns have their defaults. -/
def newTask (startupId : String) (parentId : Option String) (title description : String)
    (status : TaskStatus) (assignee requiredRoom : Option String) (now : ℤ) : TaskRow where
  startupId := startupId
  parentId := parentId
  title := title
  description := description
  assigneeAgentId := assignee
  requiredRoom := requiredRoom
  status := status
  reviewRound := 0
  auditTrail := []
  epistemicLog := []
  artifactPath := none
  preferredBackend := none
  preferredModel := none
  costEstimateUsd := none
  blockedOn := none
  deadlineAt := none
  deadlineNotifiedAt := none
  selfReviewedAt := none
  createdAt := now
  updatedAt := now

/-- Source: `mcp_dispatch.rs` `handle_subtask_create` -/
def handleSubtaskCreate : Except McpError (Json × LoopState) := do
  let parentId ← requireStr args "parent_id"
  let title := (args.getStr "title").getD ""
  let description := (args.getStr "description").getD ""
  let requiredRoom := args.getStr "required_room"
  let requestedAssignee := args.getStr "assignee_agent_id"
  let parent ← require (s.db.tasks.lookup parentId) ("unknown_task", "no parent: " ++ parentId)
  ensure (parent.startupId = caller.startupId)
    ("cross_startup", "parent task belongs to another startup")
  let isManager := decide (parent.assigneeAgentId = some caller.agentId)
  let actor := if isManager then Actor.manager else .nonManager
  let newStatus ← illegal (next .proposed (.subtaskCreate actor))
  -- who does not manage the parent cannot pick the assignee
  let assignee := if isManager then requestedAssignee else none
  checkRequested s.db caller assignee
  let db ← require (s.db.insertTask env.newId
    (newTask caller.startupId (some parentId) title description newStatus assignee requiredRoom
      env.now)) ("sql", cfg.sqlText)
  let s := { s with db }
  let s :=
    if isManager then s
    else
      match parent.assigneeAgentId with
      | some manager => s.push env manager (.obj [("type", .str "subtask_proposed"), ("v", .int 1),
          ("parent_id", .str parentId), ("proposed_task_id", .str env.newId),
          ("proposer_agent_id", .str caller.agentId), ("title", .str title),
          ("description", .str description)])
      | none => s
  return (.obj [("task_id", .str env.newId), ("status", .str newStatus.toStr)], s)

/-- Source: `mcp_dispatch.rs` `handle_accept_proposal` -/
def handleAcceptProposal : Except McpError (Json × LoopState) := do
  let taskId ← requireStr args "task_id"
  let assignee ← requireStr args "assignee_agent_id"
  let requiredRoom := args.getStr "required_room"
  let task ← loadTask s.db taskId
  ensureSameStartup caller task.startupId
  let parentId ← require task.parentId ("bad_args", "accept_proposal requires a subtask")
  ensure (callerManagesParent s.db caller parentId)
    ("no_permission", "accept_proposal is manager-only")
  checkAssignee s.db caller assignee
  let newStatus ← illegal (next task.status (.acceptProposal .manager))
  let db ← require (s.db.relinkTask taskId fun t => { t with
    status := newStatus, assigneeAgentId := some assignee, requiredRoom, updatedAt := env.now })
    ("sql", cfg.sqlText)
  let s := { s with db }
  return (statusReply taskId newStatus,
    s.appendAudit env taskId (auditEntry "manager" "accept_proposal" caller.agentId []))

/-- Source: `mcp_dispatch.rs` `handle_reject_proposal` -/
def handleRejectProposal : Except McpError (Json × LoopState) := do
  let taskId ← requireStr args "task_id"
  let reason := (args.getStr "reason").getD ""
  let task ← loadTask s.db taskId
  ensureSameStartup caller task.startupId
  let parentId ← require task.parentId ("bad_args", "reject_proposal requires a subtask")
  ensure (callerManagesParent s.db caller parentId)
    ("no_permission", "reject_proposal is manager-only")
  let newStatus ← illegal (next task.status (.rejectProposal .manager))
  let s := s.setStatus env taskId newStatus
  return (statusReply taskId newStatus, s.appendAudit env taskId
    (auditEntry "manager" "reject_proposal" caller.agentId [("reason", .str reason)]))

/-! ### Reviews -/

/-- Source: `mcp_dispatch.rs` `handle_task_accept` -/
def handleTaskAccept : Except McpError (Json × LoopState) := do
  let taskId ← requireStr args "task_id"
  let task ← loadTask s.db taskId
  ensureSameStartup caller task.startupId
  ensure (callerIsManagerOfTask s.db caller task) ("no_permission", "task_accept is manager-only")
  let newStatus ← illegal (next task.status .taskAccept)
  let s := s.setStatus env taskId newStatus
  let s := s.appendAudit env taskId (auditEntry "manager" "task_accept" caller.agentId [])
  return (statusReply taskId newStatus,
    pushSubtaskDone env s task.parentId taskId (task.artifactPath.getD "") task.reviewRound)

/-- A peer reviewer who is not the assignee. -/
def isPeerReview (db : Db) (caller : AvatarView) (task : TaskRow) : Bool :=
  task.assigneeAgentId ≠ some caller.agentId ∧
    (db.agents.lookup caller.agentId).any Agent.isPeerReviewer

/-- The branch of `task_request_changes` after the last round. -/
def escalateTask (taskId feedback : String) (task : TaskRow) :
    Except McpError (Json × LoopState) := do
  let newStatus ← illegal (next task.status .escalate)
  let s := s.setStatus env taskId newStatus
  let s := s.appendAudit env taskId (.obj [("actor", .str "system"), ("kind", .str "escalated"),
    ("reason", .str "max_review_rounds_exceeded"), ("at_round", .int task.reviewRound),
    ("triggered_by", .str caller.agentId)])
  let s := s.emitSystemEvent env (some caller.startupId) "task_escalated"
    (.obj [("task_id", .str taskId), ("rounds", .int task.reviewRound),
      ("feedback", .str feedback)]) "alert"
  return (.obj [("task_id", .str taskId), ("new_status", .str newStatus.toStr),
    ("status", .str newStatus.toStr), ("review_round", .int task.reviewRound),
    ("reason", .str "max_review_rounds_exceeded")], s)

/-- The update of the row when a review starts another round. -/
def writeRound (taskId : String) (newStatus : TaskStatus) : LoopState :=
  s.updateTask taskId (fun t => { t with
    status := newStatus, reviewRound := t.reviewRound + 1, selfReviewedAt := none
    updatedAt := env.now }) fun _ => rfl

/-- The branch of `task_request_changes` that starts another round: the row and the message are
written in one transaction. -/
def nextRound (taskId feedback actorKind assignee : String) (task : TaskRow) :
    Except McpError (Json × LoopState) := do
  let newStatus ← illegal (next task.status .requestChanges)
  let s := writeRound env s taskId newStatus
  let db ← require (s.db.insertMessage env.newId
    { startupId := caller.startupId, roomId := none, authorId := caller.agentId, body := feedback
      kind := "directive", ts := env.now }) ("sql", cfg.sqlText)
  let s := { s with db }
  let s := s.appendAudit env taskId (auditEntry actorKind "task_request_changes" caller.agentId [])
  return (statusReply taskId newStatus, s.push env assignee (.obj [("type", .str "directive"),
    ("v", .int 1), ("from_agent_id", .str caller.agentId), ("body", .str feedback),
    ("in_response_to_task", .str taskId)]))

/-- Source: `mcp_dispatch.rs` `handle_task_request_changes` -/
def handleTaskRequestChanges : Except McpError (Json × LoopState) := do
  let taskId ← requireStr args "task_id"
  let feedback ← requireStr args "feedback"
  checkBodyLength "feedback" feedback
  let task ← loadTask s.db taskId
  ensureSameStartup caller task.startupId
  let isManager := callerIsManagerOfTask s.db caller task
  ensure (isManager || isPeerReview s.db caller task)
    ("no_permission", "task_request_changes requires manager or peer-reviewer role")
  let actorKind := if isManager then "manager" else "peer"
  let assignee ← require task.assigneeAgentId ("no_assignee", "task has no assignee")
  if maxReviewRounds ≤ task.reviewRound then
    escalateTask env s caller taskId feedback task
  else
    nextRound cfg env s caller taskId feedback actorKind assignee task

/-! ### Settings and work-stealing -/

/-- Source: `mcp_dispatch.rs` `handle_epistemic_append` -/
def handleEpistemicAppend (kind : String) : Except McpError (Json × LoopState) := do
  let taskId ← requireStr args "task_id"
  let task ← loadTask s.db taskId
  ensureSameStartup caller task.startupId
  ensure (task.assigneeAgentId = some caller.agentId)
    ("no_permission", "epistemic append requires assignee")
  match args with
  | .obj fields =>
      let rest := fields.filter fun f => f.1 ≠ "kind" ∧ f.1 ≠ "agent_id"
      let entry := .obj (rest ++ [("kind", .str kind), ("agent_id", .str caller.agentId)])
      return (.obj [("task_id", .str taskId), ("kind", .str kind)],
        s.appendEpistemic env taskId entry)
  | _ => .error ("bad_args", "args must be an object")

/-- A setting that a call changes: absent leaves the column, `null` or a value of another type clears
it. -/
def change {α : Type} (args : Json) (key : String) (read : Json → Option α) : Option (Option α) :=
  (args.get key).map fun v => if v.isNull then none else read v

/-- Who may change a setting of a task: its manager or its assignee. -/
def mayConfigure (db : Db) (caller : AvatarView) (task : TaskRow) : Bool :=
  callerIsManagerOfTask db caller task || decide (task.assigneeAgentId = some caller.agentId)

/-- Source: `mcp_dispatch.rs` `handle_task_set_preference` -/
def handleTaskSetPreference : Except McpError (Json × LoopState) := do
  let taskId ← requireStr args "task_id"
  let backendChange := change args "preferred_backend" Json.asStr
  let modelChange := change args "preferred_model" Json.asStr
  ensure (backendChange.isSome ∨ modelChange.isSome)
    ("bad_args", "at least one of preferred_backend or preferred_model required")
  let task ← loadTask s.db taskId
  ensureSameStartup caller task.startupId
  ensure (mayConfigure s.db caller task)
    ("no_permission", "task_set_preference: caller must be manager or assignee")
  let s := s.updateTask taskId (fun t => { t with
    preferredBackend := backendChange.getD t.preferredBackend
    preferredModel := modelChange.getD t.preferredModel, updatedAt := env.now }) fun _ => rfl
  let values := [("preferred_backend", Json.ofOption .str backendChange.join),
    ("preferred_model", Json.ofOption .str modelChange.join)]
  let s := s.appendAudit env taskId (auditEntry "agent" "task_set_preference" caller.agentId values)
  let s := s.emitSystemEvent env (some caller.startupId) "task_routing_changed"
    (.obj ([("task_id", .str taskId), ("set_by", .str caller.agentId)] ++ values)) "info"
  return (.obj (("task_id", .str taskId) :: values), s)

/-- The update of the deadline; a new deadline has not been notified. -/
def writeDeadline (db : Db) (taskId : String) (deadlineChange : Option (Option ℤ)) (now : ℤ) : Db :=
  match deadlineChange with
  | some d => db.updateTask taskId (fun t => { t with
      deadlineAt := d, deadlineNotifiedAt := none, updatedAt := now }) fun _ => rfl
  | none => db

/-- The update of the blocker, which may dangle. -/
def writeBlocker (db : Db) (taskId : String) (blockedChange : Option (Option String)) (now : ℤ) :
    Option Db :=
  match blockedChange with
  | some b => db.relinkTask taskId fun t => { t with blockedOn := b, updatedAt := now }
  | none => some db

/-- The two updates of `task_set_blocking`, in one transaction. -/
def writeBlocking (db : Db) (taskId : String) (blockedChange : Option (Option String))
    (deadlineChange : Option (Option ℤ)) (now : ℤ) : Option Db :=
  (writeBlocker db taskId blockedChange now).map fun db => writeDeadline db taskId deadlineChange now

/-- Source: `mcp_dispatch.rs` `handle_task_set_blocking` -/
def handleTaskSetBlocking : Except McpError (Json × LoopState) := do
  let taskId ← requireStr args "task_id"
  let blockedChange := change args "blocked_on" Json.asStr
  let deadlineChange := change args "deadline_at" Json.asI64
  ensure (blockedChange.isSome ∨ deadlineChange.isSome)
    ("bad_args", "at least one of blocked_on or deadline_at required")
  let task ← loadTask s.db taskId
  ensureSameStartup caller task.startupId
  ensure (mayConfigure s.db caller task)
    ("no_permission", "task_set_blocking: caller must be manager or assignee")
  ensure (blockedChange ≠ some (some taskId)) ("self_blocking", "a task cannot block on itself")
  let db ← require (writeBlocking s.db taskId blockedChange deadlineChange env.now)
    ("sql", cfg.sqlText)
  let s := { s with db }
  let values := [("blocked_on", Json.ofOption .str blockedChange.join),
    ("deadline_at", Json.ofOption .int deadlineChange.join)]
  let s := s.appendAudit env taskId (auditEntry "agent" "task_set_blocking" caller.agentId values)
  let s := s.emitSystemEvent env (some caller.startupId) "task_blocking_changed"
    (.obj (("task_id", .str taskId) :: values)) "info"
  return (.obj (("task_id", .str taskId) :: values), s)

/-- The name of an avatar's status. -/
def avatarStatusStr : AvatarStatus → String
  | .idle => "idle"
  | .working => "working"

/-- Source: `mcp_dispatch.rs` `handle_task_steal` -/
def handleTaskSteal : Except McpError (Json × LoopState) := do
  let taskId ← requireStr args "task_id"
  ensure (caller.status = .idle)
    ("not_idle", "caller must be idle to steal (status=" ++ avatarStatusStr caller.status ++ ")")
  let task ← loadTask s.db taskId
  ensureSameStartup caller task.startupId
  ensure (task.status = .queued)
    ("not_stealable", "only queued tasks can be stolen (status=" ++ task.status.toStr ++ ")")
  let current ← require task.assigneeAgentId ("not_stealable", "task has no assignee")
  ensure (current ≠ caller.agentId) ("self_steal", "caller is already the assignee")
  let assignee ← require (s.db.agents.lookup current) ("unknown_assignee", "assignee row missing")
  ensure (assignee.role = caller.role) ("role_mismatch",
    "assignee role " ++ assignee.role ++ " != stealer role " ++ caller.role)
  let (db, rows) ← require (s.db.reassignTask taskId .queued current fun t => { t with
    assigneeAgentId := some caller.agentId, updatedAt := env.now }) ("sql", cfg.sqlText)
  ensure (rows ≠ 0) ("lost_race", "task state changed before steal landed")
  let s := { s with db }
  let s := s.appendAudit env taskId
    (auditEntry "stealer" "task_steal" caller.agentId [("previous_assignee", .str current)])
  let s := s.emitSystemEvent env (some caller.startupId) "task_stolen"
    (.obj [("task_id", .str taskId), ("new_assignee", .str caller.agentId),
      ("previous_assignee", .str current), ("mode", .str "manual")]) "info"
  return (.obj [("task_id", .str taskId), ("new_assignee", .str caller.agentId),
    ("previous_assignee", .str current)], s)

/-! ### Tools around the artifact -/

/-- Source: `mcp_dispatch.rs` `handle_self_review` -/
def handleSelfReview : Except McpError (Json × LoopState) := do
  let taskId ← requireStr args "task_id"
  let artifactPath ← requireStr args "artifact_path"
  let task ← loadTask s.db taskId
  ensureSameStartup caller task.startupId
  ensure (task.assigneeAgentId = some caller.agentId)
    ("no_permission", "self_review requires assignee")
  let outcome := selfReviewRun env.files caller.startupId taskId artifactPath
  return (.obj [("task_id", .str taskId), ("ok", .bool outcome.ok),
    ("must_fix", .arr (outcome.mustFix.map CheckResult.toJson))],
    selfReviewRecord env s taskId caller.agentId outcome)

/-- The work directory of a task, for its assignee. Source: `mcp_dispatch.rs` `require_task_workdir` -/
def requireTaskWorkdir (taskId : String) : Except McpError String := do
  let task ← loadTask s.db taskId
  ensureSameStartup caller task.startupId
  ensure (task.assigneeAgentId = some caller.agentId)
    ("no_permission", "tool requires task assignee")
  return taskWorkdir caller.startupId taskId

/-- A tool that runs a command in the task's directory, with the further strings it needs. Source:
`mcp_dispatch.rs` `handle_run_tests`, `handle_lint_artifact`, `handle_read_artifact_diff` -/
def handleCommand (tool : String) (keys : List String) : Except McpError (Json × LoopState) := do
  let taskId ← requireStr args "task_id"
  keys.forM fun key => do
    let _ ← requireStr args key
  let workdir ← requireTaskWorkdir s caller taskId
  let (results, reply) ← env.command tool workdir args
  match results with
  | some results =>
      return (reply, s.appendAudit env taskId (auditEntry "engineer" tool caller.agentId results))
  | none => return (reply, s)

/-! ### One call -/

/-- The tools that only read. -/
def otherTools : List String :=
  ["verify", "observe_world", "read_artifact", "skill_list", "skill_list_revisions"]

/-- The tool that a message names. Source: `mcp_dispatch.rs` `dispatch`, the `match` -/
def callTool (tool : String) : HandlerResult × LoopState :=
  match tool with
  | "move_intent" => handleMoveIntent cfg env s caller args
  | "speak" => settle s (handleSpeak cfg env s caller args)
  | "task_done" => handleTaskDone cfg env s caller args
  | "task_failed" => settle s (handleTaskFailed env s caller args)
  | "subtask_create" => settle s (handleSubtaskCreate cfg env s caller args)
  | "task_accept" => settle s (handleTaskAccept env s caller args)
  | "task_request_changes" => settle s (handleTaskRequestChanges cfg env s caller args)
  | "accept_proposal" => settle s (handleAcceptProposal cfg env s caller args)
  | "reject_proposal" => settle s (handleRejectProposal env s caller args)
  | "hypothesis_state" => settle s (handleEpistemicAppend env s caller args "hypothesis_state")
  | "test_record" => settle s (handleEpistemicAppend env s caller args "test_record")
  | "hypothesis_resolve" => settle s (handleEpistemicAppend env s caller args "hypothesis_resolve")
  | "ask_peer" => (.ok (.obj [("response", .null)]), s)
  | "task_set_preference" => settle s (handleTaskSetPreference env s caller args)
  | "task_set_blocking" => settle s (handleTaskSetBlocking cfg env s caller args)
  | "task_steal" => settle s (handleTaskSteal cfg env s caller args)
  | "self_review" => settle s (handleSelfReview env s caller args)
  | "run_tests" => settle s (handleCommand env s caller args "run_tests" [])
  | "lint_artifact" => settle s (handleCommand env s caller args "lint_artifact" ["artifact_path"])
  | "read_artifact_diff" =>
      settle s (handleCommand env s caller args "read_artifact_diff" ["artifact_path"])
  | "skill_upsert" => settle s (handleSkillUpsert cfg env s caller args)
  | "skill_attach" => settle s (handleSkillAttach cfg env s caller args)
  | "skill_detach" => settle s (handleSkillDetach s caller args)
  | "skill_delete" => settle s (handleSkillDelete s caller args)
  | "skill_file_upsert" => settle s (handleSkillFileUpsert cfg env s caller args)
  | "skill_file_delete" => settle s (handleSkillFileDelete s caller args)
  | "skill_revert" => settle s (handleSkillRevert env s caller args)
  | tool =>
      if tool ∈ otherTools then (env.reply tool args, s)
      else (.error ("unknown_tool", "no handler for tool: " ++ tool), s)

end Handlers

/-- The tool of a message, its arguments and the id that its answer carries. -/
structure McpCall where
  tool : String
  args : Json
  corrId : String

/-- Source: `mcp_dispatch.rs` `dispatch`, the first lines -/
def McpCall.ofJson (msg : Json) : McpCall where
  tool := (msg.getStr "tool").getD ""
  args := (msg.get "args").getD .null
  corrId := (msg.getStr "corr_id").getD ""

/-- Source: `mcp_dispatch.rs` `mcp_err` -/
def mcpErr (corrId code message : String) : Json :=
  .obj [("type", .str "mcp_error"), ("v", .int 1), ("corr_id", .str corrId), ("code", .str code),
    ("message", .str message)]

/-- One call of an agent. Source: `mcp_dispatch.rs` `dispatch` -/
def dispatchMcp (cfg : Config) (env : Env) (s : LoopState) (agentId : String) (msg : Json) :
    Json × LoopState :=
  let call := McpCall.ofJson msg
  match s.world.avatars.lookup agentId with
  | none => (mcpErr call.corrId "unknown_agent" "agent not found in world", s)
  | some caller =>
      match callTool cfg env s caller call.args call.tool with
      | (.ok v, s) => (.obj [("type", .str "mcp_reply"), ("v", .int 1),
          ("corr_id", .str call.corrId), ("result", v)], s)
      | (.error (code, message), s) => (mcpErr call.corrId code message, s)

end Cliptown.Task
