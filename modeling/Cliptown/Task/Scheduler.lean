import Cliptown.Task.State
import Cliptown.Worker.Workdir

/-!
# The scheduler

What one tick does with the tables and the avatars: hand out queued tasks, announce missed deadlines, and
run the two passes that move tasks between agents.

* `queuedTasks` — the dispatch query, joined with agents and startups.
* `dispatchOne` — one row of it, through its gates: the agent is idle, the blocker is over, the agent is
  in the required room, the budget holds, the worker is there.
* `assign` — the hand-over, which is rolled back when it fails.
* `deadlineScan`, `autoStealPass`, `autoRecoveryPass` — the rest of a tick.
* `schedulerTick`, `loopTick` — one tick, without and with the movement before it.
-/

namespace Cliptown.Task

open Cliptown.Lib Cliptown.Town Cliptown.World Cliptown.Worker

/-! ### The dispatch query -/

/-- A row of the dispatch query: the task is queued, and its assignee and its startup exist. -/
def queuedRow (db : Db) (id : String) (t : TaskRow) : Option QueuedTask :=
  if t.status = .queued then do
    let assignee ← t.assigneeAgentId
    let agent ← db.agents.lookup assignee
    let startup ← db.startups.lookup t.startupId
    return { id, title := t.title, description := t.description, assigneeAgentId := assignee
             requiredRoom := t.requiredRoom, parentId := t.parentId
             preferredBackend := t.preferredBackend, preferredModel := t.preferredModel
             startupId := t.startupId, agentBackend := agent.backend
             workspacePath := startup.workspacePath, blockedOn := t.blockedOn }
  else none

/-- Source: `scheduler.rs` `tick`, the first query -/
def queuedTasks (env : Env) (db : Db) : List QueuedTask :=
  (env.order db.tasks.keys).filterMap fun id => (db.tasks.lookup id).bind (queuedRow db id)

section Dispatch

variable (cfg : Config) (env : Env) (s : LoopState) (task : QueuedTask)

/-! ### Gates -/

/-- The blocker of the row is over, or gone. Source: `scheduler.rs` `tick`, `is_terminal` -/
def blockerOver (db : Db) : Option String → Bool
  | some blockerId => (db.tasks.lookup blockerId).all fun t => decide t.status.Terminal
  | none => true

/-- Forget a blocker that is over, and say so. -/
def clearBlocker : LoopState :=
  match task.blockedOn with
  | some blockerId =>
      let db := (s.db.relinkTask task.id fun t => { t with blockedOn := none }).getD s.db
      let s := { s with db }
      s.emitSystemEvent env (some task.startupId) "task_unblocked"
        (.obj [("task_id", .str task.id), ("blocker_id", .str blockerId)]) "info"
  | none => s

/-- Source: `scheduler.rs` `pick_room_center` -/
def pickRoomCenter (L : TownLayout) (roomId : String) : Option Tile :=
  (L.room roomId).map fun r => (r.bounds.x + r.bounds.w / 2, r.bounds.y + r.bounds.h / 2)

/-- Send the agent to the required room, unless it is on its way somewhere. -/
def approach (room : String) : LoopState :=
  match s.paths.lookup task.assigneeAgentId, pickRoomCenter cfg.layout room with
  | none, some center =>
      let (_, world, paths) := startMove cfg.astar s.world s.paths cfg.layout
        (graphFromLayout cfg.layout) task.assigneeAgentId room center
      { s with world, paths }
  | _, _ => s

/-- The agent has to go somewhere else first. -/
def roomMissing (avatar : AvatarView) : Option String :=
  task.requiredRoom.filter fun room => avatar.roomId ≠ room

/-- At 95 % of the cap nothing is dispatched any more. -/
def overBudget (db : Db) (agentId : String) : Bool :=
  ((db.agents.lookup agentId).bind fun agent => db.startups.lookup agent.startupId).any
    fun startup => 0 < startup.budgetCapUsd ∧
      19 / 20 ≤ startup.budgetSpentUsd / startup.budgetCapUsd

/-- A worker that is registered takes tasks; in the mode in which each task has its own worker, one that
is registered is still busy. -/
def workerReady (outBus : List String) (agentId : String) : Bool :=
  if cfg.perTaskMode then agentId ∉ outBus else agentId ∈ outBus

/-! ### The hand-over -/

/-- Source: `ws_messages.rs` `WorkerOutbound::TaskAssigned` -/
def taskAssigned : Json :=
  .obj [("type", .str "task_assigned"), ("v", .int 1), ("task_id", .str task.id),
    ("title", .str task.title), ("description", .str task.description),
    ("required_room", Json.ofOption .str task.requiredRoom),
    ("parent_id", Json.ofOption .str task.parentId),
    ("preferred_backend", Json.ofOption .str task.preferredBackend),
    ("preferred_model", Json.ofOption .str task.preferredModel)]

/-- Whether the task reached a worker: one that is spawned for it, or the one that is registered. -/
def handOver : Bool × LoopState :=
  let agentId := task.assigneeAgentId
  if cfg.perTaskMode then
    (env.spawn (task.spawnConfig (cfg.agentSecret agentId) cfg.worldUrl), s)
  else
    (decide (agentId ∈ s.outBus ∧ env.trySend agentId (taskAssigned task) = .ok),
      s.push env agentId (taskAssigned task))

/-- The task is in progress and its agent is working. -/
def startWork : LoopState :=
  let s := s.setStatus env task.id .inProgress
  let s := s.setAvatarStatus task.assigneeAgentId .working
  s.appendAudit env task.id (.obj [("actor", .str "scheduler"), ("kind", .str "task_assigned"),
    ("agent_id", .str task.assigneeAgentId),
    ("required_room", Json.ofOption .str task.requiredRoom)])

/-- The task is queued again and its agent is idle. -/
def rollBack : LoopState :=
  (s.setStatus env task.id .queued).setAvatarStatus task.assigneeAgentId .idle

/-- Start a task; a failed hand-over is rolled back. -/
def assign : LoopState :=
  match handOver cfg env (startWork env s task) task with
  | (true, s) => s
  | (false, s) => rollBack env s task

/-- One row of the dispatch query. Source: `scheduler.rs` `tick`, the body of the loop -/
def dispatchOne : LoopState :=
  match s.world.avatars.lookup task.assigneeAgentId with
  | none => s
  | some avatar =>
      if avatar.status = .idle ∧ blockerOver s.db task.blockedOn then
        let s := clearBlocker env s task
        match roomMissing task avatar with
        | some room => approach cfg s task room
        | none =>
            if ¬ overBudget s.db task.assigneeAgentId ∧
                workerReady cfg s.outBus task.assigneeAgentId then
              assign cfg env s task
            else s
      else s

/-! ### Deadlines -/

/-- A deadline that has passed and was not announced. -/
def overdue (now : ℤ) (t : TaskRow) : Option ℤ :=
  t.deadlineAt.filter fun deadline => deadline < now ∧ ¬ t.status.Terminal ∧
    t.deadlineNotifiedAt.all (· < deadline)

/-- The difference of two `i64`, which a build without overflow checks wraps around. -/
def wrappingSub (a b : ℤ) : ℤ := (a - b).bmod (2 ^ 64)

/-- Announce a deadline once. -/
def notifyOverdue (id startupId : String) (deadline : ℤ) : LoopState :=
  let s := s.emitSystemEvent env (some startupId) "task_overdue" (.obj [("task_id", .str id),
    ("deadline_at", .int deadline), ("overdue_by_secs", .int (wrappingSub env.now deadline))]) "warn"
  s.updateTask id (fun t => { t with deadlineNotifiedAt := some env.now }) fun _ => rfl

/-- Source: `scheduler.rs` `tick`, the deadline scan -/
def deadlineScan : LoopState :=
  let rows := (env.order s.db.tasks.keys).filterMap fun id =>
    (s.db.tasks.lookup id).bind fun t => (overdue env.now t).map fun deadline =>
      (id, t.startupId, deadline)
  rows.foldl (fun s row => notifyOverdue env s row.1 row.2.1 row.2.2) s

/-! ### The passes that move tasks -/

/-- The first idle avatar of a startup with the role of an agent, other than that agent. -/
def idlePeer (startupId role current : String) : Option String :=
  (env.order s.world.avatars.keys).find? fun id => (s.world.avatars.lookup id).any fun a =>
    decide (a.startupId = startupId ∧ a.role = role ∧ a.status = .idle ∧ id ≠ current)

/-- The peer that takes over from an agent. -/
def replacement (startupId current : String) : Option String :=
  (s.db.agents.lookup current).bind fun agent => idlePeer env s startupId agent.role current

/-- The tasks of a startup with a status and an assignee that meet a condition. -/
def assignedTasks (startupId : String) (status : TaskStatus) (p : TaskRow → Bool) :
    List (String × String × ℕ) :=
  (env.order s.db.tasks.keys).filterMap fun id => (s.db.tasks.lookup id).bind fun t =>
    if t.startupId = startupId ∧ t.status = status ∧ p t then
      t.assigneeAgentId.map fun assignee => (id, assignee, t.reviewRound)
    else none

/-- The startups that meet a condition. -/
def startupsWith (p : Startup → Bool) : List (String × Startup) :=
  (env.order s.db.startups.keys).filterMap fun id =>
    (s.db.startups.lookup id).bind fun startup => if p startup then some (id, startup) else none

/-- Move a queued task from an agent that is not idle to an idle peer. Source: `scheduler.rs`
`auto_steal_pass`, the body of the inner loop -/
def autoSteal (startupId taskId current : String) : LoopState :=
  if (s.world.avatars.lookup current).map AvatarView.status = some .idle then s
  else
    match replacement env s startupId current with
    | none => s
    | some peer =>
        match s.db.reassignTask taskId .queued current fun t => { t with
          assigneeAgentId := some peer, updatedAt := env.now } with
        | some (db, 1) =>
            let s := { s with db }
            let s := s.appendAudit env taskId (.obj [("actor", .str "stealer"),
              ("kind", .str "task_steal"), ("agent_id", .str peer),
              ("previous_assignee", .str current), ("mode", .str "auto")])
            s.emitSystemEvent env (some startupId) "task_stolen" (.obj [("task_id", .str taskId),
              ("new_assignee", .str peer), ("previous_assignee", .str current),
              ("mode", .str "auto")]) "info"
        | _ => s

/-- Source: `scheduler.rs` `auto_steal_pass` -/
def autoStealPass : LoopState :=
  (startupsWith env s Startup.autoStealEnabled).foldl (fun s startup =>
    let cutoff := env.now - max startup.2.autoStealAfterSecs 1
    (assignedTasks env s startup.1 .queued fun t => t.updatedAt < cutoff).foldl
      (fun s row => autoSteal env s startup.1 row.1 row.2.1) s) s

/-- Queue a task under review again, for an idle peer. Source: `scheduler.rs` `auto_recovery_pass`, the
body of the inner loop -/
def autoRecover (startupId taskId current : String) (reviewRound : ℕ) : LoopState :=
  match replacement env s startupId current with
  | none => s
  | some peer =>
      match s.db.reassignTask taskId .changesRequested current fun t => { t with
        assigneeAgentId := some peer, status := .queued, reviewRound := 0
        updatedAt := env.now } with
      | some (db, 1) =>
          let s := { s with db }
          let values := [("strategy", Json.str "peer_reassign"), ("from_agent_id", .str current),
            ("to_agent_id", .str peer), ("review_round_at_recovery", .int reviewRound)]
          let s := s.appendAudit env taskId
            (.obj ([("actor", .str "scheduler"), ("kind", .str "task_recovered")] ++ values))
          s.emitSystemEvent env (some startupId) "task_recovered"
            (.obj (("task_id", .str taskId) :: values)) "info"
      | _ => s

/-- Source: `scheduler.rs` `auto_recovery_pass` -/
def autoRecoveryPass : LoopState :=
  (startupsWith env s Startup.autoRecoveryEnabled).foldl (fun s startup =>
    (assignedTasks env s startup.1 .changesRequested fun t =>
      startup.2.autoRecoveryMaxAttempts ≤ (t.reviewRound : ℤ)).foldl
      (fun s row => autoRecover env s startup.1 row.1 row.2.1 row.2.2) s) s

/-! ### One tick -/

/-- Source: `scheduler.rs` `tick` -/
def schedulerTick : LoopState :=
  let s := (queuedTasks env s.db).foldl (dispatchOne cfg env) s
  autoRecoveryPass env (autoStealPass env (deadlineScan env s))

/-- Tell the worker of an agent that it has arrived. -/
def pushMoveComplete : MoveEvent → LoopState
  | .complete agentId roomId => s.push env agentId
      (.obj [("type", .str "move_complete"), ("v", .int 1), ("room_id", .str roomId)])

/-- Source: `loop_.rs` `spawn_with_layout`, `Cmd::Tick` -/
def loopTick : LoopState :=
  let (world, paths, events) := stepAll s.world s.paths
  let s := events.foldl (pushMoveComplete env) { s with world, paths }
  schedulerTick cfg env s

end Dispatch

end Cliptown.Task
