import Cliptown.Task.Parties
import Cliptown.Task.Running

/-!
# What the scheduler hands over

The dispatch loop takes the rows of its query in turn. Each row passes its gates or does not; if it does, the
task is started, and it is taken back when the hand-over fails.

* `Attempt`, `attemptOf`, `attempts` — what the loop tries to hand over, in order.
* `dispatched` — what a tick counts.
* `Attempt.Gated` — what held at the moment of an attempt.
* `dispatch_sound` — every attempt is gated, and what becomes of it.
-/

namespace Cliptown.Task

open Cliptown.Lib Cliptown.Town Cliptown.World Cliptown.Worker

/-- An attempt to hand a task over: what it reads from outside, its row, the state in which it is made,
and whether it succeeds. -/
structure Attempt where
  env : Env
  task : QueuedTask
  before : LoopState
  handed : Bool

/-- The agent of an attempt. -/
def Attempt.agentId (a : Attempt) : String :=
  a.task.assigneeAgentId

section Attempts

variable (cfg : Config) (env : Env)

/-- The attempt that the loop makes for a row, if the row passes its gates. -/
def attemptOf (s : LoopState) (task : QueuedTask) : Option Attempt :=
  match s.world.avatars.lookup task.assigneeAgentId with
  | none => none
  | some avatar =>
      if avatar.status = .idle ∧ blockerOver s.db task.blockedOn then
        let s := clearBlocker env s task
        match roomMissing task avatar with
        | some _ => none
        | none =>
            if ¬ overBudget s.db task.assigneeAgentId ∧
                workerReady cfg s.outBus task.assigneeAgentId then
              some ⟨env, task, s, (handOver cfg env (startWork env s task) task).1⟩
            else none
      else none

/-- The attempts of the loop, in its order. -/
def attempts : List QueuedTask → LoopState → List Attempt
  | [], _ => []
  | task :: tasks, s =>
      (attemptOf cfg env s task).toList ++ attempts tasks (dispatchOne cfg env s task)

/-- The attempts of a tick. -/
def tickAttempts (s : LoopState) : List Attempt :=
  attempts cfg env (queuedTasks env s.db) s

/-- The attempts that a tick counts. Source: `scheduler.rs` `tick`, `dispatched` -/
def dispatched (s : LoopState) : List Attempt :=
  (tickAttempts cfg env s).filter Attempt.handed

/-- The state after the dispatch loop. -/
def dispatchLoop (s : LoopState) : LoopState :=
  (queuedTasks env s.db).foldl (dispatchOne cfg env) s

end Attempts

/-- What held when an attempt was made: the avatar was idle and in the required room, the blocker was gone or
over, the budget was not used up, and the worker was there, or, where every task has a worker of its own,
was not. -/
structure Attempt.Gated (cfg : Config) (a : Attempt) : Prop where
  avatar : ∃ avatar, a.before.world.avatars.lookup a.agentId = some avatar ∧ avatar.status = .idle ∧
    ∀ room, a.task.requiredRoom = some room → avatar.roomId = room
  blocker : ∀ blockerId blocker, a.task.blockedOn = some blockerId →
    a.before.db.tasks.lookup blockerId = some blocker → blocker.status.Terminal
  budget : ∀ agent startup, a.before.db.agents.lookup a.agentId = some agent →
    a.before.db.startups.lookup agent.startupId = some startup → 0 < startup.budgetCapUsd →
      startup.budgetSpentUsd / startup.budgetCapUsd < 19 / 20
  worker : if cfg.perTaskMode then a.agentId ∉ a.before.outBus else a.agentId ∈ a.before.outBus

/-- The supervisor spawns a worker for the task, or the channel of the worker takes it. -/
def Attempt.Accepted (cfg : Config) (a : Attempt) : Prop :=
  if cfg.perTaskMode then
    a.env.spawn (a.task.spawnConfig (cfg.agentSecret a.agentId) cfg.worldUrl) = true
  else a.env.trySend a.agentId (taskAssigned a.task) = .ok

section Rows

variable {cfg : Config} {env : Env} {s : LoopState} {task : QueuedTask} {a : Attempt}

/-! ### The gates -/

theorem terminal_of_blockerOver {db : Db} {blockerId : String} {blocker : TaskRow}
    (h : blockerOver db (some blockerId) = true) (hlookup : db.tasks.lookup blockerId = some blocker) :
    blocker.status.Terminal := by
  unfold blockerOver at h
  simpa [hlookup] using h

theorem roomId_of_roomMissing {avatar : AvatarView} (h : roomMissing task avatar = none)
    {room : String} (hroom : task.requiredRoom = some room) : avatar.roomId = room := by
  by_contra hne
  unfold roomMissing at h
  rw [hroom] at h
  simp [hne] at h

theorem ratio_of_overBudget {db : Db} {agentId : String} (h : ¬ overBudget db agentId)
    {agent : Agent} {startup : Startup} (hagent : db.agents.lookup agentId = some agent)
    (hstartup : db.startups.lookup agent.startupId = some startup) (hcap : 0 < startup.budgetCapUsd) :
    startup.budgetSpentUsd / startup.budgetCapUsd < 19 / 20 := by
  unfold overBudget at h
  rw [hagent, Option.bind_some, hstartup] at h
  exact Rat.not_le.mp (by simpa [hcap] using h)

theorem workerReady_iff {outBus : List String} {agentId : String} :
    workerReady cfg outBus agentId = true ↔
      if cfg.perTaskMode then agentId ∉ outBus else agentId ∈ outBus := by
  unfold workerReady
  split <;> simp

/-! ### One row -/

@[simp]
theorem world_clearBlocker : (clearBlocker env s task).world = s.world := by
  unfold clearBlocker
  split <;> rfl

/-- Forgetting a blocker changes no status. -/
theorem blockerOver_clearBlocker (blockedOn : Option String) :
    blockerOver (clearBlocker env s task).db blockedOn = blockerOver s.db blockedOn := by
  unfold clearBlocker
  split
  · cases hdb : s.db.relinkTask task.id fun t => { t with blockedOn := none } with
    | none => rfl
    | some db =>
        cases blockedOn with
        | none => rfl
        | some u =>
            change (db.tasks.lookup u).all _ = (s.db.tasks.lookup u).all _
            rw [(lookup_relinkTask hdb).1, Table.lookup_modify]
            split
            · rw [Option.all_map]
            · rfl
  · rfl

variable (cfg env s task) in
/-- **One row**, with an attempt or without one. -/
theorem attempt_cases :
    (attemptOf cfg env s task = none ∧
      (dispatchOne cfg env s task = s ∨ dispatchOne cfg env s task = clearBlocker env s task ∨
        ∃ room, dispatchOne cfg env s task = approach cfg (clearBlocker env s task) task room)) ∨
      ∃ a, attemptOf cfg env s task = some a ∧
        dispatchOne cfg env s task = assign cfg env a.before task ∧ a.task = task ∧
          a.before = clearBlocker env s task ∧ a.Gated cfg ∧
            a.handed = (handOver cfg env (startWork env a.before task) task).1 ∧ a.env = env := by
  unfold attemptOf dispatchOne
  cases havatar : s.world.avatars.lookup task.assigneeAgentId with
  | none => exact .inl ⟨rfl, .inl rfl⟩
  | some avatar =>
      simp only
      by_cases hgate : avatar.status = .idle ∧ blockerOver s.db task.blockedOn
      · rw [if_pos hgate, if_pos hgate]
        cases hroom : roomMissing task avatar with
        | some room => exact .inl ⟨rfl, .inr (.inr ⟨room, rfl⟩)⟩
        | none =>
            simp only
            by_cases hready : ¬ overBudget (clearBlocker env s task).db task.assigneeAgentId ∧
                workerReady cfg (clearBlocker env s task).outBus task.assigneeAgentId
            · rw [if_pos hready, if_pos hready]
              refine .inr ⟨_, rfl, rfl, rfl, rfl, ?_, rfl, rfl⟩
              have hover : blockerOver (clearBlocker env s task).db task.blockedOn :=
                (blockerOver_clearBlocker task.blockedOn).trans hgate.2
              exact { avatar := ⟨avatar, by rw [world_clearBlocker, ← havatar]; rfl, hgate.1,
                        fun room => roomId_of_roomMissing hroom⟩
                      blocker := fun u t hu => terminal_of_blockerOver (hu ▸ hover)
                      budget := fun _ _ => ratio_of_overBudget hready.1
                      worker := workerReady_iff.mp hready.2 }
            · rw [if_neg hready, if_neg hready]
              exact .inl ⟨rfl, .inr (.inl rfl)⟩
      · rw [if_neg hgate, if_neg hgate]
        exact .inl ⟨rfl, .inl rfl⟩

/-- **What an attempt says**: it is about its row, made after the blocker was forgotten, and gated. -/
theorem gated_of_attemptOf (h : attemptOf cfg env s task = some a) :
    a.task = task ∧ a.before = clearBlocker env s task ∧ a.Gated cfg ∧
      a.handed = (handOver cfg env (startWork env a.before task) task).1 ∧ a.env = env := by
  rcases attempt_cases cfg env s task with ⟨hnone, -⟩ | ⟨a', ha', -, hsays⟩
  · exact absurd (hnone.symm.trans h) (by simp)
  · obtain rfl := Option.some.inj (h.symm.trans ha')
    exact hsays

/-- An attempt succeeds when it is accepted. -/
theorem handOver_eq_true (hgated : a.Gated cfg) :
    (handOver cfg a.env (startWork a.env a.before a.task) a.task).1 = true ↔ a.Accepted cfg := by
  have hworker := hgated.worker
  unfold handOver Attempt.Accepted
  split
  · exact Iff.rfl
  · rename_i hmode
    rw [if_neg hmode] at hworker
    have hbus : (startWork a.env a.before a.task).outBus = a.before.outBus := rfl
    simp only
    rw [decide_eq_true_eq, hbus]
    exact and_iff_right hworker

theorem handed_iff_accepted (h : attemptOf cfg env s task = some a) : a.handed ↔ a.Accepted cfg := by
  obtain ⟨rfl, -, hgated, hhanded, rfl⟩ := gated_of_attemptOf h
  rw [hhanded]
  exact handOver_eq_true hgated

/-- With an attempt, the row is assigned. -/
theorem dispatchOne_of_attempt (h : attemptOf cfg env s task = some a) :
    dispatchOne cfg env s task = assign cfg env a.before task := by
  rcases attempt_cases cfg env s task with ⟨hnone, -⟩ | ⟨a', ha', hassign, -⟩
  · exact absurd (hnone.symm.trans h) (by simp)
  · obtain rfl := Option.some.inj (h.symm.trans ha')
    exact hassign

/-- Without one, at most the blocker is forgotten and the agent is sent to the room. -/
theorem dispatchOne_of_none (h : attemptOf cfg env s task = none) :
    dispatchOne cfg env s task = s ∨ dispatchOne cfg env s task = clearBlocker env s task ∨
      ∃ room, dispatchOne cfg env s task = approach cfg (clearBlocker env s task) task room := by
  rcases attempt_cases cfg env s task with ⟨-, hcases⟩ | ⟨a, ha, -⟩
  · exact hcases
  · exact absurd (h.symm.trans ha) (by simp)

/-! ### What becomes of the avatars -/

/-- The agent of an attempt is idle. -/
theorem idle_of_attempt (h : attemptOf cfg env s task = some a) :
    statusOf s.world task.assigneeAgentId = some .idle := by
  obtain ⟨rfl, hbefore, hgated, -⟩ := gated_of_attemptOf h
  obtain ⟨avatar, havatar, hidle, -⟩ := hgated.avatar
  rw [hbefore, world_clearBlocker] at havatar
  exact Option.map_eq_some_iff.mpr ⟨avatar, havatar, hidle⟩

@[simp]
theorem world_push (agentId : String) (frame : Json) : (s.push env agentId frame).world = s.world := by
  unfold LoopState.push
  split <;> rfl

variable (cfg env s task) in
@[simp]
theorem world_handOver : (handOver cfg env s task).2.world = s.world := by
  unfold handOver
  simp only
  split
  · rfl
  · exact world_push _ _

/-- A new status of an avatar. -/
theorem statusOf_setAvatarStatus (agentId x : String) (status : AvatarStatus) :
    statusOf (s.setAvatarStatus agentId status).world x =
      if x = agentId then (statusOf s.world agentId).map fun _ => status else statusOf s.world x := by
  have h := congrFun (congrArg Board.avatar (board_setAvatarStatus (s := s) agentId status)) x
  rw [Board.avatar_mark] at h
  exact h

/-- **A hand-over** that succeeds sets the agent to work, and one that fails leaves it idle. -/
theorem statusOf_assign (hidle : statusOf s.world task.assigneeAgentId = some .idle) (x : String) :
    statusOf (assign cfg env s task).world x =
      if x = task.assigneeAgentId ∧ (handOver cfg env (startWork env s task) task).1 then
        some .working
      else statusOf s.world x := by
  have hstart : ∀ x, statusOf (startWork env s task).world x =
      if x = task.assigneeAgentId then some .working else statusOf s.world x := by
    intro x
    have h := statusOf_setAvatarStatus (s := s.setStatus env task.id .inProgress)
      task.assigneeAgentId x .working
    rw [show statusOf (s.setStatus env task.id .inProgress).world = statusOf s.world from rfl, hidle] at h
    exact h
  have hover := world_handOver cfg env (startWork env s task) task
  rw [assign_eq]
  split
  · rename_i hok
    rw [hover, hstart]
    simp only [hok, and_true]
  · rename_i hfailed
    generalize (handOver cfg env (startWork env s task) task).2 = t at hover
    have hroll := statusOf_setAvatarStatus (s := t.setStatus env task.id .queued)
      task.assigneeAgentId x .idle
    rw [show statusOf (t.setStatus env task.id .queued).world = statusOf t.world from rfl, hover,
      hstart, hstart, if_pos rfl] at hroll
    refine hroll.trans ?_
    simp only [hfailed, Bool.false_eq_true, and_false, if_false]
    split
    · rename_i hx
      rw [hx, hidle]
      rfl
    · rfl

/-- **One row** sets at most its own agent to work, and that is when a task is handed over. -/
theorem statusOf_dispatchOne (x : String) :
    statusOf (dispatchOne cfg env s task).world x =
      if ∃ a, attemptOf cfg env s task = some a ∧ a.handed ∧ a.agentId = x then some .working
      else statusOf s.world x := by
  cases h : attemptOf cfg env s task with
  | none =>
      rw [if_neg (by simp)]
      rcases dispatchOne_of_none h with heq | heq | ⟨room, heq⟩
      · rw [heq]
      · rw [heq, world_clearBlocker]
      · rw [heq]
        unfold approach
        split
        · exact (congrFun (statusOf_startMove _ _ _ _ _ _ _ _) x).trans (by rw [world_clearBlocker])
        · rw [world_clearBlocker]
  | some a =>
      have hidle := idle_of_attempt h
      obtain ⟨htask, hbefore, -, hhanded, -⟩ := gated_of_attemptOf h
      have hworld : statusOf a.before.world = statusOf s.world := by rw [hbefore, world_clearBlocker]
      rw [dispatchOne_of_attempt h, statusOf_assign (hworld ▸ hidle), hworld, ← hhanded]
      refine if_congr ?_ rfl rfl
      constructor
      · rintro ⟨rfl, hok⟩
        exact ⟨a, rfl, hok, congrArg _ htask⟩
      · rintro ⟨a', ha', hok, rfl⟩
        obtain rfl := Option.some.inj ha'
        exact ⟨congrArg _ htask, hok⟩

/-! ### What becomes of the task -/

/-- A hand-over that fails leaves the row as it was. -/
theorem fresh_of_failed (h : attemptOf cfg env s task = some a) (hfailed : a.handed = false)
    (hfresh : Fresh s.board task) : Fresh (dispatchOne cfg env s task).board task := by
  obtain ⟨-, hbefore, -, hhanded, -⟩ := gated_of_attemptOf h
  obtain ⟨-, ⟨c, hcard, hstatus, hassignee⟩, -⟩ := clearBlocker_board env hfresh
  rw [← hbefore] at hcard
  have hover := board_handOver cfg env (startWork env a.before task) task
  rw [hfailed] at hhanded
  rw [dispatchOne_of_attempt h, assign_eq, if_neg (by simp [← hhanded])]
  have hcard' : (handOver cfg env (startWork env a.before task) task).2.board.card task.id =
      some { c with status := .inProgress } := by
    rw [hover, board_startWork hcard, Board.card_mark, Board.card_put, if_pos rfl]
  refine ⟨{ c with status := .queued }, ?_, rfl, hassignee⟩
  rw [board_rollBack hcard', Board.card_mark, Board.card_put, if_pos rfl]

end Rows

/-! ### The loop -/

section Loop

variable {cfg : Config} {env : Env} {s : LoopState} {a : Attempt}

/-- Every attempt is made for a row, when the rows before it are dispatched. -/
theorem made_of_mem_attempts (tasks : List QueuedTask) : ∀ s : LoopState, ∀ a ∈ attempts cfg env tasks s,
    ∃ rows rest, tasks = rows ++ a.task :: rest ∧
      attemptOf cfg env (rows.foldl (dispatchOne cfg env) s) a.task = some a := by
  induction tasks with
  | nil =>
      intro s a ha
      exact absurd ha List.not_mem_nil
  | cons task tasks ih =>
      intro s a ha
      rcases List.mem_append.mp ha with ha | ha
      · have hattempt := Option.mem_toList.mp ha
        obtain ⟨rfl, -⟩ := gated_of_attemptOf hattempt
        exact ⟨[], tasks, rfl, hattempt⟩
      · obtain ⟨rows, rest, rfl, hattempt⟩ := ih _ a ha
        exact ⟨task :: rows, rest, rfl, hattempt⟩

/-- **An agent at work gets no further task.** -/
theorem agentId_ne_of_working (tasks : List QueuedTask) : ∀ (s : LoopState) (x : String),
    statusOf s.world x = some .working → ∀ a ∈ attempts cfg env tasks s, a.agentId ≠ x := by
  induction tasks with
  | nil =>
      intro s x _ a ha
      exact absurd ha List.not_mem_nil
  | cons task tasks ih =>
      intro s x hworking a ha
      rcases List.mem_append.mp ha with ha | ha
      · have hattempt := Option.mem_toList.mp ha
        obtain ⟨rfl, -⟩ := gated_of_attemptOf hattempt
        rintro rfl
        exact absurd (hworking.symm.trans (idle_of_attempt hattempt)) (by simp)
      · refine ih _ x ?_ a ha
        rw [statusOf_dispatchOne]
        split
        · rfl
        · exact hworking

/-- **The loop** sets to work the agents that are handed a task, and no other. -/
theorem statusOf_foldl (tasks : List QueuedTask) : ∀ (s : LoopState) (x : String),
    statusOf (tasks.foldl (dispatchOne cfg env) s).world x =
      if ∃ a ∈ attempts cfg env tasks s, a.handed ∧ a.agentId = x then some .working
      else statusOf s.world x := by
  induction tasks with
  | nil =>
      intro s x
      simp [attempts]
  | cons task tasks ih =>
      intro s x
      rw [List.foldl_cons, ih, statusOf_dispatchOne]
      by_cases hhead : ∃ a, attemptOf cfg env s task = some a ∧ a.handed ∧ a.agentId = x
      · rw [if_pos hhead, ite_self]
        obtain ⟨a, ha, hrest⟩ := hhead
        exact (if_pos ⟨a, List.mem_append_left _ (Option.mem_toList.mpr ha), hrest⟩).symm
      · rw [if_neg hhead]
        refine if_congr ?_ rfl rfl
        constructor
        · rintro ⟨a, ha, hrest⟩
          exact ⟨a, List.mem_append_right _ ha, hrest⟩
        · rintro ⟨a, ha, hrest⟩
          rcases List.mem_append.mp ha with ha | ha
          · exact absurd ⟨a, Option.mem_toList.mp ha, hrest⟩ hhead
          · exact ⟨a, ha, hrest⟩

/-- **After a hand-over there is no further attempt for the agent.** -/
theorem pairwise_attempts (tasks : List QueuedTask) : ∀ s : LoopState,
    (attempts cfg env tasks s).Pairwise fun a b => a.handed → b.agentId ≠ a.agentId := by
  induction tasks with
  | nil =>
      intro s
      exact .nil
  | cons task tasks ih =>
      intro s
      cases h : attemptOf cfg env s task with
      | none =>
          unfold attempts
          rw [h]
          exact ih _
      | some a =>
          unfold attempts
          rw [h]
          refine List.pairwise_cons.mpr ⟨fun b hb hhanded => ?_, ih _⟩
          refine agentId_ne_of_working tasks _ _ ?_ b hb
          rw [statusOf_dispatchOne, if_pos ⟨a, h, hhanded, rfl⟩]

/-- A row that still holds goes on holding while other rows are dispatched. -/
theorem fresh_foldl (tasks : List QueuedTask) : ∀ (s : LoopState) (other : QueuedTask),
    Pending s.board tasks → (∀ task ∈ tasks, task.id ≠ other.id) → Fresh s.board other →
      Fresh (tasks.foldl (dispatchOne cfg env) s).board other := by
  induction tasks with
  | nil =>
      intro s other _ _ h
      exact h
  | cons task tasks ih =>
      intro s other hpending hne hother
      refine ih _ other (hpending.tail cfg env) (fun row hrow => ?_) ?_
      · exact hne row (List.mem_cons_of_mem _ hrow)
      · exact fresh_dispatchOne cfg env (hpending.fresh task List.mem_cons_self)
          (hne task List.mem_cons_self) hother

/-- A hand-over that fails in the first turn. -/
theorem failed_head {task : QueuedTask} {tasks : List QueuedTask} {a : Attempt}
    (hpending : Pending s.board (task :: tasks)) (h : attemptOf cfg env s task = some a)
    (hfailed : a.handed = false) :
    Fresh (tasks.foldl (dispatchOne cfg env) (dispatchOne cfg env s task)).board a.task ∧
      (statusOf (tasks.foldl (dispatchOne cfg env) (dispatchOne cfg env s task)).world a.agentId =
          some .idle ∨
        ∃ b ∈ attempts cfg env tasks (dispatchOne cfg env s task), b.handed ∧ b.agentId = a.agentId) := by
  obtain ⟨hne, -⟩ := List.pairwise_cons.mp hpending.distinct
  obtain ⟨htask, -⟩ := gated_of_attemptOf h
  constructor
  · rw [htask]
    exact fresh_foldl tasks _ _ (hpending.tail cfg env) (fun row hrow => (hne row hrow).symm)
      (fresh_of_failed h hfailed (hpending.fresh task List.mem_cons_self))
  · have hidle : statusOf s.world a.agentId = some .idle :=
      (congrArg (fun row => statusOf s.world row.assigneeAgentId) htask).trans (idle_of_attempt h)
    rw [statusOf_foldl]
    split
    · rename_i hlater
      exact .inr hlater
    · left
      rw [statusOf_dispatchOne, if_neg]
      · exact hidle
      · rintro ⟨a', ha', hhanded, -⟩
        obtain rfl := Option.some.inj (h.symm.trans ha')
        exact absurd (hhanded.symm.trans hfailed) (by simp)

/-- **A hand-over that failed** leaves the task queued, and its agent idle unless a later hand-over to it
succeeded. -/
theorem failed_attempt (tasks : List QueuedTask) : ∀ s : LoopState, Pending s.board tasks →
    ∀ l₁ a l₂, attempts cfg env tasks s = l₁ ++ a :: l₂ → a.handed = false →
      Fresh (tasks.foldl (dispatchOne cfg env) s).board a.task ∧
        (statusOf (tasks.foldl (dispatchOne cfg env) s).world a.agentId = some .idle ∨
          ∃ b ∈ l₂, b.handed ∧ b.agentId = a.agentId) := by
  induction tasks with
  | nil =>
      intro s _ l₁ a l₂ heq
      exact absurd heq (by simp [attempts])
  | cons task tasks ih =>
      intro s hpending l₁ a l₂ heq hfailed
      unfold attempts at heq
      rw [List.foldl_cons]
      cases h : attemptOf cfg env s task with
      | none =>
          rw [h] at heq
          exact ih _ (hpending.tail cfg env) l₁ a l₂ heq hfailed
      | some a₀ =>
          rw [h] at heq
          cases l₁ with
          | cons b l₁ =>
              obtain ⟨-, heq⟩ := List.cons.inj heq
              exact ih _ (hpending.tail cfg env) l₁ a l₂ heq hfailed
          | nil =>
              obtain ⟨rfl, rfl⟩ := List.cons.inj heq
              exact failed_head hpending h hfailed

end Loop

/-! ### A tick -/

/-- The task was queued with the assignee, the blocker and the room of the row. -/
def Attempt.WasQueued (db : Db) (a : Attempt) : Prop :=
  ∃ t, db.tasks.lookup a.task.id = some t ∧ t.status = .queued ∧
    t.assigneeAgentId = some a.agentId ∧ t.blockedOn = a.task.blockedOn ∧
      t.requiredRoom = a.task.requiredRoom

/-- The attempt is made by the loop: the rows before its row are dispatched, and a blocker is forgotten. -/
def Attempt.Made (cfg : Config) (env : Env) (s : LoopState) (a : Attempt) : Prop :=
  ∃ rows rest, queuedTasks env s.db = rows ++ a.task :: rest ∧
    a.before = clearBlocker env (rows.foldl (dispatchOne cfg env) s) a.task ∧
    a.handed = (handOver cfg env (startWork env a.before a.task) a.task).1

section Rest

variable {env : Env} {s : LoopState}

/-! The rest of a tick leaves the avatars alone. -/

/-- A loop over what leaves the avatars alone leaves them alone. -/
theorem world_foldl {ι : Type*} {f : LoopState → ι → LoopState} (hf : ∀ s i, (f s i).world = s.world)
    (l : List ι) (s : LoopState) : (l.foldl f s).world = s.world :=
  List.foldlRecOn (motive := fun t => t.world = s.world) l f rfl fun t ht i _ => (hf t i).trans ht

theorem world_autoSteal (startupId taskId current : String) :
    (autoSteal env s startupId taskId current).world = s.world := by
  unfold autoSteal
  split
  · rfl
  · split
    · rfl
    · split <;> rfl

theorem world_autoRecover (startupId taskId current : String) (reviewRound : ℕ) :
    (autoRecover env s startupId taskId current reviewRound).world = s.world := by
  unfold autoRecover
  split
  · rfl
  · split <;> rfl

theorem world_deadlineScan : (deadlineScan env s).world = s.world := by
  unfold deadlineScan
  exact world_foldl (fun _ _ => by rfl) _ s

theorem world_autoStealPass : (autoStealPass env s).world = s.world := by
  unfold autoStealPass
  refine world_foldl (fun s startup => ?_) _ s
  exact world_foldl (fun _ _ => world_autoSteal _ _ _) _ s

theorem world_autoRecoveryPass : (autoRecoveryPass env s).world = s.world := by
  unfold autoRecoveryPass
  refine world_foldl (fun s startup => ?_) _ s
  exact world_foldl (fun _ _ => world_autoRecover _ _ _ _) _ s

variable (cfg : Config) (env s) in
theorem world_schedulerTick : (schedulerTick cfg env s).world = (dispatchLoop cfg env s).world :=
  world_autoRecoveryPass.trans (world_autoStealPass.trans world_deadlineScan)

end Rest

section Tick

variable (cfg : Config) (env : Env) (s : LoopState)

/-- **Dispatch is sound.** What is handed over was queued and passed its gates at that moment, and its
agent is working afterwards, with one task in a tick. What could not be handed over is queued after the
loop, and its agent is idle unless another task was handed to it later in the loop. -/
theorem dispatch_sound :
    (∀ a ∈ tickAttempts cfg env s, a.WasQueued s.db ∧ a.Made cfg env s ∧ a.Gated cfg) ∧
      (∀ a ∈ dispatched cfg env s,
        statusOf (schedulerTick cfg env s).world a.agentId = some .working) ∧
      (dispatched cfg env s).Pairwise (fun a b => a.agentId ≠ b.agentId) ∧
      ∀ l₁ a l₂, tickAttempts cfg env s = l₁ ++ a :: l₂ → a.handed = false →
        Fresh (dispatchLoop cfg env s).board a.task ∧
          (statusOf (dispatchLoop cfg env s).world a.agentId = some .idle ∨
            ∃ b ∈ l₂, b.handed ∧ b.agentId = a.agentId) := by
  refine ⟨fun a ha => ?_, fun a ha => ?_, ?_, ?_⟩
  · obtain ⟨rows, rest, hrows, hattempt⟩ := made_of_mem_attempts _ s a ha
    obtain ⟨-, hbefore, hgated, hhanded, -⟩ := gated_of_attemptOf hattempt
    have hmem : a.task ∈ queuedTasks env s.db := by
      rw [hrows]
      exact List.mem_append_right _ List.mem_cons_self
    exact ⟨mem_queuedTasks hmem, ⟨rows, rest, hrows, hbefore, hhanded⟩, hgated⟩
  · obtain ⟨hmem, hhanded⟩ := List.mem_filter.mp ha
    rw [world_schedulerTick]
    unfold dispatchLoop
    rw [statusOf_foldl, if_pos ⟨a, hmem, hhanded, rfl⟩]
  · unfold dispatched
    rw [List.pairwise_filter]
    exact (pairwise_attempts _ s).imp fun hne hhanded _ => (hne hhanded).symm
  · exact failed_attempt _ s (pending_queuedTasks env s)

end Tick

/-- The engineer has two queued tasks and a worker. -/
noncomputable def twoTasksState : LoopState :=
  runEvents sampleConfig sampleStartup.state
    [sampleCreate 1 "1" (some "a-2"), sampleCreate 2 "2" (some "a-2"), .registerWorker "a-2"]

/-- The channel of a worker is full when one task is sent, and drained when the next one is. -/
def fullEnv (taskId : String) : Env :=
  { sampleEnv 3 "t" with
    trySend := fun _ frame => if frame.getStr "task_id" = some taskId then .full else .ok }

/-- **Not idle in every case**: the first task cannot be handed over, the second one can, and the engineer
is working. -/
theorem not_idle_after_failed :
    ¬ ∀ (cfg : Config) (env : Env) (s : LoopState), ∀ a ∈ tickAttempts cfg env s, a.handed = false →
      Fresh (dispatchLoop cfg env s).board a.task ∧
        statusOf (dispatchLoop cfg env s).world a.agentId = some .idle := by
  intro h
  have hfailed : ∃ a ∈ tickAttempts sampleConfig (fullEnv "T_1") twoTasksState, a.handed = false ∧
      statusOf (dispatchLoop sampleConfig (fullEnv "T_1") twoTasksState).world a.agentId =
        some .working := by
    decide +kernel
  obtain ⟨a, ha, hhanded, hworking⟩ := hfailed
  have hidle := (h sampleConfig (fullEnv "T_1") twoTasksState a ha hhanded).2
  exact absurd (hidle.symm.trans hworking) (by simp)

end Cliptown.Task
