import Cliptown.Task.Ready
import Cliptown.Task.StatusChanges
import Cliptown.Worker.Supervisor

/-!
# Workers of single tasks

In per-task mode the scheduler spawns a worker for each task that it hands over. The loop that watches the worker
does not know what becomes of the task, and the world does not know what becomes of the worker.

* `TaskWorker`, `PerTaskState`, `perTaskSystem` — the requests to the world and the steps of the loops, in any order.
* `Settled`, `Guarded` — no loop has a step to take; every task in progress has a worker.
* `Guards` — what a step should do; `ExitsFinished` — a loop ends when the task of its worker is not in progress.
* `Served` — the invariant: the worker that was spawned for a task is there as long as the task is in progress.
* `run_guards_iff` — the steps of a run do what they should exactly if they meet the condition.
-/

namespace Cliptown.Worker

open Cliptown.Lib Cliptown.Task

/-! ### What a loop waits for -/

namespace Watch

/-- The child runs. -/
def Live : Watch → Prop
  | .waiting _ c => c.Running
  | _ => False

/-- The child is spawned again when the sleep is over. -/
def Scheduled : Watch → Prop
  | .sleeping _ => True
  | _ => False

/-- The loop has no step to take: it waits for its child or sleeps, or it has returned. -/
def Settled (w : Watch) : Prop :=
  w.Live ∨ w.Scheduled ∨ w = .done

/-- The next step is to end the loop: the child has exited cleanly or too often, or there is a tombstone. -/
def Final (backoffMs : List ℕ) (buried : Prop) : Watch → Prop
  | .exited failures success => buried ∨ success = true ∨ backoffMs.length < failures + 1
  | .sleeping _ => buried
  | _ => False

end Watch

/-! ### Workers and requests -/

/-- A worker that was spawned for a task, and where its loop is. -/
structure TaskWorker where
  config : SpawnConfig
  watch : Watch
  deriving DecidableEq, Repr

/-- The worker was spawned for this task of this agent. -/
def TaskWorker.Serves (worker : TaskWorker) (taskId agentId : String) : Prop :=
  worker.config.task.map TaskSpawn.taskId = some taskId ∧ worker.config.agentId = agentId

/-- Its task is in progress. -/
def TaskWorker.Unfinished (worker : TaskWorker) (db : Db) : Prop :=
  ∃ taskId agentId, worker.Serves taskId agentId ∧ InProgress db taskId agentId

/-- The world, the tables of the supervisor, and the workers with their loops. -/
structure PerTaskState where
  loop : LoopState
  sup : AgentSupervisor
  workers : List TaskWorker

/-- A message of a worker that the world answers, and no more. Source: `cmd_worker.rs` `dispatch`, the stubs -/
inductive StubbedInbound where
  | reportFsOp (op path : String) (bytes : ℤ) (ok : Bool) (error : Option String)
  | cliSessionStarted (taskId : Option String) (promptHash : String)
  | cliSessionEnded (taskId : Option String) (exitCode : ℤ) (summary : Option String)
  | taskProgress (taskId note : String)

/-- A request to the world, with the process ids of the workers that it spawns; a message that changes nothing; or a
step of a loop or of its child. -/
inductive PerTaskLabel where
  | request (l : LoopEvent) (pid : String → ℕ)
  | stubbed (agentId : String) (m : StubbedInbound)
  | watch (i : ℕ)

/-- What the scheduler spawns workers with at a request. Source: `scheduler.rs` `tick` -/
def spawned (cfg : Config) (s : LoopState) (l : LoopEvent) : List SpawnConfig :=
  if cfg.perTaskMode then
    ((l.attempts cfg s).filter Attempt.handed).map fun a =>
      a.task.spawnConfig (cfg.agentSecret a.agentId) cfg.worldUrl
  else []

namespace PerTaskState

/-- Source: `agent_supervisor.rs` `spawn_agent` -/
def spawnAgent (s : PerTaskState) (c : SpawnConfig) (pid : ℕ) : PerTaskState :=
  { s with sup := s.sup.insertAgent c pid, workers := s.workers ++ [⟨c, .waiting 0 (.spawned pid)⟩] }

/-- The state after a request. -/
def request (cfg : Config) (s : PerTaskState) (l : LoopEvent) (pid : String → ℕ) : PerTaskState :=
  (spawned cfg s.loop l).foldl (fun s c => s.spawnAgent c (pid c.agentId)) { s with loop := l.apply cfg s.loop }

end PerTaskState

/-- A request, a message, or a step of a loop. -/
inductive PerTaskStep (cfg : Config) (backoffMs : List ℕ) : PerTaskState → PerTaskLabel → PerTaskState → Prop
  | request {s : PerTaskState} (l : LoopEvent) (pid : String → ℕ) :
      PerTaskStep cfg backoffMs s (.request l pid) (s.request cfg l pid)
  | stubbed {s : PerTaskState} {agentId : String} {m : StubbedInbound} :
      PerTaskStep cfg backoffMs s (.stubbed agentId m) s
  | watch {s : PerTaskState} {i : ℕ} {worker : TaskWorker} {sup : AgentSupervisor} {w : Watch} :
      s.workers[i]? = some worker → WatchStep worker.config backoffMs (s.sup, worker.watch) (sup, w) →
      PerTaskStep cfg backoffMs s (.watch i) { s with sup, workers := s.workers.set i ⟨worker.config, w⟩ }

/-- The runs: at first there are no tasks and no workers. -/
def perTaskSystem (cfg : Config) (backoffMs : List ℕ) : System PerTaskState PerTaskLabel where
  init s := (loopSystem cfg).init s.loop ∧ s.sup = ⟨∅, ∅⟩ ∧ s.workers = []
  step := PerTaskStep cfg backoffMs

/-! ### Condition and property -/

/-- All steps that the loops can take have been taken. -/
def PerTaskState.Settled (s : PerTaskState) : Prop :=
  ∀ worker ∈ s.workers, worker.watch.Settled

/-- A task in progress has a worker for its assignee, which runs or will be spawned again. -/
def PerTaskState.Guarded (s : PerTaskState) : Prop :=
  ∀ taskId task, s.loop.db.tasks.lookup taskId = some task → task.status = .inProgress →
    ∃ worker ∈ s.workers, task.assigneeAgentId = some worker.config.agentId ∧
      (worker.watch.Live ∨ worker.watch.Scheduled)

/-- When no loop has a step to take, the tasks in progress have workers; and a loop that ends leaves the task of its
worker not in progress. -/
structure Guards (_s : PerTaskState) (l : PerTaskLabel) (t : PerTaskState) : Prop where
  guarded : t.Settled → t.Guarded
  ended : ∀ i worker, l = .watch i → t.workers[i]? = some worker → worker.watch = .removing →
    ¬ worker.Unfinished t.loop.db

/-- A loop takes the step that ends it when the task of its worker is not in progress. -/
def ExitsFinished (backoffMs : List ℕ) (s : PerTaskState) : PerTaskLabel → Prop
  | .watch i => ∀ worker, s.workers[i]? = some worker →
      worker.watch.Final backoffMs (worker.config.agentId ∈ s.sup.tombstones) → ¬ worker.Unfinished s.loop.db
  | _ => True

/-- The worker that was spawned for a task looks after it as long as the task is in progress. -/
structure Served (s : PerTaskState) : Prop where
  worker : ∀ taskId agentId, s.loop.board.Running taskId agentId →
    ∃ worker ∈ s.workers, worker.Serves taskId agentId ∧ worker.watch.Watchful
  staffed : s.loop.board.Staffed

/-! ### Steps of the loops -/

/-- **The last step of a loop** is told by the state before it. -/
theorem WatchStep.removing_iff {c : SpawnConfig} {backoffMs : List ℕ} {sup sup' : AgentSupervisor} {w w' : Watch}
    (h : WatchStep c backoffMs (sup, w) (sup', w')) :
    w' = .removing ↔ w.Final backoffMs (c.agentId ∈ sup.tombstones) := by
  cases h with
  | exit success hc _ =>
      cases w with
      | inserting _ | waiting _ _ | recording _ _ => exact iff_of_false (by simp [Watch.mapChild]) id
      | _ => exact absurd hc (by simp [Watch.child])
  | terminated hmem => exact iff_of_true rfl (.inl hmem)
  | @check _ failures success hnone =>
      unfold Watch.afterExit Watch.Final
      split
      · exact iff_of_true rfl (.inr (.inl ‹_›))
      · split
        · exact iff_of_true rfl (.inr (.inr ‹_›))
        · refine iff_of_false (by simp) ?_
          rintro (hmem | hsuccess | hlast)
          · exact hnone hmem
          · exact absurd hsuccess ‹_›
          · exact absurd hlast ‹_›
  | cancelled hmem => exact iff_of_true rfl hmem
  | wake hnone => exact iff_of_false (by simp) hnone
  | _ => exact iff_of_false (by simp) id

/-- A loop that would go on and has no step to take. -/
theorem Watch.Settled.watchful {w : Watch} (h : w.Settled) (hw : w.Watchful) : w.Live ∨ w.Scheduled := by
  rcases h with hlive | hscheduled | hdone
  · exact .inl hlive
  · exact .inr hscheduled
  · exact absurd hdone hw.ne_done

/-! ### Requests -/

section Requests

variable {cfg : Config} {s : LoopState} {l : LoopEvent}

/-- **What runs after a request** ran before, or was handed over. -/
theorem running_of_apply {taskId agentId : String} (h : (l.apply cfg s).board.Running taskId agentId) :
    s.board.Running taskId agentId ∨
      ∃ a ∈ l.attempts cfg s, a.handed ∧ a.task.id = taskId ∧ a.agentId = agentId := by
  have hother : ¬ l.Scheduler → s.board.Running taskId agentId := by
    intro hl
    refine running_of_event ?_ h
    rcases request_board cfg s l hl with hboard | ⟨e, hstep, hemits⟩
    · exact .inl hboard
    · refine .inr ⟨e, hstep, ?_⟩
      rintro rfl
      exact absurd trivial (not_scheduled_of_emits hemits)
  cases l with
  | tick env =>
      have htick : (schedulerTick cfg env (afterMoves env s)).board.Running taskId agentId := h
      have hmoves : (afterMoves env s).board = s.board := board_afterMoves
      rw [← hmoves]
      exact running_of_tick htick
  | autoSteal env => exact .inl (running_of_autoStealPass h)
  | autoRecovery env => exact .inl (running_of_autoRecoveryPass h)
  | _ => exact .inl (hother id)

/-- A request keeps the assignees of the tasks in progress. -/
theorem staffed_apply (h : s.board.Staffed) : (l.apply cfg s).board.Staffed := by
  rcases apply_board cfg s l with ⟨es, hrun, -⟩ | ⟨e, hstep, -⟩
  · exact hrun.preserves (fun _ _ _ hs hst => hs.step hst) h
  · exact h.step hstep

/-- Workers that are spawned one after the other. -/
theorem foldl_spawnAgent (pid : String → ℕ) (cs : List SpawnConfig) : ∀ s : PerTaskState,
    (cs.foldl (fun s c => s.spawnAgent c (pid c.agentId)) s).loop = s.loop ∧
      (cs.foldl (fun s c => s.spawnAgent c (pid c.agentId)) s).workers =
        s.workers ++ cs.map fun c => ⟨c, .waiting 0 (.spawned (pid c.agentId))⟩ := by
  induction cs with
  | nil => exact fun s => ⟨rfl, (List.append_nil _).symm⟩
  | cons c cs ih =>
      intro s
      obtain ⟨hloop, hworkers⟩ := ih (s.spawnAgent c (pid c.agentId))
      refine ⟨hloop, hworkers.trans ?_⟩
      rw [PerTaskState.spawnAgent, List.append_assoc]
      rfl

@[simp]
theorem loop_request (s : PerTaskState) (pid : String → ℕ) : (s.request cfg l pid).loop = l.apply cfg s.loop :=
  (foldl_spawnAgent pid _ _).1

theorem workers_request (s : PerTaskState) (pid : String → ℕ) : (s.request cfg l pid).workers =
    s.workers ++ (spawned cfg s.loop l).map fun c => ⟨c, .waiting 0 (.spawned (pid c.agentId))⟩ :=
  (foldl_spawnAgent pid _ _).2

/-- A task that is handed over gets a worker. -/
theorem exists_worker (hmode : cfg.perTaskMode = true) (s : PerTaskState) (pid : String → ℕ) {a : Attempt}
    (ha : a ∈ l.attempts cfg s.loop) (hhanded : a.handed = true) :
    ∃ worker ∈ (s.request cfg l pid).workers, worker.Serves a.task.id a.agentId ∧ worker.watch.Watchful := by
  have hmem : a.task.spawnConfig (cfg.agentSecret a.agentId) cfg.worldUrl ∈ spawned cfg s.loop l := by
    unfold spawned
    rw [if_pos hmode]
    exact List.mem_map.mpr ⟨a, List.mem_filter.mpr ⟨ha, hhanded⟩, rfl⟩
  rw [workers_request]
  exact ⟨_, List.mem_append_right _ (List.mem_map_of_mem hmem), ⟨rfl, rfl⟩, trivial⟩

end Requests

/-! ### Runs -/

section Runs

variable {cfg : Config} {backoffMs : List ℕ} {s t : PerTaskState} {l : PerTaskLabel}

/-- A worker after a step of its loop. -/
theorem getElem?_stepped {workers : List TaskWorker} {i : ℕ} {worker : TaskWorker} (h : workers[i]? = some worker)
    (w : Watch) : (workers.set i ⟨worker.config, w⟩)[i]? = some ⟨worker.config, w⟩ :=
  List.getElem?_set_self (List.getElem?_eq_some_iff.mp h).choose

/-- **A step** in which no loop ends too early keeps the workers. -/
theorem Served.step (hmode : cfg.perTaskMode = true) (h : Served s) (hstep : PerTaskStep cfg backoffMs s l t)
    (hended : ∀ i worker, l = .watch i → t.workers[i]? = some worker → worker.watch = .removing →
      ¬ worker.Unfinished t.loop.db) : Served t := by
  cases hstep with
  | request l pid =>
      refine ⟨fun taskId agentId hrunning => ?_, ?_⟩
      · rw [loop_request] at hrunning
        rcases running_of_apply hrunning with hbefore | ⟨a, ha, hhanded, rfl, rfl⟩
        · obtain ⟨worker, hmem, hserves⟩ := h.worker taskId agentId hbefore
          exact ⟨worker, by rw [workers_request]; exact List.mem_append_left _ hmem, hserves⟩
        · exact exists_worker hmode s pid ha hhanded
      · rw [loop_request]
        exact staffed_apply h.staffed
  | stubbed => exact h
  | @watch i worker sup w hworker hwatch =>
      refine ⟨fun taskId agentId hrunning => ?_, h.staffed⟩
      obtain ⟨other, hmem, hserves, hwatchful⟩ := h.worker taskId agentId hrunning
      obtain ⟨j, hj⟩ := List.mem_iff_getElem?.mp hmem
      by_cases hij : i = j
      · subst hij
        obtain rfl := Option.some.inj (hworker.symm.trans hj)
        have hself : (s.workers.set i ⟨worker.config, w⟩)[i]? = some ⟨worker.config, w⟩ :=
          getElem?_stepped hj w
        refine ⟨⟨worker.config, w⟩, List.mem_of_getElem? hself, hserves, ?_⟩
        refine (hwatch.watchful hwatchful).resolve_right fun hremoving => ?_
        exact hended i _ rfl hself hremoving ⟨taskId, agentId, hserves, running_iff.mp hrunning⟩
      · have hkept : (s.workers.set i ⟨worker.config, w⟩)[j]? = some other :=
          (List.getElem?_set_ne hij).trans hj
        exact ⟨other, List.mem_of_getElem? hkept, hserves, hwatchful⟩

/-- **Where no loop has a step to take**, the tasks in progress have workers. -/
theorem Served.guarded (h : Served s) (hsettled : s.Settled) : s.Guarded := by
  intro taskId task htask hprogress
  obtain ⟨agentId, hassignee⟩ :=
    Option.isSome_iff_exists.mp (h.staffed taskId task.card (card_of_lookup htask) hprogress)
  obtain ⟨worker, hmem, ⟨-, rfl⟩, hwatchful⟩ := h.worker taskId agentId ⟨task.card, card_of_lookup htask, hprogress,
    hassignee⟩
  exact ⟨worker, hmem, hassignee, (hsettled worker hmem).watchful hwatchful⟩

/-- **What a step should do** is to end no loop while the task of its worker is in progress. -/
theorem guards_iff (hmode : cfg.perTaskMode = true) (hstep : PerTaskStep cfg backoffMs s l t) (h : Served s) :
    Guards s l t ↔ ExitsFinished backoffMs s l := by
  constructor
  · intro hguards
    cases hstep with
    | request l pid => trivial
    | stubbed => trivial
    | @watch i worker sup w hworker hwatch =>
        intro other hother hfinal
        obtain rfl := Option.some.inj (hworker.symm.trans hother)
        have hself : (s.workers.set i ⟨worker.config, w⟩)[i]? = some ⟨worker.config, w⟩ :=
          getElem?_stepped hworker w
        have hnot := hguards.ended i _ rfl hself (hwatch.removing_iff.mpr hfinal)
        exact hnot
  · intro hexits
    have hended : ∀ i worker, l = .watch i → t.workers[i]? = some worker → worker.watch = .removing →
        ¬ worker.Unfinished t.loop.db := by
      rintro i other rfl hother hremoving
      cases hstep with
      | @watch _ worker sup w hworker hwatch =>
          have hself : (s.workers.set i ⟨worker.config, w⟩)[i]? = some ⟨worker.config, w⟩ :=
            getElem?_stepped hworker w
          obtain rfl := Option.some.inj (hself.symm.trans hother)
          exact hexits worker hworker (hwatch.removing_iff.mp hremoving)
    exact ⟨fun hsettled => (h.step hmode hstep hended).guarded hsettled, hended⟩

theorem Served.of_init (h : (perTaskSystem cfg backoffMs).init s) : Served s := by
  have hnone := (board_of_init h.1).1
  constructor
  · rintro taskId agentId ⟨c, hc, -⟩
    exact absurd ((hnone taskId).symm.trans hc) (by simp)
  · intro taskId c hc
    exact absurd ((hnone taskId).symm.trans hc) (by simp)

/-- **No orphaned task**, in per-task mode: the steps of a run leave no task in progress without a worker, and end no
loop while the task of its worker is in progress, exactly if every loop that ends does so when that task is not in
progress any more. Source: `agent_supervisor.rs` `watch_loop`, `scheduler.rs` `tick`, `cmd_worker.rs` `dispatch` -/
theorem run_guards_iff {ls : List PerTaskLabel} (hmode : cfg.perTaskMode = true)
    (hs : (perTaskSystem cfg backoffMs).init s) :
    Run ((perTaskSystem cfg backoffMs).restrict (ExitsFinished backoffMs)).step s ls t ↔
      Run ((perTaskSystem cfg backoffMs).keeping Guards).step s ls t := by
  refine System.run_restrict_iff_keeping (I := Served) ?_ ?_ (Served.of_init hs)
  · exact fun s l t hstep h => guards_iff hmode hstep h
  · exact fun s l t hstep h hguards => h.step hmode hstep hguards.ended

variable (cfg backoffMs) in
/-- **A clean exit** of the only worker: its loop ends. -/
theorem run_exit {C : PerTaskState → PerTaskLabel → Prop} {c : SpawnConfig} {pid : ℕ}
    (hworkers : s.workers = [⟨c, .waiting 0 (.spawned pid)⟩]) (hnone : s.sup.tombstones = ∅)
    (hC : ∀ w, C { s with workers := [⟨c, w⟩] } (.watch 0)) :
    Run ((perTaskSystem cfg backoffMs).restrict C).step s [.watch 0, .watch 0, .watch 0, .watch 0]
      { s with sup := s.sup.removeAgent c.agentId, workers := [⟨c, .done⟩] } := by
  have hstep : ∀ {w w' : Watch} {sup : AgentSupervisor}, WatchStep c backoffMs (s.sup, w) (sup, w') →
      ((perTaskSystem cfg backoffMs).restrict C).step { s with workers := [⟨c, w⟩] } (.watch 0)
        { s with sup, workers := [⟨c, w'⟩] } := by
    intro w w' sup hwatch
    have hworker : [TaskWorker.mk c w][0]? = some ⟨c, w⟩ := rfl
    exact ⟨hC w, .watch (s := { s with workers := [⟨c, w⟩] }) hworker hwatch⟩
  have hfirst : s = { s with workers := [⟨c, .waiting 0 (.spawned pid)⟩] } := by
    rw [← hworkers]
  rw [hfirst]
  refine .cons (hstep (.exit true rfl ⟨false, rfl⟩)) (.cons (hstep (.wait rfl)) (.cons (hstep (.check ?_)) ?_))
  · rw [hnone]
    exact Finset.notMem_empty _
  · exact .single (hstep .remove)

end Runs

/-! ### One task -/

/-- Every task has a worker of its own. -/
noncomputable def perTaskConfig : Config :=
  { sampleConfig with perTaskMode := true }

/-- At first. -/
noncomputable def freshPerTask : PerTaskState :=
  ⟨sampleStartup.state, ⟨∅, ∅⟩, []⟩

/-- The engineer is given a task, and a worker is spawned for it. -/
def handedRequests : List LoopEvent :=
  [sampleCreate 1 "1" (some "a-2"), .tick (sampleEnv 4 "t")]

/-- The engineer reports the task as failed. -/
def failedReport : LoopEvent :=
  sampleCall 5 "a-2" "task_failed" [("task_id", .str "T_1")]

/-- The state after requests; every worker gets the same process id. -/
noncomputable def requestsPerTask (ls : List LoopEvent) : PerTaskState :=
  ls.foldl (fun s l => s.request perTaskConfig l fun _ => 7) freshPerTask

theorem freshPerTask_init (backoffMs : List ℕ) : (perTaskSystem perTaskConfig backoffMs).init freshPerTask :=
  ⟨sampleStartup.init perTaskConfig, rfl, rfl⟩

/-- Requests are a run, and no loop ends in it. -/
theorem run_requests (backoffMs : List ℕ) {C : PerTaskState → PerTaskLabel → Prop}
    (hC : ∀ s l pid, C s (.request l pid)) (ls : List LoopEvent) : ∀ s : PerTaskState,
    Run ((perTaskSystem perTaskConfig backoffMs).restrict C).step s (ls.map fun l => .request l fun _ => 7)
      (ls.foldl (fun s l => s.request perTaskConfig l fun _ => 7) s) := by
  induction ls with
  | nil => exact fun s => .nil s
  | cons l ls ih => exact fun s => .cons ⟨hC s l _, .request l _⟩ (ih _)

/-- The worker of the task, before and after the report. -/
theorem exists_handed_worker : ∃ c : SpawnConfig, c.agentId = "a-2" ∧ c.task.map TaskSpawn.taskId = some "T_1" ∧
    (requestsPerTask handedRequests).workers = [⟨c, .waiting 0 (.spawned 7)⟩] ∧
      (requestsPerTask (handedRequests ++ [failedReport])).workers = [⟨c, .waiting 0 (.spawned 7)⟩] := by
  have hone : (requestsPerTask handedRequests).workers.map TaskWorker.watch = [.waiting 0 (.spawned 7)] := by
    decide +kernel
  have hsame : (requestsPerTask (handedRequests ++ [failedReport])).workers =
      (requestsPerTask handedRequests).workers := by
    decide +kernel
  have hserves : ∀ worker ∈ (requestsPerTask handedRequests).workers, worker.config.agentId = "a-2" ∧
      worker.config.task.map TaskSpawn.taskId = some "T_1" := by
    decide +kernel
  obtain ⟨worker, hworkers, hwatch⟩ := List.map_eq_singleton_iff.mp hone
  obtain ⟨hagent, htask⟩ := hserves worker (by rw [hworkers]; exact List.mem_singleton_self _)
  obtain ⟨c, w⟩ := worker
  obtain rfl : w = .waiting 0 (.spawned 7) := hwatch
  exact ⟨c, hagent, htask, hworkers, hsame.trans hworkers⟩

/-- The engineer reports before its worker exits. -/
theorem run_guards_reported : ∃ (s t : PerTaskState) (ls : List PerTaskLabel),
    (perTaskSystem perTaskConfig [1000, 5000, 30000]).init s ∧
      Run ((perTaskSystem perTaskConfig [1000, 5000, 30000]).keeping Guards).step s ls t ∧
        t.workers.map TaskWorker.watch = [.done] := by
  obtain ⟨c, hagent, htask, -, hworkers⟩ := exists_handed_worker
  have hover : ¬ InProgress (requestsPerTask (handedRequests ++ [failedReport])).loop.db "T_1" "a-2" := by
    decide +kernel
  have hrequests := run_requests [1000, 5000, 30000] (C := ExitsFinished [1000, 5000, 30000])
    (fun _ _ _ => trivial) (handedRequests ++ [failedReport]) freshPerTask
  have hexit := run_exit perTaskConfig [1000, 5000, 30000] (C := ExitsFinished [1000, 5000, 30000]) hworkers
    (by decide +kernel) fun w worker hworker _ => by
      obtain rfl := Option.some.inj hworker
      rintro ⟨taskId, agentId, ⟨htaskId, rfl⟩, hprogress⟩
      obtain rfl := Option.some.inj (htask.symm.trans htaskId)
      rw [hagent] at hprogress
      exact hover hprogress
  exact ⟨freshPerTask, _, _, freshPerTask_init _,
    (run_guards_iff rfl (freshPerTask_init _)).mp (hrequests.trans hexit), rfl⟩

/-- **A worker exits cleanly** and has not reported: the task stays in progress, and nobody works on it. -/
theorem not_guarded :
    ¬ ∀ (cfg : Config) (backoffMs : List ℕ) (s : PerTaskState), cfg.perTaskMode = true →
      (perTaskSystem cfg backoffMs).Reachable s → s.Settled → s.Guarded := by
  intro h
  obtain ⟨c, -, -, hworkers, -⟩ := exists_handed_worker
  have hrequests := run_requests [1000, 5000, 30000] (C := fun _ _ => True) (fun _ _ _ => trivial) handedRequests
    freshPerTask
  have hexit := run_exit perTaskConfig [1000, 5000, 30000] (C := fun _ _ => True) hworkers (by decide +kernel)
    fun _ => trivial
  have hreachable := (System.Reachable.init (freshPerTask_init [1000, 5000, 30000])).run
    (System.run_of_restrict (hrequests.trans hexit))
  have hsettled : ∀ worker ∈ [TaskWorker.mk c .done], worker.watch.Settled := by
    intro worker hmem
    rw [List.mem_singleton.mp hmem]
    exact .inr (.inr rfl)
  have htask : ∃ task ∈ (requestsPerTask handedRequests).loop.db.tasks.lookup "T_1",
      task.status = .inProgress := by
    decide +kernel
  obtain ⟨task, htask, hprogress⟩ := htask
  obtain ⟨worker, hmem, -, hguard⟩ := h perTaskConfig _ _ rfl hreachable hsettled "T_1" task htask hprogress
  rw [List.mem_singleton.mp hmem] at hguard
  exact hguard.elim id id

end Cliptown.Worker
