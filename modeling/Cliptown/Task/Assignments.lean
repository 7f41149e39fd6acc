import Cliptown.Task.Attempts

/-!
# What the audit trail says about assignments

The scheduler writes that a task was assigned before it hands the task over, and a hand-over that fails
takes back the status of the task and of the avatar, but not the entry.

* `assignedTimes` — how often the audit trail of a task says that it was assigned.
* `dispatchOne_assignedTimes`, `loopTick_assignedTimes` — one row, and a tick.
* `runAttempts`, `assignedTimes_run` — the attempts of a run are what the audit trail counts.
* `assignments_eq_handed` — so it counts the hand-overs exactly where none failed.
-/

namespace Cliptown.Task

open Cliptown.Lib Cliptown.Town Cliptown.World Cliptown.Worker

/-- How often the audit trail of a task says that it was assigned. -/
def assignedTimes (db : Db) (id : String) : ℕ :=
  (db.tasks.lookup id).elim 0 TaskRow.assignments

section Statements

variable {party : Party} {astray : Prop} {s s' : LoopState} {env : Env} {id : String}

/-! ### Statements -/

/-- Only the scheduler writes that a task was assigned. -/
theorem Statement.assignedTimes (hparty : party ≠ .scheduler) (h : Statement party astray s s')
    (id : String) : assignedTimes s'.db id = assignedTimes s.db id := by
  unfold Task.assignedTimes
  cases ht' : s'.db.tasks.lookup id with
  | none =>
      cases ht : s.db.tasks.lookup id with
      | none => rfl
      | some t =>
          obtain ⟨t₁, ht₁, -⟩ := h.row_kept ht
          exact absurd (ht'.symm.trans ht₁) (by simp)
  | some t' =>
      rcases h.row_of ht' with ⟨t, ht, hkept⟩ | ⟨hnone, hcreated⟩
      · rw [ht]
        exact hkept.assignments.resolve_right hparty
      · rw [hnone]
        exact hcreated.assignments

theorem Statements.assignedTimes (hparty : party ≠ .scheduler) (h : Statements party astray s s')
    (id : String) : assignedTimes s'.db id = assignedTimes s.db id := by
  induction h with
  | refl => rfl
  | tail _ hstep ih => exact (hstep.assignedTimes hparty id).trans ih

/-- A task that is there stays there. -/
theorem Statements.isSome_lookup (h : Statements party astray s s')
    (hsome : (s.db.tasks.lookup id).isSome) : (s'.db.tasks.lookup id).isSome := by
  induction h with
  | refl => exact hsome
  | tail _ hstep ih =>
      obtain ⟨t, ht⟩ := Option.isSome_iff_exists.mp ih
      obtain ⟨t', ht', -⟩ := hstep.row_kept ht
      exact Option.isSome_iff_exists.mpr ⟨t', ht'⟩

/-- What the endpoint may do, does not count. -/
theorem assignedTimes_of_endpoint (h : Statements .endpoint False s s') (id : String) :
    assignedTimes s'.db id = assignedTimes s.db id :=
  h.assignedTimes (by simp) id

end Statements

section Rows

variable {cfg : Config} {env : Env} {s : LoopState} {task : QueuedTask}

/-! ### One row -/

/-- An entry counts once. -/
theorem assignedTimes_appendAudit {entry : Json} (hsome : (s.db.tasks.lookup task.id).isSome)
    (hkind : entry.getStr "kind" = some "task_assigned") (id : String) :
    assignedTimes (s.appendAudit env task.id entry).db id =
      assignedTimes s.db id + if task.id = id then 1 else 0 := by
  obtain ⟨t, ht⟩ := Option.isSome_iff_exists.mp hsome
  have hrow : (s.appendAudit env task.id entry).db.tasks.lookup id =
      if id = task.id then (s.db.tasks.lookup id).map fun t =>
        { t with auditTrail := t.auditTrail ++ [entry], updatedAt := env.now }
      else s.db.tasks.lookup id := Table.lookup_modify _ _ _ _
  unfold assignedTimes
  rw [hrow]
  by_cases hid : id = task.id
  · rw [if_pos hid, if_pos hid.symm, hid, ht]
    simp [TaskRow.assignments, List.countP_append, hkind]
  · rw [if_neg hid, if_neg fun h => hid h.symm]
    rfl

/-- To start a task is to write that it was assigned. -/
theorem assignedTimes_startWork (hsome : (s.db.tasks.lookup task.id).isSome) (id : String) :
    assignedTimes (startWork env s task).db id =
      assignedTimes s.db id + if task.id = id then 1 else 0 := by
  have hbefore : Statements .endpoint False s
      ((s.setStatus env task.id .inProgress).setAvatarStatus task.assigneeAgentId .working) :=
    (Statements.refl.setStatus (free_endpoint.ownedBy task.id)).setAvatarStatus
  unfold startWork
  rw [assignedTimes_appendAudit (hbefore.isSome_lookup hsome) (by rfl),
    assignedTimes_of_endpoint hbefore]

/-- The entry stays when the hand-over fails. -/
theorem assignedTimes_assign (hsome : (s.db.tasks.lookup task.id).isSome) (id : String) :
    assignedTimes (assign cfg env s task).db id =
      assignedTimes s.db id + if task.id = id then 1 else 0 := by
  have hover : Statements .endpoint False (startWork env s task)
      (handOver cfg env (startWork env s task) task).2 := handOver_statements task
  rw [← assignedTimes_startWork hsome, ← assignedTimes_of_endpoint hover, assign_eq]
  split
  · rfl
  · exact assignedTimes_of_endpoint (rollBack_statements free_endpoint task) id

/-- **One row** counts its attempt. -/
theorem dispatchOne_assignedTimes (hsome : (s.db.tasks.lookup task.id).isSome) (id : String) :
    assignedTimes (dispatchOne cfg env s task).db id =
      assignedTimes s.db id + (attemptOf cfg env s task).toList.countP (·.task.id = id) := by
  have hclear : Statements .endpoint False s (clearBlocker env s task) :=
    clearBlocker_statements free_endpoint task
  cases h : attemptOf cfg env s task with
  | none =>
      refine Eq.trans ?_ (Nat.add_zero _).symm
      rcases dispatchOne_of_none h with heq | heq | ⟨room, heq⟩
      · rw [heq]
      · rw [heq]
        exact assignedTimes_of_endpoint hclear id
      · rw [heq]
        exact assignedTimes_of_endpoint (hclear.trans (approach_statements task room)) id
  | some a =>
      obtain ⟨rfl, hbefore, -⟩ := gated_of_attemptOf h
      rw [dispatchOne_of_attempt h, hbefore, assignedTimes_assign (hclear.isSome_lookup hsome),
        assignedTimes_of_endpoint hclear]
      simp [List.countP_cons]

/-- **The loop** counts its attempts. -/
theorem foldl_dispatchOne_assignedTimes (id : String) (tasks : List QueuedTask) : ∀ s : LoopState,
    (∀ task ∈ tasks, (s.db.tasks.lookup task.id).isSome) →
      assignedTimes (tasks.foldl (dispatchOne cfg env) s).db id =
        assignedTimes s.db id + (attempts cfg env tasks s).countP (·.task.id = id) := by
  induction tasks with
  | nil =>
      intro s _
      rfl
  | cons task tasks ih =>
      intro s hsome
      have hrest : ∀ row ∈ tasks, ((dispatchOne cfg env s task).db.tasks.lookup row.id).isSome := by
        intro row hrow
        have hone : Statements .scheduler False s (dispatchOne cfg env s task) :=
          dispatchOne_statements cfg env s task
        exact hone.isSome_lookup (hsome row (List.mem_cons_of_mem _ hrow))
      unfold attempts
      rw [List.foldl_cons, ih _ hrest, dispatchOne_assignedTimes (hsome task List.mem_cons_self),
        List.countP_append, Nat.add_assoc]

end Rows

/-! ### Runs -/

/-- The state when the agents have moved and the scheduler begins. -/
def afterMoves (env : Env) (s : LoopState) : LoopState :=
  let (world, paths, events) := stepAll s.world s.paths
  events.foldl (pushMoveComplete env) { s with world, paths }

/-- The attempts behind a request: those of the tick. -/
def LoopEvent.attempts (cfg : Config) (s : LoopState) : LoopEvent → List Attempt
  | .tick env => tickAttempts cfg env (afterMoves env s)
  | _ => []

/-- The attempts of a run. -/
def runAttempts (cfg : Config) : LoopState → List LoopEvent → List Attempt
  | _, [] => []
  | s, l :: ls => l.attempts cfg s ++ runAttempts cfg (l.apply cfg s) ls

section Runs

variable {cfg : Config} {env : Env} {s : LoopState}

theorem loopTick_eq : loopTick cfg env s = schedulerTick cfg env (afterMoves env s) :=
  rfl

theorem afterMoves_statements {party : Party} {astray : Prop} :
    Statements party astray s (afterMoves env s) := by
  unfold afterMoves
  have hmove : Statements party astray s
      { s with world := (stepAll s.world s.paths).1, paths := (stepAll s.world s.paths).2.1 } :=
    .single (.move (sameAvatars_stepAll s.world s.paths))
  exact hmove.trans (Statements.foldl (fun s e => Statements.refl.push rfl) _ _)

/-- **A tick** counts its attempts. -/
theorem loopTick_assignedTimes (id : String) :
    assignedTimes (loopTick cfg env s).db id =
      assignedTimes s.db id +
        (tickAttempts cfg env (afterMoves env s)).countP (·.task.id = id) := by
  have hmoves : Statements .endpoint False s (afterMoves env s) := afterMoves_statements
  have hsome : ∀ task ∈ queuedTasks env (afterMoves env s).db,
      ((afterMoves env s).db.tasks.lookup task.id).isSome := by
    intro task htask
    obtain ⟨t, ht, -⟩ := mem_queuedTasks htask
    exact Option.isSome_iff_exists.mpr ⟨t, ht⟩
  have hrest : Statements .endpoint False (dispatchLoop cfg env (afterMoves env s))
      (schedulerTick cfg env (afterMoves env s)) :=
    (deadlineScan_statements free_endpoint).trans
      ((autoStealPass_statements free_endpoint).trans (autoRecoveryPass_statements free_endpoint))
  rw [loopTick_eq, assignedTimes_of_endpoint hrest]
  unfold dispatchLoop tickAttempts
  rw [foldl_dispatchOne_assignedTimes id _ _ hsome, assignedTimes_of_endpoint hmoves]

/-- **A request** counts its attempts: requests other than ticks have none, and write nothing of the kind. -/
theorem apply_assignedTimes (l : LoopEvent) (id : String) :
    assignedTimes (l.apply cfg s).db id =
      assignedTimes s.db id + (l.attempts cfg s).countP (·.task.id = id) := by
  have hother : ∀ l : LoopEvent, l.party s ≠ .scheduler →
      assignedTimes (l.apply cfg s).db id = assignedTimes s.db id :=
    fun l hparty => (apply_statements cfg s l).assignedTimes hparty id
  cases l with
  | tick env => exact loopTick_assignedTimes id
  | autoSteal env => exact assignedTimes_of_endpoint (autoStealPass_statements free_endpoint) id
  | autoRecovery env => exact assignedTimes_of_endpoint (autoRecoveryPass_statements free_endpoint) id
  | mcp env agentId msg =>
      refine hother _ ?_
      simp only [LoopEvent.party]
      split <;> simp
  | console env identity cmd => exact hother _ (by simp [LoopEvent.party])
  | createTask env identity body => exact hother _ (by simp [LoopEvent.party])
  | registerWorker agentId => exact hother _ (by simp [LoopEvent.party])
  | unregisterWorker agentId => exact hother _ (by simp [LoopEvent.party])

/-- **A run** counts its attempts. -/
theorem assignedTimes_run (ls : List LoopEvent) (id : String) : ∀ s : LoopState,
    assignedTimes (runEvents cfg s ls).db id =
      assignedTimes s.db id + (runAttempts cfg s ls).countP (·.task.id = id) := by
  induction ls with
  | nil =>
      intro s
      rfl
  | cons l ls ih =>
      intro s
      have hrun := ih (l.apply cfg s)
      rw [apply_assignedTimes] at hrun
      unfold runAttempts
      rw [List.countP_append, ← Nat.add_assoc]
      exact hrun

/-- How often a task was handed to a worker in a run. -/
def handedTimes (cfg : Config) (s : LoopState) (ls : List LoopEvent) (id : String) : ℕ :=
  ((runAttempts cfg s ls).filter (·.task.id = id)).countP Attempt.handed

/-- An attempt of a run succeeds when it is accepted. -/
theorem handed_iff_of_mem_runAttempts {a : Attempt} (ls : List LoopEvent) : ∀ s : LoopState,
    a ∈ runAttempts cfg s ls → (a.handed ↔ a.Accepted cfg) := by
  induction ls with
  | nil =>
      intro s ha
      exact absurd ha List.not_mem_nil
  | cons l ls ih =>
      intro s ha
      rcases List.mem_append.mp ha with ha | ha
      · cases l with
        | tick env =>
            obtain ⟨rows, rest, -, hattempt⟩ := made_of_mem_attempts _ _ a ha
            exact handed_iff_accepted hattempt
        | _ => exact absurd ha List.not_mem_nil
      · exact ih _ ha

/-- **The audit trail of a task counts how often it was handed to a worker** exactly when no hand-over of
the task fails in the run. -/
theorem assignments_eq_handed {ls : List LoopEvent} {id : String} {t : TaskRow}
    (hinit : (loopSystem cfg).init s) (ht : (runEvents cfg s ls).db.tasks.lookup id = some t) :
    t.assignments = handedTimes cfg s ls id ↔
      ∀ a ∈ runAttempts cfg s ls, a.task.id = id → a.Accepted cfg := by
  have hnone : assignedTimes s.db id = 0 := by
    unfold assignedTimes
    rw [hinit.1, AList.lookup_empty]
    rfl
  have hcount : t.assignments = ((runAttempts cfg s ls).filter (·.task.id = id)).length := by
    have hrow : assignedTimes (runEvents cfg s ls).db id = t.assignments := by
      unfold assignedTimes
      rw [ht]
      rfl
    rw [← hrow, assignedTimes_run, hnone, Nat.zero_add, List.countP_eq_length_filter]
  rw [hcount, eq_comm]
  unfold handedTimes
  rw [List.countP_eq_length]
  constructor
  · intro h a ha hid
    have hhanded := h a (List.mem_filter.mpr ⟨ha, by simpa using hid⟩)
    exact (handed_iff_of_mem_runAttempts ls s ha).mp hhanded
  · intro h a ha
    obtain ⟨ha, hid⟩ := List.mem_filter.mp ha
    exact (handed_iff_of_mem_runAttempts ls s ha).mpr (h a ha (by simpa using hid))

end Runs

/-- The engineer has a task and a worker. -/
def handedEvents : List LoopEvent :=
  [sampleCreate 1 "1" (some "a-2"), .registerWorker "a-2", .tick (sampleEnv 4 "t")]

/-- The engineer has a task and a worker whose channel is full. -/
def fullEvents : List LoopEvent :=
  [sampleCreate 1 "1" (some "a-2"), .registerWorker "a-2", .tick (fullEnv "T_1")]

/-- The task is handed over once, and the trail says so. -/
theorem assignments_eq_handed_once :
    (∃ t ∈ (runEvents sampleConfig sampleStartup.state handedEvents).db.tasks.lookup "T_1",
      t.assignments = handedTimes sampleConfig sampleStartup.state handedEvents "T_1") ∧
      handedTimes sampleConfig sampleStartup.state handedEvents "T_1" = 1 := by
  have htask : ∃ t, (runEvents sampleConfig sampleStartup.state handedEvents).db.tasks.lookup "T_1" =
      some t := Option.isSome_iff_exists.mp (by decide +kernel)
  obtain ⟨t, ht⟩ := htask
  have hhanded : ∀ a ∈ runAttempts sampleConfig sampleStartup.state handedEvents,
      a.handed = true := by
    decide +kernel
  refine ⟨⟨t, ht, (assignments_eq_handed (sampleStartup.init sampleConfig) ht).mpr fun a ha _ => ?_⟩,
    by decide +kernel⟩
  exact (handed_iff_of_mem_runAttempts _ _ ha).mp (hhanded a ha)

/-- **Not in every run**: the task is never handed over, and the trail says that it was assigned. -/
theorem not_assignments_eq_handed :
    ¬ ∀ (cfg : Config) (s : LoopState) (ls : List LoopEvent) (id : String) (t : TaskRow),
      (loopSystem cfg).init s → (runEvents cfg s ls).db.tasks.lookup id = some t →
        t.assignments = handedTimes cfg s ls id := by
  intro h
  have htask : ∃ t ∈ (runEvents sampleConfig sampleStartup.state fullEvents).db.tasks.lookup "T_1",
      t.assignments = 1 := by
    decide +kernel
  have hnever : handedTimes sampleConfig sampleStartup.state fullEvents "T_1" = 0 := by
    decide +kernel
  obtain ⟨t, ht, hone⟩ := htask
  have hequal := h sampleConfig _ fullEvents "T_1" t (sampleStartup.init sampleConfig) ht
  rw [hone, hnever] at hequal
  exact absurd hequal one_ne_zero

end Cliptown.Task
