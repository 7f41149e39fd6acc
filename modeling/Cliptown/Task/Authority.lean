import Cliptown.Task.Sessions
import Cliptown.Task.StatusChanges

/-!
# The authority of a manager

Whoever is at least a manager may settle a task that the agents do not get done. The command takes a lock
first, and a lock refers to the row of the operator who holds it.

* `Authority` — what the two commands that force a status promise.
* `withLock_refused`, `withLock_granted` — what happens under a lock.
* `authority_iff` — the promise is kept to exactly those who have a row, which `authority_of_validated` says are
  all but the one whom the token of the environment stands for.
-/

namespace Cliptown.Task

open Cliptown.Lib Cliptown.Town Cliptown.World Cliptown.Console

/-- The operator has a row. -/
def Db.Enrolled (db : Db) (operatorId : String) : Prop :=
  (db.operators.lookup operatorId).isSome

/-- The task has the status after the command. -/
def Leaves (cfg : Config) (env : Env) (s : LoopState) (identity : OperatorIdentity) (cmd : ConsoleInbound)
    (taskId : String) (status : TaskStatus) : Prop :=
  statusIn taskId (dispatchConsole cfg env s identity cmd).2 = some status

/-- The authority of whoever is at least a manager, over a task on which nobody holds the lock: if it is under
review it is accepted, and if it is neither done nor failed it is failed. -/
structure Authority (cfg : Config) (env : Env) (s : LoopState) (identity : OperatorIdentity) (taskId : String)
    (task : TaskRow) : Prop where
  accept : task.status = .awaitingReview →
    Unheld s.db.actionLocks (taskLockKey taskId "force_accept") env.now →
      Leaves cfg env s identity (.operatorForceAccept taskId) taskId .done
  fail : task.status ≠ .done → task.status ≠ .failed →
    Unheld s.db.actionLocks (taskLockKey taskId "force_fail") env.now →
      ∀ note, Leaves cfg env s identity (.operatorForceFail taskId note) taskId .failed

section Force

variable {cfg : Config} {env : Env} {s : LoopState} {identity : OperatorIdentity} {lockKey : String}
  {act : LoopState → Except Json (Json × LoopState)}

/-! ### Under a lock -/

variable (cfg act) in
/-- Without the lock the command is refused, and nothing but the locks changes. -/
theorem withLock_refused
    (h : ¬ (tryAcquire s.db.operatorNames s.db.actionLocks lockKey identity.id defaultTtlSecs
      env.now).2.isOk) :
    ∃ reply locks, withLock cfg env s identity lockKey act = (.error reply, setLocks s locks) := by
  unfold withLock
  dsimp only
  split
  · exact ⟨_, _, rfl⟩
  · exact ⟨_, _, rfl⟩
  · rename_i lock hlock
    rw [hlock] at h
    exact absurd rfl h

variable (cfg act) in
/-- With the lock the command is run, and its reply is the reply. -/
theorem withLock_granted
    (h : (tryAcquire s.db.operatorNames s.db.actionLocks lockKey identity.id defaultTtlSecs
      env.now).2.isOk) :
    ∃ held freed,
      (withLock cfg env s identity lockKey act).1 = (settle (setLocks s held) (act (setLocks s held))).1 ∧
        (withLock cfg env s identity lockKey act).2 =
          setLocks (settle (setLocks s held) (act (setLocks s held))).2 freed := by
  unfold withLock
  dsimp only
  split
  · rename_i c hconflict
    rw [hconflict] at h
    exact absurd h (by simp [Except.isOk, Except.toBool])
  · rename_i hsql
    rw [hsql] at h
    exact absurd h (by simp [Except.isOk, Except.toBool])
  · exact ⟨_, _, rfl, rfl⟩

variable (identity) in
/-- The lock is granted to whoever has a row, when nobody holds it. -/
theorem acquired_iff (hfree : Unheld s.db.actionLocks lockKey env.now) :
    (tryAcquire s.db.operatorNames s.db.actionLocks lockKey identity.id defaultTtlSecs env.now).2.isOk ↔
      s.db.Enrolled identity.id := by
  rw [tryAcquire_isOk_iff, and_iff_right hfree]
  simp [Db.operatorNames, Db.Enrolled]

/-! ### Forced statuses -/

variable {taskId auditKind entryKind : String} {transition : Transition} {rest : List (String × Json)}
  {task : TaskRow} {status : TaskStatus}

/-- A transition that the status permits is carried out. -/
theorem auditedTransition_of_next (htask : s.db.tasks.lookup taskId = some task)
    (hnext : next task.status transition = .ok status) :
    auditedTransition cfg env s identity taskId transition auditKind entryKind rest =
      .ok (okReply auditKind [("task_id", .str taskId), ("new_status", .str status.toStr)],
        (s.setStatus env taskId status).appendAudit env taskId (.obj ([("actor", .str "operator"),
          ("operator_id", .str identity.id), ("kind", .str entryKind)] ++ rest))) := by
  unfold auditedTransition applyStatusOnlyTransition
  simp only [bind_eq_ok, require_eq_ok, mapError_eq_ok, pure_eq_ok]
  exact ⟨_, ⟨task, htask, status, hnext, rfl⟩, rfl⟩

/-- The task then has its new status. -/
theorem statusIn_auditedTransition (htask : s.db.tasks.lookup taskId = some task)
    (hnext : next task.status transition = .ok status) :
    statusIn taskId (settle s (auditedTransition cfg env s identity taskId transition auditKind entryKind
      rest)).2 = some status := by
  rw [auditedTransition_of_next htask hnext]
  unfold statusIn
  simp only [settle, LoopState.appendAudit, LoopState.setStatus, lookup_updateTask, htask]
  simp

/-- Under a lock that nobody holds, the transition is made for exactly those who have a row. -/
theorem statusIn_withLock_iff (htask : s.db.tasks.lookup taskId = some task)
    (hnext : next task.status transition = .ok status) (hchange : task.status ≠ status)
    (hfree : Unheld s.db.actionLocks lockKey env.now) :
    statusIn taskId (withLock cfg env s identity lockKey fun s =>
        auditedTransition cfg env s identity taskId transition auditKind entryKind rest).2 = some status ↔
      s.db.Enrolled identity.id := by
  rw [← acquired_iff identity hfree]
  constructor
  · intro hstatus
    by_contra hrefused
    obtain ⟨reply, locks, hstate⟩ := withLock_refused cfg _ hrefused
    rw [hstate] at hstatus
    unfold statusIn at hstatus
    rw [show (setLocks s locks).db.tasks = s.db.tasks from rfl, htask] at hstatus
    exact hchange (Option.some.inj hstatus)
  · intro hgranted
    obtain ⟨held, freed, -, hstate⟩ := withLock_granted cfg _ hgranted
    rw [hstate]
    exact statusIn_auditedTransition (s := setLocks s held) htask hnext

/-- A task under review is accepted for exactly those who have a row. -/
theorem forceAccept_iff (hrole : identity.role.atLeast .manager)
    (htask : s.db.tasks.lookup taskId = some task) (hstatus : task.status = .awaitingReview)
    (hfree : Unheld s.db.actionLocks (taskLockKey taskId "force_accept") env.now) :
    Leaves cfg env s identity (.operatorForceAccept taskId) taskId .done ↔ s.db.Enrolled identity.id := by
  unfold Leaves
  simp only [state_dispatchConsole, consoleCommand, operatorForceAccept, hrole, if_true]
  refine statusIn_withLock_iff htask (next_eq_ok_iff.mpr ⟨hstatus, rfl⟩) ?_ hfree
  rw [hstatus]
  decide

/-- A task that is neither done nor failed is failed for exactly those who have a row. -/
theorem forceFail_iff (hrole : identity.role.atLeast .manager)
    (htask : s.db.tasks.lookup taskId = some task) (hdone : task.status ≠ .done)
    (hfailed : task.status ≠ .failed)
    (hfree : Unheld s.db.actionLocks (taskLockKey taskId "force_fail") env.now) (note : String) :
    Leaves cfg env s identity (.operatorForceFail taskId note) taskId .failed ↔
      s.db.Enrolled identity.id := by
  unfold Leaves
  simp only [state_dispatchConsole, consoleCommand, operatorForceFail, hrole, if_true]
  exact statusIn_withLock_iff htask (next_eq_ok_iff.mpr ⟨hdone, hfailed, rfl⟩) hfailed hfree

/-- A manager with a row has the authority. -/
theorem authority_of_enrolled (hrole : identity.role.atLeast .manager)
    (htask : s.db.tasks.lookup taskId = some task) (hrow : s.db.Enrolled identity.id) :
    Authority cfg env s identity taskId task where
  accept hstatus hfree := (forceAccept_iff hrole htask hstatus hfree).mpr hrow
  fail hdone hfailed hfree note := (forceFail_iff hrole htask hdone hfailed hfree note).mpr hrow

/-- So has everyone whom a token stands for, but for the token of the environment. -/
theorem authority_of_validated {operators : Table String Operator} {token : String} {rewritten : Bool}
    (hvalid : validateOperatorToken cfg s.db.operators token rewritten = .ok (identity, operators))
    (henv : identity ≠ envAdmin) (hrole : identity.role.atLeast .manager)
    (htask : s.db.tasks.lookup taskId = some task) : Authority cfg env s identity taskId task := by
  have hstored := (validateOperatorToken_eq_ok hvalid).1.resolve_left henv
  obtain ⟨row, hrow, -⟩ := Option.map_eq_some_iff.mp hstored
  exact authority_of_enrolled hrole htask (Option.isSome_of_mem hrow)

/-- **The authority of a manager** is that of exactly those managers who have a row, over every task that is
under review or may be failed, and on which nobody holds the lock. -/
theorem authority_iff (cfg : Config) (env : Env) (s : LoopState) (identity : OperatorIdentity)
    (hrole : identity.role.atLeast .manager) (taskId : String) (task : TaskRow)
    (htask : s.db.tasks.lookup taskId = some task)
    (happlies : task.status = .awaitingReview ∧
        Unheld s.db.actionLocks (taskLockKey taskId "force_accept") env.now ∨
      task.status ≠ .done ∧ task.status ≠ .failed ∧
        Unheld s.db.actionLocks (taskLockKey taskId "force_fail") env.now) :
    Authority cfg env s identity taskId task ↔ s.db.Enrolled identity.id := by
  refine ⟨fun hauthority => ?_, authority_of_enrolled hrole htask⟩
  rcases happlies with ⟨hstatus, hfree⟩ | ⟨hdone, hfailed, hfree⟩
  · exact (forceAccept_iff hrole htask hstatus hfree).mp (hauthority.accept hstatus hfree)
  · exact (forceFail_iff hrole htask hdone hfailed hfree "").mp (hauthority.fail hdone hfailed hfree "")

end Force

/-! ### With and without a row -/

/-- The engineer has a queued task. -/
noncomputable def queuedState : LoopState :=
  runEvents sampleConfig sampleStartup.state [sampleCreate 1 "1" (some "a-2")]

/-- The row of the task. -/
theorem exists_queued_task :
    ∃ task, queuedState.db.tasks.lookup "T_1" = some task ∧ task.status = .queued := by
  have hstatus : statusIn "T_1" queuedState = some .queued := by decide +kernel
  obtain ⟨task, htask, hqueued⟩ := Option.map_eq_some_iff.mp hstatus
  exact ⟨task, htask, hqueued⟩

/-- Nobody holds a lock. -/
theorem unheld_queuedState (key : String) (now : ℤ) : Unheld queuedState.db.actionLocks key now := by
  have hlocks : queuedState.db.actionLocks.entries = [] := by decide +kernel
  intro row hrow
  rw [Option.mem_def, show queuedState.db.actionLocks = ∅ from AList.ext hlocks] at hrow
  exact absurd hrow (by simp)

/-- The seeded admin has a row, and fails the task. -/
theorem authority_seeded :
    Leaves sampleConfig (sampleEnv 2 "2") queuedState sampleAdmin (.operatorForceFail "T_1" "abandoned") "T_1"
      .failed := by
  obtain ⟨task, htask, hqueued⟩ := exists_queued_task
  have hauthority := (authority_iff sampleConfig (sampleEnv 2 "2") queuedState sampleAdmin (by decide) "T_1" task
    htask (.inr ⟨by rw [hqueued]; decide, by rw [hqueued]; decide, unheld_queuedState _ _⟩)).mpr
      (by decide +kernel : (queuedState.db.operators.lookup "op_default").isSome)
  exact hauthority.fail (by rw [hqueued]; decide) (by rw [hqueued]; decide) (unheld_queuedState _ _) _

/-- A deployment that sets the token of the environment. -/
noncomputable def deployedConfig : Config :=
  { sampleConfig with operatorToken := "ops-token" }

/-- **Not for everyone**: the token of the environment stands for an admin who has no row, so the foreign key of
the lock refuses the command. -/
theorem not_authority :
    ¬ ∀ (cfg : Config) (env : Env) (s : LoopState) (token : String) (rewritten : Bool)
      (identity : OperatorIdentity) (operators : Table String Operator) (taskId : String) (task : TaskRow),
      validateOperatorToken cfg s.db.operators token rewritten = .ok (identity, operators) →
      identity.role.atLeast .manager → s.db.tasks.lookup taskId = some task →
      Authority cfg env s identity taskId task := by
  intro h
  obtain ⟨task, htask, hqueued⟩ := exists_queued_task
  have hvalid : validateOperatorToken deployedConfig queuedState.db.operators "ops-token" true =
      .ok (envAdmin, queuedState.db.operators) := by
    have hoperators : queuedState.db.operators = sampleStartup.state.db.operators :=
      AList.ext (by decide +kernel)
    rw [hoperators]
    rfl
  have hauthority := h deployedConfig (sampleEnv 2 "2") queuedState _ _ _ _ "T_1" task hvalid (by decide) htask
  have hfailed := hauthority.fail (by rw [hqueued]; decide) (by rw [hqueued]; decide) (unheld_queuedState _ _)
    "abandoned"
  have hstill : statusIn "T_1" (dispatchConsole deployedConfig (sampleEnv 2 "2") queuedState envAdmin
      (.operatorForceFail "T_1" "abandoned")).2 = some .queued := by
    decide +kernel
  exact absurd (hstill.symm.trans hfailed) (by decide)

end Cliptown.Task
