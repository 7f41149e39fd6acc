import Cliptown.Task.McpBoard
import Cliptown.Task.Scheduler

/-!
# The scheduler on the board

A tick is a run of plain events.

* `Fresh` — a row of the dispatch query that still holds: the task is queued with that assignee.
* `dispatchOne_board` — one row changes at most its own card.
* `Pending` — what holds of the rows that are left; `foldl_dispatchOne_board` — the loop.
* `autoSteal_step`, `autoRecover_step` — the passes.
* `loopTick_board` — a tick.
-/

namespace Cliptown.Task

open Cliptown.Lib Cliptown.Town Cliptown.World Cliptown.Worker Board

section Dispatch

variable {cfg : Config} {env : Env} {s : LoopState} {task : QueuedTask}

/-! ### The dispatch query -/

/-- What a row of the dispatch query says about its task. -/
theorem mem_queuedTasks {db : Db} (h : task ∈ queuedTasks env db) :
    ∃ t, db.tasks.lookup task.id = some t ∧ t.status = .queued ∧
      t.assigneeAgentId = some task.assigneeAgentId ∧ t.blockedOn = task.blockedOn ∧
        t.requiredRoom = task.requiredRoom := by
  obtain ⟨id, -, h⟩ := List.mem_filterMap.mp h
  obtain ⟨t, ht, hrow⟩ := Option.bind_eq_some_iff.mp h
  unfold queuedRow at hrow
  split at hrow
  · rename_i hstatus
    simp only [Option.bind_eq_bind, Option.bind_eq_some_iff, Option.pure_def, Option.some.injEq]
      at hrow
    obtain ⟨assignee, hassignee, agent, -, startup, -, rfl⟩ := hrow
    exact ⟨t, ht, hstatus, hassignee, rfl, rfl⟩
  · exact absurd hrow (by simp)

/-- Every queued task with an assignee is in the dispatch query. -/
theorem exists_mem_queuedTasks {db : Db} {id assignee : String} {t : TaskRow}
    (ht : db.tasks.lookup id = some t) (hstatus : t.status = .queued)
    (hassignee : t.assigneeAgentId = some assignee) :
    ∃ task ∈ queuedTasks env db, task.id = id ∧ task.assigneeAgentId = assignee := by
  have hrefs := db.taskRefs id t ht
  obtain ⟨agent, hagent⟩ := Option.isSome_iff_exists.mp (hrefs.assignee assignee hassignee)
  obtain ⟨startup, hstartup⟩ := Option.isSome_iff_exists.mp hrefs.startup
  have hkey : id ∈ env.order db.tasks.keys :=
    (env.order_perm _).mem_iff.mpr (AList.mem_keys.mp (AList.lookup_isSome.mp (by simp [ht])))
  have hrow : ∃ task, queuedRow db id t = some task ∧ task.id = id ∧
      task.assigneeAgentId = assignee := by
    unfold queuedRow
    rw [if_pos hstatus, hassignee]
    simp only [Option.bind_eq_bind, Option.bind_some, hagent, hstartup]
    exact ⟨_, rfl, rfl, rfl⟩
  obtain ⟨task, hrow, hid⟩ := hrow
  exact ⟨task, List.mem_filterMap.mpr ⟨id, hkey, by rw [ht, Option.bind_some, hrow]⟩, hid⟩

/-- The rows of the dispatch query are of different tasks. -/
theorem pairwise_queuedTasks (env : Env) (db : Db) :
    (queuedTasks env db).Pairwise fun task other => task.id ≠ other.id := by
  have hid : ∀ id, ∀ task ∈ (db.tasks.lookup id).bind (queuedRow db id), task.id = id := by
    intro id task h
    obtain ⟨t, -, hrow⟩ := Option.bind_eq_some_iff.mp h
    unfold queuedRow at hrow
    split at hrow
    · simp only [Option.bind_eq_bind, Option.bind_eq_some_iff, Option.pure_def, Option.some.injEq]
        at hrow
      obtain ⟨_, -, _, -, _, -, rfl⟩ := hrow
      rfl
    · exact absurd hrow (by simp)
  have hnodup : (env.order db.tasks.keys).Nodup :=
    (env.order_perm _).nodup_iff.mpr db.tasks.keys_nodup
  unfold queuedTasks
  rw [List.pairwise_filterMap]
  refine hnodup.imp fun {a b} hne task htask other hother => ?_
  rw [hid a task htask, hid b other hother]
  exact hne

/-! ### One row -/

/-- The row still holds: the task is queued with its assignee. -/
def Fresh (b : Board String String) (task : QueuedTask) : Prop :=
  ∃ c, b.card task.id = some c ∧ c.status = .queued ∧ c.assignee = some task.assigneeAgentId

/-- Every row of the query holds when the query is made. -/
theorem fresh_of_mem_queuedTasks (h : task ∈ queuedTasks env s.db) : Fresh s.board task := by
  obtain ⟨t, ht, hstatus, hassignee, -⟩ := mem_queuedTasks h
  exact ⟨t.card, card_of_lookup ht, hstatus, hassignee⟩

variable (env) in
theorem board_clearBlocker {c : Card String String} (hcard : s.board.card task.id = some c) :
    (clearBlocker env s task).board = s.board ∨
      (clearBlocker env s task).board = s.board.put task.id { c with blockedOn := none } := by
  obtain ⟨t, ht, rfl⟩ := Db.card_eq_some_iff.mp hcard
  unfold clearBlocker
  split
  · simp only [board_emitSystemEvent]
    cases hdb : s.db.relinkTask task.id fun t => { t with blockedOn := none } with
    | none => exact .inl rfl
    | some db => exact .inr (board_relinkTask ht hdb)
  · exact .inl rfl

variable (env) in
/-- Forgetting a blocker leaves the row as it is otherwise. -/
theorem clearBlocker_board (h : Fresh s.board task) :
    PlainlyAt task.id s.board (clearBlocker env s task).board ∧
      Fresh (clearBlocker env s task).board task ∧
      (clearBlocker env s task).board.avatar = s.board.avatar := by
  obtain ⟨c, hcard, hstatus, hassignee⟩ := h
  rcases board_clearBlocker env hcard with hboard | hboard
  · rw [hboard]
    exact ⟨.refl _ _, ⟨c, hcard, hstatus, hassignee⟩, rfl⟩
  · rw [hboard]
    refine ⟨.of_step (.block hcard (by simp)) trivial rfl,
      ⟨{ c with blockedOn := none }, ?_, hstatus, hassignee⟩, rfl⟩
    rw [card_put, if_pos rfl]

theorem board_approach (room : String) : (approach cfg s task room).board = s.board := by
  unfold approach
  split
  · exact congrArg (Board.mk s.db.card) (statusOf_startMove _ _ _ _ _ _ _ _)
  · rfl

variable (cfg env s task) in
/-- A hand-over that fails is rolled back. -/
theorem assign_eq : assign cfg env s task =
    if (handOver cfg env (startWork env s task) task).1 then
      (handOver cfg env (startWork env s task) task).2
    else rollBack env (handOver cfg env (startWork env s task) task).2 task := by
  unfold assign
  split <;> rename_i heq <;> rw [heq] <;> rfl

variable (cfg env s task) in
theorem board_handOver : (handOver cfg env s task).2.board = s.board := by
  unfold handOver
  simp only
  split
  · rfl
  · exact board_push _ _

theorem board_startWork {c : Card String String} (h : s.board.card task.id = some c) :
    (startWork env s task).board =
      (s.board.put task.id { c with status := .inProgress }).mark task.assigneeAgentId .working := by
  unfold startWork
  rw [board_appendAudit, board_setAvatarStatus, board_setStatus h]

theorem board_rollBack {c : Card String String} (h : s.board.card task.id = some c) :
    (rollBack env s task).board =
      (s.board.put task.id { c with status := .queued }).mark task.assigneeAgentId .idle := by
  unfold rollBack
  rw [board_setAvatarStatus, board_setStatus h]

/-- **The hand-over** starts the task, and takes it back when it fails. -/
theorem assign_board (h : Fresh s.board task)
    (hidle : s.board.avatar task.assigneeAgentId = some .idle) :
    PlainlyAt task.id s.board (assign cfg env s task).board := by
  obtain ⟨c, hcard, hstatus, hassignee⟩ := h
  have hstart : PlainlyAt task.id s.board (startWork env s task).board := by
    rw [board_startWork hcard]
    exact .of_step (.dispatch hcard hstatus hassignee hidle) trivial rfl
  have hover := board_handOver cfg env (startWork env s task) task
  rw [assign_eq]
  split
  · rw [hover]
    exact hstart
  · have hcard' : (handOver cfg env (startWork env s task) task).2.board.card task.id =
        some { c with status := .inProgress } := by
      rw [hover, board_startWork hcard, card_mark, card_put, if_pos rfl]
    refine hstart.trans ?_
    rw [← hover, board_rollBack hcard']
    exact .of_step (.rollback hcard' rfl hassignee) trivial rfl

variable (cfg env) in
/-- **One row of the dispatch query** changes at most its own card. -/
theorem dispatchOne_board (h : Fresh s.board task) :
    PlainlyAt task.id s.board (dispatchOne cfg env s task).board := by
  unfold dispatchOne
  split
  · exact .refl _ _
  · rename_i avatar havatar
    split
    · rename_i hgate
      obtain ⟨hclear, hfresh, hsame⟩ := clearBlocker_board env h
      simp only
      split
      · rw [board_approach]
        exact hclear
      · split
        · refine hclear.trans (assign_board hfresh ?_)
          rw [hsame]
          exact Option.map_eq_some_iff.mpr ⟨avatar, havatar, hgate.1⟩
        · exact hclear
    · exact .refl _ _

/-! ### The loop -/

/-- The rows that are left are of different tasks, and still hold. -/
structure Pending (b : Board String String) (tasks : List QueuedTask) : Prop where
  distinct : tasks.Pairwise fun task other => task.id ≠ other.id
  fresh : ∀ task ∈ tasks, Fresh b task

variable (env s) in
theorem pending_queuedTasks : Pending s.board (queuedTasks env s.db) :=
  ⟨pairwise_queuedTasks env s.db, fun _ => fresh_of_mem_queuedTasks⟩

variable (cfg env) in
/-- A row still holds after that of another task. -/
theorem fresh_dispatchOne {other : QueuedTask} (h : Fresh s.board task) (hne : task.id ≠ other.id)
    (hother : Fresh s.board other) : Fresh (dispatchOne cfg env s task).board other := by
  obtain ⟨c, hcard, hrest⟩ := hother
  exact ⟨c, ((dispatchOne_board cfg env h).frame _ hne.symm).trans hcard, hrest⟩

variable (cfg env) in
/-- So do the rows that are left. -/
theorem Pending.tail {tasks : List QueuedTask} (h : Pending s.board (task :: tasks)) :
    Pending (dispatchOne cfg env s task).board tasks := by
  obtain ⟨hne, hdistinct⟩ := List.pairwise_cons.mp h.distinct
  refine ⟨hdistinct, fun other hother => ?_⟩
  exact fresh_dispatchOne cfg env (h.fresh task List.mem_cons_self) (hne other hother)
    (h.fresh other (List.mem_cons_of_mem _ hother))

/-- **The dispatch loop**: each row still holds when its turn comes, because the rows before it are of
other tasks. -/
theorem foldl_dispatchOne_board (tasks : List QueuedTask) : ∀ s : LoopState, Pending s.board tasks →
    Plainly s.board (tasks.foldl (dispatchOne cfg env) s).board := by
  induction tasks with
  | nil =>
      intro s _
      exact .refl _
  | cons task tasks ih =>
      intro s hpending
      have hone := dispatchOne_board cfg env (hpending.fresh task List.mem_cons_self)
      exact hone.run.trans (ih _ (hpending.tail cfg env))

end Dispatch

/-! ### Deadlines and passes -/

section Passes

variable {cfg : Config} {env : Env} {s : LoopState}

/-- A loop over plain moves is a plain move. -/
theorem foldl_plainly {ι : Type*} {f : LoopState → ι → LoopState}
    (hf : ∀ s i, Plainly s.board (f s i).board) (l : List ι) :
    ∀ s : LoopState, Plainly s.board (l.foldl f s).board := by
  induction l with
  | nil =>
      intro s
      exact .refl _
  | cons i l ih =>
      intro s
      exact (hf s i).trans (ih (f s i))

theorem board_deadlineScan : (deadlineScan env s).board = s.board := by
  unfold deadlineScan
  refine board_foldl (fun s row => ?_) _ s
  exact board_updateTask_of_card (s := s.emitSystemEvent env _ _ _ _) _ fun _ => rfl

theorem board_reassignTask {taskId current : String} {status : TaskStatus}
    {f : TaskRow → TaskRow} {db : Db} {rows : ℕ} (hrows : rows ≠ 0)
    (h : s.db.reassignTask taskId status current f = some (db, rows)) :
    ∃ task, s.db.tasks.lookup taskId = some task ∧ task.status = status ∧
      ({ s with db := db } : LoopState).board = s.board.put taskId (f task).card := by
  obtain ⟨task, htask, hstatus, -, hdb⟩ := Db.reassignTask_eq_some hrows h
  exact ⟨task, htask, hstatus, board_relinkTask htask hdb⟩

/-- A steal of a pass is one event, if it is anything. -/
theorem autoSteal_step (startupId taskId current : String) :
    (autoSteal env s startupId taskId current).board = s.board ∨
      ∃ peer, Board.Step s.board (.steal taskId peer) (autoSteal env s startupId taskId current).board := by
  unfold autoSteal
  split
  · exact .inl rfl
  · split
    · exact .inl rfl
    · rename_i peer hpeer
      split
      · rename_i db hdb
        obtain ⟨task, htask, hstatus, hboard⟩ := board_reassignTask (by simp) hdb
        refine .inr ⟨peer, ?_⟩
        simp only [board_emitSystemEvent, board_appendAudit]
        rw [hboard]
        exact .steal (card_of_lookup htask) hstatus
      · exact .inl rfl

theorem autoStealPass_board : Plainly s.board (autoStealPass env s).board := by
  unfold autoStealPass
  refine foldl_plainly (fun s startup => ?_) _ s
  refine foldl_plainly (fun s row => ?_) _ s
  rcases autoSteal_step startup.1 row.1 row.2.1 with hboard | ⟨peer, hstep⟩
  · rw [hboard]
    exact .refl _
  · exact .of_step hstep trivial

/-- A recovery is one event, if it is anything. -/
theorem autoRecover_step (startupId taskId current : String) (reviewRound : ℕ) :
    (autoRecover env s startupId taskId current reviewRound).board = s.board ∨
      ∃ peer, Board.Step s.board (.recover taskId peer)
        (autoRecover env s startupId taskId current reviewRound).board := by
  unfold autoRecover
  split
  · exact .inl rfl
  · rename_i peer hpeer
    split
    · rename_i db hdb
      obtain ⟨task, htask, hstatus, hboard⟩ := board_reassignTask (by simp) hdb
      refine .inr ⟨peer, ?_⟩
      simp only [board_emitSystemEvent, board_appendAudit]
      rw [hboard]
      exact .recover (card_of_lookup htask) hstatus
    · exact .inl rfl

theorem autoRecoveryPass_board : Plainly s.board (autoRecoveryPass env s).board := by
  unfold autoRecoveryPass
  refine foldl_plainly (fun s startup => ?_) _ s
  refine foldl_plainly (fun s row => ?_) _ s
  rcases autoRecover_step startup.1 row.1 row.2.1 row.2.2 with hboard | ⟨peer, hstep⟩
  · rw [hboard]
    exact .refl _
  · exact .of_step hstep trivial

/-! ### One tick -/

variable (cfg env s) in
/-- **The scheduler** makes plain moves only. -/
theorem schedulerTick_board : Plainly s.board (schedulerTick cfg env s).board := by
  unfold schedulerTick
  have hdispatch : Plainly s.board ((queuedTasks env s.db).foldl (dispatchOne cfg env) s).board := by
    exact foldl_dispatchOne_board _ s (pending_queuedTasks env s)
  have hdeadline : ∀ s, Plainly s.board (deadlineScan env s).board := by
    intro s
    rw [board_deadlineScan]
    exact .refl _
  exact hdispatch.trans ((hdeadline _).trans (autoStealPass_board.trans autoRecoveryPass_board))

/-- **A tick** makes plain moves only. -/
theorem loopTick_board : Plainly s.board (loopTick cfg env s).board := by
  unfold loopTick
  have hmove : ∀ (events : List MoveEvent) (s : LoopState),
      (events.foldl (pushMoveComplete env) s).board = s.board :=
    board_foldl fun s e => board_push _ _
  have hstep := statusOf_stepAll s.world s.paths
  generalize stepAll s.world s.paths = r at hstep
  obtain ⟨world, paths, events⟩ := r
  have hboard := (hmove events { s with world := world, paths := paths }).trans
    (congrArg (Board.mk s.db.card) hstep)
  have htick := schedulerTick_board cfg env
    (events.foldl (pushMoveComplete env) { s with world := world, paths := paths })
  rw [hboard] at htick
  exact htick

end Passes

end Cliptown.Task
