import Cliptown.Task.Assignments

/-!
# Changes of status

Tools, commands and the scheduler write the status of a task in many places. Every write is one that the
transition table grants, but for two of the scheduler: a hand-over that failed is taken back, and a task
under review is recovered for a peer.

* `Write`, `LoopEvent.writes` — the writes behind a request, and the state after each of them.
* `BoardWrite` — a write as an event of the board; `board_writes` — the writes of a request lead to the state
  after it.
* `WriteStep` — a write that changes statuses in some ways only; `status_changes` — all of them do.
* `terminal_closed` — a task that is over stays over.
-/

namespace Cliptown.Task

open Cliptown.Lib Cliptown.Town Cliptown.World Cliptown.Worker

/-! ### Writes -/

/-- Which code writes: a part of the scheduler, or the code of any other request. -/
inductive Writer where
  | request
  | dispatch
  | rollBack
  | autoSteal
  | autoRecovery
  deriving DecidableEq, Repr

/-- A write: where it is made, and the state after it. -/
structure Write where
  writer : Writer
  after : LoopState

section Writes

variable (cfg : Config) (env : Env) (s : LoopState)

/-- The writes of the loop for one row: a blocker is forgotten, the task is started, and taken back when it
was not handed over. -/
def rowWrites (task : QueuedTask) : List Write :=
  match attemptOf cfg env s task with
  | none => [⟨.dispatch, dispatchOne cfg env s task⟩]
  | some a =>
      [⟨.dispatch, a.before⟩, ⟨.dispatch, startWork env a.before task⟩,
        ⟨if a.handed then .dispatch else .rollBack, dispatchOne cfg env s task⟩]

/-- The steals of a pass for one startup. -/
def stealFrom (startup : String × Startup) : LoopState :=
  let cutoff := env.now - max startup.2.autoStealAfterSecs 1
  (assignedTasks env s startup.1 .queued fun t => t.updatedAt < cutoff).foldl
    (fun s row => autoSteal env s startup.1 row.1 row.2.1) s

/-- The recoveries of a pass for one startup. -/
def recoverFrom (startup : String × Startup) : LoopState :=
  (assignedTasks env s startup.1 .changesRequested fun t =>
    startup.2.autoRecoveryMaxAttempts ≤ (t.reviewRound : ℤ)).foldl
    (fun s row => autoRecover env s startup.1 row.1 row.2.1 row.2.2) s

/-- The writes of a loop, one in each turn. -/
def turnWrites {ι : Type} (writer : Writer) (f : LoopState → ι → LoopState) (l : List ι)
    (s : LoopState) : List Write :=
  loopLabels f (fun s i => [⟨writer, f s i⟩]) l s

/-- The writes of the pass that steals. -/
def autoStealWrites : List Write :=
  loopLabels (stealFrom env)
    (fun s startup =>
      let cutoff := env.now - max startup.2.autoStealAfterSecs 1
      turnWrites .autoSteal (fun s row => autoSteal env s startup.1 row.1 row.2.1)
        (assignedTasks env s startup.1 .queued fun t => t.updatedAt < cutoff) s)
    (startupsWith env s Startup.autoStealEnabled) s

/-- The writes of the pass that recovers. -/
def autoRecoveryWrites : List Write :=
  loopLabels (recoverFrom env)
    (fun s startup =>
      turnWrites .autoRecovery (fun s row => autoRecover env s startup.1 row.1 row.2.1 row.2.2)
        (assignedTasks env s startup.1 .changesRequested fun t =>
          startup.2.autoRecoveryMaxAttempts ≤ (t.reviewRound : ℤ)) s)
    (startupsWith env s Startup.autoRecoveryEnabled) s

/-- The writes of a tick, after the agents have moved. -/
def schedulerWrites : List Write :=
  let dispatched := dispatchLoop cfg env s
  let scanned := deadlineScan env dispatched
  loopLabels (dispatchOne cfg env) (rowWrites cfg env) (queuedTasks env s.db) s ++
    ⟨.request, scanned⟩ :: (autoStealWrites env scanned ++
      autoRecoveryWrites env (autoStealPass env scanned))

/-- The writes behind a request. A tool, a command and the endpoint write a status once at most. -/
def LoopEvent.writes : LoopEvent → List Write
  | .tick env => ⟨.request, afterMoves env s⟩ :: schedulerWrites cfg env (afterMoves env s)
  | .autoSteal env => autoStealWrites env s
  | .autoRecovery env => autoRecoveryWrites env s
  | l => [⟨.request, l.apply cfg s⟩]

end Writes

/-- A write after which every task is still there, with its status or with one that `R` allows to the
writer. -/
def WriteStep (R : Writer → TaskStatus → TaskStatus → Prop) (s : LoopState) (w : Write)
    (t : LoopState) : Prop :=
  t = w.after ∧ ∀ id row, s.db.tasks.lookup id = some row →
    ∃ row', t.db.tasks.lookup id = some row' ∧
      (row'.status = row.status ∨ R w.writer row.status row'.status)

/-- The transition table grants it, a failed hand-over is taken back, or a task is recovered. -/
def Writer.MayChange (w : Writer) (s t : TaskStatus) : Prop :=
  s.Leads t ∨ w = .rollBack ∧ s = .inProgress ∧ t = .queued ∨
    w = .autoRecovery ∧ s = .changesRequested ∧ t = .queued

/-- The events of the board that a part of the scheduler makes. -/
def Writer.Schedules : Writer → BoardEvent String String → Prop
  | .dispatch, .dispatch _ _ | .dispatch, .block _ none => True
  | .rollBack, .rollback _ _ => True
  | .autoSteal, .steal _ _ => True
  | .autoRecovery, .recover _ _ => True
  | _, _ => False

/-- The events of the board that a writer makes. -/
def Writer.Makes (w : Writer) (e : BoardEvent String String) : Prop :=
  w.Schedules e ∨ w = .request ∧ ¬ e.Scheduled

/-- A write that the board does not show, or one event that `M` lets its writer make. -/
def BoardWrite (M : Writer → BoardEvent String String → Prop) (s : LoopState) (w : Write)
    (t : LoopState) : Prop :=
  t = w.after ∧ (t.board = s.board ∨ ∃ e, Board.Step s.board e t.board ∧ M w.writer e)

section Steps

variable {M : Writer → BoardEvent String String → Prop} {cfg : Config} {env : Env} {s t : LoopState}
  {w : Writer}

theorem BoardWrite.of_board (h : t.board = s.board) : BoardWrite M s ⟨w, t⟩ t :=
  ⟨rfl, .inl h⟩

theorem BoardWrite.of_step {e : BoardEvent String String} (h : Board.Step s.board e t.board)
    (hmakes : M w e) : BoardWrite M s ⟨w, t⟩ t :=
  ⟨rfl, .inr ⟨e, h, hmakes⟩⟩

/-! ### The scheduler -/

/-- A write that at most forgets a blocker. -/
theorem BoardWrite.of_unblocked {task : QueuedTask} (h : Fresh s.board task)
    (ht : t.board = (clearBlocker env s task).board) : BoardWrite Writer.Schedules s ⟨.dispatch, t⟩ t := by
  obtain ⟨c, hcard, -⟩ := h
  rcases board_clearBlocker env hcard with hboard | hboard
  · exact .of_board (ht.trans hboard)
  · have hstep : Board.Step s.board (.block task.id none) t.board := by
      rw [ht, hboard]
      exact .block hcard (by simp)
    exact .of_step hstep trivial

/-- A task is started, and handed over or taken back. -/
theorem assign_writes {task : QueuedTask} (h : Fresh s.board task)
    (hidle : s.board.avatar task.assigneeAgentId = some .idle) :
    Run (BoardWrite Writer.Schedules) s
      [⟨.dispatch, startWork env s task⟩,
        ⟨if (handOver cfg env (startWork env s task) task).1 then .dispatch else .rollBack,
          assign cfg env s task⟩]
      (assign cfg env s task) := by
  obtain ⟨c, hcard, hstatus, hassignee⟩ := h
  have hover := board_handOver cfg env (startWork env s task) task
  have hstart : Board.Step s.board (.dispatch task.id task.assigneeAgentId)
      (startWork env s task).board := by
    rw [board_startWork hcard]
    exact .dispatch hcard hstatus hassignee hidle
  refine .cons (.of_step hstart trivial) (.single ?_)
  rw [assign_eq]
  split
  · exact .of_board hover
  · have hcard' : (handOver cfg env (startWork env s task) task).2.board.card task.id =
        some { c with status := .inProgress } := by
      rw [hover, board_startWork hcard, Board.card_mark, Board.card_put, if_pos rfl]
    have hback : Board.Step (startWork env s task).board (.rollback task.id task.assigneeAgentId)
        (rollBack env (handOver cfg env (startWork env s task) task).2 task).board := by
      rw [← hover, board_rollBack hcard']
      exact .rollback hcard' rfl hassignee
    exact .of_step hback trivial

variable (cfg env) in
/-- **One row** of the dispatch query. -/
theorem rowWrites_run {task : QueuedTask} (h : Fresh s.board task) :
    Run (BoardWrite Writer.Schedules) s (rowWrites cfg env s task) (dispatchOne cfg env s task) := by
  unfold rowWrites
  cases hattempt : attemptOf cfg env s task with
  | none =>
      refine .single ?_
      rcases dispatchOne_of_none hattempt with heq | heq | ⟨room, heq⟩
      · exact .of_board (by rw [heq])
      · exact .of_unblocked h (by rw [heq])
      · exact .of_unblocked h (by rw [heq, board_approach])
  | some a =>
      have hidle := idle_of_attempt hattempt
      obtain ⟨-, hbefore, -, hhanded, -⟩ := gated_of_attemptOf hattempt
      obtain ⟨-, hfresh, hsame⟩ := clearBlocker_board env h
      simp only
      rw [dispatchOne_of_attempt hattempt, hhanded, hbefore]
      refine .cons (.of_unblocked h rfl) (assign_writes hfresh ?_)
      rw [hsame]
      exact hidle

/-- **The loop**: each row still holds when its turn comes. -/
theorem loopWrites_run :
    Run (BoardWrite Writer.Schedules) s
      (loopLabels (dispatchOne cfg env) (rowWrites cfg env) (queuedTasks env s.db) s)
      (dispatchLoop cfg env s) := by
  refine Run.loop (P := fun tasks s => Pending s.board tasks) ?_ _ s (pending_queuedTasks env s)
  intro task tasks s hpending
  exact ⟨rowWrites_run cfg env (hpending.fresh task List.mem_cons_self), hpending.tail cfg env⟩

/-- A loop whose turns are writes. -/
theorem turnWrites_run {ι : Type} {step : LoopState → Write → LoopState → Prop}
    {f : LoopState → ι → LoopState} (hf : ∀ s i, step s ⟨w, f s i⟩ (f s i)) (l : List ι)
    (s : LoopState) : Run step s (turnWrites w f l s) (l.foldl f s) :=
  Run.loop (P := fun _ _ => True) (fun i _ s _ => ⟨.single (hf s i), trivial⟩) l s trivial

theorem autoStealWrites_run :
    Run (BoardWrite Writer.Schedules) s (autoStealWrites env s) (autoStealPass env s) := by
  refine Run.loop (P := fun _ _ => True) (fun startup _ s _ => ⟨?_, trivial⟩) _ s trivial
  refine turnWrites_run (fun s row => ?_) _ s
  rcases autoSteal_step startup.1 row.1 row.2.1 with hboard | ⟨peer, hstep⟩
  · exact .of_board hboard
  · exact .of_step hstep trivial

theorem autoRecoveryWrites_run :
    Run (BoardWrite Writer.Schedules) s (autoRecoveryWrites env s) (autoRecoveryPass env s) := by
  refine Run.loop (P := fun _ _ => True) (fun startup _ s _ => ⟨?_, trivial⟩) _ s trivial
  refine turnWrites_run (fun s row => ?_) _ s
  rcases autoRecover_step startup.1 row.1 row.2.1 row.2.2 with hboard | ⟨peer, hstep⟩
  · exact .of_board hboard
  · exact .of_step hstep trivial

theorem schedulerWrites_run :
    Run (BoardWrite Writer.Schedules) s (schedulerWrites cfg env s) (schedulerTick cfg env s) := by
  unfold schedulerWrites
  refine loopWrites_run.trans (.cons (.of_board board_deadlineScan) ?_)
  exact autoStealWrites_run.trans autoRecoveryWrites_run

theorem board_afterMoves : (afterMoves env s).board = s.board := by
  unfold afterMoves
  refine (board_foldl (fun s e => board_push _ _) _ _).trans ?_
  exact congrArg (Board.mk s.db.card) (statusOf_stepAll s.world s.paths)

/-! ### Requests -/

/-- What a request other than the scheduler's emits is none of its events. -/
theorem not_scheduled_of_emits {l : LoopEvent} {e : BoardEvent String String} (h : Emits s l e) :
    ¬ e.Scheduled := by
  cases h with
  | @mcp env agentId msg caller _ hcaller hissues =>
      generalize (McpCall.ofJson msg).tool = tool at hissues
      cases hissues with
      | plain _ hscheduled => exact hscheduled
      | submit | fail | create | block => exact id
  | console horders =>
      cases horders with
      | plain _ hscheduled => exact hscheduled
      | forceFail => exact id
  | create => exact id

/-- A request other than the scheduler's. -/
theorem request_write (l : LoopEvent) (h : ¬ l.Scheduler) :
    BoardWrite Writer.Makes s ⟨.request, l.apply cfg s⟩ (l.apply cfg s) := by
  rcases request_board cfg s l h with hboard | ⟨e, hstep, hemits⟩
  · exact .of_board hboard
  · exact .of_step hstep (.inr ⟨rfl, not_scheduled_of_emits hemits⟩)

variable (cfg s) in
/-- A request of the scheduler. -/
theorem scheduler_writes (l : LoopEvent) (h : l.Scheduler) :
    Run (BoardWrite Writer.Schedules) s (l.writes cfg s) (l.apply cfg s) := by
  cases l with
  | tick env =>
      have htick : Run (BoardWrite Writer.Schedules) (afterMoves env s) _ (loopTick cfg env s) :=
        schedulerWrites_run
      exact .cons (.of_board board_afterMoves) htick
  | autoSteal env => exact autoStealWrites_run
  | autoRecovery env => exact autoRecoveryWrites_run
  | _ => exact h.elim

variable (cfg s) in
/-- **The writes behind a request** are events of the board that their writers make, at most one each. -/
theorem board_writes (l : LoopEvent) :
    Run (BoardWrite Writer.Makes) s (l.writes cfg s) (l.apply cfg s) := by
  have hscheduler : l.Scheduler → Run (BoardWrite Writer.Makes) s (l.writes cfg s) (l.apply cfg s) :=
    fun h => (scheduler_writes cfg s l h).mono fun _ _ _ hw =>
      ⟨hw.1, hw.2.imp_right fun ⟨e, hstep, hmakes⟩ => ⟨e, hstep, .inl hmakes⟩⟩
  cases l with
  | tick | autoSteal | autoRecovery => exact hscheduler trivial
  | _ => exact .single (request_write _ id)

/-! ### Statuses -/

/-- A write that the board does not show. -/
theorem WriteStep.of_board (h : t.board = s.board) :
    WriteStep Writer.MayChange s ⟨w, t⟩ t := by
  refine ⟨rfl, fun id row hrow => ?_⟩
  have hcard : t.board.card id = some row.card := by
    rw [h]
    exact card_of_lookup hrow
  obtain ⟨row', hrow', heq⟩ := Db.card_eq_some_iff.mp hcard
  exact ⟨row', hrow', .inl (congrArg Card.status heq)⟩

/-- A write that is an event of the board. -/
theorem WriteStep.of_step {e : BoardEvent String String} (h : Board.Step s.board e t.board)
    (hback : ∀ u a, e = .rollback u a → w = .rollBack)
    (hrecover : ∀ u a, e = .recover u a → w = .autoRecovery) :
    WriteStep Writer.MayChange s ⟨w, t⟩ t := by
  refine ⟨rfl, fun id row hrow => ?_⟩
  have hcard := card_of_lookup hrow
  obtain ⟨c', hcard'⟩ := Option.isSome_iff_exists.mp (h.card_kept hcard)
  obtain ⟨row', hrow', rfl⟩ := Db.card_eq_some_iff.mp hcard'
  refine ⟨row', hrow', (h.status_of hcard hcard').imp_right ?_⟩
  rintro (hleads | ⟨⟨a, he⟩, hstatus⟩ | ⟨⟨a, he⟩, hstatus⟩)
  · exact .inl hleads
  · exact .inr (.inl ⟨hback id a he, hstatus⟩)
  · exact .inr (.inr ⟨hrecover id a he, hstatus⟩)

/-- Only its own writer takes a hand-over back. -/
theorem Writer.Makes.rollBack {u a : String} (h : w.Makes (.rollback u a)) : w = .rollBack := by
  rcases h with h | ⟨-, h⟩
  · cases w with
    | rollBack => rfl
    | _ => exact h.elim
  · exact absurd trivial h

/-- Only its own writer recovers a task. -/
theorem Writer.Makes.autoRecovery {u a : String} (h : w.Makes (.recover u a)) :
    w = .autoRecovery := by
  rcases h with h | ⟨-, h⟩
  · cases w with
    | autoRecovery => rfl
    | _ => exact h.elim
  · exact absurd trivial h

theorem BoardWrite.status {w : Write} (h : BoardWrite Writer.Makes s w t) :
    WriteStep Writer.MayChange s w t := by
  obtain ⟨rfl, hboard | ⟨e, hstep, hmakes⟩⟩ := h
  · exact .of_board hboard
  · refine .of_step hstep ?_ ?_
    · rintro u a rfl
      exact hmakes.rollBack
    · rintro u a rfl
      exact hmakes.autoRecovery

variable (cfg s) in
/-- **Changes of status**: each write behind a request changes a status only as the transition table
grants, unless it takes back a failed hand-over or recovers the task. -/
theorem status_changes (l : LoopEvent) :
    Run (WriteStep Writer.MayChange) s (l.writes cfg s) (l.apply cfg s) :=
  (board_writes cfg s l).mono fun _ _ _ h => h.status

end Steps

/-! ### A hand-over that fails -/

/-- The status of a task. -/
def statusIn (id : String) (s : LoopState) : Option TaskStatus :=
  (s.db.tasks.lookup id).map TaskRow.status

/-- The engineer has a task and a worker, and its channel is full at the next tick. -/
noncomputable def handOverState : LoopState :=
  runEvents sampleConfig sampleStartup.state
    [sampleCreate 1 "1" (some "a-2"), .registerWorker "a-2"]

/-- **Not by the transition table alone**: the task is in progress before it is queued again. -/
theorem not_status_changes_by_next :
    ¬ ∀ (cfg : Config) (s : LoopState) (l : LoopEvent), (loopSystem cfg).Reachable s →
      Run (WriteStep fun _ => TaskStatus.Leads) s (l.writes cfg s) (l.apply cfg s) := by
  intro h
  have hreachable : ((loopSystem sampleConfig).restrict fun _ _ => True).Reachable handOverState :=
    reachable_runEvents (.init (sampleStartup.init sampleConfig)) _ fun _ _ _ => trivial
  have hrun := h sampleConfig _ (.tick (fullEnv "T_1")) hreachable.of_restrict
  have hchain : List.IsChain
      (fun x y => ∀ st, x = some st → ∃ st', y = some st' ∧ (st' = st ∨ st.Leads st'))
      ((handOverState :: (LoopEvent.writes sampleConfig handOverState
        (.tick (fullEnv "T_1"))).map Write.after).map (statusIn "T_1")) := by
    refine List.isChain_map_of_isChain _ (fun s t hst st hs => ?_) (hrun.isChain fun s w t h => h)
    obtain ⟨row, hrow, rfl⟩ := Option.map_eq_some_iff.mp hs
    obtain ⟨row', hrow', hstatus⟩ := hst "T_1" row hrow
    exact ⟨row'.status, Option.map_eq_some_iff.mpr ⟨row', hrow', rfl⟩, hstatus⟩
  have hstatuses : ((handOverState :: (LoopEvent.writes sampleConfig handOverState
      (.tick (fullEnv "T_1"))).map Write.after).map (statusIn "T_1")).take 5 =
        [some .queued, some .queued, some .queued, some .inProgress, some .queued] := by
    decide +kernel
  have hback := hchain.take 5
  rw [hstatuses] at hback
  simp only [List.isChain_cons_cons] at hback
  obtain ⟨-, -, -, hback, -⟩ := hback
  obtain ⟨st, hst, heq | hleads⟩ := hback .inProgress rfl
  · obtain rfl := Option.some.inj hst
    exact absurd heq (by decide)
  · obtain rfl := Option.some.inj hst
    exact not_leads_queued hleads

/-! ### Tasks that are over -/

/-- A task that is done or failed keeps its status, and one that is over stays over. -/
def StaysOver (s t : LoopState) : Prop :=
  ∀ id row, s.db.tasks.lookup id = some row → ∃ row', t.db.tasks.lookup id = some row' ∧
    (row.status = .done ∨ row.status = .failed → row'.status = row.status) ∧
      (row.status.Terminal → row'.status.Terminal)

/-- The states of a run: the first one, and one after each write. -/
def runStates (cfg : Config) (s : LoopState) (ls : List LoopEvent) : List LoopState :=
  s :: (loopLabels (fun s l => l.apply cfg s) (fun s l => l.writes cfg s) ls s).map Write.after

theorem StaysOver.trans {s t u : LoopState} (h : StaysOver s t) (h' : StaysOver t u) :
    StaysOver s u := by
  intro id row hrow
  obtain ⟨row', hrow', hsame, hover⟩ := h id row hrow
  obtain ⟨row'', hrow'', hsame', hover'⟩ := h' id row' hrow'
  refine ⟨row'', hrow'', fun hdone => ?_, fun hterminal => hover' (hover hterminal)⟩
  have heq := hsame hdone
  rw [hsame' (heq ▸ hdone), heq]

instance : Trans StaysOver StaysOver StaysOver :=
  ⟨StaysOver.trans⟩

/-- Nothing leaves the terminal statuses. -/
theorem terminal_of_mayChange {w : Writer} {s t : TaskStatus} (h : w.MayChange s t)
    (hs : s.Terminal) : s ≠ .done ∧ s ≠ .failed ∧ t.Terminal := by
  rcases h with ⟨tr, htr, hnext⟩ | ⟨-, rfl, -⟩ | ⟨-, rfl, -⟩
  · obtain ⟨hdone, hfailed⟩ := TaskStatus.Leads.not_over ⟨tr, htr, hnext⟩
    exact ⟨hdone, hfailed, terminal_of_next htr hs hnext⟩
  · exact absurd hs (by decide)
  · exact absurd hs (by decide)

theorem StaysOver.of_write {s t : LoopState} {w : Write} (h : WriteStep Writer.MayChange s w t) :
    StaysOver s t := by
  intro id row hrow
  obtain ⟨row', hrow', hstatus⟩ := h.2 id row hrow
  refine ⟨row', hrow', fun hdone => ?_, fun hterminal => ?_⟩
  · have hterminal : row.status.Terminal := hdone.imp_right .inl
    refine hstatus.resolve_right fun hchange => ?_
    obtain ⟨hne, hne', -⟩ := terminal_of_mayChange hchange hterminal
    exact hdone.elim hne hne'
  · rcases hstatus with heq | hchange
    · exact heq ▸ hterminal
    · exact (terminal_of_mayChange hchange hterminal).2.2

/-- **A task that is over stays over**, between any two states of any run. -/
theorem terminal_closed (cfg : Config) (s : LoopState) (ls : List LoopEvent) :
    (runStates cfg s ls).Pairwise StaysOver ∧ runEvents cfg s ls ∈ runStates cfg s ls := by
  have hrun : Run (WriteStep Writer.MayChange) s
      (loopLabels (fun s l => l.apply cfg s) (fun s l => l.writes cfg s) ls s)
      (runEvents cfg s ls) :=
    Run.loop (P := fun _ _ => True) (fun l _ s _ => ⟨status_changes cfg s l, trivial⟩) ls s trivial
  constructor
  · exact (hrun.isChain fun s w t h => ⟨h.1, StaysOver.of_write h⟩).pairwise
  · exact hrun.mem_states fun s w t h => h.1

end Cliptown.Task
