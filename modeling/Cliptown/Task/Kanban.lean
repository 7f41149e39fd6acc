import Cliptown.Task.Authority
import Cliptown.Task.Reviews

/-!
# Dropping cards

The Kanban turns the drop of a card onto a column into a command, and the server decides by its own table.

* `ColumnId`, `columnOf`, `allowedTransition`, `onDrop` — the client: columns, and the command behind a drop.
* `CarriedOut`, `InColumn` — the server: a command is carried out, the next snapshot shows a task in a column.
* `refused_or_set` — whatever the card showed, the command is refused, or gives the task the status dropped on.
* `Closes` — the drops after which no column shows the task: it is done or failed, and snapshots leave it out.
* `Overrides` — the drops that are carried out and shown.
* `kanban_iff` — what becomes of a drop, whether or not the task is still as the card showed it.
-/

namespace Cliptown.Task

open Cliptown.Lib Cliptown.Console

/-! ### The client -/

/-- Source: `dragdrop.ts` `ColumnId` -/
inductive ColumnId where
  | proposed
  | queued
  | inProgress
  | awaitingReview
  | escalated
  | done
  | failed
  deriving DecidableEq, Repr

/-- The status of the same name. -/
def ColumnId.status : ColumnId → TaskStatus
  | .proposed => .proposed
  | .queued => .queued
  | .inProgress => .inProgress
  | .awaitingReview => .awaitingReview
  | .escalated => .escalated
  | .done => .done
  | .failed => .failed

/-- The column that shows a status. Source: `Kanban.tsx` `groupBy` -/
def columnOf : TaskStatus → ColumnId
  | .proposed => .proposed
  | .queued => .queued
  | .inProgress => .inProgress
  | .changesRequested => .inProgress
  | .awaitingReview => .awaitingReview
  | .escalated => .escalated
  | .done => .done
  | .failed => .failed

/-- Source: `dragdrop.ts` `Cmd` -/
inductive Cmd where
  | operatorAcceptProposal (taskId : String)
  | operatorRejectProposal (taskId reason : String)
  | operatorForceAccept (taskId : String)
  | operatorForceFail (taskId note : String)
  deriving DecidableEq, Repr

/-- The command behind a drop. A card gives its status for the column that it comes from, `changes_requested`
included. Source: `dragdrop.ts` `allowedTransition`, `Card.tsx` `onDragStart` -/
def allowedTransition (fromColumn : TaskStatus) (toColumn : ColumnId) (taskId : String) : Option Cmd :=
  if fromColumn = toColumn.status then none
  else if toColumn = .failed then
    if fromColumn = .proposed then some (.operatorRejectProposal taskId "operator override")
    else some (.operatorForceFail taskId "operator override")
  else if fromColumn = .proposed ∧ toColumn = .queued then some (.operatorAcceptProposal taskId)
  else if (fromColumn = .awaitingReview ∨ fromColumn = .escalated) ∧ toColumn = .done then
    some (.operatorForceAccept taskId)
  else none

/-- What the drop sends: `answer` is what the operator types when asked for an assignee.
Source: `Kanban.tsx` `onDrop` -/
def onDrop (fromColumn : TaskStatus) (toColumn : ColumnId) (taskId : String) (answer : Option String) :
    Option ConsoleInbound :=
  match allowedTransition fromColumn toColumn taskId with
  | none => none
  | some (.operatorAcceptProposal taskId) =>
      match answer with
      | none => none
      | some assignee => if assignee = "" then none else some (.operatorAcceptProposal taskId assignee none)
  | some (.operatorRejectProposal taskId reason) => some (.operatorRejectProposal taskId reason)
  | some (.operatorForceAccept taskId) => some (.operatorForceAccept taskId)
  | some (.operatorForceFail taskId note) => some (.operatorForceFail taskId note)

/-! ### The server -/

/-- The status under which the next snapshot sends the task, which replaces all the tasks that a console has. Those
that are done or failed are left out. Source: `http.rs` `build_console_snapshot`, `tasks` -/
def shownStatus (taskId : String) (s : LoopState) : Option TaskStatus :=
  (statusIn taskId s).filter fun status => status ∉ [.done, .failed]

/-- The next snapshot shows the task in the column. -/
def InColumn (taskId : String) (toColumn : ColumnId) (s : LoopState) : Prop :=
  ∃ status ∈ shownStatus taskId s, columnOf status = toColumn

section Server

variable (cfg : Config) (env : Env) (s : LoopState) (identity : OperatorIdentity)

/-- The command is carried out. -/
def CarriedOut (cmd : ConsoleInbound) : Prop :=
  ∃ reply, (consoleCommand cfg env s identity cmd).1 = .ok reply

/-- The drop sends a command, which is carried out and leaves the task in the column. -/
def Performed (taskId : String) (fromColumn : TaskStatus) (toColumn : ColumnId) (answer : Option String) : Prop :=
  ∃ cmd ∈ onDrop fromColumn toColumn taskId answer, CarriedOut cfg env s identity cmd ∧
    InColumn taskId toColumn (dispatchConsole cfg env s identity cmd).2

/-- What the drop sends is refused and changes nothing of the task, or leaves it in the column. -/
def RefusedOrMoved (taskId : String) (fromColumn : TaskStatus) (toColumn : ColumnId) (answer : Option String) : Prop :=
  ∀ cmd ∈ onDrop fromColumn toColumn taskId answer,
    (¬ CarriedOut cfg env s identity cmd ∧
        (dispatchConsole cfg env s identity cmd).2.db.tasks.lookup taskId = s.db.tasks.lookup taskId) ∨
      InColumn taskId toColumn (dispatchConsole cfg env s identity cmd).2

end Server

/-- The server grants the drop, and the task is done or failed. -/
def Closes (env : Env) (s : LoopState) (identity : OperatorIdentity) (taskId : String) (fromColumn : TaskStatus)
    (toColumn : ColumnId) : Prop :=
  ∃ task, s.db.tasks.lookup taskId = some task ∧
    match toColumn with
    | .done => task.status = .awaitingReview ∧ s.db.Enrolled identity.id ∧
        Unheld s.db.actionLocks (taskLockKey taskId "force_accept") env.now
    | .failed =>
        if fromColumn = .proposed then task.status = .proposed
        else (task.status ≠ .done ∧ task.status ≠ .failed) ∧ s.db.Enrolled identity.id ∧
          Unheld s.db.actionLocks (taskLockKey taskId "force_fail") env.now
    | _ => False

/-- The drops that the server grants and the console shows: a proposal is accepted for an agent of its startup. -/
def Overrides (db : Db) (task : TaskRow) (toColumn : ColumnId) (answer : Option String) : Prop :=
  task.status = .proposed ∧ toColumn = .queued ∧ ∃ assignee ∈ answer, assignee ≠ "" ∧
    ∃ agent, db.agents.lookup assignee = some agent ∧ agent.startupId = task.startupId

section Drop

variable {cfg : Config} {env : Env} {s : LoopState} {identity : OperatorIdentity} {taskId : String}
  {fromColumn : TaskStatus} {toColumn : ColumnId} {answer : Option String} {task : TaskRow}

/-- The four kinds of drops that have a command behind them. -/
inductive Allows (taskId : String) : TaskStatus → ColumnId → Cmd → Prop
  | accept : Allows taskId .proposed .queued (.operatorAcceptProposal taskId)
  | reject : Allows taskId .proposed .failed (.operatorRejectProposal taskId "operator override")
  | forceAccept {status : TaskStatus} : status = .awaitingReview ∨ status = .escalated →
      Allows taskId status .done (.operatorForceAccept taskId)
  | forceFail {status : TaskStatus} : status ≠ .proposed → status ≠ .failed →
      Allows taskId status .failed (.operatorForceFail taskId "operator override")

/-- **Which drops have a command behind them.** -/
theorem allows_of_allowedTransition {sent : Cmd} (h : allowedTransition fromColumn toColumn taskId = some sent) :
    Allows taskId fromColumn toColumn sent := by
  unfold allowedTransition at h
  split at h
  · exact absurd h (by simp)
  · rename_i hmoved
    split at h
    · rename_i hfailed
      subst hfailed
      split at h
      · rename_i hproposed
        obtain rfl := Option.some.inj h
        subst hproposed
        exact .reject
      · rename_i hproposed
        obtain rfl := Option.some.inj h
        exact .forceFail hproposed hmoved
    · split at h
      · rename_i hproposed
        obtain ⟨rfl, rfl⟩ := hproposed
        obtain rfl := Option.some.inj h
        exact .accept
      · split at h
        · rename_i hdone
          obtain ⟨hreview, rfl⟩ := hdone
          obtain rfl := Option.some.inj h
          exact .forceAccept hreview
        · exact absurd h (by simp)

/-- A drop sends what its kind says; where an assignee is asked for, only with an answer. -/
inductive Sends (taskId : String) (answer : Option String) : Cmd → ConsoleInbound → Prop
  | accept {assignee : String} : answer = some assignee → assignee ≠ "" →
      Sends taskId answer (.operatorAcceptProposal taskId) (.operatorAcceptProposal taskId assignee none)
  | reject {reason : String} :
      Sends taskId answer (.operatorRejectProposal taskId reason) (.operatorRejectProposal taskId reason)
  | forceAccept : Sends taskId answer (.operatorForceAccept taskId) (.operatorForceAccept taskId)
  | forceFail {note : String} :
      Sends taskId answer (.operatorForceFail taskId note) (.operatorForceFail taskId note)

/-- **What a drop sends.** -/
theorem onDrop_eq_some_iff {sent : Cmd} (h : allowedTransition fromColumn toColumn taskId = some sent)
    {cmd : ConsoleInbound} :
    onDrop fromColumn toColumn taskId answer = some cmd ↔ Sends taskId answer sent cmd := by
  unfold onDrop
  rw [h]
  constructor
  · intro hcmd
    cases allows_of_allowedTransition h with
    | accept =>
        rcases answer with _ | assignee
        · exact absurd hcmd (by simp)
        · dsimp only at hcmd
          split at hcmd
          · exact absurd hcmd (by simp)
          · rename_i hnamed
            obtain rfl := Option.some.inj hcmd
            exact .accept rfl hnamed
    | reject =>
        obtain rfl := Option.some.inj hcmd
        exact .reject
    | forceAccept _ =>
        obtain rfl := Option.some.inj hcmd
        exact .forceAccept
    | forceFail _ _ =>
        obtain rfl := Option.some.inj hcmd
        exact .forceFail
  · intro hsends
    cases hsends with
    | accept hanswer hnamed =>
        rw [hanswer]
        exact if_neg hnamed
    | reject => rfl
    | forceAccept => rfl
    | forceFail => rfl

/-- A drop that sends something has a command behind it. -/
theorem sends_of_onDrop {cmd : ConsoleInbound} (h : onDrop fromColumn toColumn taskId answer = some cmd) :
    ∃ sent, Allows taskId fromColumn toColumn sent ∧ Sends taskId answer sent cmd := by
  rcases hallowed : allowedTransition fromColumn toColumn taskId with _ | sent
  · unfold onDrop at h
    rw [hallowed] at h
    exact absurd h (by simp)
  · exact ⟨sent, allows_of_allowedTransition hallowed, (onDrop_eq_some_iff hallowed).mp h⟩

/-! ### Refused or moved -/

/-- A status change is refused and changes nothing, or the task then has the status that the transition leads to. -/
theorem refused_or_changed (cfg : Config) (env : Env) (s : LoopState) (identity : OperatorIdentity)
    (taskId : String) (transition : Transition) (auditKind entryKind : String) (rest : List (String × Json)) :
    (∃ e, settle s (auditedTransition cfg env s identity taskId transition auditKind entryKind rest) =
        (.error e, s)) ∨
      ∃ task status reply, s.db.tasks.lookup taskId = some task ∧ next task.status transition = .ok status ∧
        (settle s (auditedTransition cfg env s identity taskId transition auditKind entryKind rest)).1 =
          .ok reply ∧
        statusIn taskId (settle s (auditedTransition cfg env s identity taskId transition auditKind entryKind
          rest)).2 = some status := by
  rcases h : auditedTransition cfg env s identity taskId transition auditKind entryKind rest with e | ⟨v, s'⟩
  · exact .inl ⟨e, rfl⟩
  · obtain ⟨task, status, -, htask, hnext, -, -⟩ := auditedTransition_eq_ok h
    rw [← h]
    exact .inr ⟨task, status, v, htask, hnext, by rw [h]; rfl, statusIn_auditedTransition htask hnext⟩

/-- So is one under a lock. -/
theorem refused_or_changed_withLock (cfg : Config) (env : Env) (s : LoopState) (identity : OperatorIdentity)
    (lockKey taskId : String) (transition : Transition) (auditKind entryKind : String)
    (rest : List (String × Json)) :
    ((∃ e, (withLock cfg env s identity lockKey fun s =>
        auditedTransition cfg env s identity taskId transition auditKind entryKind rest).1 = .error e) ∧
      (withLock cfg env s identity lockKey fun s =>
        auditedTransition cfg env s identity taskId transition auditKind entryKind rest).2.db.tasks =
          s.db.tasks) ∨
      ∃ task status reply, s.db.tasks.lookup taskId = some task ∧ next task.status transition = .ok status ∧
        (withLock cfg env s identity lockKey fun s =>
          auditedTransition cfg env s identity taskId transition auditKind entryKind rest).1 = .ok reply ∧
        statusIn taskId (withLock cfg env s identity lockKey fun s =>
          auditedTransition cfg env s identity taskId transition auditKind entryKind rest).2 = some status := by
  by_cases hlock : (tryAcquire s.db.operatorNames s.db.actionLocks lockKey identity.id defaultTtlSecs env.now).2.isOk
  · obtain ⟨held, freed, hreply, hstate⟩ := withLock_granted cfg
      (fun s => auditedTransition cfg env s identity taskId transition auditKind entryKind rest) hlock
    rcases refused_or_changed cfg env (setLocks s held) identity taskId transition auditKind entryKind rest with
      ⟨e, h⟩ | ⟨task, status, reply, htask, hnext, hgranted, hstatus⟩
    · rw [h] at hreply hstate
      exact .inl ⟨⟨e, hreply⟩, by rw [hstate]; rfl⟩
    · rw [hreply, hstate]
      exact .inr ⟨task, status, reply, htask, hnext, hgranted, hstatus⟩
  · obtain ⟨e, locks, hrefused⟩ := withLock_refused cfg
      (fun s => auditedTransition cfg env s identity taskId transition auditKind entryKind rest) hlock
    rw [hrefused]
    exact .inl ⟨⟨e, rfl⟩, rfl⟩

/-- A transition that leads to one status only: its command is refused, or gives the task this status. -/
theorem refused_or_set_of_next {r : Except Json Json × LoopState} {transition : Transition} {final : TaskStatus}
    (h : ((∃ e, r.1 = .error e) ∧ r.2.db.tasks = s.db.tasks) ∨
      ∃ task status reply, s.db.tasks.lookup taskId = some task ∧ next task.status transition = .ok status ∧
        r.1 = .ok reply ∧ statusIn taskId r.2 = some status)
    (hfinal : ∀ status status', next status transition = .ok status' → status' = final) :
    (¬ (∃ reply, r.1 = .ok reply) ∧ r.2.db.tasks.lookup taskId = s.db.tasks.lookup taskId) ∨
      ((∃ reply, r.1 = .ok reply) ∧ statusIn taskId r.2 = some final) := by
  rcases h with ⟨⟨e, hrefused⟩, htasks⟩ | ⟨task, status, reply, -, hnext, hreply, hstatus⟩
  · refine .inl ⟨?_, by rw [htasks]⟩
    rintro ⟨reply, hreply⟩
    exact absurd (hrefused.symm.trans hreply) (by simp)
  · rw [hfinal task.status status hnext] at hstatus
    exact .inr ⟨⟨reply, hreply⟩, hstatus⟩

/-- **Whatever the card showed**, the command is refused and changes nothing of the task, or it is carried out and
the task has the status of the column that the card was dropped on. -/
theorem refused_or_set (cfg : Config) (env : Env) (s : LoopState) (identity : OperatorIdentity)
    {cmd : ConsoleInbound} (hcmd : onDrop fromColumn toColumn taskId answer = some cmd) :
    (¬ CarriedOut cfg env s identity cmd ∧
        (dispatchConsole cfg env s identity cmd).2.db.tasks.lookup taskId = s.db.tasks.lookup taskId) ∨
      (CarriedOut cfg env s identity cmd ∧
        statusIn taskId (dispatchConsole cfg env s identity cmd).2 = some toColumn.status) := by
  unfold CarriedOut
  rw [state_dispatchConsole]
  obtain ⟨sent, hallows, hsends⟩ := sends_of_onDrop hcmd
  cases hsends with
  | @accept assignee _ _ =>
      cases hallows
      simp only [consoleCommand]
      rcases h : operatorAcceptProposal cfg env s identity taskId assignee none with e | ⟨v, s'⟩
      · refine .inl ⟨?_, rfl⟩
        rintro ⟨_, hreply⟩
        exact absurd hreply (by simp [settle])
      · obtain ⟨task, status, agent, db, htask, -, -, -, hdb, rfl⟩ := operatorAcceptProposal_eq_ok h
        refine .inr ⟨⟨v, rfl⟩, ?_⟩
        simp only [settle, statusIn, LoopState.appendAudit, lookup_updateTask,
          (lookup_relinkTask hdb).1, Table.lookup_modify, htask]
        simp [ColumnId.status]
  | @reject reason =>
      cases hallows
      simp only [consoleCommand]
      rcases h : operatorRejectProposal cfg env s identity taskId "operator override" with e | ⟨v, s'⟩
      · refine .inl ⟨?_, rfl⟩
        rintro ⟨_, hreply⟩
        exact absurd hreply (by simp [settle])
      · have hchange := operatorRejectProposal_eq_ok h
        have hset := refused_or_changed cfg env s identity taskId (.rejectProposal .operator)
          "operator_reject_proposal" "reject_proposal" [("reason", .str "operator override")]
        rw [hchange] at hset
        refine refused_or_set_of_next (hset.imp_left ?_) ?_
        · rintro ⟨e, hrefused⟩
          exact absurd (congrArg Prod.fst hrefused) (by simp [settle])
        · intro status status' hnext
          exact (next_eq_ok_iff.mp hnext).2
  | forceAccept =>
      cases hallows
      simp only [consoleCommand, operatorForceAccept]
      split
      · refine refused_or_set_of_next (refused_or_changed_withLock cfg env s identity _ taskId _ _ _ _) ?_
        intro status status' hnext
        exact (next_eq_ok_iff.mp hnext).2
      · exact .inl ⟨by simp, rfl⟩
  | @forceFail note =>
      cases hallows
      simp only [consoleCommand, operatorForceFail]
      split
      · refine refused_or_set_of_next (refused_or_changed_withLock cfg env s identity _ taskId _ _ _ _) ?_
        intro status status' hnext
        exact (next_eq_ok_iff.mp hnext).2.2
      · exact .inl ⟨by simp, rfl⟩

/-! ### Carried out -/

/-- A proposal is accepted for an agent of its startup. -/
theorem carriedOut_accept_iff (hrole : identity.role.atLeast .manager) (htask : s.db.tasks.lookup taskId = some task)
    (hstatus : task.status = .proposed) {assignee : String} :
    CarriedOut cfg env s identity (.operatorAcceptProposal taskId assignee none) ↔
      ∃ agent, s.db.agents.lookup assignee = some agent ∧ agent.startupId = task.startupId := by
  unfold CarriedOut
  simp only [consoleCommand]
  constructor
  · rintro ⟨reply, hreply⟩
    rcases h : operatorAcceptProposal cfg env s identity taskId assignee none with e | ⟨v, s'⟩
    · rw [h] at hreply
      exact absurd hreply (by simp [settle])
    · obtain ⟨task', -, agent, -, htask', -, hagent, hstartup, -, -⟩ := operatorAcceptProposal_eq_ok h
      obtain rfl := Option.some.inj (htask.symm.trans htask')
      exact ⟨agent, hagent, hstartup⟩
  · rintro ⟨agent, hagent, hstartup⟩
    have hrefs := s.db.taskRefs taskId task htask
    have hrelink : ∃ db, s.db.relinkTask taskId (fun t => { t with
        status := .queued, assigneeAgentId := some assignee, requiredRoom := none
        updatedAt := env.now }) = some db := by
      unfold Db.relinkTask
      rw [dif_pos]
      · exact ⟨_, rfl⟩
      · intro t ht
        obtain rfl := Option.some.inj (htask.symm.trans ht)
        refine ⟨hrefs.startup, hrefs.parent, ?_, hrefs.blocker⟩
        rintro _ ⟨⟩
        exact Option.isSome_of_mem hagent
    obtain ⟨db, hdb⟩ := hrelink
    have hcommand : ∃ v s', operatorAcceptProposal cfg env s identity taskId assignee none = .ok (v, s') := by
      unfold operatorAcceptProposal
      simp only [bind_eq_ok, require_eq_ok, ensure_eq_ok, mapError_eq_ok, pure_eq_ok, checkRole_eq_ok]
      exact ⟨_, _, (), hrole, task, htask, .queued, next_eq_ok_iff.mpr ⟨hstatus, rfl⟩, agent, hagent, (), hstartup,
        db, hdb, rfl⟩
    obtain ⟨v, s', hcommand⟩ := hcommand
    rw [hcommand]
    exact ⟨v, rfl⟩

/-- A proposal is rejected. -/
theorem carriedOut_reject_iff (hrole : identity.role.atLeast .manager) (reason : String) :
    CarriedOut cfg env s identity (.operatorRejectProposal taskId reason) ↔
      ∃ task, s.db.tasks.lookup taskId = some task ∧ task.status = .proposed := by
  unfold CarriedOut
  simp only [consoleCommand]
  constructor
  · rintro ⟨reply, hreply⟩
    rcases h : operatorRejectProposal cfg env s identity taskId reason with e | ⟨v, s'⟩
    · rw [h] at hreply
      exact absurd hreply (by simp [settle])
    · obtain ⟨task, status, -, htask, hnext, -, -⟩ := auditedTransition_eq_ok (operatorRejectProposal_eq_ok h)
      exact ⟨task, htask, (next_eq_ok_iff.mp hnext).1⟩
  · rintro ⟨task, htask, hstatus⟩
    have hnext : next task.status (.rejectProposal .operator) = .ok .failed := next_eq_ok_iff.mpr ⟨hstatus, rfl⟩
    have hgate : checkRole identity .manager = .ok () := checkRole_eq_ok.mpr hrole
    unfold operatorRejectProposal
    rw [auditedTransition_of_next htask hnext, hgate]
    exact ⟨_, rfl⟩

/-- **A forced status** is set for those who have a row, when nobody holds the lock, if the state machine permits
it. -/
theorem carriedOut_withLock_iff {lockKey : String} {transition : Transition} {auditKind entryKind : String}
    {rest : List (String × Json)} :
    (∃ reply, (withLock cfg env s identity lockKey fun s =>
        auditedTransition cfg env s identity taskId transition auditKind entryKind rest).1 = .ok reply) ↔
      ∃ task, s.db.tasks.lookup taskId = some task ∧ (∃ status, next task.status transition = .ok status) ∧
        s.db.Enrolled identity.id ∧ Unheld s.db.actionLocks lockKey env.now := by
  have hacquired : (tryAcquire s.db.operatorNames s.db.actionLocks lockKey identity.id defaultTtlSecs
      env.now).2.isOk ↔ s.db.Enrolled identity.id ∧ Unheld s.db.actionLocks lockKey env.now := by
    rw [tryAcquire_isOk_iff, and_comm]
    simp [Db.operatorNames, Db.Enrolled]
  rw [← hacquired]
  constructor
  · rintro ⟨reply, hreply⟩
    by_cases hlock : (tryAcquire s.db.operatorNames s.db.actionLocks lockKey identity.id defaultTtlSecs
      env.now).2.isOk
    · rcases refused_or_changed_withLock cfg env s identity lockKey taskId transition auditKind entryKind rest with
        ⟨⟨e, hrefused⟩, -⟩ | ⟨task, status, _, htask, hnext, -, -⟩
      · exact absurd (hrefused.symm.trans hreply) (by simp)
      · exact ⟨task, htask, ⟨status, hnext⟩, hlock⟩
    · obtain ⟨e, locks, hrefused⟩ := withLock_refused cfg
        (fun s => auditedTransition cfg env s identity taskId transition auditKind entryKind rest) hlock
      rw [hrefused] at hreply
      exact absurd hreply (by simp)
  · rintro ⟨task, htask, ⟨status, hnext⟩, hlock⟩
    obtain ⟨held, freed, hreply, -⟩ := withLock_granted cfg
      (fun s => auditedTransition cfg env s identity taskId transition auditKind entryKind rest) hlock
    rw [hreply, auditedTransition_of_next (s := setLocks s held) htask hnext]
    exact ⟨_, rfl⟩

/-- A task is accepted if it is under review. -/
theorem carriedOut_forceAccept_iff (hrole : identity.role.atLeast .manager) :
    CarriedOut cfg env s identity (.operatorForceAccept taskId) ↔
      ∃ task, s.db.tasks.lookup taskId = some task ∧ task.status = .awaitingReview ∧
        s.db.Enrolled identity.id ∧ Unheld s.db.actionLocks (taskLockKey taskId "force_accept") env.now := by
  unfold CarriedOut
  simp only [consoleCommand, operatorForceAccept, hrole, if_true]
  rw [carriedOut_withLock_iff]
  refine exists_congr fun task => and_congr_right fun _ => and_congr_left fun _ => ⟨?_, fun h => ?_⟩
  · rintro ⟨_, hnext⟩
    exact (next_eq_ok_iff.mp hnext).1
  · exact ⟨_, next_eq_ok_iff.mpr ⟨h, rfl⟩⟩

/-- A task is failed if it is neither done nor failed. -/
theorem carriedOut_forceFail_iff (hrole : identity.role.atLeast .manager) (note : String) :
    CarriedOut cfg env s identity (.operatorForceFail taskId note) ↔
      ∃ task, s.db.tasks.lookup taskId = some task ∧ (task.status ≠ .done ∧ task.status ≠ .failed) ∧
        s.db.Enrolled identity.id ∧ Unheld s.db.actionLocks (taskLockKey taskId "force_fail") env.now := by
  unfold CarriedOut
  simp only [consoleCommand, operatorForceFail, hrole, if_true]
  rw [carriedOut_withLock_iff]
  refine exists_congr fun task => and_congr_right fun _ => and_congr_left fun _ => ⟨?_, fun h => ?_⟩
  · rintro ⟨_, hnext⟩
    obtain ⟨hdone, hfailed, -⟩ := next_eq_ok_iff.mp hnext
    exact ⟨hdone, hfailed⟩
  · exact ⟨_, next_eq_ok_iff.mpr ⟨h.1, h.2, rfl⟩⟩

/-- Only one command can be sent. -/
theorem exists_sends_iff {sent : Cmd} {cmd : ConsoleInbound} (hsends : Sends taskId answer sent cmd)
    {p : ConsoleInbound → Prop} : (∃ cmd, Sends taskId answer sent cmd ∧ p cmd) ↔ p cmd := by
  refine ⟨?_, fun h => ⟨cmd, hsends, h⟩⟩
  rintro ⟨cmd', hsends', h⟩
  cases hsends with
  | accept hanswer _ =>
      cases hsends' with
      | accept hanswer' _ =>
          obtain rfl := Option.some.inj (hanswer.symm.trans hanswer')
          exact h
  | _ =>
      cases hsends'
      exact h

/-- **Which drops close a task**: those onto the last two columns that the server grants. -/
theorem closes_iff {sent : Cmd} (hrole : identity.role.atLeast .manager)
    (hallows : Allows taskId fromColumn toColumn sent) (cfg : Config) (answer : Option String) :
    Closes env s identity taskId fromColumn toColumn ↔ toColumn ≠ .queued ∧
      ∃ cmd, Sends taskId answer sent cmd ∧ CarriedOut cfg env s identity cmd := by
  unfold Closes
  cases hallows with
  | accept => simp
  | reject =>
      rw [exists_sends_iff .reject, carriedOut_reject_iff hrole]
      simp
  | forceAccept _ =>
      rw [exists_sends_iff .forceAccept, carriedOut_forceAccept_iff hrole]
      simp
  | forceFail hproposed _ =>
      rw [exists_sends_iff .forceFail, carriedOut_forceFail_iff hrole]
      simp [hproposed]

/-! ### Shown -/

/-- A status is shown in its column, unless the task is done or failed. -/
theorem inColumn_iff {status : TaskStatus} (h : statusIn taskId s = some status) :
    InColumn taskId toColumn s ↔ (status ≠ .done ∧ status ≠ .failed) ∧ columnOf status = toColumn := by
  simp [InColumn, shownStatus, h, Option.filter_some]

/-- What the drop sends is carried out and shown only where a proposal is accepted. -/
theorem inColumn_iff_queued {sent : Cmd} {cmd : ConsoleInbound} (hallows : Allows taskId fromColumn toColumn sent)
    (hcmd : onDrop fromColumn toColumn taskId answer = some cmd) (hcarried : CarriedOut cfg env s identity cmd) :
    InColumn taskId toColumn (dispatchConsole cfg env s identity cmd).2 ↔ toColumn = .queued := by
  rcases refused_or_set cfg env s identity hcmd with hrefused | ⟨-, hstatus⟩
  · exact absurd hcarried hrefused.1
  · rw [inColumn_iff hstatus]
    cases hallows <;> simp [ColumnId.status, columnOf]

/-- **Dropping a card.** Its command is refused and changes nothing of the task, or leaves it in the column that the
card was dropped on, exactly if it does not close the task; and on a task that is as the card showed it, the command
is carried out and the task is shown there exactly if the drop accepts a proposal for an agent of the startup. -/
theorem kanban_iff (cfg : Config) (env : Env) (s : LoopState) (identity : OperatorIdentity)
    (hrole : identity.role.atLeast .manager) (taskId : String) (fromColumn : TaskStatus) (toColumn : ColumnId)
    (hallowed : (allowedTransition fromColumn toColumn taskId).isSome) (answer : Option String) :
    (RefusedOrMoved cfg env s identity taskId fromColumn toColumn answer ↔
        ¬ Closes env s identity taskId fromColumn toColumn) ∧
      ∀ task, s.db.tasks.lookup taskId = some task → task.status = fromColumn →
        (Performed cfg env s identity taskId fromColumn toColumn answer ↔
          Overrides s.db task toColumn answer) := by
  obtain ⟨sent, hsent⟩ := Option.isSome_iff_exists.mp hallowed
  have hallows := allows_of_allowedTransition hsent
  refine ⟨?_, fun task htask hstatus => ?_⟩
  · rw [closes_iff hrole hallows cfg answer]
    unfold RefusedOrMoved
    simp only [Option.mem_def, onDrop_eq_some_iff hsent]
    constructor
    · rintro hdrop ⟨hclosed, cmd, hsends, hcarried⟩
      rcases hdrop cmd hsends with hrefused | hshown
      · exact hrefused.1 hcarried
      · exact hclosed ((inColumn_iff_queued hallows ((onDrop_eq_some_iff hsent).mpr hsends) hcarried).mp hshown)
    · intro hopen cmd hsends
      have hcmd := (onDrop_eq_some_iff hsent).mpr hsends
      refine (refused_or_set cfg env s identity hcmd).imp_right ?_
      rintro ⟨hcarried, -⟩
      refine (inColumn_iff_queued hallows hcmd hcarried).mpr ?_
      by_contra hclosed
      exact hopen ⟨hclosed, cmd, hsends, hcarried⟩
  · unfold Performed
    simp only [Option.mem_def]
    constructor
    · rintro ⟨cmd, hcmd, hcarried, hshown⟩
      have hqueued := (inColumn_iff_queued hallows hcmd hcarried).mp hshown
      have hsends := (onDrop_eq_some_iff hsent).mp hcmd
      cases hallows with
      | accept =>
          cases hsends with
          | @accept assignee hanswer hnamed =>
              exact ⟨hstatus, rfl, assignee, hanswer, hnamed, (carriedOut_accept_iff hrole htask hstatus).mp hcarried⟩
      | _ => cases hqueued
    · rintro ⟨hproposed, rfl, assignee, hanswer, hnamed, hagent⟩
      rw [hstatus] at hproposed
      subst hproposed
      cases hallows with
      | accept =>
          have hcmd := (onDrop_eq_some_iff hsent).mpr (Sends.accept hanswer hnamed)
          have hcarried : CarriedOut cfg env s identity (.operatorAcceptProposal taskId assignee none) :=
            (carriedOut_accept_iff hrole htask hstatus).mpr hagent
          exact ⟨_, hcmd, hcarried, (inColumn_iff_queued .accept hcmd hcarried).mpr rfl⟩

end Drop

/-! ### A proposal and an escalated task -/

/-- The engineer proposes a subtask of the founder's task. -/
noncomputable def proposedState : LoopState :=
  runEvents sampleConfig sampleStartup.state
    [sampleCreate 1 "1" (some "a-1"), sampleCall 2 "a-2" "subtask_create"
      [("parent_id", .str "T_1"), ("title", .str "title"), ("description", .str "description")]]

/-- The proposal is accepted by its card, for the designer. -/
theorem performed_proposed :
    Performed sampleConfig (sampleEnv 3 "3") proposedState sampleAdmin "m" .proposed .queued (some "a-3") := by
  have hstatus : statusIn "m" proposedState = some .proposed := by decide +kernel
  obtain ⟨task, htask, hproposed⟩ := Option.map_eq_some_iff.mp hstatus
  have hstartup : (proposedState.db.tasks.lookup "m").map TaskRow.startupId = some "s-1" := by decide +kernel
  have hagent : (proposedState.db.agents.lookup "a-3").map Agent.startupId = some "s-1" := by decide +kernel
  obtain ⟨agent, hrow, hhome⟩ := Option.map_eq_some_iff.mp hagent
  rw [htask] at hstartup
  refine ((kanban_iff sampleConfig (sampleEnv 3 "3") proposedState sampleAdmin (by decide) "m" .proposed .queued
    (by decide) (some "a-3")).2 task htask hproposed).mpr
      ⟨hproposed, rfl, "a-3", rfl, by decide, agent, hrow, ?_⟩
  exact hhome.trans (Option.some.inj hstartup).symm

/-- The engineer's task goes through all its rounds, and is sent back once more. -/
noncomputable def escalatedState : LoopState :=
  runEvents sampleConfig sampleStartup.state
    (threeRounds ++ [sendBack 8 "m-3", reportTask 9, sendBack 10 "m-4"])

/-- The run leads there. -/
theorem reachable_escalatedState : (loopSystem sampleConfig).Reachable escalatedState := by
  have hreachable : ((loopSystem sampleConfig).restrict fun _ _ => True).Reachable escalatedState :=
    reachable_runEvents (.init (sampleStartup.init sampleConfig)) _ fun _ _ _ => trivial
  exact hreachable.of_restrict

/-- **Not every drop**: an escalated task is dropped onto the column of those that are done, which the client allows
and the server does not. -/
theorem not_performed_escalated :
    ¬ ∀ (cfg : Config) (env : Env) (s : LoopState) (identity : OperatorIdentity) (taskId : String)
      (task : TaskRow) (toColumn : ColumnId) (answer : Option String), (loopSystem cfg).Reachable s →
        identity.role.atLeast .manager → s.db.tasks.lookup taskId = some task →
          (∀ action, Unheld s.db.actionLocks (taskLockKey taskId action) env.now) →
            (allowedTransition task.status toColumn taskId).isSome →
              Performed cfg env s identity taskId task.status toColumn answer := by
  intro h
  have hstatus : statusIn "T_1" escalatedState = some .escalated := by decide +kernel
  obtain ⟨task, htask, hescalated⟩ := Option.map_eq_some_iff.mp hstatus
  have hfree : ∀ action, Unheld escalatedState.db.actionLocks (taskLockKey "T_1" action) 11 := by
    have hlocks : escalatedState.db.actionLocks.entries = [] := by decide +kernel
    intro action row hrow
    rw [Option.mem_def, show escalatedState.db.actionLocks = ∅ from AList.ext hlocks] at hrow
    exact absurd hrow (by simp)
  have hallowed : (allowedTransition task.status .done "T_1").isSome := by
    rw [hescalated]
    decide
  have hperformed := h sampleConfig (sampleEnv 11 "e") escalatedState sampleAdmin "T_1" task .done none
    reachable_escalatedState (by decide) htask hfree hallowed
  have hoverrides := ((kanban_iff sampleConfig (sampleEnv 11 "e") escalatedState sampleAdmin (by decide) "T_1" _
    .done hallowed none).2 task htask rfl).mp hperformed
  exact absurd hoverrides.2.1 (by decide)

end Cliptown.Task
