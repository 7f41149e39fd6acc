import Cliptown.Task.Console
import Cliptown.Task.McpBoard

/-!
# The console on the board

A command leaves the board as it is, or is one event of it.

* `Orders` — which event a command stands for: the only one with a condition is a forced failure.
* `withLock_view`, `withLock_cases`, `auditedTransition_board` — what the shared parts do.
* `consoleCommand_board`, `dispatchConsole_board` — any command.
-/

namespace Cliptown.Task

open Cliptown.Lib Cliptown.Town Cliptown.World Cliptown.Console

section Commands

variable {cfg : Config} {env : Env} {s s' : LoopState} {identity : OperatorIdentity} {v : Json}

variable (env s identity) in
/-- The event that a command stands for. -/
inductive Orders : ConsoleInbound → BoardEvent String String → Prop
  | plain {cmd : ConsoleInbound} {e : BoardEvent String String} : e.Plain → ¬ e.Scheduled → Orders cmd e
  | forceFail {taskId note : String} {lock : LockInfo} : identity.role.atLeast .manager →
      (tryAcquire s.db.operatorNames s.db.actionLocks (taskLockKey taskId "force_fail") identity.id
        defaultTtlSecs env.now).2 = .ok lock →
      Orders (.operatorForceFail taskId note) (.forceFail taskId)

/-- A command leaves the board as it is, or is one event that it orders. -/
def Carries (env : Env) (s : LoopState) (identity : OperatorIdentity) (cmd : ConsoleInbound)
    (s' : LoopState) : Prop :=
  s'.board = s.board ∨ ∃ e, Board.Step s.board e s'.board ∧ Orders env s identity cmd e

/-- An event without a condition. -/
theorem Carries.of_plain {cmd : ConsoleInbound} {e : BoardEvent String String}
    (h : Board.Step s.board e s'.board) (he : e.Plain) (hscheduled : ¬ e.Scheduled) :
    Carries env s identity cmd s' :=
  .inr ⟨e, h, .plain he hscheduled⟩

/-- A command that is settled. -/
theorem Carries.settle {cmd : ConsoleInbound} {r : Except Json (Json × LoopState)}
    (h : ∀ v s', r = .ok (v, s') → Carries env s identity cmd s') :
    Carries env s identity cmd (Lib.settle s r).2 := by
  rcases settle_cases s r with hs | ⟨v, s', hr, hs⟩
  · exact .inl (by rw [hs])
  · rw [hs]
    exact h v s' hr

/-! ### The operator's avatar -/

theorem operatorMove_board {x y : ℤ} {cmd : ConsoleInbound}
    (h : operatorMove s x y = .ok (v, s')) : Carries env s identity cmd s' := by
  obtain rfl := operatorMove_eq_ok h
  exact .inl (congrArg (Board.mk s.db.card) (statusOf_setAvatar fun _ => rfl))

/-- No task is assigned to the operator's avatar, which is not an agent. -/
theorem assignee_ne_operator {t : String} {c : Card String String}
    (hc : s.board.card t = some c) : c.assignee ≠ some operatorAvatarId := by
  obtain ⟨row, hrow, rfl⟩ := Db.card_eq_some_iff.mp hc
  intro hassignee
  have hagent := (s.db.taskRefs t row hrow).assignee operatorAvatarId hassignee
  rw [s.db.agentIds] at hagent
  exact absurd hagent (by simp)

theorem operatorPossess_board {startupId : String} {cmd : ConsoleInbound}
    (h : operatorPossess s startupId = .ok (v, s')) : Carries env s identity cmd s' := by
  obtain ⟨-, rfl⟩ := Prod.mk.inj (pure_eq_ok.mp h)
  refine .of_plain (e := .possess operatorAvatarId) ?_ trivial id
  have hboard : ({ s with
      world := ⟨s.world.avatars.insert operatorAvatarId (operatorAvatar startupId)⟩ } :
        LoopState).board = { s.board with
      avatar := Function.update s.board.avatar operatorAvatarId (some .idle) } := by
    unfold LoopState.board statusOf
    congr 1
    funext x
    rw [Function.update_apply, Table.lookup_insert_eq]
    split <;> rfl
  rw [hboard]
  exact .possess fun t c hc => assignee_ne_operator hc

theorem operatorUnpossess_board {cmd : ConsoleInbound} (h : operatorUnpossess s = .ok (v, s')) :
    Carries env s identity cmd s' := by
  obtain ⟨-, rfl⟩ := Prod.mk.inj (pure_eq_ok.mp h)
  refine .of_plain (e := .unpossess operatorAvatarId) ?_ trivial id
  have hboard : ({ s with world := ⟨s.world.avatars.erase operatorAvatarId⟩ } : LoopState).board =
      { s.board with avatar := Function.update s.board.avatar operatorAvatarId none } := by
    unfold LoopState.board statusOf
    congr 1
    funext x
    rw [Function.update_apply, Table.lookup_erase_eq]
    split <;> rfl
  rw [hboard]
  exact .unpossess

/-! ### Directives and proposals -/

theorem operatorDirective_board {toAgentId body : String} {cmd : ConsoleInbound}
    (h : operatorDirective cfg env s identity toAgentId body = .ok (v, s')) :
    Carries env s identity cmd s' := by
  obtain ⟨db, message, frame, hdb, -, rfl⟩ := operatorDirective_eq_ok h
  exact .inl ((board_push _ _).trans (board_insertMessage hdb))

theorem operatorAcceptProposal_board {taskId assignee : String} {room : Option String}
    {cmd : ConsoleInbound}
    (h : operatorAcceptProposal cfg env s identity taskId assignee room = .ok (v, s')) :
    Carries env s identity cmd s' := by
  obtain ⟨task, newStatus, agent, db, htask, hnext, -, -, hdb, rfl⟩ := operatorAcceptProposal_eq_ok h
  obtain ⟨hstatus, -⟩ := next_eq_ok_iff.mp hnext
  refine .of_plain (e := .accept taskId assignee) ?_ trivial id
  rw [board_appendAudit, board_relinkTask htask hdb]
  exact .accept (card_of_lookup htask) hstatus

/-- A status change with its audit entry is a placed card. -/
theorem auditedTransition_board {taskId auditKind entryKind : String} {transition : Transition}
    {rest : List (String × Json)}
    (h : auditedTransition cfg env s identity taskId transition auditKind entryKind rest =
      .ok (v, s')) :
    ∃ c newStatus, s.board.card taskId = some c ∧ next c.status transition = .ok newStatus ∧
      s'.board = s.board.put taskId { c with status := newStatus } := by
  obtain ⟨task, newStatus, entry, htask, hnext, -, rfl⟩ := auditedTransition_eq_ok h
  have hcard := card_of_lookup htask
  exact ⟨task.card, newStatus, hcard, hnext,
    (board_appendAudit _ _).trans (board_setStatus hcard newStatus)⟩

theorem operatorRejectProposal_board {taskId reason : String} {cmd : ConsoleInbound}
    (h : operatorRejectProposal cfg env s identity taskId reason = .ok (v, s')) :
    Carries env s identity cmd s' := by
  obtain ⟨c, newStatus, hcard, hnext, hboard⟩ :=
    auditedTransition_board (operatorRejectProposal_eq_ok h)
  obtain ⟨hstatus, rfl⟩ := next_eq_ok_iff.mp hnext
  refine .of_plain (e := .reject taskId) ?_ trivial id
  rw [hboard]
  exact .reject hcard hstatus

/-! ### Commands under a lock -/

@[simp]
theorem board_setLocks (locks : LockTable) : (setLocks s locks).board = s.board :=
  rfl

variable (cfg env s identity) in
/-- What a command under a lock does to whatever does not depend on the locks: nothing, or the lock was free
and the command was carried out. -/
theorem withLock_view {γ : Type*} (view : LoopState → γ)
    (hview : ∀ s locks, view (setLocks s locks) = view s) (lockKey : String)
    (act : LoopState → Except Json (Json × LoopState)) :
    view (withLock cfg env s identity lockKey act).2 = view s ∨
      ∃ lock s₀ v s₁, (tryAcquire s.db.operatorNames s.db.actionLocks lockKey identity.id defaultTtlSecs
          env.now).2 = .ok lock ∧
        view s₀ = view s ∧ act s₀ = .ok (v, s₁) ∧
        view (withLock cfg env s identity lockKey act).2 = view s₁ := by
  unfold withLock
  simp only
  have hs₀ := hview s (tryAcquire s.db.operatorNames s.db.actionLocks lockKey identity.id defaultTtlSecs
    env.now).1
  generalize setLocks s (tryAcquire s.db.operatorNames s.db.actionLocks lockKey identity.id
    defaultTtlSecs env.now).1 = s₀ at *
  split
  · exact .inl hs₀
  · exact .inl hs₀
  · rename_i lock hlock
    rcases settle_cases s₀ (act s₀) with hs | ⟨v, s₁, hact, hs⟩
    · exact .inl (by rw [hview, hs, hs₀])
    · exact .inr ⟨lock, s₀, v, s₁, hlock, hs₀, hact, by rw [hview, hs]⟩

variable (cfg env s identity) in
/-- Under a lock a command leaves the board as it is, or the lock was free and the command was carried out. -/
theorem withLock_cases (lockKey : String) (act : LoopState → Except Json (Json × LoopState)) :
    (withLock cfg env s identity lockKey act).2.board = s.board ∨
      ∃ lock s₀ v s₁, (tryAcquire s.db.operatorNames s.db.actionLocks lockKey identity.id defaultTtlSecs
          env.now).2 = .ok lock ∧
        s₀.board = s.board ∧ act s₀ = .ok (v, s₁) ∧
        (withLock cfg env s identity lockKey act).2.board = s₁.board :=
  withLock_view cfg env s identity LoopState.board (fun _ locks => board_setLocks locks) lockKey act

theorem operatorForceAccept_board {taskId : String} {cmd : ConsoleInbound} :
    Carries env s identity cmd (operatorForceAccept cfg env s identity taskId).2 := by
  unfold operatorForceAccept
  split
  · rcases withLock_cases cfg env s identity _ _ with
      hs | ⟨lock, s₀, v, s₁, -, hs₀, hact, hs₁⟩
    · exact .inl hs
    · obtain ⟨c, newStatus, hcard, hnext, hboard⟩ := auditedTransition_board hact
      obtain ⟨hstatus, rfl⟩ := next_eq_ok_iff.mp hnext
      refine .of_plain (e := .approve taskId) ?_ trivial id
      rw [hs₁, hboard, hs₀]
      exact .approve (hs₀ ▸ hcard) hstatus
  · exact .inl rfl

theorem operatorForceFail_board {taskId note : String} :
    Carries env s identity (.operatorForceFail taskId note)
      (operatorForceFail cfg env s identity taskId note).2 := by
  unfold operatorForceFail
  split
  · rename_i hrole
    rcases withLock_cases cfg env s identity _ _ with
      hs | ⟨lock, s₀, v, s₁, hlock, hs₀, hact, hs₁⟩
    · exact .inl hs
    · obtain ⟨c, newStatus, hcard, hnext, hboard⟩ := auditedTransition_board hact
      obtain ⟨hdone, hfailed, rfl⟩ := next_eq_ok_iff.mp hnext
      refine .inr ⟨.forceFail taskId, ?_, .forceFail hrole hlock⟩
      rw [hs₁, hboard, hs₀]
      exact .forceFail (hs₀ ▸ hcard) hdone hfailed
  · exact .inl rfl

/-! ### Operators and settings -/

theorem operatorCreate_board {name role : String} {cmd : ConsoleInbound}
    (h : operatorCreate cfg env s identity name role = .ok (v, s')) :
    Carries env s identity cmd s' := by
  obtain ⟨row, -, rfl⟩ := operatorCreate_eq_ok h
  exact .inl rfl

theorem operatorRevoke_board {operatorId : String} {cmd : ConsoleInbound} :
    Carries env s identity cmd (operatorRevoke cfg env s identity operatorId).2 := by
  unfold operatorRevoke
  split
  · split
    · exact .inl rfl
    · rcases withLock_cases cfg env s identity _ _ with
        hs | ⟨lock, s₀, v, s₁, -, hs₀, hact, hs₁⟩
      · exact .inl hs
      · obtain ⟨-, rfl⟩ := deleteOperator_eq_ok hact
        exact .inl (hs₁.trans hs₀)
  · exact .inl rfl

theorem operatorSetRole_board {operatorId role : String} {cmd : ConsoleInbound}
    (h : operatorSetRole s identity operatorId role = .ok (v, s')) :
    Carries env s identity cmd s' := by
  obtain ⟨parsed, -, -, -, -, rfl⟩ := operatorSetRole_eq_ok h
  exact .inl rfl

theorem agentSetPeerReviewer_board {agentId : String} {flag : Bool} {cmd : ConsoleInbound}
    (h : agentSetPeerReviewer s identity agentId flag = .ok (v, s')) :
    Carries env s identity cmd s' := by
  obtain rfl := agentSetPeerReviewer_eq_ok h
  exact .inl rfl

theorem startupSetAutoSteal_board {startupId : String} {enabled : Bool} {after : Option ℤ}
    {cmd : ConsoleInbound}
    (h : startupSetAutoSteal s identity startupId enabled after = .ok (v, s')) :
    Carries env s identity cmd s' := by
  obtain ⟨f, rfl⟩ := startupSetAutoSteal_eq_ok h
  exact .inl rfl

theorem startupSetAutoRecovery_board {startupId : String} {enabled : Bool} {attempts : Option ℤ}
    {cmd : ConsoleInbound}
    (h : startupSetAutoRecovery s identity startupId enabled attempts = .ok (v, s')) :
    Carries env s identity cmd s' := by
  obtain ⟨f, rfl⟩ := startupSetAutoRecovery_eq_ok h
  exact .inl rfl

/-! ### Skills -/

/-- A command about skills. -/
theorem Carries.of_skills {cmd : ConsoleInbound} (h : SkillsOnly .operator s s') :
    Carries env s identity cmd s' :=
  .inl (board_of_skillsOnly h)

theorem skillAttach_steps {startupId agentId skillId : String}
    (h : skillAttach cfg env s identity startupId agentId skillId = .ok (v, s')) :
    SkillsOnly .operator s s' := by
  unfold skillAttach at h
  simp only [bind_eq_ok, mapError_eq_ok, pure_eq_ok, Prod.mk.injEq] at h
  obtain ⟨_, -, db, hdb, -, rfl⟩ := h
  exact ⟨db, attachSkill_steps trivial hdb, rfl⟩

theorem skillDetach_steps {startupId agentId skillId : String}
    (h : skillDetach s identity startupId agentId skillId = .ok (v, s')) :
    SkillsOnly .operator s s' := by
  unfold skillDetach at h
  simp only [bind_eq_ok, mapError_eq_ok, pure_eq_ok, Prod.mk.injEq] at h
  obtain ⟨_, -, db, hdb, -, rfl⟩ := h
  exact ⟨db, detachSkill_steps trivial hdb, rfl⟩

theorem skillUpsertOperator_steps {startupId name contentMd : String}
    (h : skillUpsertOperator cfg env s identity startupId name contentMd = .ok (v, s')) :
    SkillsOnly .operator s s' := by
  unfold skillUpsertOperator at h
  simp only [bind_eq_ok, mapError_eq_ok, pure_eq_ok, Prod.mk.injEq] at h
  obtain ⟨_, -, ⟨⟨id, created⟩, db⟩, hdb, -, rfl⟩ := h
  exact ⟨db, upsertWithAuthor_steps trivial hdb, rfl⟩

theorem skillDeleteOperator_steps {startupId skillId : String}
    (h : skillDeleteOperator s identity startupId skillId = .ok (v, s')) :
    SkillsOnly .operator s s' := by
  unfold skillDeleteOperator at h
  simp only [bind_eq_ok, mapError_eq_ok, pure_eq_ok, Prod.mk.injEq] at h
  obtain ⟨_, -, db, hdb, -, rfl⟩ := h
  exact ⟨db, deleteSkill_steps trivial hdb, rfl⟩

theorem skillSetGlobal_steps {skillId : String} {isGlobal : Bool}
    (h : skillSetGlobal env s identity skillId isGlobal = .ok (v, s')) :
    SkillsOnly .operator s s' := by
  unfold skillSetGlobal at h
  simp only [bind_eq_ok, mapError_eq_ok, pure_eq_ok, Prod.mk.injEq] at h
  obtain ⟨_, -, db, hdb, -, rfl⟩ := h
  exact ⟨db, setGlobal_steps hdb, rfl⟩

theorem skillRevertOperator_steps {startupId skillId : String} {revSeq : ℤ}
    (h : skillRevertOperator env s identity startupId skillId revSeq = .ok (v, s')) :
    SkillsOnly .operator s s' := by
  unfold skillRevertOperator at h
  simp only [bind_eq_ok, mapError_eq_ok, pure_eq_ok, Prod.mk.injEq] at h
  obtain ⟨_, -, ⟨contentMd, db⟩, hdb, -, rfl⟩ := h
  exact ⟨db, revertToRevision_steps trivial hdb, rfl⟩

/-! ### One command -/

variable (cfg env s identity) in
/-- **Any command** leaves the board as it is or is one event that it orders. -/
theorem consoleCommand_board (cmd : ConsoleInbound) :
    Carries env s identity cmd (consoleCommand cfg env s identity cmd).2 := by
  unfold consoleCommand
  cases cmd with
  | hello => exact .inl rfl
  | operatorMove => exact .settle fun _ _ => operatorMove_board
  | operatorPossess => exact .settle fun _ _ => operatorPossess_board
  | operatorUnpossess => exact .settle fun _ _ => operatorUnpossess_board
  | operatorDirective => exact .settle fun _ _ => operatorDirective_board
  | operatorAcceptProposal => exact .settle fun _ _ => operatorAcceptProposal_board
  | operatorRejectProposal => exact .settle fun _ _ => operatorRejectProposal_board
  | operatorForceAccept => exact operatorForceAccept_board
  | operatorForceFail => exact operatorForceFail_board
  | operatorRecheckBackends => exact .inl rfl
  | operatorCreate => exact .settle fun _ _ => operatorCreate_board
  | operatorRevoke => exact operatorRevoke_board
  | operatorSetRole => exact .settle fun _ _ => operatorSetRole_board
  | agentSetPeerReviewer => exact .settle fun _ _ => agentSetPeerReviewer_board
  | startupSetAutoSteal => exact .settle fun _ _ => startupSetAutoSteal_board
  | startupSetAutoRecovery => exact .settle fun _ _ => startupSetAutoRecovery_board
  | presenceHeartbeat => exact .inl rfl
  | skillAttach => exact .settle fun _ _ h => .of_skills (skillAttach_steps h)
  | skillDetach => exact .settle fun _ _ h => .of_skills (skillDetach_steps h)
  | skillUpsertOperator => exact .settle fun _ _ h => .of_skills (skillUpsertOperator_steps h)
  | skillDeleteOperator => exact .settle fun _ _ h => .of_skills (skillDeleteOperator_steps h)
  | skillSetGlobal => exact .settle fun _ _ h => .of_skills (skillSetGlobal_steps h)
  | skillRevertOperator => exact .settle fun _ _ h => .of_skills (skillRevertOperator_steps h)
  | other => exact .inl rfl

variable (cfg env s identity) in
/-- **Any message of an operator**, likewise. -/
theorem dispatchConsole_board (cmd : ConsoleInbound) :
    Carries env s identity cmd (dispatchConsole cfg env s identity cmd).2 := by
  rw [state_dispatchConsole]
  exact consoleCommand_board cfg env s identity cmd

end Commands

end Cliptown.Task
