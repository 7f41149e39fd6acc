import Cliptown.Task.ConsoleBoard
import Cliptown.Task.McpStatements

/-!
# The console as statements

* `withLock_statements`, `auditedTransition_statements` — what the commands about tasks share.
* `consoleCommand_statements`, `dispatchConsole_statements` — any command is a run of statements on behalf
  of an operator, for which nothing goes astray.
-/

namespace Cliptown.Task

open Cliptown.Lib Cliptown.Town Cliptown.World Cliptown.Console

section Commands

variable {cfg : Config} {env : Env} {s s' : LoopState} {identity : OperatorIdentity} {v : Json}
  {astray : Prop}

/-- An operator may touch every task. -/
theorem ownedBy_operator (id : String) : s.OwnedBy .operator id :=
  fun _ _ => trivial

/-! ### What the commands share -/

/-- Between the lock and its release there are the statements of the command. -/
theorem withLock_statements {lockKey : String} {act : LoopState → Except Json (Json × LoopState)}
    (hact : ∀ s v s', act s = .ok (v, s') → Statements .operator astray s s') :
    Statements .operator astray s (withLock cfg env s identity lockKey act).2 := by
  unfold withLock
  simp only
  have hlock : Statements .operator astray s (setLocks s
      (tryAcquire s.db.operatorNames s.db.actionLocks lockKey identity.id defaultTtlSecs env.now).1) :=
    .single .locks
  split
  · exact hlock
  · exact hlock
  · refine (hlock.trans ?_).tail .locks
    exact Statements.settle fun v s' => hact _ v s'

theorem auditedTransition_statements {taskId auditKind entryKind : String} {transition : Transition}
    {rest : List (String × Json)} (hkind : entryKind ≠ "task_assigned")
    (h : auditedTransition cfg env s identity taskId transition auditKind entryKind rest =
      .ok (v, s')) : Statements .operator astray s s' := by
  obtain ⟨task, newStatus, entry, -, -, hentry, rfl⟩ := auditedTransition_eq_ok h
  refine Statements.appendAudit ?_ (ownedBy_operator taskId) (.inl ?_)
  · exact Statements.refl.setStatus (ownedBy_operator taskId)
  · rw [hentry]
    simpa using hkind

/-! ### The operator's avatar -/

theorem operatorMove_statements {x y : ℤ} (h : operatorMove s x y = .ok (v, s')) :
    Statements .operator astray s s' := by
  obtain rfl := operatorMove_eq_ok h
  exact .single (.move (WorldView.sameAvatars_setAvatar fun _ => rfl))

theorem operatorPossess_statements {startupId : String}
    (h : operatorPossess s startupId = .ok (v, s')) : Statements .operator astray s s' := by
  obtain ⟨-, rfl⟩ := Prod.mk.inj (pure_eq_ok.mp h)
  exact .single (.possess rfl rfl)

theorem operatorUnpossess_statements (h : operatorUnpossess s = .ok (v, s')) :
    Statements .operator astray s s' := by
  obtain ⟨-, rfl⟩ := Prod.mk.inj (pure_eq_ok.mp h)
  exact .single (.unpossess rfl)

/-! ### Directives and proposals -/

theorem operatorDirective_statements {toAgentId body : String}
    (h : operatorDirective cfg env s identity toAgentId body = .ok (v, s')) :
    Statements .operator astray s s' := by
  obtain ⟨db, message, frame, hdb, htype, rfl⟩ := operatorDirective_eq_ok h
  refine Statements.push (.single (.message hdb trivial)) ?_
  simp [isNotice, htype]

theorem operatorAcceptProposal_statements {taskId assignee : String} {room : Option String}
    (h : operatorAcceptProposal cfg env s identity taskId assignee room = .ok (v, s')) :
    Statements .operator astray s s' := by
  obtain ⟨task, newStatus, agent, db, htask, -, hagent, hstartup, hdb, rfl⟩ :=
    operatorAcceptProposal_eq_ok h
  have hrelink : Statements .operator astray s { s with db := db } := by
    refine .single (.relink hdb fun t ht => ?_)
    obtain rfl := Option.some.inj (htask.symm.trans ht)
    exact kept_accepted trivial ⟨agent, hagent, hstartup⟩
  refine hrelink.appendAudit (ownedBy_operator taskId) (.inl ?_)
  simp [Json.getStr, Json.get, Json.asStr]

theorem operatorRejectProposal_statements {taskId reason : String}
    (h : operatorRejectProposal cfg env s identity taskId reason = .ok (v, s')) :
    Statements .operator astray s s' := by
  exact auditedTransition_statements (by simp) (operatorRejectProposal_eq_ok h)

/-! ### Commands under a lock -/

theorem operatorForceAccept_statements {taskId : String} :
    Statements .operator astray s (operatorForceAccept cfg env s identity taskId).2 := by
  unfold operatorForceAccept
  split
  · exact withLock_statements fun _ _ _ => auditedTransition_statements (by simp)
  · exact .refl

theorem operatorForceFail_statements {taskId note : String} :
    Statements .operator astray s (operatorForceFail cfg env s identity taskId note).2 := by
  unfold operatorForceFail
  split
  · exact withLock_statements fun _ _ _ => auditedTransition_statements (by simp)
  · exact .refl

/-! ### Operators and settings -/

theorem operatorCreate_statements {name role : String}
    (h : operatorCreate cfg env s identity name role = .ok (v, s')) :
    Statements .operator astray s s' := by
  obtain ⟨row, -, rfl⟩ := operatorCreate_eq_ok h
  exact .single (.operators rfl)

theorem deleteOperator_statements {operatorId : String}
    (h : deleteOperator s operatorId = .ok (v, s')) : Statements .operator astray s s' := by
  obtain ⟨-, rfl⟩ := deleteOperator_eq_ok h
  have hrow : Statements .operator astray s { s with db := { s.db with
      operators := s.db.operators.erase operatorId } } := .single (.operators rfl)
  have hlocks : Statements .operator astray s { s with db := { s.db with
      operators := s.db.operators.erase operatorId
      actionLocks := s.db.actionLocks.deleteWhere fun _ row =>
        decide (row.operatorId = operatorId) } } := hrow.tail .locks
  exact hlocks.tail (.disown rfl)

theorem operatorRevoke_statements {operatorId : String} :
    Statements .operator astray s (operatorRevoke cfg env s identity operatorId).2 := by
  unfold operatorRevoke
  split
  · split
    · exact .refl
    · exact withLock_statements fun _ _ _ => deleteOperator_statements
  · exact .refl

theorem operatorSetRole_statements {operatorId role : String}
    (h : operatorSetRole s identity operatorId role = .ok (v, s')) :
    Statements .operator astray s s' := by
  obtain ⟨parsed, -, -, -, -, rfl⟩ := operatorSetRole_eq_ok h
  exact .single (.operators rfl)

theorem agentSetPeerReviewer_statements {agentId : String} {flag : Bool}
    (h : agentSetPeerReviewer s identity agentId flag = .ok (v, s')) :
    Statements .operator astray s s' := by
  obtain rfl := agentSetPeerReviewer_eq_ok h
  exact .single (.peerReviewer rfl)

theorem startupSetAutoSteal_statements {startupId : String} {enabled : Bool} {after : Option ℤ}
    (h : startupSetAutoSteal s identity startupId enabled after = .ok (v, s')) :
    Statements .operator astray s s' := by
  obtain ⟨f, rfl⟩ := startupSetAutoSteal_eq_ok h
  exact .single (.startup rfl)

theorem startupSetAutoRecovery_statements {startupId : String} {enabled : Bool}
    {attempts : Option ℤ}
    (h : startupSetAutoRecovery s identity startupId enabled attempts = .ok (v, s')) :
    Statements .operator astray s s' := by
  obtain ⟨f, rfl⟩ := startupSetAutoRecovery_eq_ok h
  exact .single (.startup rfl)

/-! ### One command -/

variable (cfg env s identity) in
/-- **Any command** is a run of statements on behalf of an operator. -/
theorem consoleCommand_statements (cmd : ConsoleInbound) :
    Statements .operator astray s (consoleCommand cfg env s identity cmd).2 := by
  unfold consoleCommand
  cases cmd with
  | hello => exact .refl
  | operatorMove => exact .settle fun _ _ => operatorMove_statements
  | operatorPossess => exact .settle fun _ _ => operatorPossess_statements
  | operatorUnpossess => exact .settle fun _ _ => operatorUnpossess_statements
  | operatorDirective => exact .settle fun _ _ => operatorDirective_statements
  | operatorAcceptProposal => exact .settle fun _ _ => operatorAcceptProposal_statements
  | operatorRejectProposal => exact .settle fun _ _ => operatorRejectProposal_statements
  | operatorForceAccept => exact operatorForceAccept_statements
  | operatorForceFail => exact operatorForceFail_statements
  | operatorRecheckBackends => exact .refl
  | operatorCreate => exact .settle fun _ _ => operatorCreate_statements
  | operatorRevoke => exact operatorRevoke_statements
  | operatorSetRole => exact .settle fun _ _ => operatorSetRole_statements
  | agentSetPeerReviewer => exact .settle fun _ _ => agentSetPeerReviewer_statements
  | startupSetAutoSteal => exact .settle fun _ _ => startupSetAutoSteal_statements
  | startupSetAutoRecovery => exact .settle fun _ _ => startupSetAutoRecovery_statements
  | presenceHeartbeat => exact .refl
  | skillAttach => exact .settle fun _ _ h => .of_skills (skillAttach_steps h)
  | skillDetach => exact .settle fun _ _ h => .of_skills (skillDetach_steps h)
  | skillUpsertOperator => exact .settle fun _ _ h => .of_skills (skillUpsertOperator_steps h)
  | skillDeleteOperator => exact .settle fun _ _ h => .of_skills (skillDeleteOperator_steps h)
  | skillSetGlobal => exact .settle fun _ _ h => .of_skills (skillSetGlobal_steps h)
  | skillRevertOperator => exact .settle fun _ _ h => .of_skills (skillRevertOperator_steps h)
  | other => exact .refl

variable (cfg env s identity) in
/-- **Any message of an operator**, likewise. -/
theorem dispatchConsole_statements (cmd : ConsoleInbound) :
    Statements .operator astray s (dispatchConsole cfg env s identity cmd).2 := by
  rw [state_dispatchConsole]
  exact consoleCommand_statements cfg env s identity cmd

end Commands

end Cliptown.Task
