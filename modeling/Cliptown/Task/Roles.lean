import Cliptown.Task.Parties

/-!
# The roles of the operators

Each command asks for a role before it does anything, and three commands change the table in which the roles
are stored.

* `ConsoleInbound.requiredRole` — the role that a command asks for; `dispatchConsole_refused` — it changes
  nothing for whoever has a lower one.
* `Db.roleOf` — the stored role of an operator.
* `Assigns` — the commands that give an operator another role, or none, when they are granted.
* `dispatchConsole_operators`, `dispatchConsole_roles`, `apply_operators` — what requests do to the table and
  to the stored roles.
-/

namespace Cliptown.Task

open Cliptown.Lib Cliptown.Town Cliptown.World Cliptown.Console

/-! ### The gates -/

/-- The role that a command asks for. Source: the uses of `at_least` in `cmd_console.rs` -/
def ConsoleInbound.requiredRole : ConsoleInbound → OperatorRole
  | .hello | .operatorMove .. | .operatorPossess .. | .operatorUnpossess | .operatorRecheckBackends
  | .presenceHeartbeat | .other .. => .viewer
  | .operatorDirective .. | .operatorAcceptProposal .. | .operatorRejectProposal ..
  | .operatorForceAccept .. | .operatorForceFail .. | .skillAttach .. | .skillDetach ..
  | .skillUpsertOperator .. | .skillDeleteOperator .. | .skillRevertOperator .. => .manager
  | .operatorCreate .. | .operatorRevoke .. | .operatorSetRole .. | .agentSetPeerReviewer ..
  | .startupSetAutoSteal .. | .startupSetAutoRecovery .. | .skillSetGlobal .. => .admin

/-- The stored role of an operator. -/
def Db.roleOf (db : Db) (operatorId : String) : Option OperatorRole :=
  (db.operators.lookup operatorId).map Operator.role

section Commands

variable {cfg : Config} {env : Env} {s s' : LoopState} {identity : OperatorIdentity} {v : Json}
  {cmd : ConsoleInbound}

/-- A command that starts with a gate and is refused there. -/
theorem settle_refused {role : OperatorRole} {rest : Unit → Except Json (Json × LoopState)}
    (h : ¬ identity.role.atLeast role) :
    settle s (checkRole identity role >>= rest) = (.error forbidden, s) := by
  have hrefused : checkRole identity role = .error forbidden := if_neg h
  rw [hrefused]
  rfl

/-- **Gates**: a command that asks for a higher role is refused, and nothing happens. -/
theorem consoleCommand_refused (h : ¬ identity.role.atLeast cmd.requiredRole) :
    consoleCommand cfg env s identity cmd = (.error forbidden, s) := by
  cases cmd with
  | hello | operatorMove | operatorPossess | operatorUnpossess | operatorRecheckBackends
  | presenceHeartbeat | other => exact absurd (OperatorRole.atLeast_viewer identity.role) h
  | operatorForceAccept | operatorForceFail | operatorRevoke => exact if_neg h
  | _ => exact settle_refused h

theorem dispatchConsole_refused (h : ¬ identity.role.atLeast cmd.requiredRole) :
    (dispatchConsole cfg env s identity cmd).2 = s := by
  rw [state_dispatchConsole, consoleCommand_refused h]

/-! ### The stored roles -/

variable (env s identity) in
/-- The commands that give an operator another role, or none, when they are granted. -/
inductive Assigns : ConsoleInbound → String → Option OperatorRole → Prop
  | revoke {operatorId : String} {lock : LockInfo} : identity.role.atLeast .admin →
      operatorId ≠ identity.id →
      (tryAcquire s.db.operatorNames s.db.actionLocks ("operator:" ++ operatorId ++ ":revoke")
        identity.id defaultTtlSecs env.now).2 = .ok lock →
      (s.db.roleOf operatorId).isSome → Assigns (.operatorRevoke operatorId) operatorId none
  | setRole {operatorId role : String} {parsed : OperatorRole} : identity.role.atLeast .admin →
      OperatorRole.ofStr role = some parsed →
      ¬ (operatorId = identity.id ∧ role ≠ identity.role.asStr) →
      (s.db.roleOf operatorId).isSome →
      Assigns (.operatorSetRole operatorId role) operatorId (some parsed)

/-- A role is assigned to an operator that is there. -/
theorem Assigns.stored {operatorId : String} {left : Option OperatorRole}
    (h : Assigns env s identity cmd operatorId left) : (s.db.roleOf operatorId).isSome := by
  cases h with
  | revoke _ _ _ hstored => exact hstored
  | setRole _ _ _ hstored => exact hstored

variable (env s identity) in
/-- What a command may do to the stored roles: a new operator has a minted id, and another role is
assigned. -/
inductive RolesAfter (cmd : ConsoleInbound) : (String → Option OperatorRole) → Prop
  | same : RolesAfter cmd s.db.roleOf
  | created {role : OperatorRole} : s.db.roleOf ("op_" ++ env.newId) = none →
      RolesAfter cmd (Function.update s.db.roleOf ("op_" ++ env.newId) (some role))
  | assigned {operatorId : String} {left : Option OperatorRole} :
      Assigns env s identity cmd operatorId left →
      RolesAfter cmd (Function.update s.db.roleOf operatorId left)

/-! ### The table of the operators -/

variable (cfg env s identity) in
/-- What a command may do to the table of the operators: a new row has a minted id and a minted token, a row
goes, or a row gets another role. -/
inductive OperatorsAfter (cmd : ConsoleInbound) : Table String Operator → Prop
  | same : OperatorsAfter cmd s.db.operators
  | created {name role : String} {parsed : OperatorRole} : cmd = .operatorCreate name role →
      s.db.operators.lookup ("op_" ++ env.newId) = none →
      OperatorsAfter cmd (s.db.operators.insert ("op_" ++ env.newId)
        (newOperator cfg name parsed ("opt_" ++ env.newToken)))
  | revoked {operatorId : String} : Assigns env s identity cmd operatorId none →
      OperatorsAfter cmd (s.db.operators.erase operatorId)
  | assigned {operatorId : String} {role : OperatorRole} :
      Assigns env s identity cmd operatorId (some role) →
      OperatorsAfter cmd (s.db.operators.modify operatorId fun o => { o with role := role })

theorem OperatorsAfter.of_eq (h : s'.db.operators = s.db.operators) :
    OperatorsAfter cfg env s identity cmd s'.db.operators := by
  rw [h]
  exact .same

theorem OperatorsAfter.settle {r : Except Json (Json × LoopState)}
    (h : ∀ v s', r = .ok (v, s') → OperatorsAfter cfg env s identity cmd s'.db.operators) :
    OperatorsAfter cfg env s identity cmd (Lib.settle s r).2.db.operators := by
  rcases settle_cases s r with hs | ⟨v, s', hr, hs⟩
  · rw [hs]
    exact .same
  · rw [hs]
    exact h v s' hr

/-- A function on skills does not touch the operators. -/
theorem OperatorsAfter.of_skills (h : SkillsOnly .operator s s') :
    OperatorsAfter cfg env s identity cmd s'.db.operators := by
  obtain ⟨db, hsteps, rfl⟩ := h
  obtain ⟨tables, rfl⟩ := hsteps.eq
  exact .same

/-- A row that gets another role. -/
theorem Db.roleOf_modify {db db' : Db} {operatorId : String} {role : OperatorRole}
    (hstored : (db.roleOf operatorId).isSome)
    (h : db'.operators = db.operators.modify operatorId fun o => { o with role := role }) :
    db'.roleOf = Function.update db.roleOf operatorId (some role) := by
  rw [Db.roleOf, Option.isSome_map] at hstored
  obtain ⟨row, hrow⟩ := Option.isSome_iff_exists.mp hstored
  funext id
  rw [Function.update_apply]
  unfold Db.roleOf
  rw [h, Table.lookup_modify]
  split
  · rename_i heq
    rw [heq, hrow]
    rfl
  · rfl

/-- A row that goes. -/
theorem Db.roleOf_erase {db db' : Db} {operatorId : String} (h : db'.operators = db.operators.erase operatorId) :
    db'.roleOf = Function.update db.roleOf operatorId none := by
  funext id
  rw [Function.update_apply]
  unfold Db.roleOf
  rw [h, Table.lookup_erase_eq]
  split <;> rfl

/-- A row that is new. -/
theorem Db.roleOf_insert {db db' : Db} {operatorId : String} {row : Operator}
    (h : db'.operators = db.operators.insert operatorId row) :
    db'.roleOf = Function.update db.roleOf operatorId (some row.role) := by
  funext id
  rw [Function.update_apply]
  unfold Db.roleOf
  rw [h, Table.lookup_insert_eq]
  split <;> rfl

/-- What happens to the table, as far as the roles show it. -/
theorem OperatorsAfter.roles (h : OperatorsAfter cfg env s identity cmd s'.db.operators) :
    RolesAfter env s identity cmd s'.db.roleOf := by
  generalize hafter : s'.db.operators = operators at h
  cases h with
  | same =>
      have hsame : s'.db.roleOf = s.db.roleOf := by
        unfold Db.roleOf
        rw [hafter]
      rw [hsame]
      exact .same
  | created _ hnew =>
      rw [Db.roleOf_insert hafter]
      refine .created ?_
      unfold Db.roleOf
      rw [hnew]
      rfl
  | revoked hassigns =>
      rw [Db.roleOf_erase hafter]
      exact .assigned hassigns
  | assigned hassigns =>
      rw [Db.roleOf_modify hassigns.stored hafter]
      exact .assigned hassigns

/-! ### Commands that leave them alone -/

theorem operatorMove_operators {x y : ℤ} (h : operatorMove s x y = .ok (v, s')) :
    OperatorsAfter cfg env s identity cmd s'.db.operators := by
  obtain rfl := operatorMove_eq_ok h
  exact .same

theorem operatorDirective_operators {toAgentId body : String}
    (h : operatorDirective cfg env s identity toAgentId body = .ok (v, s')) :
    OperatorsAfter cfg env s identity cmd s'.db.operators := by
  obtain ⟨db, message, frame, hdb, -, rfl⟩ := operatorDirective_eq_ok h
  obtain ⟨-, rfl⟩ := insertMessage_eq hdb
  apply OperatorsAfter.of_eq
  unfold LoopState.push
  split <;> rfl

theorem operatorAcceptProposal_operators {taskId assignee : String} {room : Option String}
    (h : operatorAcceptProposal cfg env s identity taskId assignee room = .ok (v, s')) :
    OperatorsAfter cfg env s identity cmd s'.db.operators := by
  obtain ⟨task, newStatus, agent, db, -, -, -, -, hdb, rfl⟩ := operatorAcceptProposal_eq_ok h
  exact .of_eq (onlyTasks_relinkTask hdb).operators

theorem auditedTransition_operators {taskId auditKind entryKind : String} {transition : Transition}
    {rest : List (String × Json)}
    (h : auditedTransition cfg env s identity taskId transition auditKind entryKind rest =
      .ok (v, s')) : s'.db.operators = s.db.operators := by
  obtain ⟨task, newStatus, entry, -, -, -, rfl⟩ := auditedTransition_eq_ok h
  rfl

theorem operatorRejectProposal_operators {taskId reason : String}
    (h : operatorRejectProposal cfg env s identity taskId reason = .ok (v, s')) :
    OperatorsAfter cfg env s identity cmd s'.db.operators := by
  exact .of_eq (auditedTransition_operators (operatorRejectProposal_eq_ok h))

/-- A status change under a lock. -/
theorem withLock_transition_operators {lockKey taskId auditKind entryKind : String}
    {transition : Transition} {rest : List (String × Json)} :
    OperatorsAfter cfg env s identity cmd (withLock cfg env s identity lockKey fun s =>
      auditedTransition cfg env s identity taskId transition auditKind entryKind rest).2.db.operators := by
  apply OperatorsAfter.of_eq
  rcases withLock_view cfg env s identity (fun s => s.db.operators) (fun _ _ => rfl) lockKey
    (fun s => auditedTransition cfg env s identity taskId transition auditKind entryKind rest) with
    hs | ⟨lock, s₀, v, s₁, -, hs₀, hact, hs₁⟩
  · exact hs
  · exact (hs₁.trans (auditedTransition_operators hact)).trans hs₀

theorem operatorForceAccept_operators {taskId : String} :
    OperatorsAfter cfg env s identity cmd
      (operatorForceAccept cfg env s identity taskId).2.db.operators := by
  unfold operatorForceAccept
  split
  · exact withLock_transition_operators
  · exact .same

theorem operatorForceFail_operators {taskId note : String} :
    OperatorsAfter cfg env s identity cmd
      (operatorForceFail cfg env s identity taskId note).2.db.operators := by
  unfold operatorForceFail
  split
  · exact withLock_transition_operators
  · exact .same

theorem agentSetPeerReviewer_operators {agentId : String} {flag : Bool}
    (h : agentSetPeerReviewer s identity agentId flag = .ok (v, s')) :
    OperatorsAfter cfg env s identity cmd s'.db.operators := by
  obtain rfl := agentSetPeerReviewer_eq_ok h
  exact .same

theorem startupSetAutoSteal_operators {startupId : String} {enabled : Bool} {after : Option ℤ}
    (h : startupSetAutoSteal s identity startupId enabled after = .ok (v, s')) :
    OperatorsAfter cfg env s identity cmd s'.db.operators := by
  obtain ⟨f, rfl⟩ := startupSetAutoSteal_eq_ok h
  exact .same

theorem startupSetAutoRecovery_operators {startupId : String} {enabled : Bool} {attempts : Option ℤ}
    (h : startupSetAutoRecovery s identity startupId enabled attempts = .ok (v, s')) :
    OperatorsAfter cfg env s identity cmd s'.db.operators := by
  obtain ⟨f, rfl⟩ := startupSetAutoRecovery_eq_ok h
  exact .same

/-! ### Commands that change them -/

theorem operatorCreate_operators {name role : String}
    (h : operatorCreate cfg env s identity name role = .ok (v, s')) :
    OperatorsAfter cfg env s identity (.operatorCreate name role) s'.db.operators := by
  obtain ⟨parsed, hnew, rfl⟩ := operatorCreate_eq_ok h
  exact .created rfl hnew

theorem operatorRevoke_operators {operatorId : String} :
    OperatorsAfter cfg env s identity (.operatorRevoke operatorId)
      (operatorRevoke cfg env s identity operatorId).2.db.operators := by
  unfold operatorRevoke
  split
  · rename_i hrole
    split
    · exact .same
    · rename_i hother
      rcases withLock_view cfg env s identity (fun s => s.db.operators) (fun _ _ => rfl)
        ("operator:" ++ operatorId ++ ":revoke") (fun s => deleteOperator s operatorId) with
        hs | ⟨lock, s₀, v, s₁, hlock, hs₀, hact, hs₁⟩
      · exact .of_eq hs
      · obtain ⟨hsome, rfl⟩ := deleteOperator_eq_ok hact
        simp only at hs₀ hs₁
        rw [hs₀] at hsome hs₁
        have hstored : (s.db.roleOf operatorId).isSome := by
          rwa [Db.roleOf, Option.isSome_map]
        rw [hs₁]
        exact .revoked (.revoke hrole hother hlock hstored)
  · exact .same

theorem operatorSetRole_operators {operatorId role : String}
    (h : operatorSetRole s identity operatorId role = .ok (v, s')) :
    OperatorsAfter cfg env s identity (.operatorSetRole operatorId role) s'.db.operators := by
  obtain ⟨parsed, hrole, hparsed, hself, hsome, rfl⟩ := operatorSetRole_eq_ok h
  have hstored : (s.db.roleOf operatorId).isSome := by
    rwa [Db.roleOf, Option.isSome_map]
  exact .assigned (.setRole hrole hparsed hself hstored)

/-! ### One request -/

variable (cfg env s identity) in
/-- **Any command** leaves the operators as they are, adds one, deletes one, or assigns a role. -/
theorem consoleCommand_operators (cmd : ConsoleInbound) :
    OperatorsAfter cfg env s identity cmd (consoleCommand cfg env s identity cmd).2.db.operators := by
  cases cmd with
  | hello | operatorRecheckBackends | presenceHeartbeat | other => exact .same
  | operatorMove => exact .settle fun _ _ => operatorMove_operators
  | operatorPossess | operatorUnpossess => exact .same
  | operatorDirective => exact .settle fun _ _ => operatorDirective_operators
  | operatorAcceptProposal => exact .settle fun _ _ => operatorAcceptProposal_operators
  | operatorRejectProposal => exact .settle fun _ _ => operatorRejectProposal_operators
  | operatorForceAccept => exact operatorForceAccept_operators
  | operatorForceFail => exact operatorForceFail_operators
  | operatorCreate => exact .settle fun _ _ => operatorCreate_operators
  | operatorRevoke => exact operatorRevoke_operators
  | operatorSetRole => exact .settle fun _ _ => operatorSetRole_operators
  | agentSetPeerReviewer => exact .settle fun _ _ => agentSetPeerReviewer_operators
  | startupSetAutoSteal => exact .settle fun _ _ => startupSetAutoSteal_operators
  | startupSetAutoRecovery => exact .settle fun _ _ => startupSetAutoRecovery_operators
  | skillAttach => exact .settle fun _ _ h => .of_skills (skillAttach_steps h)
  | skillDetach => exact .settle fun _ _ h => .of_skills (skillDetach_steps h)
  | skillUpsertOperator => exact .settle fun _ _ h => .of_skills (skillUpsertOperator_steps h)
  | skillDeleteOperator => exact .settle fun _ _ h => .of_skills (skillDeleteOperator_steps h)
  | skillSetGlobal => exact .settle fun _ _ h => .of_skills (skillSetGlobal_steps h)
  | skillRevertOperator => exact .settle fun _ _ h => .of_skills (skillRevertOperator_steps h)

variable (cfg env s identity) in
theorem dispatchConsole_operators (cmd : ConsoleInbound) :
    OperatorsAfter cfg env s identity cmd (dispatchConsole cfg env s identity cmd).2.db.operators := by
  rw [state_dispatchConsole]
  exact consoleCommand_operators cfg env s identity cmd

variable (cfg env s identity) in
/-- What a command does to the stored roles. -/
theorem dispatchConsole_roles (cmd : ConsoleInbound) :
    RolesAfter env s identity cmd (dispatchConsole cfg env s identity cmd).2.db.roleOf :=
  (dispatchConsole_operators cfg env s identity cmd).roles

end Commands

/-- A statement of anyone but an operator leaves the operators alone. -/
theorem Statement.operators_eq {party : Party} {astray : Prop} {s s' : LoopState}
    (h : Statement party astray s s') (hparty : party ≠ .operator) :
    s'.db.operators = s.db.operators := by
  cases h with
  | relink hdb => exact (onlyTasks_relinkTask hdb).operators
  | insert hdb => exact (onlyTasks_insertTask hdb).operators
  | message hdb =>
      rw [(insertMessage_eq hdb).2]
  | skills hstep =>
      obtain ⟨tables, rfl⟩ := SkillSteps.eq (.single hstep)
      rfl
  | operators hoperator => exact absurd hoperator hparty
  | _ => rfl

/-- The request is a command of an operator. -/
def LoopEvent.Console : LoopEvent → Prop
  | .console .. => True
  | _ => False

/-- **Any request** but a command leaves the operators alone. -/
theorem apply_operators (cfg : Config) (s : LoopState) {l : LoopEvent} (h : ¬ l.Console) :
    (l.apply cfg s).db.operators = s.db.operators := by
  have hparty : l.party s ≠ .operator := by
    cases l with
    | console => exact absurd trivial h
    | mcp env agentId msg =>
        simp only [LoopEvent.party]
        cases s.world.avatars.lookup agentId <;> simp
    | _ => simp [LoopEvent.party]
  have hrun := apply_statements cfg s l
  generalize l.apply cfg s = t at hrun
  induction hrun with
  | refl => rfl
  | tail _ hstatement ih => exact (hstatement.operators_eq hparty).trans ih

end Cliptown.Task
