import Cliptown.Task.Authority

/-!
# Admins remain

No admin may revoke or demote the one that gives the command. Other admins it may, whose sessions go on.

* `HasAdmin` — somebody is stored as an admin.
* `SparesLastAdmin` — the condition on a step: nobody revokes or demotes the only one.
* `roles_of_assigns` — a granted command does to the stored roles what it says.
* `admins_remain_iff` — an admin remains throughout exactly the runs of such steps.
* `sparesLastAdmin_of_stored` — a command of an admin who is still stored as one is such a step.
-/

namespace Cliptown.Task

open Cliptown.Lib Cliptown.Town Cliptown.World Cliptown.Console

/-- Somebody is stored as an admin. -/
def HasAdmin (s : SessionState) : Prop :=
  ∃ operatorId, s.roleOf operatorId = some .admin

/-- The operator is stored as an admin, and nobody else is. -/
def SessionState.OnlyAdmin (s : SessionState) (operatorId : String) : Prop :=
  ∀ other, s.roleOf other = some .admin ↔ other = operatorId

/-- The condition on a step: the only admin is not revoked, and not given another role. -/
def SparesLastAdmin (s : SessionState) : SessionEvent → Prop
  | .message id env cmd => ∀ identity, s.sessions.lookup id = some identity →
      ∀ operatorId left, Assigns env s.loop identity cmd operatorId left → left ≠ some .admin →
        ¬ s.OnlyAdmin operatorId
  | _ => True

section Admins

variable {cfg : Config} {env : Env} {loop : LoopState} {identity : OperatorIdentity} {cmd : ConsoleInbound}
  {operatorId : String} {left : Option OperatorRole} {s t : SessionState} {l : SessionEvent}

/-! ### What granted commands do -/

variable (loop) in
/-- An operator that has a row loses it. -/
theorem roles_of_deleteOperator (hstored : (loop.db.operators.lookup operatorId).isSome) :
    (settle loop (deleteOperator loop operatorId)).2.db.roleOf =
      Function.update loop.db.roleOf operatorId none := by
  obtain ⟨row, hrow⟩ := Option.isSome_iff_exists.mp hstored
  have hcommand : ∃ v loop', deleteOperator loop operatorId = .ok (v, loop') := by
    unfold deleteOperator
    simp only [bind_eq_ok, require_eq_ok, pure_eq_ok]
    exact ⟨_, _, row, hrow, rfl⟩
  obtain ⟨v, loop', hok⟩ := hcommand
  rw [hok]
  obtain ⟨-, rfl⟩ := deleteOperator_eq_ok hok
  exact Db.roleOf_erase rfl

/-- **A granted command** does to the stored roles what it says. -/
theorem roles_of_assigns (h : Assigns env loop identity cmd operatorId left) :
    (dispatchConsole cfg env loop identity cmd).2.db.roleOf =
      Function.update loop.db.roleOf operatorId left := by
  rw [state_dispatchConsole]
  cases h with
  | revoke hrole hother hlock hstored =>
      simp only [consoleCommand, operatorRevoke, hrole, hother, if_true, if_false]
      obtain ⟨held, freed, -, hstate⟩ := withLock_granted cfg
        (fun s => deleteOperator s operatorId) (by rw [hlock]; rfl)
      rw [hstate]
      rw [Db.roleOf, Option.isSome_map] at hstored
      exact roles_of_deleteOperator (setLocks loop held) hstored
  | @setRole _ role parsed hrole hparsed hself hstored =>
      obtain ⟨row, hrow, -⟩ := Option.map_eq_some_iff.mp (Option.some_get hstored).symm
      have hcommand : ∃ v loop', operatorSetRole loop identity operatorId role = .ok (v, loop') := by
        unfold operatorSetRole
        simp only [bind_eq_ok, checkRole_eq_ok, ensure_eq_ok, require_eq_ok, pure_eq_ok]
        exact ⟨_, _, (), hrole, parsed, hparsed, (), hself, row, hrow, rfl⟩
      obtain ⟨v, loop', hok⟩ := hcommand
      simp only [consoleCommand]
      rw [hok]
      obtain ⟨parsed', -, hparsed', -, -, rfl⟩ := operatorSetRole_eq_ok hok
      obtain rfl := Option.some.inj (hparsed.symm.trans hparsed')
      exact Db.roleOf_modify hstored rfl

/-! ### The steps -/

/-- An admin remains after one operator gets another role, or none, unless it was the only one. -/
theorem hasAdmin_update_iff (hs : HasAdmin s)
    (hroles : t.roleOf = Function.update s.roleOf operatorId left) :
    HasAdmin t ↔ (left ≠ some .admin → ¬ s.OnlyAdmin operatorId) := by
  unfold HasAdmin
  rw [hroles]
  constructor
  · rintro ⟨other, hother⟩ hleft honly
    rw [Function.update_apply] at hother
    split at hother
    · exact hleft hother
    · rename_i hne
      exact hne ((honly other).mp hother)
  · intro h
    by_cases hleft : left = some .admin
    · exact ⟨operatorId, by rw [hleft, Function.update_self]⟩
    · -- somebody else is an admin, or the operator was the only one
      by_contra hnone
      push Not at hnone
      have hself : ∀ other, s.roleOf other = some .admin → other = operatorId := by
        intro other hother
        by_contra hne
        exact hnone other (by rw [Function.update_of_ne hne, hother])
      refine h hleft fun other => ⟨hself other, ?_⟩
      rintro rfl
      obtain ⟨admin, hadmin⟩ := hs
      rwa [← hself admin hadmin]

/-- Steps that leave the stored roles alone keep the admins. -/
theorem hasAdmin_iff_of_roles (hs : HasAdmin s) (hroles : t.roleOf = s.roleOf) :
    HasAdmin t ↔ True := by
  unfold HasAdmin
  rw [hroles]
  exact iff_true_intro hs

/-- A message keeps an admin exactly if it spares the last one. -/
theorem hasAdmin_message_iff {id : ℕ} (hs : HasAdmin s)
    (h : SessionEvent.apply cfg s (.message id env cmd) = some t) :
    HasAdmin t ↔ SparesLastAdmin s (.message id env cmd) := by
  obtain ⟨identity, hidentity, rfl⟩ := Option.map_eq_some_iff.mp h
  have hspares : SparesLastAdmin s (.message id env cmd) ↔ ∀ operatorId left,
      Assigns env s.loop identity cmd operatorId left → left ≠ some .admin → ¬ s.OnlyAdmin operatorId := by
    refine ⟨fun h => h identity hidentity, fun h found hfound => ?_⟩
    obtain rfl := Option.some.inj (hidentity.symm.trans hfound)
    exact h
  rw [hspares]
  by_cases hassigns : ∃ operatorId left, Assigns env s.loop identity cmd operatorId left
  · obtain ⟨operatorId, left, hassigns⟩ := hassigns
    rw [hasAdmin_update_iff (t := { s with loop := (dispatchConsole cfg env s.loop identity cmd).2 }) hs
      (roles_of_assigns hassigns)]
    refine ⟨fun h operatorId' left' hassigns' => ?_, fun h => h operatorId left hassigns⟩
    obtain ⟨rfl, rfl⟩ : operatorId' = operatorId ∧ left' = left := by
      cases hassigns with
      | revoke =>
          cases hassigns' with
          | revoke => exact ⟨rfl, rfl⟩
      | setRole _ hparsed =>
          cases hassigns' with
          | setRole _ hparsed' => exact ⟨rfl, hparsed'.symm.trans hparsed⟩
    exact h
  · push Not at hassigns
    refine iff_of_true ?_ fun operatorId left h => absurd h (hassigns operatorId left)
    obtain ⟨admin, hadmin⟩ := hs
    have hroles := dispatchConsole_roles cfg env s.loop identity cmd
    generalize hafter : (dispatchConsole cfg env s.loop identity cmd).2.db.roleOf = roles at hroles
    cases hroles with
    | same => exact ⟨admin, (congrFun hafter admin).trans hadmin⟩
    | created hnew =>
        refine ⟨admin, (congrFun hafter admin).trans ?_⟩
        rw [Function.update_of_ne, ← hadmin]
        · rfl
        · rintro rfl
          exact absurd (hnew.symm.trans hadmin) (by simp)
    | assigned h => exact absurd h (hassigns _ _)

/-- **A step keeps an admin** exactly if it spares the last one. -/
theorem hasAdmin_step_iff (h : (sessionSystem cfg).step s l t) (hs : HasAdmin s) :
    HasAdmin t ↔ SparesLastAdmin s l := by
  obtain ⟨hpossible, happly⟩ := h
  cases l with
  | message id env cmd => exact hasAdmin_message_iff hs happly
  | hello id token rewritten now =>
      refine hasAdmin_iff_of_roles hs (funext fun operatorId => ?_)
      simp only [SessionEvent.apply, openSession] at happly
      split at happly
      · split at happly
        · rename_i identity operators hvalid
          obtain rfl := Option.some.inj happly
          exact (validateOperatorToken_eq_ok hvalid).2 operatorId
        · exact absurd happly (by simp)
      · exact absurd happly (by simp)
  | heartbeat id focus now =>
      obtain ⟨identity, -, rfl⟩ := Option.map_eq_some_iff.mp happly
      exact hasAdmin_iff_of_roles hs rfl
  | close id =>
      obtain ⟨identity, -, rfl⟩ := Option.map_eq_some_iff.mp happly
      exact hasAdmin_iff_of_roles hs rfl
  | request l =>
      obtain rfl := Option.some.inj happly
      refine hasAdmin_iff_of_roles hs (funext fun operatorId => ?_)
      unfold SessionState.roleOf Db.roleOf
      rw [apply_operators cfg s.loop hpossible]
  | gc now =>
      obtain rfl := Option.some.inj happly
      exact hasAdmin_iff_of_roles hs rfl

/-- **Admins remain** throughout exactly those runs of which no step revokes or demotes the only one. -/
theorem admins_remain_iff (cfg : Config) {s t : SessionState} {ls : List SessionEvent} (hs : HasAdmin s) :
    Run ((sessionSystem cfg).within HasAdmin).step s ls t ↔
      Run ((sessionSystem cfg).restrict SparesLastAdmin).step s ls t :=
  (System.run_restrict_iff_within (fun _ _ _ => hasAdmin_step_iff) hs).symm

/-- A command of an admin who is still stored as one spares the last admin: itself it cannot name. -/
theorem sparesLastAdmin_of_stored {id : ℕ}
    (h : ∀ identity, s.sessions.lookup id = some identity → identity.role = .admin →
      s.roleOf identity.id = some .admin) : SparesLastAdmin s (.message id env cmd) := by
  intro identity hidentity operatorId left hassigns hleft honly
  have hadmin : identity.role.atLeast .admin → identity.role = .admin := by
    cases identity.role <;> decide
  have hself := fun hrole => (honly identity.id).mp (h identity hidentity (hadmin hrole))
  cases hassigns with
  | revoke hrole hother => exact hother (hself hrole).symm
  | @setRole _ role parsed hrole hparsed hguard =>
      apply hguard
      refine ⟨(hself hrole).symm, ?_⟩
      rintro rfl
      rw [hadmin hrole] at hparsed
      exact hleft hparsed.symm

end Admins

/-! ### Two admins -/

/-- The admin creates another admin, who connects. -/
def adminEvents : List SessionEvent :=
  [.hello 1 "dev-token" true 1, .message 1 (sampleEnv 2 "1") (.operatorCreate "admin-1" "admin"),
    .hello 2 "opt_1" true 3]

/-- Each makes the other one a viewer; the second one no longer is an admin when it does. -/
def mutualDemotion : List SessionEvent :=
  [.message 1 (sampleEnv 4 "d") (.operatorSetRole "op_1" "viewer"),
    .message 2 (sampleEnv 5 "e") (.operatorSetRole "op_default" "viewer")]

/-- The seeded operator is an admin. -/
theorem hasAdmin_noSessions : HasAdmin noSessions :=
  ⟨"op_default", by decide⟩

/-- Every event of these may happen. -/
theorem possible_adminEvents {l : SessionEvent} (hl : l ∈ adminEvents ++ mutualDemotion) : l.Possible := by
  simp only [adminEvents, mutualDemotion, List.cons_append, List.nil_append, List.mem_cons,
    List.not_mem_nil, or_false] at hl
  rcases hl with rfl | rfl | rfl | rfl | rfl
  · trivial
  · exact (by decide : "op_" ++ "1" ≠ "op_env")
  · trivial
  · exact (by decide : "op_" ++ "d" ≠ "op_env")
  · exact (by decide : "op_" ++ "e" ≠ "op_env")

/-- Another admin is created. -/
theorem admins_remain_created :
    Run ((sessionSystem sampleConfig).within HasAdmin).step noSessions adminEvents
      (runSessions sampleConfig noSessions adminEvents) := by
  refine (admins_remain_iff sampleConfig hasAdmin_noSessions).mpr ?_
  refine run_runSessions (fun l hl => ⟨possible_adminEvents (List.mem_append_left _ hl), fun s => ?_⟩)
    (by decide +kernel)
  simp only [adminEvents, List.mem_cons, List.not_mem_nil, or_false] at hl
  rcases hl with rfl | rfl | rfl
  · trivial
  · intro identity _ operatorId left hassigns
    nomatch hassigns
  · trivial

/-- **Not in every run**: two admins demote each other, the second one on a session that was opened before. -/
theorem not_admins_remain :
    ¬ ∀ (cfg : Config) (s t : SessionState) (ls : List SessionEvent), (sessionSystem cfg).init s →
      HasAdmin s → Run (sessionSystem cfg).step s ls t → HasAdmin t := by
  intro h
  have hinit : (sessionSystem sampleConfig).init noSessions :=
    ⟨sampleStartup.init sampleConfig, by decide, rfl, rfl⟩
  have hrun : Run ((sessionSystem sampleConfig).restrict fun _ _ => True).step noSessions
      (adminEvents ++ mutualDemotion)
      (runSessions sampleConfig noSessions (adminEvents ++ mutualDemotion)) :=
    run_runSessions (fun l hl => ⟨possible_adminEvents hl, fun _ => trivial⟩) (by decide +kernel)
  obtain ⟨admin, hadmin⟩ := h _ _ _ _ hinit hasAdmin_noSessions (System.run_of_restrict hrun)
  obtain ⟨row, hrow, hrole⟩ := Option.map_eq_some_iff.mp hadmin
  have hnone : ∀ e ∈ (runSessions sampleConfig noSessions
      (adminEvents ++ mutualDemotion)).loop.db.operators.entries, e.2.role ≠ .admin := by
    decide +kernel
  exact hnone ⟨admin, row⟩ (AList.mem_lookup_iff.mp hrow) hrole

end Cliptown.Task
