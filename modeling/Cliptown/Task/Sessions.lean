import Cliptown.Console.Presence
import Cliptown.Task.Roles
import Cliptown.Task.Running

/-!
# Console sessions

A token is checked once, when its session opens. The role that was found then goes with every message of the
session, while other sessions change the roles that are stored.

* `validateOperatorToken` — whom a token stands for.
* `SessionEvent`, `sessionSystem` — any number of sessions, in any order, beside the other requests.
* `TakesEffect` — whoever is revoked or demoted does no more than the stored role permits.
* `Vouched` — the invariant: no session has a role above the stored one.
* `Unattended` — nobody is revoked who has a session, or demoted who has one with a higher role.
* `revocation_takes_effect` — revocation and demotion take effect in every run of such steps.
-/

namespace Cliptown.Task

open Cliptown.Lib Cliptown.Town Cliptown.World Cliptown.Console

/-! ### Tokens -/

/-- Whom the token of the environment stands for: it has no row. Source: `auth.rs`
`validate_operator_token` -/
def envAdmin : OperatorIdentity := ⟨"op_env", "env-admin", .admin⟩

/-- The identity of a row. -/
def Operator.identity (operatorId : String) (row : Operator) : OperatorIdentity :=
  ⟨operatorId, row.name, row.role⟩

/-- The first row that meets a condition. -/
def findOperator (operators : Table String Operator) (p : Operator → Bool) :
    Option (Σ _ : String, Operator) :=
  operators.entries.find? fun row => p row.2

/-- Whom a token stands for, and the table afterwards: a row with the token in plain text is rewritten, if
the statement succeeds. Source: `auth.rs` `validate_operator_token` -/
def validateOperatorToken (cfg : Config) (operators : Table String Operator) (token : String)
    (rewritten : Bool) : Except String (OperatorIdentity × Table String Operator) :=
  if token = "" then .error "invalid_operator_token"
  else
    match findOperator operators fun o => o.tokenHash = some (cfg.hashToken token) with
    | some row => .ok (row.2.identity row.1, operators)
    | none =>
        match findOperator operators fun o => o.token = some token ∧ o.tokenHash = none with
        | some row => .ok (row.2.identity row.1, if rewritten then
            operators.modify row.1 fun o => { o with
              tokenHash := some (cfg.hashToken token), token := none } else operators)
        | none =>
            if token = cfg.operatorToken then .ok (envAdmin, operators)
            else .error "invalid_operator_token"

/-- A row that is found is in the table. -/
theorem lookup_of_findOperator {operators : Table String Operator} {p : Operator → Bool}
    {row : Σ _ : String, Operator} (h : findOperator operators p = some row) :
    operators.lookup row.1 = some row.2 :=
  AList.mem_lookup_iff.mpr (List.mem_of_find?_eq_some h)

/-- **Whom a token stands for**: an operator with the stored role, or the one without a row. The roles stay
as they are. -/
theorem validateOperatorToken_eq_ok {cfg : Config} {operators operators' : Table String Operator}
    {token : String} {rewritten : Bool} {identity : OperatorIdentity}
    (h : validateOperatorToken cfg operators token rewritten = .ok (identity, operators')) :
    (identity = envAdmin ∨
        (operators.lookup identity.id).map Operator.role = some identity.role) ∧
      ∀ id, (operators'.lookup id).map Operator.role = (operators.lookup id).map Operator.role := by
  have hrow : ∀ {p} {row : Σ _ : String, Operator}, findOperator operators p = some row →
      (operators.lookup (row.2.identity row.1).id).map Operator.role =
        some (row.2.identity row.1).role := by
    intro p row hfind
    exact Option.map_eq_some_iff.mpr ⟨row.2, lookup_of_findOperator hfind, rfl⟩
  unfold validateOperatorToken at h
  split at h
  · exact absurd h (by simp)
  · split at h
    · rename_i row hfind
      obtain ⟨rfl, rfl⟩ := Prod.mk.inj (Except.ok.inj h)
      exact ⟨.inr (hrow hfind), fun _ => rfl⟩
    · split at h
      · rename_i row hfind
        obtain ⟨rfl, rfl⟩ := Prod.mk.inj (Except.ok.inj h)
        refine ⟨.inr (hrow hfind), fun id => ?_⟩
        split
        · rw [Table.lookup_modify]
          split
          · cases operators.lookup id <;> rfl
          · rfl
        · rfl
      · split at h
        · obtain ⟨rfl, rfl⟩ := Prod.mk.inj (Except.ok.inj h)
          exact ⟨.inl rfl, fun _ => rfl⟩
        · exact absurd h (by simp)

/-! ### The system -/

/-- The state of the world loop, the operators that are present, and the open sessions with the identities
that were found at their hello. -/
structure SessionState where
  loop : LoopState
  presence : PresenceRegistry
  sessions : Table ℕ OperatorIdentity

/-- What can happen. -/
inductive SessionEvent where
  /-- A session opens. -/
  | hello (id : ℕ) (token : String) (rewritten : Bool) (now : ℤ)
  /-- A heartbeat, which does not get to the world loop. -/
  | heartbeat (id : ℕ) (focusedStartupId : Option String) (now : ℤ)
  /-- Any other message. -/
  | message (id : ℕ) (env : Env) (cmd : ConsoleInbound)
  /-- A session closes. -/
  | close (id : ℕ)
  /-- A request that is not made at the console. -/
  | request (l : LoopEvent)
  /-- The collector of the registry. -/
  | gc (now : ℤ)

/-- The stored role of an operator. -/
def SessionState.roleOf (s : SessionState) (operatorId : String) : Option OperatorRole :=
  s.loop.db.roleOf operatorId

/-- Another table of operators. -/
def setOperators (s : LoopState) (operators : Table String Operator) : LoopState :=
  { s with db := { s.db with operators := operators } }

/-- A hello: a valid token opens a session. Source: `http.rs` `handle_console` -/
def openSession (cfg : Config) (s : SessionState) (id : ℕ) (token : String) (rewritten : Bool) (now : ℤ) :
    Option SessionState :=
  if s.sessions.lookup id = none then
    match validateOperatorToken cfg s.loop.db.operators token rewritten with
    | .ok (identity, operators) => some
        { loop := setOperators s.loop operators
          presence := (upsert s.presence identity.id identity.name identity.role.asStr none now).1
          sessions := s.sessions.insert id identity }
    | .error _ => none
  else none

/-- The state after an event, if it can happen: a session that is not open sends nothing. Source: `http.rs`
`handle_console` -/
def SessionEvent.apply (cfg : Config) (s : SessionState) : SessionEvent → Option SessionState
  | .hello id token rewritten now => openSession cfg s id token rewritten now
  | .heartbeat id focus now => (s.sessions.lookup id).map fun identity => { s with
      presence := (upsert s.presence identity.id identity.name identity.role.asStr focus now).1 }
  | .message id env cmd => (s.sessions.lookup id).map fun identity => { s with
      loop := (dispatchConsole cfg env s.loop identity cmd).2 }
  | .close id => (s.sessions.lookup id).map fun identity => { s with
      presence := (dropEntry s.presence identity.id).1
      sessions := s.sessions.erase id }
  | .request l => some { s with loop := l.apply cfg s.loop }
  | .gc now => some { s with presence := (Console.gc s.presence now).1 }

/-- The ids of new operators are minted, so none is that of the operator without a row; the commands of
operators come from their sessions. -/
def SessionEvent.Possible : SessionEvent → Prop
  | .message _ env _ => "op_" ++ env.newId ≠ envAdmin.id
  | .request l => ¬ l.Console
  | _ => True

/-- Sessions and requests in any order. At first no session is open. -/
def sessionSystem (cfg : Config) : System SessionState SessionEvent where
  init s := (loopSystem cfg).init s.loop ∧ s.roleOf envAdmin.id = none ∧ s.presence = ∅ ∧
    s.sessions = ∅
  step s l t := l.Possible ∧ l.apply cfg s = some t

/-- An operator is revoked, or given a lower role. -/
inductive SessionEvent.Curtails (operatorId : String) (s t : SessionState) : SessionEvent → Prop
  | revoke {id : ℕ} {env : Env} : (s.roleOf operatorId).isSome → t.roleOf operatorId = none →
      Curtails operatorId s t (.message id env (.operatorRevoke operatorId))
  | demote {id : ℕ} {env : Env} {text : String} {before after : OperatorRole} :
      s.roleOf operatorId = some before → t.roleOf operatorId = some after →
      ¬ after.atLeast before →
      Curtails operatorId s t (.message id env (.operatorSetRole operatorId text))

/-- A message on one of the operator's sessions, and the role that it asks for. -/
inductive SessionEvent.MessageOf (operatorId : String) (s : SessionState) :
    SessionEvent → OperatorRole → Prop
  | heartbeat {id : ℕ} {identity : OperatorIdentity} {focus : Option String} {now : ℤ} :
      s.sessions.lookup id = some identity → identity.id = operatorId →
      MessageOf operatorId s (.heartbeat id focus now) .viewer
  | command {id : ℕ} {identity : OperatorIdentity} {env : Env} {cmd : ConsoleInbound} :
      s.sessions.lookup id = some identity → identity.id = operatorId →
      MessageOf operatorId s (.message id env cmd) cmd.requiredRole

/-- The stored role of the operator permits what asks for the given one; nothing is permitted to whoever has
been revoked. -/
def SessionState.Permits (s : SessionState) (operatorId : String) (role : OperatorRole) : Prop :=
  ∃ stored ∈ s.roleOf operatorId, stored.atLeast role

/-- **Revocation and demotion take effect**: after them, a message on a session of the operator changes
something only if the stored role permits it. -/
def TakesEffect (S : System SessionState SessionEvent) : Prop :=
  ∀ operatorId s l t ls u m v role, S.Reachable s → S.step s l t → l.Curtails operatorId s t →
    Run S.step t ls u → S.step u m v → m.MessageOf operatorId u role → v ≠ u →
      u.Permits operatorId role

/-- Nobody is revoked who has an open session, or demoted who has one with a higher role. -/
def Unattended (s : SessionState) : SessionEvent → Prop
  | .message id env cmd => ∀ identity, s.sessions.lookup id = some identity →
      ∀ operatorId left, Assigns env s.loop identity cmd operatorId left →
        ∀ other session, s.sessions.lookup other = some session → session.id = operatorId →
          ∃ role ∈ left, role.atLeast session.role
  | _ => True

/-! ### The invariant -/

/-- The stored role of every operator permits what its sessions were granted; the operator without a row has
none. -/
structure Vouched (s : SessionState) : Prop where
  env : s.roleOf envAdmin.id = none
  session : ∀ id identity, s.sessions.lookup id = some identity →
    identity = envAdmin ∨ s.Permits identity.id identity.role

section Invariant

variable {cfg : Config} {s t : SessionState} {l : SessionEvent}

/-- Where the roles stay as they are and no session opens. -/
theorem Vouched.of_eq (hs : Vouched s) (hroles : t.roleOf = s.roleOf)
    (hsessions : ∀ id identity, t.sessions.lookup id = some identity →
      s.sessions.lookup id = some identity) : Vouched t := by
  refine ⟨(congrFun hroles _).trans hs.env, fun id identity hid => ?_⟩
  refine (hs.session id identity (hsessions id identity hid)).imp_right ?_
  rintro ⟨stored, hstored, hrole⟩
  exact ⟨stored, (congrFun hroles _).trans hstored, hrole⟩

/-- A session opens with the stored role. -/
theorem vouched_of_openSession {id : ℕ} {token : String} {rewritten : Bool} {now : ℤ} (hs : Vouched s)
    (h : openSession cfg s id token rewritten now = some t) : Vouched t := by
  unfold openSession at h
  split at h
  · cases hvalid : validateOperatorToken cfg s.loop.db.operators token rewritten with
    | error e =>
        rw [hvalid] at h
        exact absurd h (by simp)
    | ok r =>
        obtain ⟨identity, operators⟩ := r
        rw [hvalid] at h
        obtain ⟨hidentity, hroles⟩ := validateOperatorToken_eq_ok hvalid
        obtain rfl := Option.some.inj h
        refine ⟨(hroles envAdmin.id).trans hs.env, fun other session hother => ?_⟩
        rw [Table.lookup_insert_eq] at hother
        split at hother
        · obtain rfl := Option.some.inj hother
          refine hidentity.imp_right fun hstored => ?_
          exact ⟨identity.role, (hroles identity.id).trans hstored, decide_eq_true le_rfl⟩
        · refine (hs.session other session hother).imp_right ?_
          rintro ⟨stored, hstored, hrole⟩
          exact ⟨stored, (hroles session.id).trans hstored, hrole⟩
  · exact absurd h (by simp)

/-- One operator gets another role, or none: its sessions had no more. -/
theorem Vouched.of_update {operatorId : String} {left : Option OperatorRole} (hs : Vouched s)
    (hroles : t.roleOf = Function.update s.roleOf operatorId left) (hsessions : t.sessions = s.sessions)
    (henv : operatorId ≠ envAdmin.id)
    (hleft : ∀ id session, s.sessions.lookup id = some session → session.id = operatorId →
      ∃ role ∈ left, role.atLeast session.role) : Vouched t := by
  constructor
  · rw [hroles, Function.update_of_ne henv.symm]
    exact hs.env
  · intro id session hid
    rw [hsessions] at hid
    by_cases heq : session.id = operatorId
    · obtain ⟨role, hrole, hpermits⟩ := hleft id session hid heq
      refine .inr ⟨role, ?_, hpermits⟩
      rw [hroles, heq, Function.update_self]
      exact hrole
    · refine (hs.session id session hid).imp_right ?_
      rintro ⟨stored, hstored, hpermits⟩
      refine ⟨stored, ?_, hpermits⟩
      rw [hroles, Function.update_of_ne heq]
      exact hstored

/-- A command takes no role from an operator with an open session, unless the session had no more. -/
theorem vouched_of_message {id : ℕ} {env : Env} {cmd : ConsoleInbound} (hs : Vouched s)
    (hunattended : Unattended s (.message id env cmd)) (hminted : "op_" ++ env.newId ≠ envAdmin.id)
    (h : SessionEvent.apply cfg s (.message id env cmd) = some t) : Vouched t := by
  obtain ⟨identity, hidentity, rfl⟩ := Option.map_eq_some_iff.mp h
  have hroles := dispatchConsole_roles cfg env s.loop identity cmd
  generalize (dispatchConsole cfg env s.loop identity cmd).2 = loop at hroles
  generalize hafter : loop.db.roleOf = roles at hroles
  cases hroles with
  | same => exact hs.of_eq hafter fun _ _ h => h
  | created hnew =>
      -- the new operator had no row, so it has no session
      refine hs.of_update hafter rfl hminted fun other session hother heq => ?_
      exfalso
      rcases hs.session other session hother with rfl | ⟨stored, hstored, -⟩
      · exact hminted heq.symm
      · rw [heq] at hstored
        exact absurd (hnew.symm.trans hstored) (by simp)
  | @assigned operatorId left hassigns =>
      have henv : operatorId ≠ envAdmin.id := by
        rintro rfl
        obtain ⟨role, hrole⟩ := Option.isSome_iff_exists.mp hassigns.stored
        exact absurd (hs.env.symm.trans hrole) (by simp)
      refine hs.of_update hafter rfl henv fun other session hother heq => ?_
      exact hunattended identity hidentity operatorId left hassigns other session hother heq

/-- **Every step under the condition keeps the invariant.** -/
theorem vouched_of_step (hs : Vouched s) (h : ((sessionSystem cfg).restrict Unattended).step s l t) :
    Vouched t := by
  obtain ⟨hunattended, hpossible, happly⟩ := h
  cases l with
  | hello id token rewritten now => exact vouched_of_openSession hs happly
  | heartbeat id focus now =>
      obtain ⟨identity, -, rfl⟩ := Option.map_eq_some_iff.mp happly
      exact hs.of_eq rfl fun _ _ h => h
  | message id env cmd => exact vouched_of_message hs hunattended hpossible happly
  | close id =>
      obtain ⟨identity, -, rfl⟩ := Option.map_eq_some_iff.mp happly
      refine hs.of_eq rfl fun other session hother => ?_
      rw [Table.lookup_erase_eq] at hother
      split at hother
      · exact absurd hother (by simp)
      · exact hother
  | request l =>
      obtain rfl := Option.some.inj happly
      refine hs.of_eq (funext fun operatorId => ?_) fun _ _ h => h
      unfold SessionState.roleOf Db.roleOf
      rw [apply_operators cfg s.loop hpossible]
  | gc now =>
      obtain rfl := Option.some.inj happly
      exact hs.of_eq rfl fun _ _ h => h

theorem vouched_of_reachable (h : ((sessionSystem cfg).restrict Unattended).Reachable s) :
    Vouched s := by
  apply h.invariant
  · rintro s ⟨-, henv, -, hsessions⟩
    refine ⟨henv, fun id identity hid => ?_⟩
    rw [hsessions] at hid
    exact absurd hid (by simp)
  · exact fun s l t hs hst => vouched_of_step hs hst

/-- A message that changes something comes from a session whose role permits it. -/
theorem session_of_message {operatorId : String} {role : OperatorRole}
    (happly : l.apply cfg s = some t) (hmessage : l.MessageOf operatorId s role) (hchange : t ≠ s) :
    ∃ id identity, s.sessions.lookup id = some identity ∧ identity.id = operatorId ∧
      identity.role.atLeast role := by
  cases hmessage with
  | @heartbeat id identity focus now hid hoperator =>
      exact ⟨id, identity, hid, hoperator, OperatorRole.atLeast_viewer _⟩
  | @command id identity env cmd hid hoperator =>
      refine ⟨id, identity, hid, hoperator, ?_⟩
      by_contra hrefused
      apply hchange
      obtain ⟨found, hfound, rfl⟩ := Option.map_eq_some_iff.mp happly
      obtain rfl := Option.some.inj (hid.symm.trans hfound)
      rw [dispatchConsole_refused hrefused]

/-- **Revocation and demotion take effect** in every run in which nobody is revoked who has an open session,
and nobody demoted who has one with a higher role. -/
theorem revocation_takes_effect (cfg : Config) :
    TakesEffect ((sessionSystem cfg).restrict Unattended) := by
  intro operatorId s l t ls u m v role hs hstep hcurtails hrun hm hmessage hchange
  have hne : operatorId ≠ envAdmin.id := by
    rintro rfl
    have henv := (vouched_of_reachable hs).env
    cases hcurtails with
    | revoke hstored => exact absurd hstored (by simp [henv])
    | demote hbefore => exact absurd hbefore (by simp [henv])
  have hu : Vouched u := vouched_of_reachable ((hs.step hstep).run hrun)
  obtain ⟨id, identity, hid, rfl, hrole⟩ := session_of_message hm.2.2 hmessage hchange
  rcases hu.session id identity hid with rfl | ⟨stored, hstored, hpermits⟩
  · exact absurd rfl hne
  · exact ⟨stored, hstored, OperatorRole.atLeast_trans hpermits hrole⟩

end Invariant

/-! ### A manager -/

/-- The state after events; one that cannot happen is left out. -/
def runSessions (cfg : Config) (s : SessionState) (ls : List SessionEvent) : SessionState :=
  ls.foldl (fun s l => (l.apply cfg s).getD s) s

/-- The events can happen one after the other. -/
def happen (cfg : Config) (s : SessionState) : List SessionEvent → Bool
  | [] => true
  | l :: ls => (l.apply cfg s).isSome && happen cfg ((l.apply cfg s).getD s) ls

/-- An event that can happen leads to the next state. -/
theorem apply_runSessions {cfg : Config} {s : SessionState} {l : SessionEvent}
    (h : (l.apply cfg s).isSome) : l.apply cfg s = some (runSessions cfg s [l]) := by
  obtain ⟨t, ht⟩ := Option.isSome_iff_exists.mp h
  show l.apply cfg s = some ((l.apply cfg s).getD s)
  rw [ht]
  rfl

/-- Such events are a run. -/
theorem run_runSessions {cfg : Config} {C : SessionState → SessionEvent → Prop} {s : SessionState}
    {ls : List SessionEvent} (hC : ∀ l ∈ ls, l.Possible ∧ ∀ s, C s l) (h : happen cfg s ls) :
    Run ((sessionSystem cfg).restrict C).step s ls (runSessions cfg s ls) := by
  induction ls generalizing s with
  | nil => exact .nil s
  | cons l ls ih =>
      obtain ⟨hsome, hrest⟩ := Bool.and_eq_true_iff.mp h
      obtain ⟨hpossible, hcondition⟩ := hC l List.mem_cons_self
      refine .cons ⟨hcondition s, hpossible, apply_runSessions hsome⟩ (ih (fun l' hl' => ?_) hrest)
      exact hC l' (List.mem_cons_of_mem _ hl')

/-- Nobody is connected. -/
def noSessions : SessionState := ⟨sampleStartup.state, ∅, ∅⟩

/-- The admin creates a manager, who connects. -/
def managerEvents : List SessionEvent :=
  [.hello 1 "dev-token" true 1, .message 1 (sampleEnv 2 "1") (.operatorCreate "manager-1" "manager"),
    .hello 2 "opt_1" true 3]

/-- Both are connected. -/
noncomputable def managerState : SessionState :=
  runSessions sampleConfig noSessions managerEvents

/-- Nobody is revoked or demoted on the way there. -/
theorem reachable_managerState {C : SessionState → SessionEvent → Prop}
    (hC : ∀ l ∈ managerEvents, ∀ s, C s l) :
    ((sessionSystem sampleConfig).restrict C).Reachable managerState := by
  have hinit : ((sessionSystem sampleConfig).restrict C).init noSessions :=
    ⟨sampleStartup.init sampleConfig, by decide, rfl, rfl⟩
  refine (System.Reachable.init hinit).run (run_runSessions (fun l hl => ⟨?_, hC l hl⟩) ?_)
  · simp only [managerEvents, List.mem_cons, List.not_mem_nil, or_false] at hl
    rcases hl with rfl | rfl | rfl
    · trivial
    · show "op_" ++ (sampleEnv 2 "1").newId ≠ envAdmin.id
      decide
    · trivial
  · decide +kernel

/-- The admin makes the manager a viewer. -/
def demoteManager : SessionEvent :=
  .message 1 (sampleEnv 5 "d") (.operatorSetRole "op_1" "viewer")

/-- The manager leaves. -/
noncomputable def leftState : SessionState :=
  runSessions sampleConfig managerState [.close 2]

/-- Then it is demoted. -/
noncomputable def demotedState : SessionState :=
  runSessions sampleConfig leftState [demoteManager]

/-- It comes back. -/
noncomputable def returnedState : SessionState :=
  runSessions sampleConfig demotedState [.hello 3 "opt_1" true 6]

/-- A manager who has no session is demoted. -/
theorem unattended_demoteManager : Unattended leftState demoteManager := by
  intro identity _ operatorId left hassigns other session hother hoperator
  exfalso
  have hgone : ∀ row ∈ leftState.sessions.entries, row.2.id ≠ "op_1" := by decide +kernel
  have hid : operatorId = "op_1" := by
    cases hassigns with
    | setRole => rfl
  exact hgone ⟨other, session⟩ (AList.mem_lookup_iff.mp hother) (hoperator.trans hid)

/-- The manager who has come back as a viewer takes over a town, which is permitted. -/
theorem revocation_takes_effect_returned :
    returnedState.Permits "op_1" .viewer ∧ returnedState.roleOf "op_1" = some .viewer := by
  refine ⟨?_, by decide +kernel⟩
  have hmanager : ((sessionSystem sampleConfig).restrict Unattended).Reachable managerState := by
    refine reachable_managerState fun l hl s => ?_
    simp only [managerEvents, List.mem_cons, List.not_mem_nil, or_false] at hl
    rcases hl with rfl | rfl | rfl
    · trivial
    · intro identity _ operatorId left hassigns
      nomatch hassigns
    · trivial
  have hleft : ((sessionSystem sampleConfig).restrict Unattended).Reachable leftState := by
    refine hmanager.run (run_runSessions (fun l hl => ?_) (by decide +kernel))
    obtain rfl := List.mem_singleton.mp hl
    exact ⟨trivial, fun _ => trivial⟩
  have hdemote : ((sessionSystem sampleConfig).restrict Unattended).step leftState demoteManager
      demotedState :=
    ⟨unattended_demoteManager, (by decide : "op_" ++ "d" ≠ "op_env"), apply_runSessions (by decide +kernel)⟩
  have hreturn : Run ((sessionSystem sampleConfig).restrict Unattended).step demotedState
      [.hello 3 "opt_1" true 6] returnedState := by
    refine run_runSessions (fun l hl => ?_) (by decide +kernel)
    obtain rfl := List.mem_singleton.mp hl
    exact ⟨trivial, fun _ => trivial⟩
  have hbefore : leftState.roleOf "op_1" = some .manager := by decide +kernel
  have hafter : demotedState.roleOf "op_1" = some .viewer := by decide +kernel
  have hcurtails : demoteManager.Curtails "op_1" leftState demotedState :=
    .demote hbefore hafter (by decide)
  have hpossess : ((sessionSystem sampleConfig).restrict Unattended).step returnedState
      (.message 3 (sampleEnv 7 "p") (.operatorPossess "s-1"))
      (runSessions sampleConfig returnedState [.message 3 (sampleEnv 7 "p") (.operatorPossess "s-1")]) :=
    ⟨fun _ _ _ _ hassigns => (nomatch hassigns), (by decide : "op_" ++ "p" ≠ "op_env"),
      apply_runSessions (by decide +kernel)⟩
  have hsession : returnedState.sessions.lookup 3 = some ⟨"op_1", "manager-1", .viewer⟩ := by
    decide +kernel
  refine revocation_takes_effect sampleConfig "op_1" leftState demoteManager demotedState _ returnedState
    _ _ .viewer hleft hdemote hcurtails hreturn hpossess (.command hsession rfl) fun heq => ?_
  have hnone : (returnedState.loop.world.avatars.lookup operatorAvatarId).isSome = false := by
    decide +kernel
  rw [← heq] at hnone
  exact absurd hnone (by decide +kernel)

/-- The admin revokes the manager. -/
def revokeManager : SessionEvent :=
  .message 1 (sampleEnv 5 "r") (.operatorRevoke "op_1")

/-- The manager sends a directive. -/
def managerDirective : SessionEvent :=
  .message 2 (sampleEnv 6 "d") (.operatorDirective "a-1" "stop")

/-- **Not in every run**: the manager is revoked while it is connected, and its directive is stored. -/
theorem not_revocation_takes_effect : ¬ ∀ cfg, TakesEffect (sessionSystem cfg) := by
  intro h
  have hmanager : ((sessionSystem sampleConfig).restrict fun _ _ => True).Reachable managerState :=
    reachable_managerState fun _ _ _ => trivial
  have hrevoke : (sessionSystem sampleConfig).step managerState revokeManager
      (runSessions sampleConfig managerState [revokeManager]) :=
    ⟨(by decide : "op_" ++ "r" ≠ "op_env"), apply_runSessions (by decide +kernel)⟩
  have hdirective : (sessionSystem sampleConfig).step
      (runSessions sampleConfig managerState [revokeManager]) managerDirective
      (runSessions sampleConfig managerState [revokeManager, managerDirective]) :=
    ⟨(by decide : "op_" ++ "d" ≠ "op_env"), apply_runSessions (by decide +kernel)⟩
  have hcurtails : revokeManager.Curtails "op_1" managerState
      (runSessions sampleConfig managerState [revokeManager]) :=
    .revoke (by decide +kernel) (by decide +kernel)
  have hsession : (runSessions sampleConfig managerState [revokeManager]).sessions.lookup 2 =
      some ⟨"op_1", "manager-1", .manager⟩ := by
    decide +kernel
  obtain ⟨stored, hstored, -⟩ := h sampleConfig "op_1" managerState revokeManager _ [] _ managerDirective _
    .manager hmanager.of_restrict hrevoke hcurtails (.nil _) hdirective (.command hsession rfl)
    fun heq => by
      have hbefore : ((runSessions sampleConfig managerState [revokeManager]).loop.db.messages.lookup
          "d").isSome = false := by
        decide +kernel
      rw [← heq] at hbefore
      exact absurd hbefore (by decide +kernel)
  have hnone : (runSessions sampleConfig managerState [revokeManager]).roleOf "op_1" = none := by
    decide +kernel
  exact absurd (hnone.symm.trans hstored) (by simp)

end Cliptown.Task
