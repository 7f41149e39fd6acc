import Cliptown.Budget.Report
import Cliptown.Suite.Requests
import Cliptown.Task.Sessions

/-!
# What a viewer can change

A viewer may look at everything and change nothing. The commands of the console and the endpoint for tasks ask for the
role; the endpoints that create, change and dissolve startups ask for a valid token only.

* `AppState` — what the loop keeps, and all the tables.
* `HttpRequest`, `OperatorRequest` — a request with a token, or a message on an open session.
* `SameTables` — every table is as it was, but for the tokens of the operators.
* `HttpRequest.Writes` — a request that writes for whoever has a valid token.
* `viewer_read_only` — a viewer changes nothing but by such a request.
-/

namespace Cliptown.Suite

open Cliptown.Lib Cliptown.Town Cliptown.World Cliptown.Task Cliptown.Console Cliptown.Budget

/-! ### Requests of operators -/

/-- The loop, and the tables. Source: `http.rs` `AppState` -/
structure AppState where
  loop : LoopState
  events : Table String BudgetEvent
  statuses : Table String StartupStatus
  rooms : Table String RoomRow

namespace AppState

/-- The tables in which startups are created. -/
def town (s : AppState) : TownDb :=
  ⟨s.loop.db, s.statuses, s.rooms⟩

/-- After a transaction on them. -/
def withTown (s : AppState) (d : TownDb) : AppState where
  loop := { s.loop with db := d.db }
  events := s.events
  statuses := d.statuses
  rooms := d.rooms

end AppState

/-- The endpoints for operators. -/
inductive HttpRequest where
  | createStartup (req : CreateStartupRequest) (m : Minted)
  | patchStartup (id : String) (budgetCapUsd : Option ℚ)
  | deleteStartup (env : Env) (id : String)
  | createTask (env : Env) (body : CreateTaskBody)

/-- A request to an endpoint with a token, or a message on a session that was opened for an identity. -/
inductive OperatorRequest where
  | http (token : String) (rewritten : Bool) (r : HttpRequest)
  | console (identity : OperatorIdentity) (env : Env) (cmd : ConsoleInbound)

section Requests

variable (cfg : Config) (sqlText : String)

/-- The state after a request of whoever the token stands for. A startup that is dissolved is noted. -/
def HttpRequest.apply (s : AppState) (identity : OperatorIdentity) : HttpRequest → AppState
  | .createStartup req m => s.withTown ((Suite.createStartup sqlText (some identity) req m).exec s.town).2
  | .patchStartup id cap =>
      { s with loop := (Budget.patchStartup ⟨s.loop, s.events⟩ (some identity) id cap).2.loop }
  | .deleteStartup env id =>
      match (Suite.deleteStartup sqlText (some identity) id).exec s.town with
      | (.dissolved id, d) =>
          let s := s.withTown d
          { s with
            loop := LoopState.emitSystemEvent env s.loop (some id) "startup_dissolved"
              (.obj [("startup_id", .str id)]) "warn" }
      | _ => s
  | .createTask env body =>
      { s with loop := (settle s.loop (Task.createTask cfg env s.loop (some identity) body)).2 }

/-- The state after a request. -/
def OperatorRequest.apply (s : AppState) : OperatorRequest → AppState
  | .http token rewritten r =>
      match validateOperatorToken cfg s.loop.db.operators token rewritten with
      | .ok (identity, operators) => r.apply cfg sqlText { s with loop := setOperators s.loop operators } identity
      | .error _ => s
  | .console identity env cmd => { s with loop := (dispatchConsole cfg env s.loop identity cmd).2 }

/-- The token is that of the operator, or the session was opened with it. -/
def OperatorRequest.By (s : AppState) (operatorId : String) : OperatorRequest → Prop
  | .http token rewritten _ => ∃ row operators, s.loop.db.operators.lookup operatorId = some row ∧
      validateOperatorToken cfg s.loop.db.operators token rewritten = .ok (row.identity operatorId, operators)
  | .console identity _ _ => identity.id = operatorId

/-- A session that was opened for an identity knows the role that is stored now. -/
def OperatorRequest.UpToDate (s : AppState) : OperatorRequest → Prop
  | .http .. => True
  | .console identity _ _ => s.loop.db.roleOf identity.id = some identity.role

end Requests

/-- An operator without the columns for tokens. -/
def Operator.shown (o : Operator) : String × OperatorRole :=
  (o.name, o.role)

/-- The tables have the same rows. -/
def SameRows {β : Type} (t t' : Table String β) : Prop :=
  ∀ key, t'.lookup key = t.lookup key

/-- Every table is as it was, but for the tokens of the operators. -/
structure SameTables (s s' : AppState) : Prop where
  startups : SameRows s.loop.db.startups s'.loop.db.startups
  agents : SameRows s.loop.db.agents s'.loop.db.agents
  tasks : SameRows s.loop.db.tasks s'.loop.db.tasks
  messages : SameRows s.loop.db.messages s'.loop.db.messages
  systemEvents : s'.loop.db.systemEvents = s.loop.db.systemEvents
  operators : ∀ id, (s'.loop.db.operators.lookup id).map Operator.shown =
    (s.loop.db.operators.lookup id).map Operator.shown
  actionLocks : SameRows s.loop.db.actionLocks s'.loop.db.actionLocks
  skills : s'.loop.db.skills = s.loop.db.skills
  events : SameRows s.events s'.events
  statuses : SameRows s.statuses s'.statuses
  rooms : SameRows s.rooms s'.rooms

/-- The request writes, whatever the role of the operator: the startup can be created, or it is there to get another
cap, or to be dissolved. -/
def HttpRequest.Writes (s : AppState) (identity : OperatorIdentity) : HttpRequest → Prop
  | .createStartup req m => Creates (some identity) req m s.town
  | .patchStartup id cap => ∃ v row, newCap cap = some v ∧ s.loop.db.startups.lookup id = some row ∧
      row.budgetCapUsd ≠ v
  | .deleteStartup _ id => (s.loop.db.startups.lookup id).isSome
  | .createTask _ _ => False

/-- The session was opened for a viewer, or the request writes for nobody. -/
def OperatorRequest.ReadsOnly (cfg : Config) (s : AppState) : OperatorRequest → Prop
  | .http token rewritten r => ∀ identity operators,
      validateOperatorToken cfg s.loop.db.operators token rewritten = .ok (identity, operators) →
        ¬ r.Writes s identity
  | .console identity _ _ => identity.role = .viewer

section Viewer

variable {cfg : Config} {sqlText : String} {s s' s'' : AppState} {identity : OperatorIdentity} {r : HttpRequest}

theorem SameTables.refl (s : AppState) : SameTables s s :=
  ⟨fun _ => rfl, fun _ => rfl, fun _ => rfl, fun _ => rfl, rfl, fun _ => rfl, fun _ => rfl, rfl, fun _ => rfl,
    fun _ => rfl, fun _ => rfl⟩

/-- What the loop keeps beside the tables does not count. -/
theorem SameTables.of_db {loop : LoopState} (hdb : loop.db = s.loop.db) : SameTables s { s with loop } := by
  obtain ⟨world, paths, outBus, db, frames⟩ := loop
  obtain rfl : db = s.loop.db := hdb
  exact ⟨fun _ => rfl, fun _ => rfl, fun _ => rfl, fun _ => rfl, rfl, fun _ => rfl, fun _ => rfl, rfl, fun _ => rfl,
    fun _ => rfl, fun _ => rfl⟩

/-! ### The console -/

/-- A command that asks for no higher role writes no table. -/
theorem db_of_requiredRole {env : Env} {loop : LoopState} {cmd : ConsoleInbound} (h : cmd.requiredRole = .viewer) :
    (dispatchConsole cfg env loop identity cmd).2.db = loop.db := by
  rw [state_dispatchConsole]
  cases cmd with
  | hello | operatorRecheckBackends | presenceHeartbeat | other => rfl
  | operatorPossess | operatorUnpossess => rfl
  | operatorMove x y =>
      show (settle loop (operatorMove loop x y)).2.db = loop.db
      rcases settle_cases loop (operatorMove loop x y) with hs | ⟨v, s', hok, hs⟩
      · rw [hs]
      · obtain rfl := operatorMove_eq_ok hok
        rw [hs]
  | _ => exact absurd h (by simp [ConsoleInbound.requiredRole])

/-- **A viewer's command** writes no table. -/
theorem db_of_viewer {env : Env} {loop : LoopState} {cmd : ConsoleInbound} (h : identity.role = .viewer) :
    (dispatchConsole cfg env loop identity cmd).2.db = loop.db := by
  by_cases hrole : cmd.requiredRole = .viewer
  · exact db_of_requiredRole hrole
  · have hrefused : ¬ identity.role.atLeast cmd.requiredRole := by
      rw [h]
      cases hcmd : cmd.requiredRole with
      | viewer => exact absurd hcmd hrole
      | manager | admin => decide
    rw [dispatchConsole_refused hrefused]

/-! ### The endpoints -/

/-- The endpoint for tasks asks for a role. -/
theorem createTask_of_viewer {env : Env} {loop : LoopState} {body : CreateTaskBody} (h : identity.role = .viewer) :
    (settle loop (Task.createTask cfg env loop (some identity) body)).2 = loop := by
  rcases settle_cases loop (Task.createTask cfg env loop (some identity) body) with hs | ⟨response, s', hok, -⟩
  · rw [hs]
  · unfold Task.createTask at hok
    simp only [bind_eq_ok, require_eq_ok, ensure_eq_ok, Option.some.injEq] at hok
    obtain ⟨_, rfl, _, hrole, -⟩ := hok
    rw [h] at hrole
    exact absurd hrole (by decide)

variable (sqlText) in
/-- **A request to an endpoint** by a viewer leaves the tables alone exactly when it does not write for everybody. -/
theorem sameTables_iff (h : identity.role = .viewer) :
    SameTables s (r.apply cfg sqlText s identity) ↔ ¬ r.Writes s identity := by
  cases r with
  | createTask env body =>
      refine ⟨fun _ hwrites => hwrites, fun _ => .of_db ?_⟩
      exact congrArg LoopState.db (createTask_of_viewer h)
  | createStartup req m =>
      constructor
      · intro hsame hwrites
        have hcreates : ∃ outcome d',
            (Suite.createStartup sqlText (some identity) req m).Commits (· = ·) s.town outcome d' :=
          exists_createStartup_commits_iff.mpr hwrites
        obtain ⟨outcome, d', hcommits⟩ := hcreates
        obtain ⟨n, rfl, -, hnew, hstatuses, -⟩ := createStartup_commits hcommits
        have hexec := Request.exec_of_commits hcommits
        have hsame' := hsame.statuses n.id
        simp only [HttpRequest.apply, AppState.withTown, hexec] at hsame'
        have hlookup : s.statuses.lookup n.id = some .active := by
          rw [← hsame', hstatuses, Table.lookup_insert_eq, if_pos rfl]
        exact absurd (hnew.symm.trans hlookup) (by simp)
      · intro hwrites
        rcases Request.exec_cases (Suite.createStartup sqlText (some identity) req m) s.town with heq | hcommits
        · simp only [HttpRequest.apply, heq]
          exact .refl s
        · exact absurd (exists_createStartup_commits_iff.mp ⟨_, _, hcommits⟩) hwrites
  | patchStartup id cap =>
      simp only [HttpRequest.apply, HttpRequest.Writes, Budget.patchStartup]
      cases hcap : newCap cap with
      | none => exact ⟨fun _ => by simp, fun _ => .refl s⟩
      | some v =>
          cases hrow : s.loop.db.startups.lookup id with
          | none => exact ⟨fun _ => by simp, fun _ => .refl s⟩
          | some row =>
              have hrows : ∀ key, (s.loop.db.startups.modify id fun x => { x with budgetCapUsd := v }).lookup key =
                  if key = id then some { row with budgetCapUsd := v } else s.loop.db.startups.lookup key := by
                intro key
                rw [Table.lookup_modify]
                split
                · rename_i hkey
                  rw [hkey, hrow]
                  rfl
                · rfl
              constructor
              · rintro hsame ⟨v', row', hv, hrow', hne⟩
                obtain rfl := Option.some.inj hv
                obtain rfl := Option.some.inj hrow'
                have hcap := (hrows id).symm.trans (hsame.startups id)
                rw [if_pos rfl, hrow] at hcap
                exact hne (congrArg Startup.budgetCapUsd (Option.some.inj hcap)).symm
              · intro hwrites
                have hv : row.budgetCapUsd = v := by
                  by_contra hne
                  exact hwrites ⟨v, row, rfl, rfl, hne⟩
                refine { SameTables.refl s with startups := fun key => (hrows key).trans ?_ }
                split
                · rename_i hkey
                  rw [hkey, hrow, ← hv]
                · rfl
  | deleteStartup env id =>
      constructor
      · intro hsame hwrites
        obtain ⟨row, hrow⟩ := Option.isSome_iff_exists.mp hwrites
        have hfound : s.town.db.startups.lookup id ≠ none := by
          show s.loop.db.startups.lookup id ≠ none
          rw [hrow]
          simp
        have hexec : (Suite.deleteStartup sqlText (some identity) id).exec s.town =
            (.dissolved id, (s.town.dissolve id).freeRooms id) := by
          simp only [Suite.deleteStartup, Request.exec, if_neg hfound, Script.exec]
        have hevents := hsame.systemEvents
        simp only [HttpRequest.apply, hexec] at hevents
        exact absurd hevents (by simp [LoopState.emitSystemEvent, AppState.withTown, TownDb.freeRooms, TownDb.dissolve,
          AppState.town])
      · intro hwrites
        have hnone : s.town.db.startups.lookup id = none := Option.not_isSome_iff_eq_none.mp hwrites
        have hexec : (Suite.deleteStartup sqlText (some identity) id).exec s.town =
            (.refused (refusal 404 "startup not found"), s.town) := by
          simp only [Suite.deleteStartup, Request.exec, if_pos hnone]
        simp only [HttpRequest.apply, hexec]
        exact .refl s

/-! ### Tokens -/

theorem SameTables.symm (h : SameTables s s') : SameTables s' s :=
  ⟨fun k => (h.startups k).symm, fun k => (h.agents k).symm, fun k => (h.tasks k).symm, fun k => (h.messages k).symm,
    h.systemEvents.symm, fun k => (h.operators k).symm, fun k => (h.actionLocks k).symm, h.skills.symm,
    fun k => (h.events k).symm, fun k => (h.statuses k).symm, fun k => (h.rooms k).symm⟩

theorem SameTables.trans (h : SameTables s s') (h' : SameTables s' s'') : SameTables s s'' :=
  ⟨fun k => (h'.startups k).trans (h.startups k), fun k => (h'.agents k).trans (h.agents k),
    fun k => (h'.tasks k).trans (h.tasks k), fun k => (h'.messages k).trans (h.messages k),
    h'.systemEvents.trans h.systemEvents, fun k => (h'.operators k).trans (h.operators k),
    fun k => (h'.actionLocks k).trans (h.actionLocks k), h'.skills.trans h.skills,
    fun k => (h'.events k).trans (h.events k), fun k => (h'.statuses k).trans (h.statuses k),
    fun k => (h'.rooms k).trans (h.rooms k)⟩

/-- A token is looked up, and at most rewritten. -/
theorem shown_of_validateOperatorToken {operators operators' : Table String Operator} {token : String}
    {rewritten : Bool} (h : validateOperatorToken cfg operators token rewritten = .ok (identity, operators'))
    (id : String) :
    (operators'.lookup id).map Operator.shown = (operators.lookup id).map Operator.shown := by
  unfold validateOperatorToken at h
  split at h
  · exact absurd h (by simp)
  · split at h
    · rw [← (Prod.mk.inj (Except.ok.inj h)).2]
    · split at h
      · rw [← (Prod.mk.inj (Except.ok.inj h)).2]
        split
        · rw [Table.lookup_modify]
          split
          · cases operators.lookup id <;> rfl
          · rfl
        · rfl
      · split at h
        · rw [← (Prod.mk.inj (Except.ok.inj h)).2]
        · exact absurd h (by simp)

/-- Other tokens change no other table. -/
theorem sameTables_setOperators {operators : Table String Operator}
    (h : ∀ id, (operators.lookup id).map Operator.shown = (s.loop.db.operators.lookup id).map Operator.shown) :
    SameTables s { s with loop := setOperators s.loop operators } :=
  { SameTables.refl s with operators := h }

/-- No request looks at the tokens again. -/
theorem writes_setOperators (operators : Table String Operator) :
    r.Writes { s with loop := setOperators s.loop operators } identity ↔ r.Writes s identity := by
  cases r with
  | createStartup req m =>
      constructor
      · exact fun h => ⟨h.checked, h.suite, h.minted.startup, h.minted.agents, h.minted.distinct⟩
      · exact fun h => ⟨h.checked, h.suite, h.minted.startup, h.minted.agents, h.minted.distinct⟩
  | patchStartup | deleteStartup | createTask => exact Iff.rfl

variable (cfg sqlText) in
/-- **A viewer is read-only** but for the endpoints that ask for a valid token only: a request of an operator whose
stored role is that of a viewer leaves every table alone if it reads only; and it reads only if it leaves them alone,
unless it comes on a session that was opened with another role. -/
theorem viewer_read_only {operatorId : String} {r : OperatorRequest}
    (hrole : s.loop.db.roleOf operatorId = some .viewer) (hby : r.By cfg s operatorId) :
    (r.ReadsOnly cfg s → SameTables s (r.apply cfg sqlText s)) ∧
      (r.UpToDate s → SameTables s (r.apply cfg sqlText s) → r.ReadsOnly cfg s) := by
  cases r with
  | console identity env cmd =>
      constructor
      · exact fun hviewer => .of_db (db_of_viewer hviewer)
      · intro hfresh _
        obtain rfl : identity.id = operatorId := hby
        exact Option.some.inj (hfresh.symm.trans hrole)
  | http token rewritten r =>
      obtain ⟨row, operators, hrow, hvalid⟩ := hby
      have hviewer : (row.identity operatorId).role = .viewer := by
        unfold Db.roleOf at hrole
        rw [hrow] at hrole
        exact Option.some.inj hrole
      have htokens := sameTables_setOperators (shown_of_validateOperatorToken hvalid)
      have happly : (OperatorRequest.http token rewritten r).apply cfg sqlText s =
          r.apply cfg sqlText { s with loop := setOperators s.loop operators } (row.identity operatorId) := by
        simp only [OperatorRequest.apply, hvalid]
      have hiff : SameTables s ((OperatorRequest.http token rewritten r).apply cfg sqlText s) ↔
          ¬ r.Writes s (row.identity operatorId) := by
        rw [happly, ← writes_setOperators operators, ← sameTables_iff sqlText hviewer]
        exact ⟨htokens.symm.trans, htokens.trans⟩
      constructor
      · exact fun hreads => hiff.mpr (hreads _ _ hvalid)
      · intro _ hsame identity operators' hvalid'
        obtain ⟨rfl, -⟩ := Prod.mk.inj (Except.ok.inj (hvalid.symm.trans hvalid'))
        exact hiff.mp hsame

end Viewer

/-- A town with one startup, and with a viewer beside the seeded operator. -/
def viewedState : AppState where
  loop := setOperators sampleStartup.state (Table.ofList [("op_default", NewStartup.seededAdmin),
    ("op_v", ⟨"viewer", .viewer, some "tok_v", none⟩)])
  events := ∅
  statuses := Table.ofList [("s-1", .active)]
  rooms := (seededTown.claimRoom "s-1" "suite_1").rooms

/-- The viewer asks for a task. -/
def viewerTask : OperatorRequest :=
  .http "tok_v" true (.createTask (sampleEnv 1 "1")
    { startupId := "s-1", title := "title", description := "description"
      assigneeAgentId := none, parentId := none, requiredRoom := none
      preferredBackend := none, preferredModel := none, costEstimateUsd := none
      blockedOn := none, deadlineAt := none })

/-- The viewer dissolves the startup. -/
def viewerDelete : OperatorRequest :=
  .http "tok_v" true (.deleteStartup (sampleEnv 1 "1") "s-1")

/-- The token of both is the viewer's. -/
theorem viewedState_token (r : HttpRequest) :
    (OperatorRequest.http "tok_v" true r).By sampleConfig viewedState "op_v" :=
  ⟨⟨"viewer", .viewer, some "tok_v", none⟩, _, rfl, rfl⟩

/-- No task is created for the viewer. -/
theorem viewer_read_only_task : SameTables viewedState (viewerTask.apply sampleConfig "sql" viewedState) := by
  have hrole : viewedState.loop.db.roleOf "op_v" = some .viewer := rfl
  exact (viewer_read_only sampleConfig "sql" hrole (viewedState_token _)).1 fun _ _ _ hwrites => hwrites

/-- **The viewer dissolves a startup.** -/
theorem viewer_writes :
    ¬ ∀ (cfg : Config) (sqlText : String) (s : AppState) (operatorId : String) (r : OperatorRequest),
      s.loop.db.roleOf operatorId = some .viewer → r.By cfg s operatorId → r.UpToDate s →
        SameTables s (r.apply cfg sqlText s) := by
  intro h
  have hsame := h sampleConfig "sql" viewedState "op_v" viewerDelete rfl (viewedState_token _) trivial
  have hstatus := hsame.statuses "s-1"
  revert hstatus
  decide +kernel

end Cliptown.Suite
