import Cliptown.Lib.Transaction
import Cliptown.Suite.Tables
import Cliptown.Task.Admin

/-!
# Creating and dissolving startups

The two handlers up to the end of their transactions, as requests that are run against the database.

* `CreateStartupRequest`, `Minted` — the body of a request, and the ids that are minted for it.
* `createStartup`, `deleteStartup` — the handlers.
* `TownDb.Later` — no startup is ever removed.
* `createStartup_commits`, `deleteStartup_commits` — what they come to when they commit;
  `isError_of_createStartup`, `isError_of_deleteStartup` — and that they answer with an error otherwise.
-/

namespace Cliptown.Suite

open Cliptown.Lib Cliptown.Town Cliptown.Task Cliptown.Console

/-! ### Requests -/

/-- Source: `api_startups.rs` `CreateStartupRequest`, `BackendChoice` -/
structure CreateStartupRequest where
  name : String
  budgetCapUsd : ℚ
  founder : String
  engineer : String
  designer : String

/-- The random parts of the ids of a startup and its agents. -/
structure Minted where
  startup : String
  founder : String
  engineer : String
  designer : String

/-- Source: `api_startups.rs` `ALLOWED_BACKENDS` -/
def allowedBackends : List String :=
  ["claude_code", "codex", "opencode"]

/-- An id of an agent. -/
def agentId (random : String) : String :=
  "a-" ++ random

/-- It is not the operator's. -/
theorem agentId_ne_operator (random : String) : agentId random ≠ operatorAvatarId := by
  intro h
  have hchars := congrArg String.toList h
  simp [agentId, operatorAvatarId] at hchars

/-- The startup that is created in a suite. -/
def CreateStartupRequest.startup (req : CreateStartupRequest) (m : Minted) (suiteId : String)
    (suite : Bounds) : NewStartup where
  id := m.startup
  budgetCapUsd := req.budgetCapUsd
  suiteId := suiteId
  suite := suite
  founderId := agentId m.founder
  engineerId := agentId m.engineer
  designerId := agentId m.designer
  founderBackend := req.founder
  engineerBackend := req.engineer
  designerBackend := req.designer
  ids := by
    have h := fun random => (agentId_ne_operator random).symm
    simp [h]

/-- What the transaction of a handler comes to. -/
inductive Outcome where
  | created (n : NewStartup)
  | dissolved (startupId : String)
  | refused (response : Response)

/-- The request is answered with an error. -/
def Outcome.IsError : Outcome → Prop
  | .refused _ => True
  | _ => False

section Handlers

variable (sqlText : String)

/-- A statement that fails. -/
def sqlError : Outcome :=
  .refused (refusal 500 sqlText)

/-- The rows of the agents, one statement for each, and the commit. -/
def insertAgents (n : NewStartup) :
    List (String × String × String × Option String) → Script TownDb Outcome
  | [] => .commit (sqlError sqlText) (.created n)
  | a :: agents =>
      .write (sqlError sqlText) (TownDb.insertAgent a.2.1 (n.agentRow a)) (insertAgents n agents)

/-- The statements once a suite is found. -/
def claimSuite (n : NewStartup) : Script TownDb Outcome :=
  .write (sqlError sqlText) (TownDb.insertStartup n.id n.startupRow) <|
    .write (sqlError sqlText) (fun d => some (d.claimRoom n.id n.suiteId)) <|
      insertAgents sqlText n n.agents

/-- The checks of a request. The identity is what its token stands for, if it is valid. Source: `api_startups.rs`
`create_startup`, up to the transaction -/
def checkCreate (identity : Option OperatorIdentity) (req : CreateStartupRequest) : Except Response Unit := do
  let _ ← require identity (refusal 401 "unauthorized")
  ensure (0 ≤ req.budgetCapUsd ∧ req.budgetCapUsd < 1000000) (refusal 400 "invalid budget_cap_usd")
  ensure (¬ blank req.name) (refusal 400 "name required")
  ensure (∀ b ∈ [req.founder, req.engineer, req.designer], b ∈ allowedBackends)
    (refusal 400 "unknown backend")

/-- Source: `api_startups.rs` `create_startup`, up to the commit -/
def createStartup (identity : Option OperatorIdentity) (req : CreateStartupRequest) (m : Minted) :
    Request TownDb Outcome :=
  match checkCreate identity req with
  | .error response => .answer (.refused response)
  | .ok () =>
      .begin <| .read (sqlError sqlText) fun d =>
        match d.freeSuite with
        | none => .drop (.refused (refusal 409 "no free suite"))
        | some (suiteId, room) =>
            match room.bounds with
            | .error e => .drop (.refused (refusal 500 ("bounds parse: " ++ e)))
            | .ok suite => claimSuite sqlText (req.startup m suiteId suite)

/-- Source: `api_startups.rs` `delete_startup`, up to the commit -/
def deleteStartup (identity : Option OperatorIdentity) (startupId : String) : Request TownDb Outcome :=
  match identity with
  | none => .answer (.refused (refusal 401 "unauthorized"))
  | some _ =>
      .ask (.refused (refusal 404 "startup not found")) fun d =>
        if d.db.startups.lookup startupId = none then
          .answer (.refused (refusal 404 "startup not found"))
        else
          .begin <| .write (sqlError sqlText) (fun d => some (d.dissolve startupId)) <|
            .write (sqlError sqlText) (fun d => some (d.freeRooms startupId)) <|
              .commit (sqlError sqlText) (.dissolved startupId)

/-! ### What the transactions come to -/

/-- Every startup is still there. -/
def TownDb.Later (d d' : TownDb) : Prop :=
  ∀ S, (d.db.startups.lookup S).isSome → (d'.db.startups.lookup S).isSome

variable {sqlText} {identity : Option OperatorIdentity} {req : CreateStartupRequest} {m : Minted}
  {startupId : String} {R : TownDb → TownDb → Prop} {d d' : TownDb} {outcome : Outcome}

/-- Agents change neither startups nor rooms. -/
theorem insertAgents_commits {n : NewStartup} {agents : List (String × String × String × Option String)}
    (h : (insertAgents sqlText n agents).Commits d outcome d') :
    outcome = .created n ∧ d'.statuses = d.statuses ∧ d'.rooms = d.rooms ∧
      d'.db.startups = d.db.startups := by
  induction agents generalizing d with
  | nil =>
      obtain ⟨rfl, rfl⟩ := Script.commits_commit.mp h
      exact ⟨rfl, rfl, rfl, rfl⟩
  | cons a agents ih =>
      obtain ⟨d₁, hd₁, hrest⟩ := Script.commits_write.mp h
      obtain ⟨hstatuses, hrooms, hstartups⟩ := TownDb.insertAgent_eq_some hd₁
      obtain ⟨houtcome, hstatuses', hrooms', hstartups'⟩ := ih hrest
      exact ⟨houtcome, hstatuses'.trans hstatuses, hrooms'.trans hrooms, hstartups'.trans hstartups⟩

/-- What a creation that is committed has come through: the checks, a free suite with its bounds, and the rows of the
startup, the suite and the agents. -/
theorem claims_of_createStartup (h : (createStartup sqlText identity req m).Commits R d outcome d') :
    ∃ suiteId room suite d₁, checkCreate identity req = .ok () ∧ d.freeSuite = some (suiteId, room) ∧
      room.bounds = .ok suite ∧
        d.insertStartup (req.startup m suiteId suite).id (req.startup m suiteId suite).startupRow = some d₁ ∧
          (insertAgents sqlText (req.startup m suiteId suite) (req.startup m suiteId suite).agents).Commits
            (d₁.claimRoom (req.startup m suiteId suite).id (req.startup m suiteId suite).suiteId) outcome d' := by
  unfold createStartup at h
  cases hcheck : checkCreate identity req with
  | error response =>
      rw [hcheck] at h
      exact absurd h Request.commits_answer
  | ok _ =>
      rw [hcheck] at h
      have hread := Script.commits_read.mp (Request.commits_begin.mp h)
      split at hread
      · exact absurd hread Script.commits_drop
      · rename_i suiteId room hsuite
        split at hread
        · exact absurd hread Script.commits_drop
        · rename_i suite hbounds
          unfold claimSuite at hread
          obtain ⟨d₁, hd₁, hrest⟩ := Script.commits_write.mp hread
          obtain ⟨d₂, hd₂, hagents⟩ := Script.commits_write.mp hrest
          obtain rfl := Option.some.inj hd₂
          exact ⟨suiteId, room, suite, d₁, rfl, hsuite, hbounds, hd₁, hagents⟩

/-- **A startup that is created** is new and active, and it has claimed a free suite. -/
theorem createStartup_commits (h : (createStartup sqlText identity req m).Commits R d outcome d') :
    ∃ n : NewStartup, outcome = .created n ∧ (∃ room, d.freeSuite = some (n.suiteId, room)) ∧
      d.statuses.lookup n.id = none ∧ d'.statuses = d.statuses.insert n.id .active ∧
        d'.rooms = (d.claimRoom n.id n.suiteId).rooms ∧
          d'.db.startups = d.db.startups.insert n.id n.startupRow := by
  obtain ⟨suiteId, room, suite, d₁, -, hsuite, -, hd₁, hagents⟩ := claims_of_createStartup h
  obtain ⟨hnew, hstatuses, hrooms, hstartups⟩ := TownDb.insertStartup_eq_some hd₁
  obtain ⟨houtcome, hstatuses', hrooms', hstartups'⟩ := insertAgents_commits hagents
  refine ⟨req.startup m suiteId suite, houtcome, ⟨room, hsuite⟩, hnew,
    hstatuses'.trans hstatuses, hrooms'.trans ?_, hstartups'.trans hstartups⟩
  unfold TownDb.claimRoom
  rw [hrooms]

/-- **A startup that is dissolved** was there, and has no room any more. -/
theorem deleteStartup_commits (h : (deleteStartup sqlText identity startupId).Commits R d outcome d') :
    outcome = .dissolved startupId ∧ d' = (d.dissolve startupId).freeRooms startupId ∧
      ∃ seen, R seen d ∧ (seen.db.startups.lookup startupId).isSome := by
  unfold deleteStartup at h
  cases identity with
  | none => exact absurd h Request.commits_answer
  | some identity =>
      obtain ⟨seen, hseen, hrest⟩ := Request.commits_ask.mp h
      split at hrest
      · exact absurd hrest Request.commits_answer
      · rename_i hfound
        obtain ⟨d₁, hd₁, hfree⟩ := Script.commits_write.mp (Request.commits_begin.mp hrest)
        obtain ⟨d₂, hd₂, hcommit⟩ := Script.commits_write.mp hfree
        obtain ⟨rfl, rfl⟩ := Script.commits_commit.mp hcommit
        obtain rfl := Option.some.inj hd₁
        exact ⟨rfl, (Option.some.inj hd₂).symm, seen, hseen, Option.isSome_iff_ne_none.mpr hfound⟩

/-! ### When a startup is created -/

/-- The ids are new, and differ from one another. -/
structure Minted.New (m : Minted) (d : TownDb) : Prop where
  startup : d.db.startups.lookup m.startup = none ∧ d.statuses.lookup m.startup = none
  agents : ∀ random ∈ [m.founder, m.engineer, m.designer], d.db.agents.lookup (agentId random) = none
  distinct : [m.founder, m.engineer, m.designer].Nodup

/-- What has to be so before a startup is created: the request passes its checks, there is a free suite, and the ids
are new. -/
structure Creates (identity : Option OperatorIdentity) (req : CreateStartupRequest) (m : Minted)
    (d : TownDb) : Prop where
  checked : checkCreate identity req = .ok ()
  suite : ∃ suiteId room suite, d.freeSuite = some (suiteId, room) ∧ room.bounds = .ok suite
  minted : m.New d

/-- Different random parts give different ids. -/
theorem agentId_inj {random random' : String} : agentId random = agentId random' ↔ random = random' := by
  unfold agentId
  constructor
  · intro h
    have hchars := congrArg String.toList h
    rw [String.toList_append, String.toList_append] at hchars
    exact String.toList_inj.mp (List.append_cancel_left hchars)
  · exact congrArg _

/-- Agents that are inserted are new, and differ from one another. -/
theorem new_of_insertAgents {n : NewStartup} {agents : List (String × String × String × Option String)}
    (h : (insertAgents sqlText n agents).Commits d outcome d') :
    (∀ a ∈ agents, d.db.agents.lookup a.2.1 = none) ∧ (agents.map fun a => a.2.1).Nodup := by
  induction agents generalizing d with
  | nil => exact ⟨fun a ha => absurd ha List.not_mem_nil, .nil⟩
  | cons a agents ih =>
      obtain ⟨d₁, hd₁, hrest⟩ := Script.commits_write.mp h
      obtain ⟨hnew, hagents⟩ := TownDb.agents_of_insertAgent hd₁
      obtain ⟨hrest, hnodup⟩ := ih hrest
      have hother : ∀ b ∈ agents, b.2.1 ≠ a.2.1 ∧ d.db.agents.lookup b.2.1 = none := by
        intro b hb
        have hlookup := hrest b hb
        rw [hagents, Table.lookup_insert_eq] at hlookup
        split at hlookup
        · exact absurd hlookup (by simp)
        · exact ⟨‹_›, hlookup⟩
      refine ⟨fun b hb => ?_, ?_⟩
      · rcases List.mem_cons.mp hb with rfl | hb
        · exact hnew
        · exact (hother b hb).2
      · refine List.nodup_cons.mpr ⟨fun hmem => ?_, hnodup⟩
        obtain ⟨b, hb, hid⟩ := List.mem_map.mp hmem
        exact (hother b hb).1 hid

/-- Agents that are new, with a manager that is there, are inserted. -/
theorem insertAgents_of_new {n : NewStartup} {agents : List (String × String × String × Option String)}
    (hstartup : (d.db.startups.lookup n.id).isSome) (hnew : ∀ a ∈ agents, d.db.agents.lookup a.2.1 = none)
    (hnodup : (agents.map fun a => a.2.1).Nodup)
    (hchecks : ∀ a ∈ agents, a.2.1 ≠ operatorAvatarId ∧ TownDb.agentChecks (n.agentRow a))
    (hmanager : ∀ a ∈ agents, ∀ m ∈ a.2.2.2, (d.db.agents.lookup m).isSome) :
    ∃ d', (insertAgents sqlText n agents).Commits d (.created n) d' := by
  induction agents generalizing d with
  | nil => exact ⟨d, Script.commits_commit.mpr ⟨rfl, rfl⟩⟩
  | cons a agents ih =>
      obtain ⟨hnotin, hnodup⟩ := List.nodup_cons.mp hnodup
      obtain ⟨d₁, hd₁⟩ := TownDb.exists_insertAgent d a.2.1 (n.agentRow a)
        (hnew a List.mem_cons_self) (hchecks a List.mem_cons_self).1 (hchecks a List.mem_cons_self).2 hstartup
        (hmanager a List.mem_cons_self)
      obtain ⟨-, hagents⟩ := TownDb.agents_of_insertAgent hd₁
      obtain ⟨-, -, hstartups⟩ := TownDb.insertAgent_eq_some hd₁
      obtain ⟨d', hrest⟩ := @ih d₁ (hstartups ▸ hstartup)
        (fun b hb => by
          rw [hagents, Table.lookup_insert_eq, if_neg fun heq => hnotin (List.mem_map.mpr ⟨b, hb, heq⟩)]
          exact hnew b (List.mem_cons_of_mem a hb))
        hnodup (fun b hb => hchecks b (List.mem_cons_of_mem a hb))
        (fun b hb manager hm => by
          rw [hagents, Table.lookup_insert_eq]
          split
          · rfl
          · exact hmanager b (List.mem_cons_of_mem a hb) manager hm)
      exact ⟨d', Script.commits_write.mpr ⟨d₁, hd₁, hrest⟩⟩

variable (sqlText) in
/-- A startup with new ids claims the suite. -/
theorem claimSuite_of_new (suiteId : String) (suite : Bounds) (hnew : m.New d)
    (hbackends : ∀ b ∈ [req.founder, req.engineer, req.designer], b ∈ allowedBackends) :
    ∃ outcome d', (claimSuite sqlText (req.startup m suiteId suite)).Commits d outcome d' := by
  obtain ⟨d₁, hd₁⟩ := TownDb.exists_insertStartup (req.startup m suiteId suite).startupRow
    hnew.startup.1 hnew.startup.2
  obtain ⟨-, hagents₁⟩ := TownDb.new_of_insertStartup hd₁
  obtain ⟨-, -, -, hstartups₁⟩ := TownDb.insertStartup_eq_some hd₁
  have hstartup : (d₁.db.startups.lookup m.startup).isSome := by
    rw [hstartups₁, Table.lookup_insert_eq, if_pos rfl]
    rfl
  have hlookup : ∀ random ∈ [m.founder, m.engineer, m.designer], d₁.db.agents.lookup (agentId random) = none := by
    rw [hagents₁]
    exact hnew.agents
  simp only [List.mem_cons, List.not_mem_nil, or_false, forall_eq_or_imp, forall_eq] at hlookup hbackends
  have hdistinct := hnew.distinct
  simp only [List.nodup_cons, List.mem_cons, List.not_mem_nil, or_false, not_or, not_false_eq_true,
    List.nodup_nil, and_true] at hdistinct
  obtain ⟨⟨hne, hne'⟩, hne''⟩ := hdistinct
  have hchecks : ∀ role ∈ ["founder", "engineer", "designer"], ∀ backend ∈ allowedBackends, ∀ manager,
      TownDb.agentChecks ⟨m.startup, role, backend, manager, false⟩ :=
    fun role hrole backend hbackend manager => ⟨hrole, hbackend⟩
  -- the founder comes first, and manages the others
  obtain ⟨d₂, hd₂⟩ := TownDb.exists_insertAgent (d₁.claimRoom m.startup suiteId) (agentId m.founder)
    ⟨m.startup, "founder", req.founder, none, false⟩ hlookup.1 (agentId_ne_operator _)
    (hchecks _ (by simp) _ hbackends.1 none) hstartup (by simp)
  obtain ⟨-, hagents₂⟩ := TownDb.agents_of_insertAgent hd₂
  obtain ⟨-, -, hstartups₂⟩ := TownDb.insertAgent_eq_some hd₂
  have hrest : ∃ d', (insertAgents sqlText (req.startup m suiteId suite)
      [("engineer", agentId m.engineer, req.engineer, some (agentId m.founder)),
        ("designer", agentId m.designer, req.designer, some (agentId m.founder))]).Commits d₂
        (.created (req.startup m suiteId suite)) d' := by
    apply insertAgents_of_new
    · rw [hstartups₂]
      exact hstartup
    · intro a ha
      simp only [List.mem_cons, List.not_mem_nil, or_false] at ha
      rw [hagents₂, Table.lookup_insert_eq]
      rcases ha with rfl | rfl
      · rw [if_neg fun heq => hne (agentId_inj.mp heq).symm]
        exact hlookup.2.1
      · rw [if_neg fun heq => hne' (agentId_inj.mp heq).symm]
        exact hlookup.2.2
    · simpa [agentId_inj] using hne''
    · intro a ha
      simp only [List.mem_cons, List.not_mem_nil, or_false] at ha
      rcases ha with rfl | rfl
      · exact ⟨agentId_ne_operator _, hchecks _ (by simp) _ hbackends.2.1 _⟩
      · exact ⟨agentId_ne_operator _, hchecks _ (by simp) _ hbackends.2.2 _⟩
    · intro a ha manager hmanager
      simp only [List.mem_cons, List.not_mem_nil, or_false] at ha
      rw [hagents₂, Table.lookup_insert_eq]
      rcases ha with rfl | rfl <;>
      · obtain rfl := Option.some.inj hmanager
        simp
  obtain ⟨d', hrest⟩ := hrest
  exact ⟨_, d', Script.commits_write.mpr ⟨d₁, hd₁, Script.commits_write.mpr ⟨_, rfl,
    Script.commits_write.mpr ⟨d₂, hd₂, hrest⟩⟩⟩⟩

/-- **When a startup is created.** -/
theorem exists_createStartup_commits_iff :
    (∃ outcome d', (createStartup sqlText identity req m).Commits R d outcome d') ↔
      Creates identity req m d := by
  constructor
  · rintro ⟨outcome, d', h⟩
    obtain ⟨suiteId, room, suite, d₁, hcheck, hsuite, hbounds, hd₁, hagents⟩ := claims_of_createStartup h
    obtain ⟨hnew, hnodup⟩ := new_of_insertAgents hagents
    obtain ⟨hstartup, hsame⟩ := TownDb.new_of_insertStartup hd₁
    have hlookup : ∀ random ∈ [m.founder, m.engineer, m.designer],
        d.db.agents.lookup (agentId random) = none := by
      rw [← hsame]
      simpa [NewStartup.agents, CreateStartupRequest.startup, TownDb.claimRoom] using hnew
    refine ⟨hcheck, ⟨suiteId, room, suite, hsuite, hbounds⟩, hstartup, hlookup, ?_⟩
    simpa [NewStartup.agents, CreateStartupRequest.startup, agentId_inj] using hnodup
  · rintro ⟨hcheck, ⟨suiteId, room, suite, hsuite, hbounds⟩, hstartup, hagents, hdistinct⟩
    have hbackends : ∀ b ∈ [req.founder, req.engineer, req.designer], b ∈ allowedBackends := by
      unfold checkCreate at hcheck
      simp only [bind_eq_ok, ensure_eq_ok] at hcheck
      obtain ⟨_, -, _, -, _, -, hbackends⟩ := hcheck
      exact hbackends
    obtain ⟨outcome, d', hclaim⟩ := claimSuite_of_new sqlText suiteId suite
      ⟨hstartup, hagents, hdistinct⟩ hbackends
    refine ⟨outcome, d', ?_⟩
    unfold createStartup
    rw [hcheck]
    refine Request.commits_begin.mpr (Script.commits_read.mpr ?_)
    simp only [hsuite, hbounds]
    exact hclaim

/-! ### What they answer otherwise -/

theorem sqlError_isError : (sqlError sqlText).IsError :=
  trivial

/-- Once something is written, a startup that is not created is refused. -/
theorem isError_of_insertAgents {n : NewStartup} {agents : List (String × String × String × Option String)}
    (h : (insertAgents sqlText n agents).Refuses true outcome) : outcome.IsError := by
  induction agents with
  | nil =>
      rcases h with rfl | ⟨hwrote, -⟩
      · exact sqlError_isError
      · exact absurd hwrote (by decide)
  | cons a agents ih =>
      rcases h with rfl | h
      · exact sqlError_isError
      · exact ih h

/-- **A startup that is not created is refused.** -/
theorem isError_of_createStartup (h : (createStartup sqlText identity req m).Refuses outcome) :
    outcome.IsError := by
  unfold createStartup at h
  cases hcheck : checkCreate identity req with
  | error response =>
      rw [hcheck] at h
      obtain rfl : outcome = .refused response := h
      trivial
  | ok _ =>
      rw [hcheck] at h
      rcases h with rfl | ⟨seen, h⟩
      · exact sqlError_isError
      · dsimp only at h
        split at h
        · obtain rfl : outcome = .refused (refusal 409 "no free suite") := h
          trivial
        · split at h
          · rename_i e _
            obtain rfl : outcome = .refused (refusal 500 ("bounds parse: " ++ e)) := h
            trivial
          · rcases h with rfl | rfl | h
            · exact sqlError_isError
            · exact sqlError_isError
            · exact isError_of_insertAgents h

/-- **A startup that is not dissolved is refused.** -/
theorem isError_of_deleteStartup (h : (deleteStartup sqlText identity startupId).Refuses outcome) :
    outcome.IsError := by
  unfold deleteStartup at h
  cases identity with
  | none =>
      obtain rfl : outcome = .refused (refusal 401 "unauthorized") := h
      trivial
  | some identity =>
      rcases h with rfl | ⟨seen, h⟩
      · trivial
      · dsimp only at h
        split at h
        · obtain rfl : outcome = .refused (refusal 404 "startup not found") := h
          trivial
        · rcases h with rfl | rfl | rfl | ⟨hwrote, -⟩
          · exact sqlError_isError
          · exact sqlError_isError
          · exact sqlError_isError
          · exact absurd hwrote (by decide)

end Handlers

end Cliptown.Suite
