import Cliptown.Suite.Requests
import Cliptown.Task.Running

/-!
# The allocation of suites

Any number of requests that create and dissolve startups, over any number of rooms.

* `SuiteRequest`, `suiteSystem` — the requests, as clients of one database; `upward_later` — no startup is removed.
* `Allocated` — every active startup has one room, an office, and nobody else has one.
* `allocated_of_commits` — every transaction that commits keeps that.
* `suites_allocated` — it holds in every run, and a request that is answered with an error has changed nothing.
-/

namespace Cliptown.Suite

open Cliptown.Lib Cliptown.Town Cliptown.Task Cliptown.Console

/-- A request to create or to dissolve a startup. -/
inductive SuiteRequest where
  | create (identity : Option OperatorIdentity) (req : CreateStartupRequest) (m : Minted)
  | delete (identity : Option OperatorIdentity) (startupId : String)

/-- What the handler of a request runs against the database. -/
def SuiteRequest.request (sqlText : String) : SuiteRequest → Request TownDb Outcome
  | .create identity req m => createStartup sqlText identity req m
  | .delete identity startupId => deleteStartup sqlText identity startupId

/-- There are rooms, and no startups yet. -/
def TownDb.Fresh (d : TownDb) : Prop :=
  d.db.startups = ∅ ∧ d.statuses = ∅ ∧ ∀ S r, ¬ d.Owns S r

/-- The requests, each of them at any moment, in any order of their steps. -/
def suiteSystem {ι : Type*} (sqlText : String) (requests : ι → SuiteRequest) :
    System (Clients ι TownDb Outcome) ι :=
  clientSystem TownDb.Fresh fun i => (requests i).request sqlText

/-! ### The invariant -/

/-- The room is an office. -/
def TownDb.Office (d : TownDb) (roomId : String) : Prop :=
  (d.rooms.lookup roomId).map RoomRow.type = some "office"

/-- Every startup has a status, every active one owns one room and no other, and whoever owns a room is active and
has an office. -/
structure Allocated (d : TownDb) : Prop where
  status : ∀ S, (d.db.startups.lookup S).isSome → (d.statuses.lookup S).isSome
  active : ∀ S, d.statuses.lookup S = some .active → ∃! r, d.Owns S r
  owner : ∀ S r, d.Owns S r → d.statuses.lookup S = some .active ∧ d.Office r

section Commits

variable {sqlText : String} {d d' : TownDb} {outcome : Outcome}

theorem owns_congr {S r : String} (h : d'.rooms = d.rooms) : d'.Owns S r ↔ d.Owns S r := by
  unfold TownDb.Owns
  rw [h]

/-- A claim leaves the types of the rooms as they are. -/
theorem office_claimRoom (S₀ r₀ : String) {r : String} : (d.claimRoom S₀ r₀).Office r ↔ d.Office r := by
  unfold TownDb.Office TownDb.claimRoom
  rw [Table.lookup_modify]
  split
  · rw [Option.map_map]
    rfl
  · rfl

/-- So does a room that is freed. -/
theorem office_freeRooms {S₀ r : String} : (d.freeRooms S₀).Office r ↔ d.Office r := by
  unfold TownDb.Office TownDb.freeRooms
  rw [Table.lookup_update, Option.map_map]
  have htype : (RoomRow.type ∘ fun room => if decide (room.privateToStartupId = some S₀) then
      { room with privateToStartupId := none } else room) = RoomRow.type := by
    funext room
    simp only [Function.comp_apply]
    split <;> rfl
  rw [htype]

/-- Who owns a room after the claim of a suite that was found. -/
theorem owns_of_claim {n : NewStartup} {room : RoomRow} (hfree : d.freeSuite = some (n.suiteId, room))
    (hrooms : d'.rooms = (d.claimRoom n.id n.suiteId).rooms) (S r : String) :
    d'.Owns S r ↔ if r = n.suiteId then S = n.id else d.Owns S r := by
  rw [owns_congr hrooms, TownDb.owns_claimRoom]
  split
  · rename_i heq
    rw [heq, (TownDb.freeSuite_eq_some hfree).1]
    simp
  · rfl

/-- Nobody owned it. -/
theorem not_owns_of_freeSuite {r : String} {room : RoomRow} (hfree : d.freeSuite = some (r, room))
    (S : String) : ¬ d.Owns S r := by
  rintro ⟨room', hroom', howner⟩
  obtain ⟨hroom, -, hnobody⟩ := TownDb.freeSuite_eq_some hfree
  obtain rfl := Option.some.inj (hroom.symm.trans hroom')
  exact absurd (hnobody.symm.trans howner) (by simp)

/-- Who owns a room after a startup was dissolved. -/
theorem owns_of_delete (S₀ S r : String) :
    ((d.dissolve S₀).freeRooms S₀).Owns S r ↔ d.Owns S r ∧ S ≠ S₀ := by
  have hsame : (d.dissolve S₀).Owns S r ↔ d.Owns S r := owns_congr rfl
  rw [TownDb.owns_freeRooms, hsame]

/-- A claim of a free office for a new startup keeps the allocation. -/
theorem Allocated.create (h : Allocated d) {n : NewStartup} {room : RoomRow}
    (hfree : d.freeSuite = some (n.suiteId, room)) (hnew : d.statuses.lookup n.id = none)
    (hstatuses : d'.statuses = d.statuses.insert n.id .active)
    (hrooms : d'.rooms = (d.claimRoom n.id n.suiteId).rooms)
    (hstartups : d'.db.startups = d.db.startups.insert n.id n.startupRow) : Allocated d' := by
  obtain ⟨hroom, hoffice, -⟩ := TownDb.freeSuite_eq_some hfree
  have howns := owns_of_claim hfree hrooms
  have hstill : ∀ r, d.Office r → d'.Office r := by
    intro r hr
    have hr' := (office_claimRoom n.id n.suiteId).mpr hr
    unfold TownDb.Office at hr' ⊢
    rw [hrooms]
    exact hr'
  have hnone : ∀ r, ¬ d.Owns n.id r := by
    intro r hr
    exact absurd (hnew.symm.trans (h.owner _ _ hr).1) (by simp)
  have hunowned := not_owns_of_freeSuite hfree
  constructor
  · intro S hS
    rw [hstartups, Table.lookup_insert_eq] at hS
    rw [hstatuses, Table.lookup_insert_eq]
    split
    · rfl
    · rename_i hne
      rw [if_neg hne] at hS
      exact h.status S hS
  · intro S hS
    rw [hstatuses, Table.lookup_insert_eq] at hS
    split at hS
    · rename_i heq
      subst heq
      refine ⟨n.suiteId, (howns _ _).mpr (by simp), fun r hr => ?_⟩
      have hr' := (howns _ _).mp hr
      by_contra hne
      rw [if_neg hne] at hr'
      exact hnone r hr'
    · rename_i hne
      obtain ⟨r, hr, hunique⟩ := h.active S hS
      have hother : r ≠ n.suiteId := by
        rintro rfl
        exact hunowned S hr
      refine ⟨r, (howns _ _).mpr (by rwa [if_neg hother]), fun r' hr' => ?_⟩
      have hr'' := (howns _ _).mp hr'
      split at hr''
      · exact absurd hr'' hne
      · exact hunique r' hr''
  · intro S r hr
    have hr' := (howns _ _).mp hr
    rw [hstatuses, Table.lookup_insert_eq]
    split at hr'
    · rename_i heq
      subst hr'
      rw [if_pos rfl, heq]
      refine ⟨rfl, hstill _ ?_⟩
      unfold TownDb.Office
      rw [hroom, Option.map_some, hoffice]
    · obtain ⟨hactive, hr''⟩ := h.owner S r hr'
      refine ⟨?_, hstill r hr''⟩
      split
      · rfl
      · exact hactive

/-- A dissolved startup leaves its room to nobody. -/
theorem Allocated.delete (h : Allocated d) (S₀ : String) :
    Allocated ((d.dissolve S₀).freeRooms S₀) := by
  have howns : ∀ S r, ((d.dissolve S₀).freeRooms S₀).Owns S r ↔ d.Owns S r ∧ S ≠ S₀ := owns_of_delete S₀
  have hstatus : ∀ S, S ≠ S₀ →
      ((d.dissolve S₀).freeRooms S₀).statuses.lookup S = d.statuses.lookup S :=
    fun S hne => Table.lookup_modify_ne _ hne _
  constructor
  · intro S hS
    have hsome : ((d.statuses.modify S₀ fun _ => .dissolved).lookup S).isSome := by
      rw [Table.lookup_modify]
      split <;> simpa using h.status S hS
    exact hsome
  · intro S hS
    have hne : S ≠ S₀ := by
      rintro rfl
      have hself : ((d.dissolve S).freeRooms S).statuses.lookup S =
          (d.statuses.lookup S).map fun _ => .dissolved := Table.lookup_modify_self _ _ _
      rw [hself] at hS
      obtain ⟨_, -, hdissolved⟩ := Option.map_eq_some_iff.mp hS
      exact absurd hdissolved (by decide)
    rw [hstatus S hne] at hS
    obtain ⟨r, hr, hunique⟩ := h.active S hS
    exact ⟨r, (howns S r).mpr ⟨hr, hne⟩, fun r' hr' => hunique r' ((howns S r').mp hr').1⟩
  · intro S r hr
    obtain ⟨hr, hne⟩ := (howns S r).mp hr
    obtain ⟨hactive, hoffice⟩ := h.owner S r hr
    rw [hstatus S hne]
    exact ⟨hactive, office_freeRooms.mpr hoffice⟩

variable {R : TownDb → TownDb → Prop} {request : SuiteRequest}

/-- **Every transaction that commits keeps the allocation.** -/
theorem allocated_of_commits (h : Allocated d)
    (hcommits : (request.request sqlText).Commits R d outcome d') : Allocated d' := by
  cases request with
  | create identity req m =>
      obtain ⟨n, -, ⟨room, hfree⟩, hnew, hstatuses, hrooms, hstartups⟩ := createStartup_commits hcommits
      exact h.create hfree hnew hstatuses hrooms hstartups
  | delete identity startupId =>
      obtain ⟨-, rfl, -⟩ := deleteStartup_commits hcommits
      exact h.delete startupId

/-- No transaction that commits is answered with an error. -/
theorem not_isError_of_commits (hcommits : (request.request sqlText).Commits R d outcome d') :
    ¬ outcome.IsError := by
  cases request with
  | create identity req m =>
      obtain ⟨n, rfl, -⟩ := createStartup_commits hcommits
      exact fun h => h
  | delete identity startupId =>
      obtain ⟨rfl, -⟩ := deleteStartup_commits hcommits
      exact fun h => h

/-- A request that does not commit is answered with an error. -/
theorem isError_of_refuses (h : (request.request sqlText).Refuses outcome) : outcome.IsError := by
  cases request with
  | create identity req m => exact isError_of_createStartup h
  | delete identity startupId => exact isError_of_deleteStartup h

/-- No transaction removes a startup. -/
theorem upward_later {ι : Type*} (requests : ι → SuiteRequest) :
    Upward TownDb.Later fun i => (requests i).request sqlText := by
  refine ⟨fun d S h => h, fun d d' d'' h h' S hS => h' S (h S hS), fun i d outcome d' hcommits S hS => ?_⟩
  cases hrequest : requests i with
  | create identity req m =>
      rw [hrequest] at hcommits
      obtain ⟨n, -, -, -, -, -, hstartups⟩ := createStartup_commits hcommits
      rw [hstartups, Table.lookup_insert_eq]
      split
      · rfl
      · exact hS
  | delete identity startupId =>
      rw [hrequest] at hcommits
      obtain ⟨-, rfl, -⟩ := deleteStartup_commits hcommits
      exact hS

end Commits

/-- A town without startups is allocated. -/
theorem Allocated.of_fresh {d : TownDb} (h : d.Fresh) : Allocated d := by
  obtain ⟨hstartups, hstatuses, hnobody⟩ := h
  constructor
  · intro S hS
    rw [hstartups] at hS
    exact absurd hS (by simp)
  · intro S hS
    rw [hstatuses] at hS
    exact absurd hS (by simp)
  · exact fun S r hr => absurd hr (hnobody S r)

/-- Every town that is reached is allocated. -/
theorem Allocated.of_reachable {ι : Type*} {sqlText : String} {requests : ι → SuiteRequest}
    {s : Clients ι TownDb Outcome} (h : (suiteSystem sqlText requests).Reachable s) : Allocated s.db :=
  Reachable.database (upward_later requests) (fun _ => Allocated.of_fresh)
    (fun _ _ _ _ h => allocated_of_commits h) h

/-- **The allocation of suites**, in every run of any requests: a suite has at most one owner, an active startup
owns exactly one room, which is an office, a dissolved one owns none, and no step of a request that is answered
with an error has changed the database. -/
theorem suites_allocated {ι : Type*} {sqlText : String} {requests : ι → SuiteRequest}
    {s t : Clients ι TownDb Outcome} {ls : List ι} (hinit : (suiteSystem sqlText requests).init s)
    (hrun : Run (suiteSystem sqlText requests).step s ls t) :
    (∀ r S S', t.db.Owns S r → t.db.Owns S' r → S = S') ∧
      (∀ S, t.db.statuses.lookup S = some .active → (∃! r, t.db.Owns S r) ∧ ∀ r, t.db.Owns S r → t.db.Office r) ∧
        (∀ S r, t.db.statuses.lookup S = some .dissolved → ¬ t.db.Owns S r) ∧
          ∀ i outcome, t.client i = .done outcome → outcome.IsError →
            ∀ before after u v, Run (suiteSystem sqlText requests).step s before u →
              (suiteSystem sqlText requests).step u i v → Run (suiteSystem sqlText requests).step v after t →
                v.db = u.db := by
  have hallocated : Allocated t.db := .of_reachable ((System.Reachable.init hinit).run hrun)
  refine ⟨fun r S S' => TownDb.Owns.unique,
    fun S hS => ⟨hallocated.active S hS, fun r hr => (hallocated.owner S r hr).2⟩, fun S r hS hr => ?_, ?_⟩
  · have hactive := (hallocated.owner S r hr).1
    exact absurd (hS.symm.trans hactive) (by decide)
  · intro i outcome hdone herror before after u v hbefore hstep hafter
    exact unchanged_of_not_committed (upward_later requests) ((System.Reachable.init hinit).run hbefore)
      hstep hafter hdone fun _ _ hcommits => not_isError_of_commits hcommits herror

/-- A request for a startup. -/
def sampleRequest : CreateStartupRequest := ⟨"acme", 100, "codex", "codex", "codex"⟩

/-- The ids that are minted for it. -/
def sampleMinted : Minted := ⟨"s-1", "1", "2", "3"⟩

/-- The seeded town is fresh. -/
theorem seededTown_fresh : seededTown.Fresh := by
  refine ⟨rfl, rfl, ?_⟩
  rintro S r ⟨room, hroom, hS⟩
  have hmem := Table.mem_of_lookup_ofList hroom
  simp only [List.mem_cons, Prod.mk.injEq, List.not_mem_nil, or_false] at hmem
  rcases hmem with ⟨-, rfl⟩ | ⟨-, rfl⟩ | ⟨-, rfl⟩ | ⟨-, rfl⟩ | ⟨-, rfl⟩ | ⟨-, rfl⟩ | ⟨-, rfl⟩ <;>
    exact absurd hS (by simp)

/-- The ids that are minted for another. -/
def otherMinted : Minted := ⟨"s-2", "4", "5", "6"⟩

/-- Two requests. -/
def twoRequests : Bool → SuiteRequest
  | false => .create (some sampleAdmin) sampleRequest sampleMinted
  | true => .create (some sampleAdmin) sampleRequest otherMinted

/-- Both, before their first steps. -/
def twoClients : Clients Bool TownDb Outcome :=
  ⟨seededTown, fun i => .asking ((twoRequests i).request "sql")⟩

/-- What is left of the second request once it has read the free suite. -/
def secondClaim : Script TownDb Outcome :=
  claimSuite "sql" (sampleRequest.startup otherMinted "suite_1" ⟨0, 0, 7, 6⟩)

/-- The first request can commit between the first read of the second and its first write. -/
theorem run_twoRequests :
    ∃ ls u, Run (suiteSystem "sql" twoRequests).step twoClients ls u ∧
      u.db = (((twoRequests false).request "sql").exec seededTown).2 ∧
        u.client true = .busy (.reading seededTown) secondClaim := by
  have hstart : twoClients.Free true := by
    rintro (_ | _) hj
    · exact fun hwriting => hwriting
    · exact absurd rfl hj
  have hread : AloneTo TownDb.Fresh (fun i => (twoRequests i).request "sql") true twoClients seededTown
      (.busy (.reading seededTown) secondClaim) := by
    refine .cons hstart .begin fun t _ hdb hclient => .single ?_
    rw [hdb, hclient]
    exact .firstRead
  obtain ⟨before, s, hbefore, hdb, hreading, hothers⟩ := hread
  have hasking : s.client false = .asking ((twoRequests false).request "sql") := hothers false (by decide)
  have hfree : s.Free false := by
    rintro (_ | _) hj
    · exact absurd rfl hj
    · rw [hreading]
      exact fun hwriting => hwriting
  obtain ⟨between, u, hbetween, hcommitted, -, hothers⟩ := run_exec hfree hasking
  exact ⟨_, u, hbefore.trans hbetween, by rw [hcommitted, hdb], (hothers true (by decide)).trans hreading⟩

/-- Then its first write fails: what it has read is not current any more. -/
theorem refused_of_step {u v : Clients Bool TownDb Outcome}
    (hdb : u.db = (((twoRequests false).request "sql").exec seededTown).2)
    (hclient : u.client true = .busy (.reading seededTown) secondClaim)
    (hstep : (suiteSystem "sql" twoRequests).step u true v) :
    v.client true = .done (.refused (refusal 500 "sql")) ∧ v.db = u.db := by
  have hstale : seededTown ≠ u.db := by
    intro hsame
    have howned : u.db.Owns "s-1" "suite_1" := by
      rw [hdb]
      decide +kernel
    exact seededTown_fresh.2.2 "s-1" "suite_1" (hsame ▸ howned)
  obtain ⟨hone, -⟩ := hstep
  rw [hclient] at hone
  generalize v.db = d, v.client true = c at hone ⊢
  cases hone with
  | firstWrite hfree hphase hstmt =>
      rcases hphase with hphase | hphase
      · exact absurd hphase (by simp)
      · exact absurd (Phase.reading.inj hphase) hstale
  | fail hfailure => exact ⟨congrArg Client.done (Option.some.inj hfailure).symm, rfl⟩

/-- Of two startups, the one that is created owns the suite that both have read, and the request for the other is
answered with an error. -/
theorem suites_allocated_interleaved :
    ∃ ls u, Run (suiteSystem "sql" twoRequests).step twoClients ls u ∧
      (∃ t, (suiteSystem "sql" twoRequests).step u true t) ∧
        ∀ t, (suiteSystem "sql" twoRequests).step u true t →
          t.client true = .done (.refused (refusal 500 "sql")) ∧ t.db.Owns "s-1" "suite_1" ∧
            ∀ S, t.db.Owns S "suite_1" → "s-1" = S := by
  obtain ⟨ls, u, hrun, hdb, hclient⟩ := run_twoRequests
  refine ⟨ls, u, hrun, ?_, fun t hstep => ?_⟩
  · refine ⟨⟨u.db, Function.update u.client true (.done (.refused (refusal 500 "sql")))⟩, ?_,
      fun j hj => Function.update_of_ne hj _ _⟩
    show ClientStep (u.Free true) u.db (u.client true) u.db (Function.update u.client true _ true)
    rw [hclient, Function.update_self]
    exact .fail rfl
  · obtain ⟨hrefused, hsame⟩ := refused_of_step hdb hclient hstep
    have hall := suites_allocated ⟨seededTown_fresh, fun _ => rfl⟩ (hrun.trans (.single hstep))
    have howns : t.db.Owns "s-1" "suite_1" := by
      rw [hsame, hdb]
      decide +kernel
    exact ⟨hrefused, howns, fun S => hall.1 "suite_1" "s-1" S howns⟩

end Cliptown.Suite
