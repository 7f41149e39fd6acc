import Cliptown.Suite.Allocation
import Cliptown.Suite.Messages

/-!
# The layout against the tables

A handler commits first and tells the loop later, so the loop may hear of two startups in another order than that of
their transactions.

* `MirrorState`, `mirrorSystem` — the handlers, the messages on their way, the layout and the world.
* `drained` — the layout and the world once every message on its way has arrived.
* `InsertPending`, `ReleasePending` — a handler has committed and not told the loop yet.
* `Mirrors` — the invariant: where the drained layout and the tables differ, a message is still to be sent.
* `InTime` — a startup that is announced still owns its suite, or is to be released again.
* `mirror_agrees` — in every run of such announcements, the layout agrees with the tables whenever everything has
  been sent and has arrived.
-/

namespace Cliptown.Suite

open Cliptown.Lib Cliptown.Town Cliptown.World Cliptown.Task Cliptown.Console

variable {ι : Type*}

/-! ### Handlers and messages -/

/-- The handlers, those that have told the loop, the messages on their way, and what the loop keeps. -/
structure MirrorState (ι : Type*) where
  clients : Clients ι TownDb Outcome
  sent : Set ι
  queue : List SuiteMessage
  layout : TownLayout
  world : WorldView

namespace MirrorState

/-- The tables. -/
def db (s : MirrorState ι) : TownDb :=
  s.clients.db

/-- A handler has created a startup in a suite, and has not told the loop. -/
def InsertPending (s : MirrorState ι) (startupId suiteId : String) : Prop :=
  ∃ i n, s.clients.client i = .done (.created n) ∧ n.id = startupId ∧ n.suiteId = suiteId ∧ i ∉ s.sent

/-- A handler has dissolved a startup, and has not told the loop. -/
def ReleasePending (s : MirrorState ι) (startupId : String) : Prop :=
  ∃ i, s.clients.client i = .done (.dissolved startupId) ∧ i ∉ s.sent

/-- No handler still has to tell the loop, and everything has arrived. -/
def Settled (s : MirrorState ι) : Prop :=
  s.queue = [] ∧ ∀ i outcome m, s.clients.client i = .done outcome → outcome.message = some m → i ∈ s.sent

/-- The layout and the world once the messages on their way have arrived. -/
def drained (s : MirrorState ι) : TownLayout × WorldView :=
  s.queue.foldl (fun x m => m.apply x.1 x.2) (s.layout, s.world)

end MirrorState

/-- A step of a handler up to its answer, the message that it sends then, or a message that arrives. -/
inductive MirrorLabel (ι : Type*) where
  | request (i : ι)
  | send (i : ι)
  | deliver

/-- The steps. Messages arrive in the order in which they were sent. -/
inductive MirrorStep (sqlText : String) (requests : ι → SuiteRequest) :
    MirrorState ι → MirrorLabel ι → MirrorState ι → Prop
  | request {s : MirrorState ι} {i : ι} {clients : Clients ι TownDb Outcome} :
      (suiteSystem sqlText requests).step s.clients i clients →
        MirrorStep sqlText requests s (.request i) { s with clients }
  | send {s : MirrorState ι} {i : ι} {outcome : Outcome} {m : SuiteMessage} :
      s.clients.client i = .done outcome → outcome.message = some m → i ∉ s.sent →
        MirrorStep sqlText requests s (.send i) { s with
          sent := insert i s.sent
          queue := s.queue ++ [m] }
  | deliver {s : MirrorState ι} {m : SuiteMessage} {queue : List SuiteMessage} :
      s.queue = m :: queue →
        MirrorStep sqlText requests s .deliver { s with
          queue
          layout := (m.apply s.layout s.world).1
          world := (m.apply s.layout s.world).2 }

/-- The runs: at first there are no startups, and no room is private. -/
def mirrorSystem (sqlText : String) (requests : ι → SuiteRequest) :
    System (MirrorState ι) (MirrorLabel ι) where
  init s := (suiteSystem sqlText requests).init s.clients ∧ s.sent = ∅ ∧ s.queue = [] ∧
    ∀ r, ownerIn s.layout r = none
  step := MirrorStep sqlText requests

/-! ### The invariant -/

/-- Where the drained layout and the tables differ, a message is still to be sent: what a room is private to owns it
or is still to be released; what owns a room has it or is still to be announced; a dissolved startup has no avatars
or is still to be released. -/
structure Mirrors (s : MirrorState ι) : Prop where
  owner : ∀ r S, ownerIn s.drained.1 r = some S → s.db.Owns S r ∨ s.ReleasePending S
  claimed : ∀ r S, (s.layout.room r).isSome → s.db.Owns S r →
    ownerIn s.drained.1 r = some S ∨ s.InsertPending S r
  avatars : ∀ key a, s.drained.2.avatars.lookup key = some a →
    s.db.statuses.lookup a.startupId = some .dissolved → s.ReleasePending a.startupId
  dissolved : ∀ i S, s.clients.client i = .done (.dissolved S) →
    s.db.statuses.lookup S = some .dissolved
  answered : ∀ i ∈ s.sent, ∃ outcome, s.clients.client i = .done outcome

/-- A startup that is announced still owns its suite; or it has been dissolved meanwhile and is still to be released,
and whoever owns the suite now is still to be announced. -/
def InTime (s : MirrorState ι) : MirrorLabel ι → Prop
  | .send i => ∀ n, s.clients.client i = .done (.created n) → s.db.Owns n.id n.suiteId ∨
      s.ReleasePending n.id ∧ ∀ S, s.db.Owns S n.suiteId → s.InsertPending S n.suiteId
  | _ => True

section Steps

variable {sqlText : String} {requests : ι → SuiteRequest} {s t : MirrorState ι} {i : ι}

/-- The handlers are those of the allocation. -/
theorem reachable_clients (h : (mirrorSystem sqlText requests).Reachable s) :
    (suiteSystem sqlText requests).Reachable s.clients := by
  induction h with
  | init hs => exact .init hs.1
  | step hr hst ih =>
      cases hst with
      | request hstep => exact ih.step hstep
      | send _ _ _ => exact ih
      | deliver _ => exact ih

/-- Messages do not change which rooms there are. -/
theorem isSome_room_drained (s : MirrorState ι) (r : String) :
    (s.drained.1.room r).isSome = (s.layout.room r).isSome := by
  have hgen : ∀ (queue : List SuiteMessage) (x : TownLayout × WorldView),
      ((queue.foldl (fun x m => m.apply x.1 x.2) x).1.room r).isSome = (x.1.room r).isSome := by
    intro queue
    induction queue with
    | nil => exact fun _ => rfl
    | cons m queue ih => exact fun x => (ih _).trans (isSome_room_apply m)
  exact hgen _ _

/-- What the step of a handler up to its answer leaves: the answers of the others. -/
structure Moves (s : MirrorState ι) (i : ι) (clients : Clients ι TownDb Outcome) : Prop where
  kept : ∀ j outcome, s.clients.client j = .done outcome → clients.client j = .done outcome
  before : ∀ j outcome, j ≠ i → clients.client j = .done outcome → s.clients.client j = .done outcome
  unsent : i ∉ s.sent

section Handlers

variable {clients : Clients ι TownDb Outcome}

/-- A handler that still takes a step has not answered. -/
theorem Mirrors.moves (h : Mirrors s) (hstep : (suiteSystem sqlText requests).step s.clients i clients) :
    Moves s i clients := by
  refine ⟨fun j outcome hj => done_of_run (.single hstep) hj,
    fun j outcome hj hclient => (hstep.2 j hj).symm.trans hclient, fun hi => ?_⟩
  obtain ⟨outcome, houtcome⟩ := h.answered i hi
  have hclient := hstep.1
  rw [houtcome] at hclient
  cases hclient

theorem Moves.insertPending (hmoves : Moves s i clients) {S r : String} (h : s.InsertPending S r) :
    MirrorState.InsertPending { s with clients } S r := by
  obtain ⟨j, n, hj, hS, hr, hsent⟩ := h
  exact ⟨j, n, hmoves.kept j _ hj, hS, hr, hsent⟩

theorem Moves.releasePending (hmoves : Moves s i clients) {S : String} (h : s.ReleasePending S) :
    MirrorState.ReleasePending { s with clients } S := by
  obtain ⟨j, hj, hsent⟩ := h
  exact ⟨j, hmoves.kept j _ hj, hsent⟩

theorem Mirrors.answered_of_moves (h : Mirrors s) (hmoves : Moves s i clients) :
    ∀ j ∈ s.sent, ∃ outcome, clients.client j = .done outcome := by
  intro j hj
  obtain ⟨outcome, houtcome⟩ := h.answered j hj
  exact ⟨outcome, hmoves.kept j _ houtcome⟩

/-- A step that leaves the tables as they are, and answers with an error if it answers. -/
theorem Mirrors.refused (h : Mirrors s) (hmoves : Moves s i clients) (hdb : clients.db = s.db)
    (hrefused : ∀ outcome, clients.client i = .done outcome → outcome.IsError) :
    Mirrors { s with clients } := by
  have hsame : MirrorState.db { s with clients } = s.db := hdb
  refine ⟨fun r S hr => ?_, fun r S hroom hr => ?_, fun key a ha hS => ?_, fun j S hj => ?_,
    h.answered_of_moves hmoves⟩
  · rw [hsame]
    exact (h.owner r S hr).imp_right hmoves.releasePending
  · rw [hsame] at hr
    exact (h.claimed r S hroom hr).imp_right hmoves.insertPending
  · rw [hsame] at hS
    exact hmoves.releasePending (h.avatars key a ha hS)
  · rw [hsame]
    by_cases hji : j = i
    · subst hji
      exact absurd (hrefused _ hj) id
    · exact h.dissolved j S (hmoves.before j _ hji hj)

/-- A startup is created, and is still to be announced. -/
theorem Mirrors.created (h : Mirrors s) (hmoves : Moves s i clients) {n : NewStartup} {room : RoomRow}
    (ha : clients.client i = .done (.created n)) (hfree : s.db.freeSuite = some (n.suiteId, room))
    (hnew : s.db.statuses.lookup n.id = none)
    (hstatuses : clients.db.statuses = s.db.statuses.insert n.id .active)
    (hrooms : clients.db.rooms = (s.db.claimRoom n.id n.suiteId).rooms) : Mirrors { s with clients } := by
  have howns := owns_of_claim hfree hrooms
  refine ⟨fun r S hr => ?_, fun r S hroom hr => ?_, fun key a ha' hS => ?_, fun j S hj => ?_,
    h.answered_of_moves hmoves⟩
  · refine (h.owner r S hr).imp (fun hS => (howns S r).mpr ?_) hmoves.releasePending
    rw [if_neg]
    · exact hS
    · rintro rfl
      exact not_owns_of_freeSuite hfree S hS
  · have hr' := (howns S r).mp hr
    split at hr'
    · rename_i heq
      exact .inr ⟨i, n, ha, hr'.symm, heq.symm, hmoves.unsent⟩
    · exact (h.claimed r S hroom hr').imp_right hmoves.insertPending
  · refine hmoves.releasePending (h.avatars key a ha' ?_)
    have hS' : (s.db.statuses.insert n.id .active).lookup a.startupId = some .dissolved := hstatuses ▸ hS
    rw [Table.lookup_insert_eq] at hS'
    split at hS'
    · exact absurd hS' (by decide)
    · exact hS'
  · by_cases hji : j = i
    · subst hji
      exact absurd (ha.symm.trans hj) (by simp)
    · have hS := h.dissolved j S (hmoves.before j _ hji hj)
      show clients.db.statuses.lookup S = some .dissolved
      rw [hstatuses, AList.lookup_insert_ne]
      · exact hS
      · rintro rfl
        exact absurd (hnew.symm.trans hS) (by simp)

/-- A startup is dissolved, and is still to be released. -/
theorem Mirrors.deleted (h : Mirrors s) (hmoves : Moves s i clients) {startupId : String}
    (ha : clients.client i = .done (.dissolved startupId)) (hfound : (s.db.statuses.lookup startupId).isSome)
    (hdb : clients.db = (s.db.dissolve startupId).freeRooms startupId) : Mirrors { s with clients } := by
  have hpending : MirrorState.ReleasePending { s with clients } startupId := ⟨i, ha, hmoves.unsent⟩
  have howns : ∀ S r, clients.db.Owns S r ↔ s.db.Owns S r ∧ S ≠ startupId := by
    rw [hdb]
    exact owns_of_delete startupId
  have hstatuses : ∀ S, clients.db.statuses.lookup S =
      if S = startupId then (s.db.statuses.lookup S).map fun _ => .dissolved
      else s.db.statuses.lookup S := by
    rw [hdb]
    exact fun S => Table.lookup_modify _ _ _ _
  refine ⟨fun r S hr => ?_, fun r S hroom hr => ?_, fun key a ha' hS => ?_, fun j S hj => ?_,
    h.answered_of_moves hmoves⟩
  · rcases h.owner r S hr with hS | hS
    · by_cases heq : S = startupId
      · exact .inr (heq ▸ hpending)
      · exact .inl ((howns S r).mpr ⟨hS, heq⟩)
    · exact .inr (hmoves.releasePending hS)
  · exact (h.claimed r S hroom ((howns S r).mp hr).1).imp_right hmoves.insertPending
  · by_cases heq : a.startupId = startupId
    · exact heq ▸ hpending
    · have hS' := (hstatuses a.startupId).symm.trans hS
      rw [if_neg heq] at hS'
      exact hmoves.releasePending (h.avatars key a ha' hS')
  · show clients.db.statuses.lookup S = some .dissolved
    rw [hstatuses]
    by_cases hji : j = i
    · subst hji
      obtain rfl := Outcome.dissolved.inj (Client.done.inj (ha.symm.trans hj))
      obtain ⟨status, hstatus⟩ := Option.isSome_iff_exists.mp hfound
      rw [if_pos rfl, hstatus]
      rfl
    · rw [h.dissolved j S (hmoves.before j _ hji hj)]
      split <;> rfl

/-- **One step of a handler** up to its answer. -/
theorem Mirrors.request (h : Mirrors s) (hreachable : (suiteSystem sqlText requests).Reachable s.clients)
    (hstep : (suiteSystem sqlText requests).step s.clients i clients) : Mirrors { s with clients } := by
  have hmoves := h.moves hstep
  rcases step_commits (upward_later requests) hreachable hstep with ⟨hdb, hrefuses⟩ | ⟨a, ha, hcommits⟩
  · exact h.refused hmoves hdb fun outcome houtcome => isError_of_refuses (hrefuses outcome houtcome)
  · cases hrequest : requests i with
    | create identity req m =>
        rw [hrequest] at hcommits
        obtain ⟨n, rfl, ⟨room, hfree⟩, hnew, hstatuses, hrooms, -⟩ := createStartup_commits hcommits
        exact h.created hmoves ha hfree hnew hstatuses hrooms
    | delete identity startupId =>
        rw [hrequest] at hcommits
        obtain ⟨rfl, hdb, seen, hseen, hfound⟩ := deleteStartup_commits hcommits
        exact h.deleted hmoves ha ((Allocated.of_reachable hreachable).status _ (hseen _ hfound)) hdb

end Handlers

/-! ### Messages -/

section Messages

/-- The state after a message was sent. -/
def sendMessage (s : MirrorState ι) (i : ι) (m : SuiteMessage) : MirrorState ι :=
  { s with
    sent := insert i s.sent
    queue := s.queue ++ [m] }

/-- A message that is sent arrives last. -/
theorem drained_sendMessage (m : SuiteMessage) :
    (sendMessage s i m).drained = m.apply s.drained.1 s.drained.2 := by
  unfold sendMessage MirrorState.drained
  rw [List.foldl_append]
  rfl

/-- What was pending still is, unless it has just been sent. -/
theorem insertPending_sendMessage {m : SuiteMessage} {S r : String} (h : s.InsertPending S r)
    (hother : ∀ n, s.clients.client i = .done (.created n) → n.id = S → n.suiteId ≠ r) :
    (sendMessage s i m).InsertPending S r := by
  obtain ⟨j, n, hj, hS, hr, hsent⟩ := h
  refine ⟨j, n, hj, hS, hr, fun hmem => ?_⟩
  rcases hmem with rfl | hmem
  · exact hother n hj hS hr
  · exact hsent hmem

theorem releasePending_sendMessage {m : SuiteMessage} {S : String} (h : s.ReleasePending S)
    (hother : s.clients.client i ≠ .done (.dissolved S)) : (sendMessage s i m).ReleasePending S := by
  obtain ⟨j, hj, hsent⟩ := h
  refine ⟨j, hj, fun hmem => ?_⟩
  rcases hmem with rfl | hmem
  · exact hother hj
  · exact hsent hmem

theorem Mirrors.answered_sendMessage (h : Mirrors s) {outcome : Outcome} (m : SuiteMessage)
    (hi : s.clients.client i = .done outcome) :
    ∀ j ∈ (sendMessage s i m).sent, ∃ outcome, s.clients.client j = .done outcome := by
  rintro j (rfl | hj)
  · exact ⟨outcome, hi⟩
  · exact h.answered j hj

/-- **A startup is announced in time.** -/
theorem Mirrors.announce (h : Mirrors s) (hallocated : Allocated s.db) {n : NewStartup}
    (hi : s.clients.client i = .done (.created n))
    (htime : s.db.Owns n.id n.suiteId ∨
      s.ReleasePending n.id ∧ ∀ S, s.db.Owns S n.suiteId → s.InsertPending S n.suiteId) :
    Mirrors (sendMessage s i (createdMessage n)) := by
  have hrelease : ∀ {S}, s.ReleasePending S → (sendMessage s i (createdMessage n)).ReleasePending S :=
    fun hS => releasePending_sendMessage hS (by simp [hi])
  have hown : ∀ {n'}, s.clients.client i = .done (.created n') → n' = n :=
    fun hn' => Outcome.created.inj (Client.done.inj (hn'.symm.trans hi))
  refine ⟨fun r S hr => ?_, fun r S hroom hr => ?_, fun key a ha hS => ?_, h.dissolved,
    h.answered_sendMessage _ hi⟩
  · rw [drained_sendMessage] at hr
    have hr' := ownerIn_claimIn.mp hr
    split at hr'
    · rename_i heq
      rw [heq, hr'.2]
      exact htime.imp_right fun hpending => hrelease hpending.1
    · exact (h.owner r S hr').imp_right hrelease
  · rw [drained_sendMessage]
    by_cases heq : r = n.suiteId
    · subst heq
      by_cases hS : S = n.id
      · refine .inl (ownerIn_claimIn.mpr ?_)
        rw [if_pos rfl, isSome_room_drained]
        exact ⟨hroom, hS⟩
      · rcases htime with howns | ⟨-, hpending⟩
        · exact absurd (TownDb.Owns.unique hr howns) hS
        · refine .inr (insertPending_sendMessage (hpending S hr) fun n' hn' hid => ?_)
          exact absurd (hown hn' ▸ hid).symm hS
    · refine (h.claimed r S hroom hr).imp (fun howner => ownerIn_claimIn.mpr ?_) fun hpending => ?_
      · rwa [if_neg heq]
      · refine insertPending_sendMessage hpending fun n' hn' _ => ?_
        rw [hown hn']
        exact fun hsuite => heq hsuite.symm
  · rw [drained_sendMessage] at ha
    rcases mem_avatars_insert ha with ⟨hmem, -⟩ | ha
    · rw [startupId_of_mem_avatars hmem] at hS ⊢
      rcases htime with howns | ⟨hpending, -⟩
      · exact absurd (hS.symm.trans (hallocated.owner _ _ howns).1) (by decide)
      · exact hrelease hpending
    · exact hrelease (h.avatars key a ha hS)

/-- **A startup is released.** -/
theorem Mirrors.release (h : Mirrors s) (hallocated : Allocated s.db) {startupId : String}
    (hi : s.clients.client i = .done (.dissolved startupId)) :
    Mirrors (sendMessage s i (.releaseSuite startupId)) := by
  have hrelease : ∀ {S}, S ≠ startupId → s.ReleasePending S →
      (sendMessage s i (.releaseSuite startupId)).ReleasePending S := by
    intro S hne hS
    refine releasePending_sendMessage hS fun hS' => hne ?_
    exact (Outcome.dissolved.inj (Client.done.inj (hi.symm.trans hS'))).symm
  refine ⟨fun r S hr => ?_, fun r S hroom hr => ?_, fun key a ha hS => ?_, h.dissolved,
    h.answered_sendMessage _ hi⟩
  · rw [drained_sendMessage] at hr
    obtain ⟨howner, hne⟩ := ownerIn_releaseIn.mp hr
    exact (h.owner r S howner).imp_right (hrelease hne)
  · have hne : S ≠ startupId := by
      rintro rfl
      exact absurd ((h.dissolved i S hi).symm.trans (hallocated.owner S r hr).1) (by decide)
    rw [drained_sendMessage]
    refine (h.claimed r S hroom hr).imp (fun howner => ownerIn_releaseIn.mpr ⟨howner, hne⟩) fun hpending => ?_
    exact insertPending_sendMessage hpending (by simp [hi])
  · rw [drained_sendMessage] at ha
    obtain ⟨ha, hne⟩ := Table.of_lookup_deleteWhere ha
    exact hrelease (of_decide_eq_false hne) (h.avatars key a ha hS)

/-- A message that arrives was counted. -/
theorem Mirrors.deliver (h : Mirrors s) {m : SuiteMessage} {queue : List SuiteMessage}
    (hqueue : s.queue = m :: queue) :
    Mirrors { s with
      queue
      layout := (m.apply s.layout s.world).1
      world := (m.apply s.layout s.world).2 } := by
  have hdrained : MirrorState.drained { s with
      queue
      layout := (m.apply s.layout s.world).1
      world := (m.apply s.layout s.world).2 } = s.drained := by
    unfold MirrorState.drained
    rw [hqueue]
    rfl
  refine ⟨fun r S hr => ?_, fun r S hroom hr => ?_, fun key a ha hS => ?_, h.dissolved, h.answered⟩
  · rw [hdrained] at hr
    exact h.owner r S hr
  · rw [hdrained]
    exact h.claimed r S ((isSome_room_apply m).symm.trans hroom) hr
  · rw [hdrained] at ha
    exact h.avatars key a ha hS

end Messages

/-! ### Runs -/

/-- **The invariant**, in every run of startups that are announced in time. -/
theorem Mirrors.of_reachable (h : ((mirrorSystem sqlText requests).restrict InTime).Reachable s) :
    Mirrors s := by
  refine h.invariant_of (fun s hs => reachable_clients hs.of_restrict) ?_ ?_
  · rintro s ⟨⟨hfresh, hasking⟩, hsent, hqueue, hnobody⟩
    have hdrained : s.drained = (s.layout, s.world) := by
      unfold MirrorState.drained
      rw [hqueue]
      rfl
    refine ⟨fun r S hr => ?_, fun r S _ hr => absurd hr (hfresh.2.2 S r), fun key a _ hS => ?_,
      fun i S hi => ?_, fun i hi => ?_⟩
    · rw [hdrained, hnobody r] at hr
      exact absurd hr (by simp)
    · have hnone : s.db.statuses.lookup a.startupId = none := by
        unfold MirrorState.db
        rw [hfresh.2.1]
        rfl
      exact absurd (hnone.symm.trans hS) (by simp)
    · exact absurd ((hasking i).symm.trans hi) (by simp)
    · rw [hsent] at hi
      exact absurd hi (Set.notMem_empty i)
  · rintro s l t hclients hs ⟨htime, hst⟩
    cases hst with
    | request hstep => exact hs.request hclients hstep
    | @send i outcome m hi hm hsent =>
        have hallocated : Allocated s.db := Allocated.of_reachable hclients
        cases outcome with
        | created n =>
            obtain rfl := Option.some.inj hm
            exact hs.announce hallocated hi (htime n hi)
        | dissolved startupId =>
            obtain rfl := Option.some.inj hm
            exact hs.release hallocated hi
        | refused response => exact absurd hm (by simp [Outcome.message])
    | deliver hqueue => exact hs.deliver hqueue

/-- **The layout agrees with the tables**, in every run of startups that are announced in time, whenever everything
has been sent and has arrived: a room is private to whom it is in the tables, and no avatar belongs to a dissolved
startup. -/
theorem mirror_agrees (h : ((mirrorSystem sqlText requests).restrict InTime).Reachable s)
    (hsettled : s.Settled) :
    (∀ r room row, s.layout.room r = some room → s.db.rooms.lookup r = some row →
        room.privateToStartupId = row.privateToStartupId) ∧
      ∀ key a, s.world.avatars.lookup key = some a →
        s.db.statuses.lookup a.startupId ≠ some .dissolved := by
  obtain ⟨hqueue, hsent⟩ := hsettled
  have hmirrors := Mirrors.of_reachable h
  have hdrained : s.drained = (s.layout, s.world) := by
    unfold MirrorState.drained
    rw [hqueue]
    rfl
  have hrelease : ∀ S, ¬ s.ReleasePending S := by
    rintro S ⟨i, hi, hunsent⟩
    exact hunsent (hsent i _ _ hi rfl)
  have hinsert : ∀ S r, ¬ s.InsertPending S r := by
    rintro S r ⟨i, n, hi, -, -, hunsent⟩
    exact hunsent (hsent i _ _ hi rfl)
  constructor
  · intro r room row hroom hrow
    apply Option.ext
    intro S
    have howner : ownerIn s.drained.1 r = room.privateToStartupId := by
      rw [hdrained]
      unfold ownerIn
      rw [hroom]
      rfl
    have howns : s.db.Owns S r ↔ row.privateToStartupId = some S := by
      unfold TownDb.Owns
      simp [hrow]
    rw [← howner, ← howns]
    constructor
    · exact fun hS => (hmirrors.owner r S hS).resolve_right (hrelease S)
    · exact fun hS => (hmirrors.claimed r S (by simp [hroom]) hS).resolve_right (hinsert S r)
  · intro key a ha hS
    have ha' : s.drained.2.avatars.lookup key = some a := by
      rw [hdrained]
      exact ha
    exact hrelease _ (hmirrors.avatars key a ha' hS)

end Steps

/-! ### Two requests -/

/-- The steps of the handlers, in a run of the whole. -/
theorem reachable_requests {sqlText : String} {requests : ι → SuiteRequest} {s : MirrorState ι} {is : List ι}
    {c c' : Clients ι TownDb Outcome} (hrun : Run (suiteSystem sqlText requests).step c is c') :
    ((mirrorSystem sqlText requests).restrict InTime).Reachable { s with clients := c } →
      ((mirrorSystem sqlText requests).restrict InTime).Reachable { s with clients := c' } := by
  induction hrun with
  | nil _ => exact fun h => h
  | @cons c c₁ _ i _ hst _ ih =>
      intro h
      have hstep : (mirrorSystem sqlText requests).step { s with clients := c } (.request i)
          { s with clients := c₁ } := .request hst
      have htime : InTime { s with clients := c } (.request i) := trivial
      exact ih (h.step ⟨htime, hstep⟩)

/-- A message that arrives. -/
theorem step_deliver {sqlText : String} {requests : ι → SuiteRequest} {clients : Clients ι TownDb Outcome}
    {sent : Set ι} {m : SuiteMessage} {queue : List SuiteMessage} {layout : TownLayout} {world : WorldView} :
    (mirrorSystem sqlText requests).step ⟨clients, sent, m :: queue, layout, world⟩ .deliver
      ⟨clients, sent, queue, (m.apply layout world).1, (m.apply layout world).2⟩ :=
  .deliver rfl

/-- A startup is created, and the same startup is dissolved. -/
def createAndDelete : Bool → SuiteRequest
  | true => .create (some sampleAdmin) sampleRequest sampleMinted
  | false => .delete (some sampleAdmin) "s-1"

/-- The seeded town, before either request. -/
def quietTown : MirrorState Bool where
  clients := ⟨seededTown, fun i => .asking ((createAndDelete i).request "sql")⟩
  sent := ∅
  queue := []
  layout := defaultTown
  world := ⟨∅⟩

/-- The startup that is created. -/
def sampleCreated : NewStartup :=
  sampleRequest.startup sampleMinted "suite_1" ⟨0, 0, 7, 6⟩

/-- The quiet town is where a run starts. -/
theorem quietTown_init : (mirrorSystem "sql" createAndDelete).init quietTown := by
  exact ⟨⟨seededTown_fresh, fun _ => rfl⟩, rfl, rfl, ownerIn_defaultTown⟩

/-- The startup is created. -/
theorem reachable_created :
    ∃ c : Clients Bool TownDb Outcome, c.client true = .done (.created sampleCreated) ∧
      c.client false = .asking (deleteStartup "sql" (some sampleAdmin) "s-1") ∧
        c.db = ((createStartup "sql" (some sampleAdmin) sampleRequest sampleMinted).exec seededTown).2 ∧
          ((mirrorSystem "sql" createAndDelete).restrict InTime).Reachable { quietTown with clients := c } := by
  have hfree : quietTown.clients.Free true := fun j _ h => h
  obtain ⟨is, c, hrun, hdb, hdone, hothers⟩ := run_exec hfree rfl
  exact ⟨c, hdone, hothers false (by decide), hdb, reachable_requests hrun (.init quietTown_init)⟩

/-- The startup is announced, and has its suite in the layout, as it has in the tables. -/
theorem mirror_agrees_created :
    ∃ s : MirrorState Bool, ownerIn s.layout "suite_1" = some "s-1" ∧ s.db.Owns "s-1" "suite_1" ∧
      ∀ r room row, s.layout.room r = some room → s.db.rooms.lookup r = some row →
        room.privateToStartupId = row.privateToStartupId := by
  obtain ⟨c, htrue, hfalse, hdb, hreachable⟩ := reachable_created
  have howns : c.db.Owns "s-1" "suite_1" := by
    rw [hdb]
    decide +kernel
  have htime : InTime { quietTown with clients := c } (.send true) := by
    intro n hn
    obtain rfl := Outcome.created.inj (Client.done.inj (hn.symm.trans htrue))
    exact .inl howns
  have hnone : true ∉ quietTown.sent := fun h => h
  have hannounced : ((mirrorSystem "sql" createAndDelete).restrict InTime).Reachable
      (sendMessage { quietTown with clients := c } true (createdMessage sampleCreated)) :=
    hreachable.step ⟨htime, .send htrue rfl hnone⟩
  have harrived : ((mirrorSystem "sql" createAndDelete).restrict InTime).Reachable
      ⟨c, insert true ∅, [], claimIn defaultTown "suite_1" "s-1",
        ((createdMessage sampleCreated).apply defaultTown ⟨∅⟩).2⟩ :=
    hannounced.step ⟨show InTime _ .deliver from trivial, step_deliver⟩
  have howner : ownerIn (claimIn defaultTown "suite_1" "s-1") "suite_1" = some "s-1" := by decide +kernel
  refine ⟨⟨c, insert true ∅, [], _, _⟩, howner, howns,
    (mirror_agrees harrived ⟨rfl, fun i outcome m hi hm => ?_⟩).1⟩
  cases i with
  | true => exact Set.mem_insert _ _
  | false => exact absurd (hfalse.symm.trans hi) (by simp)

/-- **A startup is dissolved before it is announced**: the announcement arrives last, and the suite of the dissolved
startup is private to it for good. -/
theorem mirror_disagrees :
    ¬ ∀ (requests : Bool → SuiteRequest) (s : MirrorState Bool),
      (mirrorSystem "sql" requests).Reachable s → s.Settled →
        (∀ r room row, s.layout.room r = some room → s.db.rooms.lookup r = some row →
            room.privateToStartupId = row.privateToStartupId) ∧
          ∀ key a, s.world.avatars.lookup key = some a →
            s.db.statuses.lookup a.startupId ≠ some .dissolved := by
  intro h
  obtain ⟨c, htrue, hfalse, hdb, hreachable⟩ := reachable_created
  have hfree : c.Free false := by
    rintro j hj hwriting
    obtain rfl : j = true := by simpa using hj
    rw [htrue] at hwriting
    exact hwriting
  obtain ⟨is, c', hrun, hdb', hdone, hothers⟩ := run_exec hfree hfalse
  have htrue' : c'.client true = .done (.created sampleCreated) := (hothers true (by decide)).trans htrue
  rw [hdb] at hdb' hdone
  have hfalse' : c'.client false = .done (.dissolved "s-1") := hdone
  have hboth := (reachable_requests hrun hreachable).of_restrict
  have hreleased : (mirrorSystem "sql" createAndDelete).Reachable
      (sendMessage { quietTown with clients := c' } false (.releaseSuite "s-1")) :=
    hboth.step (.send hfalse' rfl fun h => h)
  have hannounced : (mirrorSystem "sql" createAndDelete).Reachable
      (sendMessage (sendMessage { quietTown with clients := c' } false (.releaseSuite "s-1")) true
        (createdMessage sampleCreated)) :=
    hreleased.step (.send htrue' rfl (by simp [sendMessage, quietTown]))
  have harrived : (mirrorSystem "sql" createAndDelete).Reachable
      ⟨c', insert true (insert false ∅), [], claimIn (releaseIn defaultTown "s-1") "suite_1" "s-1",
        ((createdMessage sampleCreated).apply defaultTown
          ((SuiteMessage.releaseSuite "s-1").apply defaultTown ⟨∅⟩).2).2⟩ :=
    (hannounced.step step_deliver).step step_deliver
  have hroom : (claimIn (releaseIn defaultTown "s-1") "suite_1" "s-1").room "suite_1" =
      some ⟨"suite_1", ⟨0, 0, 7, 6⟩, some "s-1"⟩ := by
    decide +kernel
  have hrow : c'.db.rooms.lookup "suite_1" = some ⟨"office", .ok ⟨0, 0, 7, 6⟩, none⟩ := by
    rw [hdb']
    rfl
  have hsettled : ∀ i outcome m, c'.client i = .done outcome → outcome.message = some m →
      i ∈ (insert true (insert false ∅) : Set Bool) := by
    intro i _ _ _ _
    cases i with
    | true => exact Set.mem_insert _ _
    | false => exact Set.mem_insert_of_mem _ (Set.mem_insert _ _)
  have hagrees := (h createAndDelete _ harrived ⟨rfl, hsettled⟩).1 "suite_1" _ _ hroom hrow
  exact absurd hagrees (by simp)

end Cliptown.Suite
