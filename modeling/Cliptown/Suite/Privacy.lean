import Cliptown.Suite.Mirror
import Cliptown.Town.Arrival

/-!
# The privacy of suites while avatars move

A move is granted once, for the room where it ends. The rooms on the way are entered tick by tick, when they may be
private to somebody else.

* `PrivacyState`, `PrivacyEvent`, `privacySystem` — the parts of the world loop that move avatars and claim suites.
* `Private` — the invariant: no agent is on its way into the suite of another startup.
* `Discreet` — moves lead around the suites of others, and a suite is claimed when nobody else is on the way to it.
* `tick_respects` — in every run of such moves and claims, no tick takes an agent into the suite of another startup.
* `DeadEnd`, `discreet_of_deadEnds` — where suites are dead ends, every move leads around them.
-/

namespace Cliptown.Suite

open Cliptown.Lib Cliptown.Town Cliptown.World

/-! ### The loop -/

/-- Source: the `w`, `paths` and `layout` of `loop_.rs` `spawn_with_layout` -/
structure PrivacyState where
  world : WorldView
  paths : PathStore
  layout : TownLayout

/-- A move of an agent, a tick, or a message about suites. -/
inductive PrivacyEvent where
  | startMove (agentId targetRoom : String) (target : Tile)
  | tick
  | message (m : SuiteMessage)

/-- What the loop does. Its room graph is that of the doors, which no message changes. -/
def PrivacyEvent.apply (A : AStar) (s : PrivacyState) : PrivacyEvent → PrivacyState
  | .startMove agentId targetRoom target =>
      let r := Town.startMove A s.world s.paths s.layout (graphFromLayout s.layout) agentId targetRoom target
      { s with world := r.2.1, paths := r.2.2 }
  | .tick =>
      let r := stepAll s.world s.paths
      { s with world := r.1, paths := r.2.1 }
  | .message m =>
      let r := m.apply s.layout s.world
      { s with world := r.2, layout := r.1 }

/-- The runs: at first nobody is on the way. -/
def privacySystem (A : AStar) : System PrivacyState PrivacyEvent where
  init s := s.paths = ∅
  step s e t := e.apply A s = t

/-- The room is private to another startup. -/
def PrivateToOther (L : TownLayout) (startupId roomId : String) : Prop :=
  ∃ owner, ownerIn L roomId = some owner ∧ owner ≠ startupId

/-- The avatar of an agent, not that of an operator. -/
def IsAgent (a : AvatarView) : Prop :=
  a.role ≠ "operator"

instance (a : AvatarView) : Decidable (IsAgent a) :=
  inferInstanceAs (Decidable (_ ≠ _))

namespace PrivacyState

/-- A step into the room is queued for the agent. -/
def QueuedInto (s : PrivacyState) (agentId roomId : String) : Prop :=
  ∃ path, s.paths.lookup agentId = some path ∧ ∃ step ∈ path, step.enterRoom = some roomId

/-- No agent is on its way into the suite of another startup. -/
def Private (s : PrivacyState) : Prop :=
  ∀ key a roomId, s.world.avatars.lookup key = some a → IsAgent a → s.QueuedInto key roomId →
    ¬ PrivateToOther s.layout a.startupId roomId

/-- A tick takes no agent into a room that is private to another startup. -/
def TickRespects (s : PrivacyState) : Prop :=
  ∀ key a a', s.world.avatars.lookup key = some a → IsAgent a →
    (stepAll s.world s.paths).1.avatars.lookup key = some a' → a'.roomId ≠ a.roomId →
    ¬ PrivateToOther s.layout a.startupId a'.roomId

end PrivacyState

/-- A move that is granted leads through no suite of another startup before the room where it ends. Avatars are inserted
that nothing is queued for, and a suite is claimed while no agent of another startup is on the way to it. -/
def Discreet (A : AStar) (s : PrivacyState) : PrivacyEvent → Prop
  | .startMove agentId targetRoom target => ∀ a route,
      s.world.avatars.lookup agentId = some a → IsAgent a →
      canEnterLayoutRoom s.layout a.startupId targetRoom = true →
      fullRoute A (graphFromLayout s.layout) s.layout.roomBoundsMap (a.roomId, a.currentPos)
        (targetRoom, target) = some route →
      ∀ leg ∈ route.tail, leg.1 ≠ targetRoom → ¬ PrivateToOther s.layout a.startupId leg.1
  | .message (.insertAvatars avatars claimSuite) =>
      (∀ a ∈ avatars, s.paths.lookup a.agentId = none) ∧
        ∀ suiteId startupId, claimSuite = some (suiteId, startupId) →
          ∀ key a, s.world.avatars.lookup key = some a → IsAgent a → s.QueuedInto key suiteId →
            a.startupId = startupId
  | _ => True

/-! ### The invariant -/

section Invariant

variable {A : AStar} {s : PrivacyState}

/-- A room that may be entered is not private to another startup. -/
theorem not_privateToOther_of_canEnter {L : TownLayout} {startupId roomId : String}
    (h : canEnterLayoutRoom L startupId roomId = true) : ¬ PrivateToOther L startupId roomId := by
  rintro ⟨owner, howner, hne⟩
  unfold canEnterLayoutRoom at h
  unfold ownerIn at howner
  cases hroom : L.room roomId with
  | none => exact absurd h (by rw [hroom]; simp)
  | some room =>
      rw [hroom, Option.bind_some] at howner
      simp only [hroom, howner, decide_eq_true_eq] at h
      exact hne h

namespace PrivacyState

/-- The invariant looks at the identities of the avatars, and at the queues of those that there are. -/
theorem Private.of_same {t : PrivacyState} (h : s.Private) (hlayout : t.layout = s.layout)
    (hsame : s.world.SameAvatars t.world)
    (hqueue : ∀ key a roomId, t.world.avatars.lookup key = some a → t.QueuedInto key roomId →
      s.QueuedInto key roomId) : t.Private := by
  intro key a' roomId ha' hagent hqueued
  obtain ⟨a, ha, hid⟩ := hsame.of_lookup ha'
  simp only [AvatarView.identity, Prod.mk.injEq] at hid
  have hnot := h key a roomId ha (by unfold IsAgent; rw [hid.2.2]; exact hagent) (hqueue key a' roomId ha' hqueued)
  rwa [hlayout, ← hid.2.1]

/-- **A move** is allowed to enter the room where it ends, and leads around the suites of others before. -/
theorem Private.startMove (h : s.Private) {agentId targetRoom : String} {target : Tile}
    (hC : Discreet A s (.startMove agentId targetRoom target)) :
    (PrivacyEvent.apply A s (.startMove agentId targetRoom target)).Private := by
  have hsame := sameAvatars_startMove A s.world s.paths s.layout (graphFromLayout s.layout) agentId targetRoom target
  intro key a' roomId ha' hagent hqueued
  obtain ⟨a, ha, hid⟩ := hsame.of_lookup ha'
  simp only [AvatarView.identity, Prod.mk.injEq] at hid
  have hagent₀ : IsAgent a := by
    unfold IsAgent
    rw [hid.2.2]
    exact hagent
  show ¬ PrivateToOther s.layout a'.startupId roomId
  rw [← hid.2.1]
  obtain ⟨path, hpath, hstep⟩ := hqueued
  change (Town.startMove A s.world s.paths s.layout (graphFromLayout s.layout) agentId targetRoom
    target).2.2.lookup key = some path at hpath
  -- a queue that the move has not written was there before
  have hold : s.paths.lookup key = some path → ¬ PrivateToOther s.layout a.startupId roomId :=
    fun hpath => h key a roomId ha hagent₀ ⟨path, hpath, hstep⟩
  rcases hmove : Town.startMove A s.world s.paths s.layout (graphFromLayout s.layout) agentId targetRoom target with
    ⟨res, w', ps'⟩
  rw [hmove] at hpath
  cases res with
  | ok =>
      cases hagentId : s.world.avatars.lookup agentId with
      | none =>
          unfold Town.startMove at hmove
          rw [hagentId] at hmove
          exact absurd (congrArg Prod.fst hmove) (by simp)
      | some b =>
          obtain ⟨route, hroute, ⟨-, rfl, -⟩ | ⟨-, rfl, -⟩⟩ := startMove_ok hagentId hmove
          · exact hold hpath
          · rw [Table.lookup_insert_eq] at hpath
            split at hpath
            · rename_i hkey
              subst hkey
              obtain rfl := Option.some.inj (ha.symm.trans hagentId)
              obtain rfl := Option.some.inj hpath
              obtain ⟨step, hmem, hroom⟩ := hstep
              obtain ⟨leg, hleg, rfl⟩ := mem_route_of_planSteps hmem hroom
              have henter := canEnter_of_startMove_ok hagentId hmove
              by_cases htarget : leg.1 = targetRoom
              · rw [htarget]
                exact not_privateToOther_of_canEnter henter
              · exact hC a route ha hagent₀ henter hroute leg hleg htarget
            · exact hold hpath
  | noPath => exact hold ((startMove_not_ok hmove (by simp)).2 ▸ hpath)
  | permissionDenied => exact hold ((startMove_not_ok hmove (by simp)).2 ▸ hpath)
  | noSuchAgent => exact hold ((startMove_not_ok hmove (by simp)).2 ▸ hpath)

/-- **A tick** only takes steps off the queues. -/
theorem Private.tick (h : s.Private) : (PrivacyEvent.apply A s .tick).Private := by
  refine h.of_same rfl (sameAvatars_stepAll s.world s.paths) ?_
  rintro key a' roomId ha' ⟨path, hpath, step, hmem, hroom⟩
  change (stepAll s.world s.paths).1.avatars.lookup key = some a' at ha'
  change (stepAll s.world s.paths).2.1.lookup key = some path at hpath
  cases hq : s.paths.lookup key with
  | none =>
      rw [(stepAll_of_none hq).2.1] at hpath
      exact absurd hpath (by simp)
  | some q =>
      cases ha : s.world.avatars.lookup key with
      | none =>
          rw [(stepAll_of_no_avatar hq ha).1] at ha'
          exact absurd ha' (by simp)
      | some a =>
          rw [(stepAll_of_some hq ha).2.1] at hpath
          exact ⟨q, hq, step, mem_of_remaining hpath hmem, hroom⟩

/-- **Avatars are inserted**, and a suite is claimed that nobody else is on the way to. -/
theorem Private.insertAvatars (h : s.Private) {avatars : List AvatarView} {claimSuite : Option (String × String)}
    (hC : Discreet A s (.message (.insertAvatars avatars claimSuite))) :
    (PrivacyEvent.apply A s (.message (.insertAvatars avatars claimSuite))).Private := by
  obtain ⟨hnew, hclaim⟩ := hC
  intro key a roomId ha hagent hqueued hother
  obtain ⟨path, hpath, -⟩ := id hqueued
  -- nothing is queued for the avatars that are inserted
  have hbefore : s.world.avatars.lookup key = some a := by
    rcases mem_avatars_insert ha with ⟨hmem, rfl⟩ | ha
    · exact absurd ((hnew a hmem).symm.trans hpath) (by simp)
    · exact ha
  have hnot := h key a roomId hbefore hagent hqueued
  rcases claimSuite with _ | ⟨suiteId, startupId⟩
  · exact hnot hother
  · obtain ⟨owner, howner, hne⟩ := hother
    have howner' := ownerIn_claimIn.mp howner
    split at howner'
    · rename_i hsuite
      subst hsuite
      rw [howner'.2] at hne
      exact hne (hclaim _ _ rfl key a hbefore hagent hqueued).symm
    · exact hnot ⟨owner, howner', hne⟩

/-- **A suite is released**: its room is private to nobody. -/
theorem Private.releaseSuite (h : s.Private) (startupId : String) :
    (PrivacyEvent.apply A s (.message (.releaseSuite startupId))).Private := by
  intro key a roomId ha hagent hqueued
  rintro ⟨owner, howner, hne⟩
  refine h key a roomId (Table.of_lookup_deleteWhere ha).1 hagent hqueued ⟨owner, ?_, hne⟩
  exact (ownerIn_releaseIn.mp howner).1

/-- **The invariant**, in every run of discreet moves and claims. -/
theorem Private.of_reachable (h : ((privacySystem A).restrict (Discreet A)).Reachable s) : s.Private := by
  refine h.invariant ?_ ?_
  · rintro s hpaths key a roomId - - ⟨path, hpath, -⟩
    rw [show s.paths = ∅ from hpaths] at hpath
    exact absurd hpath (by simp)
  · rintro s e t hs ⟨hC, rfl⟩
    cases e with
    | startMove agentId targetRoom target => exact hs.startMove hC
    | tick => exact hs.tick
    | message m =>
        cases m with
        | insertAvatars avatars claimSuite => exact hs.insertAvatars hC
        | releaseSuite startupId => exact hs.releaseSuite startupId

end PrivacyState

/-- The room that a tick takes an avatar into was queued. -/
theorem queuedInto_of_advance {key : String} {q : List Step} {a : AvatarView} (hq : s.paths.lookup key = some q)
    (hroom : (advance q a).roomId ≠ a.roomId) : s.QueuedInto key (advance q a).roomId := by
  have htake : ∀ step : Step, (takeStep step a).roomId ≠ a.roomId →
      step.enterRoom = some (takeStep step a).roomId := by
    intro step hne
    unfold takeStep at hne ⊢
    cases henter : step.enterRoom with
    | none => exact absurd (by rw [henter]; rfl) hne
    | some room => rfl
  rcases q with _ | ⟨step, _ | ⟨step', rest⟩⟩
  · exact absurd rfl hroom
  · exact ⟨_, hq, step, List.mem_cons_self, htake step hroom⟩
  · exact ⟨_, hq, step, List.mem_cons_self, htake step hroom⟩

/-- **Privacy of suites**, in every run of moves that lead around the suites of others, and of suites that are claimed
while nobody else is on the way to them: no tick takes an agent into a room that is private to another startup.
Source: `move_sys.rs` `start_move`, `step_all`, `loop_.rs` `Cmd::InsertAvatars`, `Cmd::ReleaseSuite` -/
theorem tick_respects (h : ((privacySystem A).restrict (Discreet A)).Reachable s) : s.TickRespects := by
  have hprivate := PrivacyState.Private.of_reachable h
  intro key a a' ha hagent ha' hroom
  cases hq : s.paths.lookup key with
  | none =>
      rw [(stepAll_of_none hq).1] at ha'
      obtain rfl := Option.some.inj (ha.symm.trans ha')
      exact absurd rfl hroom
  | some q =>
      rw [(stepAll_of_some hq ha).1] at ha'
      obtain rfl := Option.some.inj ha'
      exact hprivate key a _ ha hagent (queuedInto_of_advance hq hroom)

end Invariant

/-! ### The lobby door of a suite -/

/-- The agent of a startup in the lobby, next to the door of the first suite. -/
def besideDoor : PrivacyState where
  world := worldAt "lobby" (8, 4)
  paths := ∅
  layout := defaultTown

/-- It walks into the suite. -/
def intoSuite : PrivacyEvent :=
  .startMove "agent" "suite_1" (6, 4)

/-- The startup of the agent claims the suite. -/
def claimOwn : PrivacyEvent :=
  .message (.insertAvatars [] (some ("suite_1", "startup")))

/-- It walks into the suite of its own startup. -/
theorem tick_respects_own :
    ∃ s : PrivacyState, ownerIn s.layout "suite_1" = some "startup" ∧
      ((stepAll s.world s.paths).1.avatars.lookup "agent").map AvatarView.roomId = some "suite_1" ∧
      s.TickRespects := by
  have hclaim : Discreet (.reference 4) besideDoor claimOwn := by
    refine ⟨fun a ha => absurd ha List.not_mem_nil, ?_⟩
    rintro suiteId startupId - key a - - ⟨path, hpath, -⟩
    exact absurd hpath (by simp [besideDoor])
  have hmove : Discreet (.reference 4) (claimOwn.apply (.reference 4) besideDoor) intoSuite := by
    intro a route ha _ _ hroute leg hleg hne
    obtain rfl : avatarAt "lobby" (8, 4) = a := Option.some.inj (show some _ = some _ from ha)
    have hplanned : fullRoute (.reference 4) (graphFromLayout (claimIn defaultTown "suite_1" "startup"))
        (claimIn defaultTown "suite_1" "startup").roomBoundsMap ("lobby", (8, 4)) ("suite_1", (6, 4)) =
          some [("lobby", [(8, 4), (7, 4)]), ("suite_1", [(6, 4)])] := by
      decide +kernel
    obtain rfl := Option.some.inj (hplanned.symm.trans hroute)
    obtain rfl := List.mem_singleton.mp hleg
    exact absurd rfl hne
  refine ⟨intoSuite.apply (.reference 4) (claimOwn.apply (.reference 4) besideDoor), by decide +kernel,
    by decide +kernel, tick_respects (A := .reference 4) ?_⟩
  exact ((System.Reachable.init (S := (privacySystem (.reference 4)).restrict (Discreet (.reference 4)))
    (show besideDoor.paths = ∅ from rfl)).step ⟨hclaim, rfl⟩).step ⟨hmove, rfl⟩

/-- **A suite is claimed while an agent of another startup is on the way**: the next tick takes it into the suite. -/
theorem tick_enters_claimed_suite :
    ¬ ∀ s : PrivacyState, (privacySystem (.reference 4)).Reachable s → s.TickRespects := by
  intro h
  have hreachable : (privacySystem (.reference 4)).Reachable
      (PrivacyEvent.apply (.reference 4) (intoSuite.apply (.reference 4) besideDoor)
        (.message (createdMessage sampleCreated))) :=
    ((System.Reachable.init (show besideDoor.paths = ∅ from rfl)).step rfl).step rfl
  refine h _ hreachable "agent" { avatarAt "lobby" (8, 4) with targetPos := some (6, 4) }
    { avatarAt "suite_1" (7, 4) with targetPos := some (6, 4) } (by decide +kernel) (by decide) (by decide +kernel)
    (by decide) ⟨"s-1", by decide +kernel, by decide⟩

/-! ### Dead ends -/

/-- All doors of the room lead to one other. -/
def DeadEnd (L : TownLayout) (roomId : String) : Prop :=
  ∃ next, ∀ d ∈ L.doors, (d.aRoom = roomId → d.bRoom = next) ∧ (d.bRoom = roomId → d.aRoom = next)

/-- The suites of the seeded town are dead ends. -/
example : ∀ roomId ∈ ["suite_1", "suite_2", "suite_3", "suite_4"], DeadEnd defaultTown roomId :=
  fun roomId hmem => ⟨"lobby", (by decide : ∀ r ∈ ["suite_1", "suite_2", "suite_3", "suite_4"],
    ∀ d ∈ defaultTown.doors, (d.aRoom = r → d.bRoom = "lobby") ∧ (d.bRoom = r → d.aRoom = "lobby")) roomId hmem⟩

section DeadEnds

variable {L : TownLayout} {g : RoomGraph}

/-- The two sides of a door tile. -/
theorem exists_door_of_doorTile {a b : String} (h : ((graphFromLayout L).doorTile a b).isSome) :
    ∃ d ∈ L.doors, d.aRoom = a ∧ d.bRoom = b ∨ d.bRoom = a ∧ d.aRoom = b := by
  obtain ⟨tile, htile⟩ := Option.isSome_iff_exists.mp h
  obtain ⟨door, hdoor, -, hends⟩ :=
    RoomGraph.exists_door_of_mem_neighborsOf (RoomGraph.mem_neighborsOf_of_doorTile htile)
  obtain ⟨d, hd, rfl⟩ := List.mem_map.mp hdoor
  exact ⟨d, hd, hends⟩

/-- A walk that enters no room twice enters a dead end only to stay there. -/
theorem not_deadEnd_of_walk {a b roomId : String} {ws : List (String × Tile)}
    (h : Walk (graphFromLayout L) a ws b) (hnodup : (a :: ws.map Prod.fst).Nodup)
    (hmem : roomId ∈ ws.map Prod.fst) (hne : roomId ≠ b) : ¬ DeadEnd L roomId := by
  induction h with
  | nil a => exact absurd hmem (by simp)
  | @cons a n b d ws hdoor hwalk ih =>
      rcases List.mem_cons.mp hmem with rfl | hmem
      · rintro ⟨next, hnext⟩
        rcases hwalk with _ | ⟨hdoor', -⟩
        · exact hne rfl
        · rename_i n' d' ws
          -- it is entered from `a` and left to `n'`
          obtain ⟨e, he, hends⟩ := exists_door_of_doorTile (Option.isSome_of_eq_some hdoor)
          obtain ⟨e', he', hends'⟩ := exists_door_of_doorTile (Option.isSome_of_eq_some hdoor')
          have hfrom : a = next := by
            rcases hends with ⟨ha, hb⟩ | ⟨ha, hb⟩
            · exact ha.symm.trans ((hnext e he).2 hb)
            · exact ha.symm.trans ((hnext e he).1 hb)
          have hto : n' = next := by
            rcases hends' with ⟨ha, hb⟩ | ⟨ha, hb⟩
            · exact hb.symm.trans ((hnext e' he').1 ha)
            · exact hb.symm.trans ((hnext e' he').2 ha)
          rw [hfrom, hto] at hnodup
          exact (List.nodup_cons.mp hnodup).1 (by simp)
      · exact ih (List.nodup_cons.mp hnodup).2 hmem hne

/-- **Where suites are dead ends**, every move leads around those of others. -/
theorem discreet_of_deadEnds {A : AStar} (hA : A.Sound) {s : PrivacyState}
    (hdead : ∀ roomId owner, ownerIn s.layout roomId = some owner → DeadEnd s.layout roomId)
    (agentId targetRoom : String) (target : Tile) :
    Discreet A s (.startMove agentId targetRoom target) := by
  rintro a route - - - hroute leg hleg hne ⟨owner, howner, -⟩
  obtain ⟨ws, hws, hlegs⟩ := fullRoute_spec hA hroute
  obtain ⟨hwalk, hnodup⟩ := route_spec hA hws
  have hmem : leg.1 ∈ ws.map Prod.fst := by
    have hrooms := congrArg List.tail (Legs.rooms hlegs)
    rw [List.tail_cons, ← List.map_tail] at hrooms
    exact hrooms ▸ List.mem_map_of_mem hleg
  exact not_deadEnd_of_walk hwalk hnodup hmem hne (hdead leg.1 owner howner)

end DeadEnds

end Cliptown.Suite
