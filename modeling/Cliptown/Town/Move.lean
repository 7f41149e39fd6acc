import Cliptown.Town.Path
import Cliptown.World.State

/-!
# Movement

* `Step`, `PathStore`, `buildSteps`, `startMove` — planning a move into a queue of steps.
* `stepAll` — one tick: every queued avatar takes one step.
* `startMove_ok` — what a granted move leaves behind.
* `mem_route_of_planSteps` — a queue enters rooms of its route only.
* `stepAll_of_none`, `stepAll_of_no_avatar`, `stepAll_of_some` — one tick seen at one agent.
  None of them mentions the order of the path store: a hash map's order does not matter.
-/

namespace Cliptown.Town

open Cliptown.Lib Cliptown.World

/-- A tile to move onto and the room entered there, if any. Source: `move_sys.rs` `Step` -/
structure Step where
  tile : Tile
  enterRoom : Option String
  deriving DecidableEq, Repr

/-- The queued steps of each agent. Source: `move_sys.rs` `PathStore` -/
abbrev PathStore := Table String (List Step)

/-- Source: `move_sys.rs` `StartMoveResult` -/
inductive StartMoveResult where
  | ok
  | noPath
  | permissionDenied
  | noSuchAgent
  deriving DecidableEq, Repr

/-- Source: `move_sys.rs` `MoveEvent` -/
inductive MoveEvent where
  | complete (agentId roomId : String)
  deriving DecidableEq, Repr

/-- The agent an event is about. -/
def MoveEvent.agentId : MoveEvent → String
  | .complete agentId _ => agentId

/-- Source: `move_sys.rs` `graph_from_layout` -/
def graphFromLayout (L : TownLayout) : RoomGraph :=
  .fromDoors (L.doors.map fun d => ⟨d.aRoom, d.bRoom, d.tile⟩)

/-- The door tile between two rooms of a well-formed layout stands in one of them and next to the
other. -/
theorem exists_doorBetween {L : TownLayout} (hL : L.WellFormed) {a b : String} {d : Tile}
    (hd : (graphFromLayout L).doorTile a b = some d) :
    ∃ ab bb, L.boundsOf a = some ab ∧ L.boundsOf b = some bb ∧
      (TownLayout.DoorBetween d ab bb ∨ TownLayout.DoorBetween d bb ab) := by
  obtain ⟨door, hdoor, rfl, hends⟩ :=
    RoomGraph.exists_door_of_mem_neighborsOf (RoomGraph.mem_neighborsOf_of_doorTile hd)
  obtain ⟨def', hdef, rfl⟩ := List.mem_map.mp hdoor
  obtain ⟨x, hx, y, hy, hxy⟩ := hL.doors def' hdef
  rcases hends with ⟨rfl, rfl⟩ | ⟨rfl, rfl⟩
  · exact ⟨x, y, hx, hy, hxy⟩
  · exact ⟨y, x, hy, hx, hxy.symm⟩

/-- Source: `move_sys.rs` `can_enter_layout_room` -/
def canEnterLayoutRoom (L : TownLayout) (startupId roomId : String) : Bool :=
  match L.room roomId with
  | some r =>
      match r.privateToStartupId with
      | none => true
      | some owner => owner = startupId
  | none => false

/-! ### Planning -/

/-- The inner loop of `start_move` over one segment: `enter` is the room entered on its last
waypoint, the accumulator holds `steps` and `last_tile`. -/
def pushSegment (enter : Option String) :
    List Tile → List Step × Option Tile → List Step × Option Tile
  | [], acc => acc
  | t :: seg, (steps, lastTile) =>
      if lastTile = some t then pushSegment enter seg (steps, lastTile)
      else pushSegment enter seg
        (steps ++ [⟨t, if seg.isEmpty then enter else none⟩], some t)

/-- The outer loop of `start_move`: every segment but the last enters the room of the next one on
its last waypoint. -/
def buildSteps : List (String × List Tile) → List Step × Option Tile → List Step × Option Tile
  | [], acc => acc
  | [(_, seg)], acc => pushSegment none seg acc
  | (_, seg) :: (next, nextSeg) :: route, acc =>
      buildSteps ((next, nextSeg) :: route) (pushSegment (some next) seg acc)

/-- Drop a leading step onto the tile the avatar already stands on. -/
def dropLeading (pos : Tile) : List Step → List Step
  | [] => []
  | s :: steps => if s.tile = pos then steps else s :: steps

/-- The queue that `start_move` builds from a route for an avatar at `pos`. -/
def planSteps (pos : Tile) (route : List (String × List Tile)) : List Step :=
  dropLeading pos (buildSteps route ([], none)).1

/-- Begin a move. Source: `move_sys.rs` `start_move` -/
def startMove (A : AStar) (world : WorldView) (paths : PathStore) (L : TownLayout) (g : RoomGraph)
    (agentId targetRoom : String) (target : Tile) : StartMoveResult × WorldView × PathStore :=
  match world.avatars.lookup agentId with
  | none => (.noSuchAgent, world, paths)
  | some avatar =>
      if canEnterLayoutRoom L avatar.startupId targetRoom then
        match fullRoute A g L.roomBoundsMap (avatar.roomId, avatar.currentPos)
            (targetRoom, target) with
        | none => (.noPath, world, paths)
        | some route =>
            match planSteps avatar.currentPos route with
            | [] => (.ok, world.setAvatar agentId fun a => { a with targetPos := none }, paths)
            | s :: steps =>
                (.ok, world.setAvatar agentId fun a => { a with targetPos := some target },
                  paths.insert agentId (s :: steps))
      else (.permissionDenied, world, paths)

/-- **What a granted move leaves behind**: a target and a queue, or nothing to do. -/
theorem startMove_ok {A : AStar} {w w' : WorldView} {ps ps' : PathStore} {L : TownLayout}
    {g : RoomGraph} {id room : String} {target : Tile} {a : AvatarView}
    (ha : w.avatars.lookup id = some a)
    (hok : startMove A w ps L g id room target = (.ok, w', ps')) :
    ∃ route, fullRoute A g L.roomBoundsMap (a.roomId, a.currentPos) (room, target) = some route ∧
      ((planSteps a.currentPos route = [] ∧ ps' = ps ∧
          w' = w.setAvatar id fun a => { a with targetPos := none }) ∨
        (planSteps a.currentPos route ≠ [] ∧
          ps' = ps.insert id (planSteps a.currentPos route) ∧
          w' = w.setAvatar id fun a => { a with targetPos := some target })) := by
  rw [startMove, ha] at hok
  simp only at hok
  split at hok
  · split at hok
    · simp at hok
    · rename_i route hroute
      refine ⟨route, hroute, ?_⟩
      split at hok
      · rename_i hnil
        simp only [Prod.mk.injEq, true_and] at hok
        exact .inl ⟨hnil, hok.2.symm, hok.1.symm⟩
      · rename_i s steps hcons
        simp only [Prod.mk.injEq, true_and] at hok
        exact .inr ⟨by rw [hcons]; simp, by rw [hcons]; exact hok.2.symm, hok.1.symm⟩
  · simp at hok

/-- A granted move was allowed to enter the room where it ends. -/
theorem canEnter_of_startMove_ok {A : AStar} {w w' : WorldView} {ps ps' : PathStore} {L : TownLayout}
    {g : RoomGraph} {agentId roomId : String} {target : Tile} {a : AvatarView} (ha : w.avatars.lookup agentId = some a)
    (hok : startMove A w ps L g agentId roomId target = (.ok, w', ps')) :
    canEnterLayoutRoom L a.startupId roomId = true := by
  by_contra hdenied
  rw [startMove, ha] at hok
  simp only [hdenied] at hok
  exact absurd (congrArg Prod.fst hok) (by simp)

/-- A refused move changes nothing. -/
theorem startMove_not_ok {A : AStar} {w w' : WorldView} {ps ps' : PathStore} {L : TownLayout}
    {g : RoomGraph} {id room : String} {target : Tile} {res : StartMoveResult}
    (h : startMove A w ps L g id room target = (res, w', ps')) (hres : res ≠ .ok) :
    w' = w ∧ ps' = ps := by
  rw [startMove] at h
  split at h
  · simp only [Prod.mk.injEq] at h
    exact ⟨h.2.1.symm, h.2.2.symm⟩
  · split at h
    · split at h
      · simp only [Prod.mk.injEq] at h
        exact ⟨h.2.1.symm, h.2.2.symm⟩
      · split at h <;> simp only [Prod.mk.injEq] at h <;> exact absurd h.1.symm hres
    · simp only [Prod.mk.injEq] at h
      exact ⟨h.2.1.symm, h.2.2.symm⟩

/-- What a planned move does to the world: nothing, or it sets the target of its avatar. -/
theorem startMove_world (A : AStar) (w : WorldView) (paths : PathStore) (L : TownLayout) (g : RoomGraph)
    (agentId room : String) (target : Tile) :
    (startMove A w paths L g agentId room target).2.1 = w ∨
      ∃ t, (startMove A w paths L g agentId room target).2.1 =
        w.setAvatar agentId fun a => { a with targetPos := t } := by
  unfold startMove
  split
  · exact .inl rfl
  · split
    · split
      · exact .inl rfl
      · split
        · exact .inr ⟨none, rfl⟩
        · exact .inr ⟨some target, rfl⟩
    · exact .inl rfl

/-! ### The rooms that a queue enters -/

section Queue

variable {step : Step} {roomId : String}

/-- A step of a segment enters no room but that of the segment. -/
theorem enterRoom_of_pushSegment {enter : Option String} {seg : List Tile} :
    ∀ {acc : List Step × Option Tile}, step ∈ (pushSegment enter seg acc).1 → step.enterRoom = some roomId →
      step ∈ acc.1 ∨ enter = some roomId := by
  induction seg with
  | nil => exact fun hmem _ => .inl hmem
  | cons t seg ih =>
      rintro ⟨steps, lastTile⟩ hmem hroom
      rw [pushSegment] at hmem
      split at hmem
      · exact ih hmem hroom
      · rcases ih hmem hroom with hmem | henter
        · rcases List.mem_append.mp hmem with hmem | hmem
          · exact .inl hmem
          · obtain rfl := List.mem_singleton.mp hmem
            refine .inr ?_
            dsimp only at hroom
            split at hroom
            · exact hroom
            · exact absurd hroom (by simp)
        · exact .inr henter

/-- The steps of a route enter rooms of its legs behind the first. -/
theorem enterRoom_of_buildSteps {route : List (String × List Tile)} :
    ∀ {acc : List Step × Option Tile}, step ∈ (buildSteps route acc).1 → step.enterRoom = some roomId →
      step ∈ acc.1 ∨ ∃ leg ∈ route.tail, leg.1 = roomId := by
  induction route with
  | nil => exact fun hmem _ => .inl hmem
  | cons e route ih =>
      intro acc hmem hroom
      obtain ⟨room, seg⟩ := e
      rcases route with _ | ⟨⟨next, nextSeg⟩, route⟩
      · rw [buildSteps] at hmem
        exact (enterRoom_of_pushSegment hmem hroom).imp_right fun h => absurd h (by simp)
      · rw [buildSteps] at hmem
        rcases ih hmem hroom with hmem | ⟨leg, hleg, hid⟩
        · refine (enterRoom_of_pushSegment hmem hroom).imp_right fun h => ?_
          exact ⟨(next, nextSeg), List.mem_cons_self, Option.some.inj h⟩
        · exact .inr ⟨leg, List.mem_cons_of_mem _ hleg, hid⟩

/-- **A queue enters rooms of its route only**, and not the first of them. -/
theorem mem_route_of_planSteps {pos : Tile} {route : List (String × List Tile)}
    (hmem : step ∈ planSteps pos route) (hroom : step.enterRoom = some roomId) :
    ∃ leg ∈ route.tail, leg.1 = roomId := by
  have hbuilt : step ∈ (buildSteps route ([], none)).1 := by
    unfold planSteps at hmem
    cases hsteps : (buildSteps route ([], none)).1 with
    | nil =>
        rw [hsteps] at hmem
        exact hmem
    | cons s steps =>
        rw [hsteps, dropLeading] at hmem
        split at hmem
        · exact List.mem_cons_of_mem s hmem
        · exact hmem
  exact (enterRoom_of_buildSteps hbuilt hroom).resolve_left List.not_mem_nil

end Queue

/-! ### One tick -/

/-- What `step_all` threads through its loop. -/
structure TickState where
  world : WorldView
  paths : PathStore
  toRemove : List String
  events : List MoveEvent

/-- The avatar takes one step. -/
def takeStep (s : Step) (a : AvatarView) : AvatarView :=
  { a with currentPos := s.tile, roomId := s.enterRoom.getD a.roomId }

/-- The avatar has no target any more. -/
def arrive (a : AvatarView) : AvatarView :=
  { a with targetPos := none }

/-- The body of the loop of `step_all`, for one entry of the path store. -/
def stepOne (agentId : String) (path : List Step) (acc : TickState) : TickState :=
  match acc.world.avatars.lookup agentId with
  | none => { acc with toRemove := acc.toRemove ++ [agentId] }
  | some avatar =>
      match path with
      | [] =>
          { acc with
            world := acc.world.setAvatar agentId arrive
            toRemove := acc.toRemove ++ [agentId] }
      | [s] =>
          { world := acc.world.setAvatar agentId fun a => arrive (takeStep s a)
            paths := acc.paths.modify agentId fun _ => []
            toRemove := acc.toRemove ++ [agentId]
            events := acc.events ++ [.complete agentId (takeStep s avatar).roomId] }
      | s :: s' :: rest =>
          { acc with
            world := acc.world.setAvatar agentId (takeStep s)
            paths := acc.paths.modify agentId fun _ => s' :: rest }

/-- One tick of movement. Source: `move_sys.rs` `step_all` -/
def stepAll (world : WorldView) (paths : PathStore) : WorldView × PathStore × List MoveEvent :=
  let acc := paths.entries.foldl (fun acc e => stepOne e.1 e.2 acc) ⟨world, paths, [], []⟩
  (acc.world, acc.toRemove.foldl (fun ps k => ps.erase k) acc.paths, acc.events)

/-- What a tick does to an avatar with the queue `q`. -/
def advance (q : List Step) (a : AvatarView) : AvatarView :=
  match q with
  | [] => arrive a
  | [s] => arrive (takeStep s a)
  | s :: _ :: _ => takeStep s a

/-- What a tick leaves of the queue of an avatar, `none` if nothing. -/
def remaining : List Step → Option (List Step)
  | _ :: s :: rest => some (s :: rest)
  | _ => none

/-- What a tick leaves of a queue was in it. -/
theorem mem_of_remaining {q q' : List Step} {step : Step} (h : remaining q = some q') (hmem : step ∈ q') :
    step ∈ q := by
  rcases q with _ | ⟨x, _ | ⟨y, rest⟩⟩
  · exact absurd h (by simp [remaining])
  · exact absurd h (by simp [remaining])
  · obtain rfl := Option.some.inj h
    exact List.mem_cons_of_mem x hmem

/-- The events of a tick for the avatar `a` of `id` with the queue `q`. -/
def eventsOf (id : String) (q : List Step) (a : AvatarView) : List MoveEvent :=
  match q with
  | [s] => [.complete id (takeStep s a).roomId]
  | _ => []

/-! ### One tick at one agent -/

/-- What the loop state holds about one agent. -/
def TickState.view (acc : TickState) (id : String) :
    Option AvatarView × Option (List Step) × Bool × List MoveEvent :=
  (acc.world.avatars.lookup id, acc.paths.lookup id, decide (id ∈ acc.toRemove),
    acc.events.filter fun e => e.agentId = id)

/-- The entry of another agent leaves the view unchanged. -/
theorem view_stepOne_ne {id k : String} (h : id ≠ k) (path : List Step) (acc : TickState) :
    (stepOne k path acc).view id = acc.view id := by
  rw [stepOne]
  rcases acc.world.avatars.lookup k with _ | avatar
  · simp [TickState.view, h]
  · rcases path with _ | ⟨s, _ | ⟨s', rest⟩⟩
    · simp [TickState.view, h, WorldView.lookup_setAvatar_ne]
    · simp [TickState.view, h, h.symm, WorldView.lookup_setAvatar_ne, Table.lookup_modify_ne,
        MoveEvent.agentId]
    · simp [TickState.view, h, WorldView.lookup_setAvatar_ne, Table.lookup_modify_ne]

/-- Entries that are not the agent's leave the view unchanged. -/
theorem view_foldl_stepOne {id : String} (l : List (Σ _ : String, List Step)) :
    ∀ acc : TickState, id ∉ l.keys →
      (l.foldl (fun acc e => stepOne e.1 e.2 acc) acc).view id = acc.view id := by
  induction l with
  | nil => exact fun _ _ => rfl
  | cons e l ih =>
      intro acc h
      rw [List.keys_cons, List.mem_cons, not_or] at h
      rw [List.foldl_cons, ih _ h.2, view_stepOne_ne h.1]

/-- What the agent's own entry does to its view depends on that view only. -/
theorem view_stepOne_congr {id : String} {acc acc' : TickState} (q : List Step)
    (h : acc.view id = acc'.view id) : (stepOne id q acc).view id = (stepOne id q acc').view id := by
  simp only [TickState.view, Prod.mk.injEq] at h
  obtain ⟨hw, hp, hr, he⟩ := h
  simp only [stepOne, hw]
  rcases hl : acc'.world.avatars.lookup id with _ | avatar
  · simp [TickState.view, hw, hl, hp, he]
  · rcases q with _ | ⟨s, _ | ⟨s', rest⟩⟩
    · simp [TickState.view, hw, hl, hp, he]
    · simp [TickState.view, hw, hl, hp, he, Table.lookup_modify_self]
    · simpa [TickState.view, hw, hl, hp, he, Table.lookup_modify_self] using hr

/-- The loop state after the whole loop. -/
def loopState (w : WorldView) (ps : PathStore) : TickState :=
  ps.entries.foldl (fun acc e => stepOne e.1 e.2 acc) ⟨w, ps, [], []⟩

section OneAgent

variable {w : WorldView} {ps : PathStore} {id : String} {q : List Step} {a : AvatarView}

/-- The whole loop, seen at an agent without a path. -/
theorem view_loopState_of_none (h : ps.lookup id = none) :
    (loopState w ps).view id = (w.avatars.lookup id, none, false, []) := by
  have hkeys : id ∉ ps.entries.keys := AList.lookup_eq_none.mp h
  rw [loopState, view_foldl_stepOne _ _ hkeys]
  simp [TickState.view, h]

/-- The whole loop, seen at an agent with a path. -/
theorem view_loopState_of_some (h : ps.lookup id = some q) :
    (loopState w ps).view id = (stepOne id q ⟨w, ps, [], []⟩).view id := by
  have hmem : (⟨id, q⟩ : Σ _ : String, List Step) ∈ ps.entries := AList.mem_lookup_iff.mp h
  obtain ⟨l₁, l₂, hl⟩ := List.append_of_mem hmem
  have hnodup : (l₁.keys ++ id :: l₂.keys).Nodup := by
    have h := ps.nodupKeys
    rwa [List.NodupKeys, hl, List.keys, List.map_append, List.map_cons] at h
  rw [List.nodup_middle, List.nodup_cons, List.mem_append, not_or] at hnodup
  rw [loopState, hl, List.foldl_append, List.foldl_cons, view_foldl_stepOne _ _ hnodup.1.2]
  exact view_stepOne_congr q (view_foldl_stepOne l₁ _ hnodup.1.1)

/-- Erasing a list of keys. -/
theorem lookup_foldl_erase (id : String) (keys : List String) : ∀ ps : PathStore,
    (keys.foldl (fun ps k => ps.erase k) ps).lookup id =
      if id ∈ keys then none else ps.lookup id := by
  induction keys with
  | nil => exact fun _ => rfl
  | cons k keys ih =>
      intro ps
      rw [List.foldl_cons, ih, Table.lookup_erase_eq]
      by_cases hk : id = k <;> by_cases hmem : id ∈ keys <;> simp [hk, hmem]

/-- A tick seen at one agent through the loop state. -/
theorem stepAll_eq_of_view {x : Option AvatarView} {p : Option (List Step)} {r : Bool}
    {es : List MoveEvent} (h : (loopState w ps).view id = (x, p, r, es)) :
    (stepAll w ps).1.avatars.lookup id = x ∧
      (stepAll w ps).2.1.lookup id = (if r then none else p) ∧
      (stepAll w ps).2.2.filter (fun e => e.agentId = id) = es := by
  simp only [TickState.view, Prod.mk.injEq] at h
  obtain ⟨hx, hp, hr, hes⟩ := h
  refine ⟨hx, ?_, hes⟩
  have herase := lookup_foldl_erase id (loopState w ps).toRemove (loopState w ps).paths
  rw [hp] at herase
  rw [← hr]
  simp only [decide_eq_true_eq]
  exact herase

/-- An agent without a path is left alone. -/
theorem stepAll_of_none (h : ps.lookup id = none) :
    (stepAll w ps).1.avatars.lookup id = w.avatars.lookup id ∧
      (stepAll w ps).2.1.lookup id = none ∧
      (stepAll w ps).2.2.filter (fun e => e.agentId = id) = [] := by
  simpa using stepAll_eq_of_view (view_loopState_of_none (w := w) h)

/-- A path without an avatar is dropped. -/
theorem stepAll_of_no_avatar (h : ps.lookup id = some q) (ha : w.avatars.lookup id = none) :
    (stepAll w ps).1.avatars.lookup id = none ∧
      (stepAll w ps).2.1.lookup id = none ∧
      (stepAll w ps).2.2.filter (fun e => e.agentId = id) = [] := by
  have hview : (loopState w ps).view id = (none, some q, true, []) := by
    rw [view_loopState_of_some h]
    simp [stepOne, TickState.view, h, ha]
  simpa using stepAll_eq_of_view hview

/-- **One tick at an agent with a path**: the avatar advances, the queue shrinks, and there is an
event exactly when the last step was taken. -/
theorem stepAll_of_some (h : ps.lookup id = some q) (ha : w.avatars.lookup id = some a) :
    (stepAll w ps).1.avatars.lookup id = some (advance q a) ∧
      (stepAll w ps).2.1.lookup id = remaining q ∧
      (stepAll w ps).2.2.filter (fun e => e.agentId = id) = eventsOf id q a := by
  rcases q with _ | ⟨s, _ | ⟨s', rest⟩⟩
  · have hview : (loopState w ps).view id = (some (arrive a), some [], true, []) := by
      rw [view_loopState_of_some h]
      simp [stepOne, TickState.view, h, ha]
    exact stepAll_eq_of_view hview
  · have hview : (loopState w ps).view id =
        (some (arrive (takeStep s a)), some [], true, [.complete id (takeStep s a).roomId]) := by
      rw [view_loopState_of_some h]
      simp [stepOne, TickState.view, h, ha, Table.lookup_modify_self, MoveEvent.agentId]
    exact stepAll_eq_of_view hview
  · have hview : (loopState w ps).view id = (some (takeStep s a), some (s' :: rest), false, []) := by
      rw [view_loopState_of_some h]
      simp [stepOne, TickState.view, h, ha, Table.lookup_modify_self]
    exact stepAll_eq_of_view hview

end OneAgent

/-! ### Whose avatars they are -/

/-- A planned move changes no identity. -/
theorem sameAvatars_startMove (A : AStar) (w : WorldView) (paths : PathStore) (L : TownLayout)
    (g : RoomGraph) (agentId room : String) (target : Tile) :
    w.SameAvatars (startMove A w paths L g agentId room target).2.1 := by
  rcases startMove_world A w paths L g agentId room target with h | ⟨t, h⟩
  · rw [h]
    exact .refl w
  · rw [h]
    exact WorldView.sameAvatars_setAvatar fun _ => rfl

/-- Taking steps changes no identity. -/
theorem sameAvatars_stepAll (w : WorldView) (paths : PathStore) :
    w.SameAvatars (stepAll w paths).1 := by
  intro key
  cases hp : paths.lookup key with
  | none => rw [(stepAll_of_none hp).1]
  | some q =>
      cases ha : w.avatars.lookup key with
      | none => rw [(stepAll_of_no_avatar hp ha).1]
      | some a =>
          rw [(stepAll_of_some hp ha).1]
          rcases q with _ | ⟨s, _ | ⟨s', rest⟩⟩ <;> rfl

end Cliptown.Town
