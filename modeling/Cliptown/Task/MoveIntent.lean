import Cliptown.Town.Coherence
import Cliptown.Task.Running

/-!
# Where a move intent leads

A tile is asked for in 64-bit integers and looked for in 32-bit ones.

* `NamesTile`, `targetRoom` — which tile of which room the arguments ask for.
* `castTile` — the tile that is looked for.
* `MovesTo` — what the call should do: move to that very tile, or fail.
* `MoveGranted` — whether `start_move` is granted, with `startMove_ok_iff`.
* `movesTo_iff` — the call does so exactly if no other tile is found in its place, and no old queue is kept.
-/

namespace Cliptown.Town

open Cliptown.Lib Cliptown.World

/-- The avatar may enter the room, and there is a route to the tile. -/
def MoveGranted (A : AStar) (L : TownLayout) (g : RoomGraph) (a : AvatarView) (room : String) (target : Tile) :
    Prop :=
  canEnterLayoutRoom L a.startupId room = true ∧
    (fullRoute A g L.roomBoundsMap (a.roomId, a.currentPos) (room, target)).isSome

section Granted

variable {A : AStar} {L : TownLayout} {g : RoomGraph} {w : WorldView} {ps : PathStore} {id room : String}
  {target : Tile} {a : AvatarView}

variable (ps) in
/-- **What is granted** is decided by the room and the route alone. -/
theorem startMove_ok_iff (ha : w.avatars.lookup id = some a) :
    (startMove A w ps L g id room target).1 = .ok ↔ MoveGranted A L g a room target := by
  constructor
  · intro hok
    have hmove : startMove A w ps L g id room target =
        (.ok, (startMove A w ps L g id room target).2) := Prod.ext hok rfl
    obtain ⟨route, hroute, -⟩ := startMove_ok ha hmove
    exact ⟨canEnter_of_startMove_ok ha hmove, by rw [hroute]; rfl⟩
  · rintro ⟨henter, hroute⟩
    obtain ⟨route, hroute⟩ := Option.isSome_iff_exists.mp hroute
    rw [startMove, ha]
    simp only [henter, if_true, hroute]
    cases planSteps a.currentPos route <;> rfl

/-- A tile to which a move is granted lies in its room. -/
theorem mem_of_moveGranted (hA : A.Sound) (h : MoveGranted A L g a room target) :
    ∃ b ∈ L.boundsOf room, target ∈ b := by
  obtain ⟨-, hroute⟩ := h
  obtain ⟨route, hroute⟩ := Option.isSome_iff_exists.mp hroute
  obtain ⟨ws, hws, hlegs⟩ := fullRoute_spec hA hroute
  exact hlegs.target_mem (route_spec hA hws).1

variable (ps) in
/-- **Where a granted move ends**: on its tile, unless its route stays on the tile of the avatar, whose queue is
then walked to its end. -/
theorem eventuallyAt_startMove_iff (hA : A.Sound) (ha : w.avatars.lookup id = some a)
    (h : MoveGranted A L g a room target) :
    EventuallyAt (startMove A w ps L g id room target).2 id target ↔
      (StaysOnTile A L g a room target → walkPos a.currentPos ((ps.lookup id).getD []) = target) := by
  by_cases hstays : StaysOnTile A L g a room target
  · rw [startMove_of_staysOnTile hA ha hstays,
      eventuallyAt_iff (a := { a with targetPos := none }) (by rw [WorldView.lookup_setAvatar_self, ha]; rfl)]
    exact ⟨fun hend _ => hend, fun hend => hend hstays⟩
  · rcases hmove : startMove A w ps L g id room target with ⟨res, w', ps'⟩
    have hok := (startMove_ok_iff ps ha).mpr h
    rw [hmove] at hok
    obtain rfl : res = .ok := hok
    obtain ⟨q, hne, hlast, rfl, rfl⟩ := startMove_of_moves hA ha hstays hmove
    refine iff_of_true ?_ fun hstay => absurd hstay hstays
    refine (eventuallyAt_iff (a := { a with targetPos := some target })
      (by rw [WorldView.lookup_setAvatar_self, ha]; rfl)).mpr ?_
    rw [AList.lookup_insert, Option.getD_some]
    rw [getLast?_of_walkPos a.currentPos hne] at hlast
    exact Option.some.inj hlast

end Granted

end Cliptown.Town

namespace Cliptown.Task

open Cliptown.Lib Cliptown.Town Cliptown.World

/-! ### Casts -/

/-- The tile with its coordinates cast to 32 bits. -/
def castTile (tile : Tile) : Tile :=
  (toI32 tile.1, toI32 tile.2)

/-- `target_tile` is the tile, in integers that fit 64 bits. -/
def NamesTile (args : Json) (tile : Tile) : Prop :=
  ∃ t, args.get "target_tile" = some t ∧ (t.get "x").bind Json.asI64 = some tile.1 ∧
    (t.get "y").bind Json.asI64 = some tile.2

/-- The room that is named, or the one where the caller is. -/
def targetRoom (caller : AvatarView) (args : Json) : String :=
  (args.getStr "target_room").getD caller.roomId

section MoveIntent

variable (cfg : Config) (env : Env) (s : LoopState) (caller : AvatarView) (args : Json) (tile : Tile)

/-- If the call succeeds, the tile lies in the room, it is the one that the reply names, and the caller ends
on it. -/
def MovesTo : Prop :=
  ∀ reply, (handleMoveIntent cfg env s caller args).1 = .ok reply →
    (∃ b ∈ cfg.layout.boundsOf (targetRoom caller args), tile ∈ b) ∧
      reply.get "target_tile" = some (.obj [("x", .int tile.1), ("y", .int tile.2)]) ∧
        EventuallyAt ((handleMoveIntent cfg env s caller args).2.world,
          (handleMoveIntent cfg env s caller args).2.paths) caller.agentId tile

/-- If a move to the cast tile is granted, the cast is exact, and either the route leaves the tile where the
caller stands or the caller's queue leads back to it. -/
def FindsTile : Prop :=
  MoveGranted cfg.astar cfg.layout (graphFromLayout cfg.layout) caller (targetRoom caller args) (castTile tile) →
    castTile tile = tile ∧
      (StaysOnTile cfg.astar cfg.layout (graphFromLayout cfg.layout) caller (targetRoom caller args) tile →
        walkPos caller.currentPos ((s.paths.lookup caller.agentId).getD []) = tile)

variable {cfg env s caller args tile}

theorem tileCoord_eq {t : Json} {axis : String} {n : ℤ} (h : (t.get axis).bind Json.asI64 = some n) :
    tileCoord t axis = .ok (toI32 n) := by
  unfold tileCoord
  rw [h]
  rfl

/-- The tile that is looked for, in either shape of the arguments. -/
theorem moveTarget_of_namesTile (L : TownLayout) (h : NamesTile args tile) :
    moveTarget L caller args = .ok (targetRoom caller args, castTile tile) := by
  obtain ⟨t, ht, hx, hy⟩ := h
  unfold moveTarget targetRoom
  rw [ht]
  rcases args.getStr "target_room" with _ | room
  · simp only [tileCoord_eq hx, tileCoord_eq hy]
    rfl
  · simp only [tileCoord_eq hx, tileCoord_eq hy]
    rfl

/-- A call that is refused. -/
theorem movesTo_of_not_granted (ha : s.world.avatars.lookup caller.agentId = some caller)
    (htile : NamesTile args tile)
    (h : ¬ MoveGranted cfg.astar cfg.layout (graphFromLayout cfg.layout) caller (targetRoom caller args)
      (castTile tile)) : MovesTo cfg env s caller args tile := by
  intro reply hreply
  rw [← startMove_ok_iff s.paths ha] at h
  unfold handleMoveIntent at hreply
  rw [moveTarget_of_namesTile cfg.layout htile] at hreply
  dsimp only at hreply
  rcases hres : (startMove cfg.astar s.world s.paths cfg.layout (graphFromLayout cfg.layout) caller.agentId
    (targetRoom caller args) (castTile tile)).1 with _ | _ | _ | _
  · exact absurd hres h
  · rw [hres] at hreply
    exact absurd hreply (by simp)
  · rw [hres] at hreply
    exact absurd hreply (by simp)
  · rw [hres] at hreply
    exact absurd hreply (by simp)

variable (env) in
/-- A call that is granted replies with the cast tile, and leaves what `start_move` leaves. -/
theorem handleMoveIntent_of_granted (ha : s.world.avatars.lookup caller.agentId = some caller)
    (htile : NamesTile args tile)
    (h : MoveGranted cfg.astar cfg.layout (graphFromLayout cfg.layout) caller (targetRoom caller args)
      (castTile tile)) :
    (∃ reply, (handleMoveIntent cfg env s caller args).1 = .ok reply ∧
        reply.get "target_tile" = some (.obj [("x", .int (castTile tile).1), ("y", .int (castTile tile).2)])) ∧
      ((handleMoveIntent cfg env s caller args).2.world, (handleMoveIntent cfg env s caller args).2.paths) =
        (startMove cfg.astar s.world s.paths cfg.layout (graphFromLayout cfg.layout) caller.agentId
          (targetRoom caller args) (castTile tile)).2 := by
  have hok := (startMove_ok_iff s.paths ha).mpr h
  unfold handleMoveIntent
  rw [moveTarget_of_namesTile cfg.layout htile]
  dsimp only
  rw [hok]
  exact ⟨⟨_, rfl, rfl⟩, rfl⟩

/-- **A move intent** leads to the very tile that it names, or fails, exactly if no other tile is found in its
place and no old queue is kept. -/
theorem movesTo_iff (hA : cfg.astar.Sound) (ha : s.world.avatars.lookup caller.agentId = some caller)
    (htile : NamesTile args tile) :
    MovesTo cfg env s caller args tile ↔ FindsTile cfg s caller args tile := by
  by_cases h : MoveGranted cfg.astar cfg.layout (graphFromLayout cfg.layout) caller (targetRoom caller args)
    (castTile tile)
  · obtain ⟨⟨reply, hreply, hecho⟩, hstate⟩ := handleMoveIntent_of_granted env ha htile h
    have hend := eventuallyAt_startMove_iff s.paths hA ha h
    constructor
    · intro hmoves _
      obtain ⟨-, hnamed, hat⟩ := hmoves reply hreply
      have hcast : castTile tile = tile := by
        have hsame := hecho.symm.trans hnamed
        simp only [Option.some.injEq, Json.obj.injEq, List.cons.injEq, Prod.mk.injEq, Json.int.injEq,
          true_and, and_true] at hsame
        exact Prod.ext hsame.1 hsame.2
      rw [hcast] at hend
      rw [hstate, hcast] at hat
      exact ⟨hcast, hend.mp hat⟩
    · intro hfinds reply' hreply'
      obtain ⟨hcast, hkept⟩ := hfinds h
      obtain rfl := Except.ok.inj (hreply.symm.trans hreply')
      have hbounds := mem_of_moveGranted hA h
      rw [hcast] at hbounds hecho hend
      refine ⟨hbounds, hecho, ?_⟩
      rw [hstate, hcast]
      exact hend.mpr hkept
  · exact iff_of_true (movesTo_of_not_granted ha htile h) fun hgranted => absurd hgranted h

end MoveIntent

/-! ### From a desk -/

/-- The founder at its desk. -/
def founderAtDesk : AvatarView :=
  sampleStartup.avatarView ("founder", "a-1", "codex", none)

/-- A tile of the room where the caller is. -/
def tileArgs (tile : Tile) : Json :=
  .obj [("target_tile", .obj [("x", .int tile.1), ("y", .int tile.2)])]

theorem lookup_founderAtDesk : sampleStartup.state.world.avatars.lookup founderAtDesk.agentId = some founderAtDesk := by
  decide +kernel

/-- The next tile. -/
theorem movesTo_next :
    MovesTo sampleConfig (sampleEnv 1 "e-1") sampleStartup.state founderAtDesk (tileArgs (2, 1)) (2, 1) := by
  refine (movesTo_iff (AStar.reference_sound 4) lookup_founderAtDesk ⟨_, rfl, rfl, rfl⟩).mpr fun _ => ?_
  refine ⟨by decide, fun hstays => ?_⟩
  have hhere := (eq_of_staysOnTile (AStar.reference_sound 4) defaultTown_wellFormed hstays).2
  exact absurd hhere (by decide)

/-- **Not every pair of integers**: one that fits 64 bits is taken for another that fits 32. -/
theorem not_movesTo :
    ¬ ∀ (cfg : Config) (env : Env) (s : LoopState) (caller : AvatarView) (args : Json) (tile : Tile),
      cfg.astar.Sound → s.world.avatars.lookup caller.agentId = some caller → InRoom cfg.layout caller →
        canEnterLayoutRoom cfg.layout caller.startupId (targetRoom caller args) = true →
          NamesTile args tile → MovesTo cfg env s caller args tile := by
  intro h
  have htile : NamesTile (tileArgs (0x100000002, 1)) (0x100000002, 1) := ⟨_, rfl, rfl, rfl⟩
  have hmoves := h sampleConfig (sampleEnv 1 "e-1") sampleStartup.state founderAtDesk (tileArgs (0x100000002, 1))
    (0x100000002, 1) (AStar.reference_sound 4) lookup_founderAtDesk
    ⟨⟨0, 0, 7, 6⟩, by decide, by decide⟩ (by decide) htile
  have hfinds := (movesTo_iff (AStar.reference_sound 4) lookup_founderAtDesk htile).mp hmoves
  have hcast := (hfinds ⟨by decide, by decide +kernel⟩).1
  exact absurd hcast (by decide)

end Cliptown.Task
