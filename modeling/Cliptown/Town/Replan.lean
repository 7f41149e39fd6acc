import Cliptown.Lib.Runs
import Cliptown.Town.Arrival

/-!
# Re-planning

Move requests and ticks in any order.

* `replanSystem` — the system: `start_move` requests, granted or refused, and ticks.
* `startMove_ne_noPath` — in a well-formed layout with connected rooms, a move of an avatar that
  stands in its room is never refused for want of a path.
* `Plan`, `Settled` — the invariant: every avatar stands in its room, and its queue stays inside
  the rooms it passes, up to the door tiles on which it changes rooms.
* `Clean` — the steps that keep the invariant: no request from the tile of the first door of its
  own route, no tick onto a door tile outside the room entered there.
* `settled_of_reachable`, `replan_never_noPath` — every run of clean steps of the default town.
-/

namespace Cliptown.Town

open Cliptown.Lib Cliptown.World

/-- What the movement subsystem is asked to do. -/
inductive MoveLabel where
  | start (id room : String) (target : Tile)
  | tick

/-- Requests and ticks in any order, from avatars standing in their rooms without a path.
Source: `move_sys.rs` `start_move`, `step_all` -/
def replanSystem (A : AStar) (L : TownLayout) : System (WorldView × PathStore) MoveLabel where
  init s := s.2 = ∅ ∧ ∀ id a, s.1.avatars.lookup id = some a → InRoom L a
  step s l t :=
    match l with
    | .start id room target => t = (startMove A s.1 s.2 L (graphFromLayout L) id room target).2
    | .tick => t = ((stepAll s.1 s.2).1, (stepAll s.1 s.2).2.1)

/-- No move of an avatar to a tile of a room it may enter is refused for want of a path. -/
def NeverNoPath (A : AStar) (L : TownLayout) (s : WorldView × PathStore) : Prop :=
  ∀ id a room target, s.1.avatars.lookup id = some a →
    canEnterLayoutRoom L a.startupId room = true → (∃ b ∈ L.boundsOf room, target ∈ b) →
      (startMove A s.1 s.2 L (graphFromLayout L) id room target).1 ≠ .noPath

/-! ### A plan exists from inside a room -/

/-- The doors connect any two rooms. -/
def Connected (L : TownLayout) : Prop :=
  ∀ i j, (L.boundsOf i).isSome → (L.boundsOf j).isSome →
    Relation.ReflTransGen (Edge (graphFromLayout L).successors) i j

section Exists

variable {A : AStar} {L : TownLayout}

/-- Along a walk every leg can be planned. -/
theorem routeFrom_ne_none (hC : A.Complete) (hL : L.WellFormed) {target : Tile}
    {room dest : String} {ws : List (String × Tile)}
    (hwalk : Walk (graphFromLayout L) room ws dest) :
    ∀ (tile : Tile), (∃ b ∈ L.boundsOf room, tile ∈ b) → (∃ c ∈ L.boundsOf dest, target ∈ c) →
      routeFrom A L.roomBoundsMap target room tile ws ≠ none := by
  induction hwalk with
  | nil room =>
      rintro tile ⟨b, hb, htile⟩ ⟨c, hc, htarget⟩
      obtain rfl : b = c := Option.some.inj (hb.symm.trans hc)
      obtain ⟨seg, hseg⟩ := Option.ne_none_iff_exists'.mp (tilePath_ne_none hC htile htarget)
      have hb : L.roomBoundsMap.lookup room = some b := hb
      simp [routeFrom, hb, hseg]
  | @cons room next dest door ws hdoor _ ih =>
      rintro tile ⟨b, hb, htile⟩ htarget
      obtain ⟨b', nb, hb', hnb, hbetween⟩ := exists_doorBetween hL hdoor
      obtain rfl : b = b' := Option.some.inj (hb.symm.trans hb')
      obtain ⟨exit, hexit⟩ := Option.isSome_iff_exists.mp
        (isSome_adjacentInside_of_doorBetween hbetween)
      obtain ⟨entry, hentry⟩ := Option.isSome_iff_exists.mp
        (isSome_adjacentInside_of_doorBetween hbetween.symm)
      obtain ⟨seg, hseg⟩ := Option.ne_none_iff_exists'.mp
        (tilePath_ne_none hC htile (mem_of_adjacentInside hexit))
      obtain ⟨out, hout⟩ := Option.ne_none_iff_exists'.mp
        (ih entry ⟨nb, hnb, mem_of_adjacentInside hentry⟩ htarget)
      have hb : L.roomBoundsMap.lookup room = some b := hb
      have hnb : L.roomBoundsMap.lookup next = some nb := hnb
      simp [routeFrom, hb, hnb, hexit, hseg, hentry, hout]

/-- **A move from inside a room finds a path.** -/
theorem startMove_ne_noPath (hA : A.Sound) (hC : A.Complete) (hL : L.WellFormed)
    (hconn : Connected L) {w : WorldView} {ps : PathStore} {id room : String} {target : Tile}
    {a : AvatarView} (ha : w.avatars.lookup id = some a) (hin : InRoom L a)
    (htarget : ∃ b ∈ L.boundsOf room, target ∈ b) :
    (startMove A w ps L (graphFromLayout L) id room target).1 ≠ .noPath := by
  obtain ⟨b, hb, hpos⟩ := hin
  obtain ⟨c, hc, hmem⟩ := htarget
  have hreach := hconn a.roomId room (Option.isSome_of_mem hb) (Option.isSome_of_mem hc)
  obtain ⟨ws, hws⟩ := Option.ne_none_iff_exists'.mp (route_ne_none hA hC hreach)
  obtain ⟨route, hroute⟩ := Option.ne_none_iff_exists'.mp
    (routeFrom_ne_none hC hL (route_spec hA hws).1 a.currentPos ⟨b, hb, hpos⟩ ⟨c, hc, hmem⟩)
  have hfull : fullRoute A (graphFromLayout L) L.roomBoundsMap (a.roomId, a.currentPos)
      (room, target) = some route := by
    simp [fullRoute, hws, hroute]
  rw [startMove, ha]
  simp only [hfull]
  split
  · split <;> simp
  · simp

end Exists

/-! ### The invariant -/

/-- Executed from `room`, the steps stay in the bounds of the current room, except that the tile
on which a room is entered may lie outside of it. -/
def Plan (L : TownLayout) : String → List Step → Prop
  | _, [] => True
  | room, s :: q =>
      match s.enterRoom with
      | none => (∃ b ∈ L.boundsOf room, s.tile ∈ b) ∧ Plan L room q
      | some next => (L.boundsOf next).isSome ∧ Plan L next q

/-- Every avatar stands in its room, and its queue is a plan from there. -/
def Settled (L : TownLayout) (s : WorldView × PathStore) : Prop :=
  ∀ id a, s.1.avatars.lookup id = some a →
    InRoom L a ∧ ∀ q, s.2.lookup id = some q → Plan L a.roomId q

/-- The steps that keep every avatar in its room. A request for a tile of the requested room is clean
if its avatar does not stand on the tile of the first door of the route; a tick is clean if no step
taken in it enters a room that the door tile lies outside of. -/
def Clean (A : AStar) (L : TownLayout) (s : WorldView × PathStore) : MoveLabel → Prop
  | .start id room target => ∀ a, s.1.avatars.lookup id = some a →
      (∃ b ∈ L.boundsOf room, target ∈ b) →
        ∀ ws ∈ (graphFromLayout L).route A a.roomId room, ∀ w ∈ ws.head?, a.currentPos ≠ w.2
  | .tick => ∀ id a st q next b, s.1.avatars.lookup id = some a →
      s.2.lookup id = some (st :: q) → st.enterRoom = some next → L.boundsOf next = some b →
        st.tile ∈ b

section Plan

variable {L : TownLayout} {b : Bounds} {room next : String} {target tile : Tile}
  {ws : List (String × Tile)} {segs : List (String × List Tile)}

/-- Tiles of the room, with no room to enter, are a plan. -/
theorem plan_annotate_none (hb : L.boundsOf room = some b) (seg : List Tile)
    (h : ∀ t ∈ seg, t ∈ b) : Plan L room (annotate none seg) := by
  induction seg with
  | nil => trivial
  | cons t seg ih =>
      have ht := h t List.mem_cons_self
      rcases seg with _ | ⟨t', seg⟩
      · exact ⟨⟨b, hb, ht⟩, trivial⟩
      · exact ⟨⟨b, hb, ht⟩, ih fun u hu => h u (List.mem_cons_of_mem _ hu)⟩

/-- Tiles of the room, the last of them entering the next one, and a plan from there. -/
theorem plan_annotate_some (hb : L.boundsOf room = some b) (hnext : (L.boundsOf next).isSome)
    {q : List Step} (hq : Plan L next q) (seg : List Tile) (hne : seg ≠ [])
    (h : ∀ t ∈ seg.dropLast, t ∈ b) : Plan L room (annotate (some next) seg ++ q) := by
  induction seg with
  | nil => exact absurd rfl hne
  | cons t seg ih =>
      rcases seg with _ | ⟨t', seg⟩
      · exact ⟨hnext, hq⟩
      · rw [List.dropLast_cons_cons] at h
        exact ⟨⟨b, hb, h t List.mem_cons_self⟩,
          ih (by simp) fun u hu => h u (List.mem_cons_of_mem _ hu)⟩

/-- A segment up to a door leaves the room on its last tile at the earliest. -/
theorem dropLast_toDoor_mem {exit door : Tile} {seg : List Tile} (h : TilePath b tile exit seg) :
    ∀ t ∈ (toDoor seg exit door).dropLast, t ∈ b := by
  intro t ht
  rw [toDoor] at ht
  split at ht
  · rw [List.dropLast_concat] at ht
    exact h.mem t ht
  · exact h.mem t (List.dropLast_subset _ ht)

/-- Leaving out the first tile leaves out nothing else. -/
theorem mem_dropLast_of_fresh {l t : Tile} {seg : List Tile}
    (h : t ∈ (fresh (some l) seg).dropLast) : t ∈ seg.dropLast := by
  rcases seg with _ | ⟨u, seg⟩
  · exact h
  · rw [fresh] at h
    split at h
    · rcases seg with _ | ⟨v, seg⟩
      · exact absurd h (by simp)
      · rw [List.dropLast_cons_cons]
        exact List.mem_cons_of_mem _ h
    · exact h

theorem mem_of_fresh {l t : Tile} {seg : List Tile} (h : t ∈ fresh (some l) seg) : t ∈ seg := by
  rcases seg with _ | ⟨u, seg⟩
  · exact h
  · rw [fresh] at h
    split at h
    · exact List.mem_cons_of_mem _ h
    · exact h

/-- **The queue of a route is a plan**, if no door tile of the route repeats the tile before it. -/
theorem plan_planned (h : Legs L target room tile ws segs) : ∀ l : Tile,
    (l :: ws.map Prod.snd).IsChain (· ≠ ·) → Plan L room (planned (some l) segs) := by
  induction h with
  | last hb hseg =>
      intro l _
      exact plan_annotate_none hb _ fun t ht => hseg.mem t (mem_of_fresh ht)
  | @door room next tile exit entry door b nb seg ws segs hb _ hseg hnb _ hrest ih =>
      intro l hchain
      rw [List.map_cons, List.isChain_cons_cons] at hchain
      rw [planned_door (getLast?_toDoor hseg) hrest]
      have hfresh : fresh (some l) (toDoor seg exit door) ≠ [] := by
        intro hnil
        have hlast : (toDoor seg exit door).getLast? = some door := getLast?_toDoor hseg
        rcases fresh_eq_nil hnil with hnil | hnil
        · simp [hnil] at hlast
        · rw [hnil] at hlast
          exact hchain.1 (by simpa using hlast)
      exact plan_annotate_some hb (Option.isSome_of_mem hnb) (ih door hchain.2) _ hfresh
        fun t ht => dropLast_toDoor_mem hseg t (mem_dropLast_of_fresh ht)

end Plan

/-! ### Clean steps keep the invariant -/

section Steps

variable {A : AStar} {L : TownLayout} {s : WorldView × PathStore}

/-- One step of a settled avatar keeps it in its room, and leaves a plan. -/
theorem inRoom_takeStep {a : AvatarView} {st : Step} {q : List Step}
    (hplan : Plan L a.roomId (st :: q))
    (hclean : ∀ next b, st.enterRoom = some next → L.boundsOf next = some b → st.tile ∈ b) :
    InRoom L (takeStep st a) ∧ Plan L (takeStep st a).roomId q := by
  obtain ⟨tile, enter⟩ := st
  rcases enter with _ | next
  · exact ⟨hplan.1, hplan.2⟩
  · obtain ⟨hsome, hq⟩ := hplan
    obtain ⟨b, hb⟩ := Option.isSome_iff_exists.mp hsome
    exact ⟨⟨b, hb, hclean next b rfl hb⟩, hq⟩

/-- **A clean tick keeps the invariant.** -/
theorem settled_stepAll (hs : Settled L s) (hclean : Clean A L s .tick) :
    Settled L ((stepAll s.1 s.2).1, (stepAll s.1 s.2).2.1) := by
  intro id a' ha'
  rcases hps : s.2.lookup id with _ | q
  · obtain ⟨hw, hp, -⟩ := stepAll_of_none (w := s.1) hps
    simp only [hw] at ha'
    simp only [hp]
    exact ⟨(hs id a' ha').1, by simp⟩
  · rcases ha : s.1.avatars.lookup id with _ | a
    · obtain ⟨hw, -, -⟩ := stepAll_of_no_avatar hps ha
      simp [hw] at ha'
    · obtain ⟨hw, hp, -⟩ := stepAll_of_some hps ha
      obtain ⟨hin, hplan⟩ := hs id a ha
      have hplan := hplan q hps
      simp only [hw, Option.some.injEq] at ha'
      simp only [hp]
      subst ha'
      rcases q with _ | ⟨st, q⟩
      · exact ⟨hin, by simp [remaining]⟩
      · obtain ⟨hin', hplan'⟩ := inRoom_takeStep hplan fun next b hnext hb =>
          hclean id a st q next b ha hps hnext hb
        rcases q with _ | ⟨st', q⟩
        · exact ⟨hin', by simp [remaining]⟩
        · refine ⟨hin', fun q' hq' => ?_⟩
          obtain rfl : st' :: q = q' := by simpa [remaining] using hq'
          exact hplan'

/-- No two doors of the layout share a tile, and every door connects two different rooms. -/
structure DistinctDoors (L : TownLayout) : Prop where
  tiles : ∀ d ∈ L.doors, ∀ e ∈ L.doors, d.tile = e.tile → d = e
  rooms : ∀ d ∈ L.doors, d.aRoom ≠ d.bRoom

/-- Crossing the same door tile twice in a row leads back. -/
theorem eq_of_same_doorTile (hd : DistinctDoors L) {i j k : String} {t : Tile}
    (h₁ : (graphFromLayout L).doorTile i j = some t)
    (h₂ : (graphFromLayout L).doorTile j k = some t) : i = k := by
  obtain ⟨_, hmem₁, rfl, hends₁⟩ :=
    RoomGraph.exists_door_of_mem_neighborsOf (RoomGraph.mem_neighborsOf_of_doorTile h₁)
  obtain ⟨_, hmem₂, htile, hends₂⟩ :=
    RoomGraph.exists_door_of_mem_neighborsOf (RoomGraph.mem_neighborsOf_of_doorTile h₂)
  obtain ⟨d, hd₁, rfl⟩ := List.mem_map.mp hmem₁
  obtain ⟨e, hd₂, rfl⟩ := List.mem_map.mp hmem₂
  obtain rfl : e = d := hd.tiles e hd₂ d hd₁ htile
  have hne := hd.rooms e hd₁
  rcases hends₁ with ⟨rfl, rfl⟩ | ⟨rfl, rfl⟩ <;> rcases hends₂ with ⟨h, rfl⟩ | ⟨h, rfl⟩
  · exact absurd h hne
  · rfl
  · rfl
  · exact absurd h.symm hne

/-- No door tile of a route repeats the one before it. -/
theorem isChain_doorTiles (hd : DistinctDoors L) {ws : List (String × Tile)} :
    ∀ {i j : String}, Walk (graphFromLayout L) i ws j → (i :: ws.map Prod.fst).Nodup →
      (ws.map Prod.snd).IsChain (· ≠ ·) := by
  induction ws with
  | nil => exact fun _ _ => List.isChain_nil
  | cons w ws ih =>
      intro i j hwalk hnodup
      rcases hwalk with _ | ⟨hdoor, hwalk⟩
      rename_i next door
      have hrest := ih hwalk (List.nodup_cons.mp hnodup).2
      rcases ws with _ | ⟨⟨next', door'⟩, ws⟩
      · exact List.isChain_singleton door
      · rw [List.map_cons, List.map_cons, List.isChain_cons_cons]
        refine ⟨?_, hrest⟩
        rcases hwalk with _ | ⟨hdoor', _⟩
        rintro rfl
        have hback : i = next' := eq_of_same_doorTile hd hdoor hdoor'
        exact (List.nodup_cons.mp hnodup).1 (by simp [hback])

/-- **A clean request keeps the invariant.** -/
theorem settled_startMove (hA : A.Sound) (hd : DistinctDoors L) (hs : Settled L s)
    {id room : String} {target : Tile} (hclean : Clean A L s (.start id room target)) :
    Settled L (startMove A s.1 s.2 L (graphFromLayout L) id room target).2 := by
  rcases hres : startMove A s.1 s.2 L (graphFromLayout L) id room target with ⟨res, w', ps'⟩
  by_cases hok : res = .ok
  · subst hok
    rcases ha : s.1.avatars.lookup id with _ | a
    · simp [startMove, ha] at hres
    · obtain ⟨route, hroute, hres⟩ := startMove_ok ha hres
      obtain ⟨ws, hws, hlegs⟩ := fullRoute_spec hA hroute
      obtain ⟨hwalk, hnodup⟩ := route_spec hA hws
      have hplan : Plan L a.roomId (planSteps a.currentPos route) := by
        obtain ⟨q, rest, rfl⟩ := hlegs.eq_cons
        rw [planSteps_eq hlegs.moving]
        refine plan_planned hlegs _ (List.isChain_cons.mpr ⟨?_, isChain_doorTiles hd hwalk hnodup⟩)
        intro d hmem
        rw [List.head?_map] at hmem
        obtain ⟨w, hw, rfl⟩ := Option.map_eq_some_iff.mp hmem
        exact hclean a ha (hlegs.target_mem hwalk) ws hws w hw
      obtain ⟨hin, hold⟩ := hs id a ha
      rcases hres with ⟨-, rfl, rfl⟩ | ⟨-, rfl, rfl⟩
      · intro other b hb
        by_cases hother : other = id
        · subst hother
          simp only [WorldView.lookup_setAvatar_self, ha, Option.map_some, Option.some.injEq] at hb
          subst hb
          exact ⟨hin, hold⟩
        · rw [WorldView.lookup_setAvatar_ne _ hother] at hb
          exact hs other b hb
      · intro other b hb
        by_cases hother : other = id
        · subst hother
          simp only [WorldView.lookup_setAvatar_self, ha, Option.map_some, Option.some.injEq] at hb
          subst hb
          refine ⟨hin, fun q hq => ?_⟩
          rw [AList.lookup_insert, Option.some.injEq] at hq
          exact hq ▸ hplan
        · rw [WorldView.lookup_setAvatar_ne _ hother] at hb
          refine ⟨(hs other b hb).1, fun q hq => (hs other b hb).2 q ?_⟩
          rwa [AList.lookup_insert_ne hother] at hq
  · obtain ⟨rfl, rfl⟩ := startMove_not_ok hres hok
    exact hs

end Steps

/-! ### The default town -/

theorem defaultTown_distinctDoors : DistinctDoors defaultTown where
  tiles := by decide
  rooms := by decide

/-- Every room of the default town is the lobby or next to it. -/
theorem defaultTown_connected : Connected defaultTown := by
  have hlobby : ∀ r ∈ defaultTown.rooms, r.id = "lobby" ∨
      (("lobby", 1) ∈ (graphFromLayout defaultTown).successors r.id ∧
        (r.id, 1) ∈ (graphFromLayout defaultTown).successors "lobby") := by decide
  intro i j hi hj
  obtain ⟨b, hb⟩ := Option.isSome_iff_exists.mp hi
  obtain ⟨c, hc⟩ := Option.isSome_iff_exists.mp hj
  obtain ⟨r, hr, rfl, -⟩ := TownLayout.exists_room_of_boundsOf hb
  obtain ⟨t, ht, rfl, -⟩ := TownLayout.exists_room_of_boundsOf hc
  have hin : Relation.ReflTransGen (Edge (graphFromLayout defaultTown).successors) r.id "lobby" := by
    rcases hlobby r hr with h | h
    · rw [h]
    · exact .single ⟨1, h.1⟩
  have hout : Relation.ReflTransGen (Edge (graphFromLayout defaultTown).successors) "lobby" t.id := by
    rcases hlobby t ht with h | h
    · rw [h]
    · exact .single ⟨1, h.2⟩
  exact hin.trans hout

/-- In every run of clean steps, the invariant holds. -/
theorem settled_of_reachable {A : AStar} (hA : A.Sound) {L : TownLayout} (hd : DistinctDoors L)
    {s : WorldView × PathStore} (h : ((replanSystem A L).restrict (Clean A L)).Reachable s) :
    Settled L s := by
  refine h.invariant ?_ ?_
  · rintro ⟨w, ps⟩ ⟨hps, hin⟩ id a ha
    simp only at hps
    subst hps
    exact ⟨hin id a ha, by simp⟩
  · rintro s (⟨id, room, target⟩ | _) t hs ⟨hclean, hstep⟩
    · obtain rfl : t = _ := hstep
      exact settled_startMove hA hd hs hclean
    · obtain rfl : t = _ := hstep
      exact settled_stepAll hs hclean

/-- **Re-planning never strands an avatar**, in any run of clean steps of the default town. -/
theorem replan_never_noPath {A : AStar} (hA : A.Sound) (hC : A.Complete)
    {s : WorldView × PathStore}
    (h : ((replanSystem A defaultTown).restrict (Clean A defaultTown)).Reachable s) :
    NeverNoPath A defaultTown s := by
  intro id a room target ha _ htarget
  have hin := (settled_of_reachable hA defaultTown_distinctDoors h id a ha).1
  exact startMove_ne_noPath hA hC defaultTown_wellFormed defaultTown_connected ha hin htarget

/-- A world with one avatar standing in its room is an initial state. -/
theorem replan_init {A : AStar} {L : TownLayout} {room : String} {pos : Tile}
    (h : InRoom L (avatarAt room pos)) : (replanSystem A L).init (worldAt room pos, ∅) := by
  refine ⟨rfl, fun id a ha => ?_⟩
  obtain ⟨-, rfl⟩ := Table.lookup_singleton_iff.mp ha
  exact h

/-- A move inside the lobby. -/
noncomputable def moveInLobby : StartMoveResult × WorldView × PathStore :=
  startMove (.reference 4) (worldAt "lobby" (8, 4)) ∅ defaultTown (graphFromLayout defaultTown)
    "agent" "lobby" (10, 4)

/-- After a move inside the lobby and its first tick, the avatar in flight may be sent anywhere. -/
theorem replan_in_flight :
    NeverNoPath (.reference 4) defaultTown
      ((stepAll moveInLobby.2.1 moveInLobby.2.2).1, (stepAll moveInLobby.2.1 moveInLobby.2.2).2.1) := by
  have hinit : (replanSystem (.reference 4) defaultTown).init (worldAt "lobby" (8, 4), ∅) :=
    replan_init ⟨⟨7, 4, 26, 4⟩, by decide, by decide⟩
  refine replan_never_noPath (AStar.reference_sound 4) (AStar.reference_complete 4)
    (.step (l := .tick) (.step (l := .start "agent" "lobby" (10, 4)) (.init hinit)
      ⟨?_, rfl⟩) ⟨?_, rfl⟩)
  · intro a ha _ ws hws w hw
    obtain ⟨-, rfl⟩ := Table.lookup_singleton_iff.mp ha
    obtain rfl : [] = ws := Option.some.inj hws
    exact absurd hw (by simp)
  · have hps : moveInLobby.2.2 = AList.singleton "agent" [⟨(9, 4), none⟩, ⟨(10, 4), none⟩] :=
      AList.ext (by decide)
    intro id a st q next b _ hq hnext _
    obtain ⟨-, hcons⟩ := Table.lookup_singleton_iff.mp (hps ▸ hq)
    rw [List.cons.injEq] at hcons
    rw [← hcons.1] at hnext
    exact absurd hnext (by simp)

/-- On the lobby side of the door of `suite_1`, after the tick onto the door tile, the avatar has
`room_id` `suite_1` and stands in the lobby: no further move finds a path. -/
theorem noPath_on_door_tile :
    ¬ ∀ A : AStar, A.Sound → A.Complete → ∀ s, (replanSystem A defaultTown).Reachable s →
      NeverNoPath A defaultTown s := by
  intro h
  have hinit : (replanSystem (.reference 4) defaultTown).init (worldAt "lobby" (8, 4), ∅) :=
    replan_init ⟨⟨7, 4, 26, 4⟩, by decide, by decide⟩
  have hs := h (.reference 4) (AStar.reference_sound 4) (AStar.reference_complete 4)
    ((stepAll (moveIntoSuite (8, 4)).2.1 (moveIntoSuite (8, 4)).2.2).1,
      (stepAll (moveIntoSuite (8, 4)).2.1 (moveIntoSuite (8, 4)).2.2).2.1)
    (.step (l := .tick) (.step (l := .start "agent" "suite_1" (6, 4)) (.init hinit) rfl) rfl)
  refine hs "agent" ⟨"agent", "startup", "engineer", (7, 4), some (6, 4), "suite_1", .idle⟩ "suite_1"
    (6, 4) (by decide) (by decide) ⟨⟨0, 0, 7, 6⟩, by decide, by decide⟩ ?_
  decide

end Cliptown.Town
