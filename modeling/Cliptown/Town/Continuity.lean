import Cliptown.Town.Coherence

/-!
# Walking tile by tile

A queue is stitched together from a path inside each room, door tiles inside or outside of it, and entry tiles.

* `Tile.distance`, `WalkedThrough`, `Continuous` — a queue goes from tile to tile, room by room, to its target.
* `isChain_fresh` — a segment goes on from the last tile pushed, which it starts on or next to.
* `isChain_planned`, `walkedThrough_planned` — no seam is jumped over, and every room is walked inside its bounds.
* `startMove_continuous` — a move that is granted queues nothing, or a continuous queue.
-/

namespace Cliptown.Town

open Cliptown.Lib Cliptown.World

/-- The Manhattan distance of two tiles. -/
def Tile.distance (s t : Tile) : ℕ :=
  (s.1 - t.1).natAbs + (s.2 - t.2).natAbs

/-- The tiles lead through the rooms one by one: those of a room lie in its bounds, or are the tile of the door to
the next one. -/
def WalkedThrough (L : TownLayout) : String → List (String × Tile) → List Tile → Prop
  | room, [], tiles => ∀ t ∈ tiles, ∃ b ∈ L.boundsOf room, t ∈ b
  | room, (next, door) :: ws, tiles => ∃ here rest, tiles = here ++ rest ∧
      (∀ t ∈ here, (∃ b ∈ L.boundsOf room, t ∈ b) ∨ t = door) ∧ WalkedThrough L next ws rest

/-- The queue goes from the tile `pos` in the room, step by step and room by room over the waypoints `ws`, to the
target. -/
structure Continuous (L : TownLayout) (room : String) (pos target : Tile) (ws : List (String × Tile))
    (q : List Step) : Prop where
  adjacent : (pos :: q.map Step.tile).IsChain fun s t => s.distance t = 1
  walked : WalkedThrough L room ws (q.map Step.tile)
  last : (q.map Step.tile).getLast? = some target

/-! ### Neighbouring tiles -/

theorem Tile.distance_comm (s t : Tile) : s.distance t = t.distance s := by
  unfold distance
  omega

theorem Tile.distance_eq_one_iff {s t : Tile} : s.distance t = 1 ↔ t ∈ s.neighbors := by
  rw [distance_comm, mem_neighbors, distance]

/-- The tile beside a door is the door tile or next to it. -/
theorem distance_of_adjacentInside {b : Bounds} {door t : Tile} (h : adjacentInside b door = some t) :
    t = door ∨ door.distance t = 1 := by
  unfold adjacentInside at h
  split at h
  · exact .inl (Option.some.inj h).symm
  · exact .inr (Tile.distance_eq_one_iff.mpr (List.mem_of_find?_eq_some h))

/-- A path inside a room goes from tile to tile. -/
theorem TilePath.isChain_distance {b : Bounds} {src dst : Tile} {p : List Tile} (h : TilePath b src dst p) :
    p.IsChain fun s t => s.distance t = 1 :=
  h.path.chain.imp fun _ _ he => Tile.distance_eq_one_iff.mpr (edge_tileSuccessors.mp he).1

/-- So does a segment up to a door. -/
theorem isChain_distance_toDoor {b : Bounds} {tile exit door : Tile} {seg : List Tile}
    (hexit : adjacentInside b door = some exit) (h : TilePath b tile exit seg) :
    (toDoor seg exit door).IsChain fun s t => s.distance t = 1 := by
  unfold toDoor
  split
  · rename_i hne
    refine List.isChain_append.mpr ⟨h.isChain_distance, List.isChain_singleton door, ?_⟩
    intro x hx y hy
    rw [h.getLast?] at hx
    obtain rfl := Option.some.inj hx
    obtain rfl := Option.some.inj hy
    rw [Tile.distance_comm]
    exact (distance_of_adjacentInside hexit).resolve_left hne
  · exact h.isChain_distance

/-! ### Seams -/

theorem map_tile_annotate (enter : Option String) (seg : List Tile) :
    (annotate enter seg).map Step.tile = seg := by
  induction seg with
  | nil => rfl
  | cons t seg ih =>
      rcases seg with _ | ⟨t', seg⟩
      · rfl
      · rw [annotate, List.map_cons, ih]

section Seams

variable {R : Tile → Tile → Prop} {l t : Tile} {q rest : List Tile}

/-- **A segment** goes on from the last tile pushed, if it starts on that tile or next to it. -/
theorem isChain_fresh (hl : l = t ∨ R l t) (hchain : (t :: q).IsChain R) :
    (l :: fresh (some l) (t :: q)).IsChain R := by
  rw [fresh]
  split
  · rename_i heq
    obtain rfl := Option.some.inj heq
    exact hchain
  · rename_i hne
    have hR : R l t := hl.resolve_left fun heq => hne (congrArg some heq)
    exact List.isChain_cons_cons.mpr ⟨hR, hchain⟩

/-- What goes on from the last of some tiles goes on from all of them. -/
theorem isChain_cons_append {d : Tile} (hchain : (l :: q).IsChain R) (hlast : q.getLast?.getD l = d)
    (hrest : (d :: rest).IsChain R) : (l :: (q ++ rest)).IsChain R := by
  rw [← List.cons_append]
  refine List.isChain_append.mpr ⟨hchain, hrest.tail, ?_⟩
  intro x hx y hy
  rw [List.getLast?_cons, hlast] at hx
  obtain rfl := Option.some.inj hx
  rcases rest with _ | ⟨u, rest⟩
  · exact absurd hy (by simp)
  · obtain rfl := Option.some.inj hy
    exact (List.isChain_cons_cons.mp hrest).1

end Seams

section Legs

variable {L : TownLayout} {target tile : Tile} {room : String} {ws : List (String × Tile)}
  {segs : List (String × List Tile)}

/-- **No seam is jumped over.** The induction is on the legs; the last tile pushed is the tile where the next leg
starts, or next to it: a door tile outside of the room. -/
theorem isChain_planned (h : Legs L target room tile ws segs) : ∀ l : Tile, l = tile ∨ l.distance tile = 1 →
    (l :: (planned (some l) segs).map Step.tile).IsChain fun s t => s.distance t = 1 := by
  induction h with
  | last _ hseg =>
      intro l hl
      have hchain := hseg.isChain_distance
      obtain ⟨q, rfl⟩ := hseg.eq_cons
      rw [planned, map_tile_annotate]
      exact isChain_fresh hl hchain
  | @door room next tile exit entry door b nb seg ws segs _ hexit hseg _ hentry hrest ih =>
      intro l hl
      have hchain := isChain_distance_toDoor hexit hseg
      have hlast : (toDoor seg exit door).getLast? = some door := getLast?_toDoor hseg
      obtain ⟨q, hq⟩ : ∃ q, toDoor seg exit door = tile :: q := toDoor_eq_cons hseg
      rw [planned_door hlast hrest, List.map_append, map_tile_annotate]
      refine isChain_cons_append ?_ ?_ (ih door ((distance_of_adjacentInside hentry).imp_left Eq.symm))
      · rw [hq] at hchain ⊢
        exact isChain_fresh hl hchain
      · rw [getLast?_fresh, hlast, Option.getD_some]

/-- **Every room is walked inside its bounds**, up to the door. -/
theorem walkedThrough_planned (h : Legs L target room tile ws segs) : ∀ l : Tile,
    WalkedThrough L room ws ((planned (some l) segs).map Step.tile) := by
  induction h with
  | last hb hseg =>
      intro l t ht
      rw [planned, map_tile_annotate] at ht
      exact ⟨_, hb, hseg.mem t (mem_of_fresh ht)⟩
  | @door room next tile exit entry door b nb seg ws segs hb hexit hseg _ _ hrest ih =>
      intro l
      rw [planned_door (getLast?_toDoor hseg) hrest, List.map_append, map_tile_annotate]
      refine ⟨_, _, rfl, fun t ht => ?_, ih door⟩
      have hmem := mem_of_fresh ht
      unfold toDoor at hmem
      split at hmem
      · rcases List.mem_append.mp hmem with hmem | hmem
        · exact .inl ⟨b, hb, hseg.mem t hmem⟩
        · exact .inr (List.mem_singleton.mp hmem)
      · exact .inl ⟨b, hb, hseg.mem t hmem⟩

end Legs

/-! ### A granted move -/

section Move

variable {A : AStar} {L : TownLayout} {g : RoomGraph} {w w' : WorldView} {ps ps' : PathStore}
  {id room : String} {target : Tile} {a : AvatarView}

/-- **A move that is granted** clears the target and queues nothing, or queues a walk from the tile where the
avatar stands to the target, along the doors of its route. -/
theorem startMove_continuous (hA : A.Sound) (ha : w.avatars.lookup id = some a)
    (hok : startMove A w ps L g id room target = (.ok, w', ps')) :
    (ps' = ps ∧ w' = w.setAvatar id fun a => { a with targetPos := none }) ∨
      ∃ q ws, q ≠ [] ∧ ps' = ps.insert id q ∧
        w' = (w.setAvatar id fun a => { a with targetPos := some target }) ∧
        g.route A a.roomId room = some ws ∧ Continuous L a.roomId a.currentPos target ws q := by
  obtain ⟨route, hroute, ⟨-, hps, hw⟩ | ⟨hne, hps, hw⟩⟩ := startMove_ok ha hok
  · exact .inl ⟨hps, hw⟩
  · obtain ⟨ws, hws, hlegs⟩ := fullRoute_spec hA hroute
    refine .inr ⟨_, ws, hne, hps, hw, hws, ?_⟩
    have hlast := last_planSteps hA hroute hne
    rw [planSteps_of_fullRoute hA hroute] at hlast ⊢
    exact ⟨isChain_planned hlegs _ (.inl rfl), walkedThrough_planned hlegs _,
      by rw [List.getLast?_map]; exact hlast⟩

end Move

/-- From the lobby into a suite, over the tile of the door. -/
theorem startMove_continuous_suite :
    ∃ q ws, q ≠ [] ∧ (moveIntoSuite (8, 4)).2.2 = AList.insert "agent" q ∅ ∧
      Continuous defaultTown "lobby" (8, 4) (6, 4) ws q := by
  have hok : moveIntoSuite (8, 4) = (.ok, (moveIntoSuite (8, 4)).2) :=
    Prod.ext (by decide) rfl
  rcases startMove_continuous (AStar.reference_sound 4) (a := avatarAt "lobby" (8, 4)) (by decide) hok with
    ⟨hps, -⟩ | ⟨q, ws, hne, hps, -, -, hcontinuous⟩
  · have hqueued : (moveIntoSuite (8, 4)).2.2.lookup "agent" ≠ none := by decide
    exact absurd (congrArg (AList.lookup "agent") hps) hqueued
  · exact ⟨q, ws, hne, hps, hcontinuous⟩

end Cliptown.Town
