import Cliptown.Lib.Search
import Cliptown.Town.Layout

/-!
# Pathfinding

A coarse room-graph search composed with a tile-grid search inside each room.

* `RoomGraph`, `RoomGraph.route` — rooms, doors and the door tiles of a route between two rooms.
* `tilePath`, `adjacentInside`, `fullRoute` — tiles inside a room, the bridge over a door, and the
  whole route as one segment per room.
* `Walk`, `route_spec`, `route_ne_none` — what a route is, and when there is one.
* `TilePath`, `tilePath_spec`, `tilePath_ne_none` — the same for one room; the tiles of a
  rectangle are connected (`reachable_inside`).
* `Legs`, `fullRoute_spec` — the segments of a full route, one constructor per iteration of the
  source's loop.

`A : AStar` is the third-party `pathfinding::astar`.
-/

namespace Cliptown.Town

open Cliptown.Lib

/-! ### The room graph -/

/-- Source: `path.rs` `Door` -/
structure Door where
  a : String
  b : String
  tile : Tile
  deriving DecidableEq, Repr

/-- Source: `path.rs` `RoomGraph` -/
structure RoomGraph where
  doors : List Door
  neighbors : Table String (List (String × Tile))

namespace RoomGraph

/-- `entry(k).or_default().push(e)`. -/
def pushNeighbor (m : Table String (List (String × Tile))) (k : String) (e : String × Tile) :
    Table String (List (String × Tile)) :=
  m.insert k ((m.lookup k).getD [] ++ [e])

/-- Source: `path.rs` `RoomGraph::from_doors` -/
def fromDoors (doors : List Door) : RoomGraph where
  doors := doors
  neighbors := doors.foldl
    (fun m d => pushNeighbor (pushNeighbor m d.a (d.b, d.tile)) d.b (d.a, d.tile)) ∅

/-- The neighbours of a room with the door tiles. -/
def neighborsOf (g : RoomGraph) (r : String) : List (String × Tile) :=
  (g.neighbors.lookup r).getD []

/-- The successors that the room search uses, all at cost 1. -/
def successors (g : RoomGraph) (r : String) : List (String × ℕ) :=
  (g.neighborsOf r).map fun e => (e.1, 1)

/-- The tile of the first door from `a` to `b`; the two `unwrap`s of the source are `none` here,
and `route_spec` shows that a route never meets them. -/
def doorTile (g : RoomGraph) (a b : String) : Option Tile :=
  ((g.neighborsOf a).find? fun e => e.1 = b).map Prod.snd

/-- One window of a path of rooms: the room to enter and the door tile that enters it. -/
def crossing (g : RoomGraph) (w : String × String) : Option (String × Tile) :=
  (g.doorTile w.1 w.2).map fun tile => (w.2, tile)

/-- The rooms to enter from `fromRoom` to `toRoom`, each with the door tile that enters it.
Source: `path.rs` `RoomGraph::route` -/
def route (A : AStar) (g : RoomGraph) (fromRoom toRoom : String) : Option (List (String × Tile)) :=
  if fromRoom = toRoom then some []
  else
    (A.run fromRoom g.successors (fun _ => 0) fun r => r = toRoom).bind fun (path, _) =>
      (path.zip path.tail).mapM g.crossing

/-- One door of the graph leads from `a` to `b` over `t`. -/
theorem mem_neighborsOf_of_doorTile {g : RoomGraph} {a b : String} {t : Tile}
    (h : g.doorTile a b = some t) : (b, t) ∈ g.neighborsOf a := by
  obtain ⟨⟨n, u⟩, hfind, rfl⟩ := Option.map_eq_some_iff.mp h
  have hn : n = b := by simpa using List.find?_some hfind
  exact hn ▸ List.mem_of_find?_eq_some hfind

/-- A successor of the room search has a door tile. -/
theorem isSome_doorTile {g : RoomGraph} {a b : String} (h : Edge g.successors a b) :
    (g.doorTile a b).isSome := by
  obtain ⟨c, hc⟩ := h
  obtain ⟨e, he, heq⟩ := List.mem_map.mp hc
  have hb : e.1 = b := congrArg Prod.fst heq
  simp only [doorTile, Option.isSome_map, List.find?_isSome]
  exact ⟨e, he, by simpa using hb⟩

/-- What a push into the neighbour map shows at a room. -/
theorem mem_getD_pushNeighbor {m : Table String (List (String × Tile))} {k r : String}
    {e x : String × Tile} (h : x ∈ ((pushNeighbor m k e).lookup r).getD []) :
    x ∈ (m.lookup r).getD [] ∨ (r = k ∧ x = e) := by
  rw [pushNeighbor, Table.lookup_insert_eq] at h
  split at h
  · rename_i hk
    rw [Option.getD_some, List.mem_append, List.mem_singleton] at h
    exact h.imp (fun h => hk ▸ h) fun h => ⟨hk, h⟩
  · exact .inl h

/-- Every neighbour entry comes from a door, read in one of its two directions. -/
theorem exists_door_of_mem_neighborsOf {doors : List Door} {r n : String} {t : Tile}
    (h : (n, t) ∈ (fromDoors doors).neighborsOf r) :
    ∃ d ∈ doors, d.tile = t ∧ ((d.a = r ∧ d.b = n) ∨ (d.b = r ∧ d.a = n)) := by
  have hgen : ∀ (doors : List Door) (m : Table String (List (String × Tile))),
      (n, t) ∈ ((doors.foldl (fun m d =>
        pushNeighbor (pushNeighbor m d.a (d.b, d.tile)) d.b (d.a, d.tile)) m).lookup r).getD [] →
      (n, t) ∈ (m.lookup r).getD [] ∨
        ∃ d ∈ doors, d.tile = t ∧ ((d.a = r ∧ d.b = n) ∨ (d.b = r ∧ d.a = n)) := by
    intro doors
    induction doors with
    | nil => exact fun m h => .inl h
    | cons d doors ih =>
        intro m h
        rcases ih _ h with h | ⟨d', hd', hspec⟩
        · rcases mem_getD_pushNeighbor h with h | ⟨hr, he⟩
          · rcases mem_getD_pushNeighbor h with h | ⟨hr, he⟩
            · exact .inl h
            · rw [Prod.mk.injEq] at he
              exact .inr ⟨d, List.mem_cons_self, he.2.symm, .inl ⟨hr.symm, he.1.symm⟩⟩
          · rw [Prod.mk.injEq] at he
            exact .inr ⟨d, List.mem_cons_self, he.2.symm, .inr ⟨hr.symm, he.1.symm⟩⟩
        · exact .inr ⟨d', List.mem_cons_of_mem d hd', hspec⟩
  rcases hgen doors ∅ h with h | h
  · exact absurd h (by simp)
  · exact h

end RoomGraph

/-- `Walk g a ws b`: from room `a`, entering the rooms of `ws` in order over their door tiles leads
to room `b`. -/
inductive Walk (g : RoomGraph) : String → List (String × Tile) → String → Prop
  | nil (a : String) : Walk g a [] a
  | cons {a n b : String} {d : Tile} {ws : List (String × Tile)} :
      g.doorTile a n = some d → Walk g n ws b → Walk g a ((n, d) :: ws) b

/-- A walk stays where it is or ends in a room it enters. -/
theorem Walk.dest_mem {g : RoomGraph} {a b : String} {ws : List (String × Tile)}
    (h : Walk g a ws b) : b ∈ a :: ws.map Prod.fst := by
  induction h with
  | nil a => exact List.mem_cons_self
  | cons _ _ ih => exact List.mem_cons_of_mem _ ih

/-- Along a chain of successors every window has a door tile, and the windows form a walk. -/
theorem exists_walk_of_isChain {g : RoomGraph} {b : String} (q : List String) : ∀ a : String,
    (a :: q).IsChain (Edge g.successors) → (a :: q).getLast? = some b →
      ∃ ws, ((a :: q).zip q).mapM g.crossing = some ws ∧
        Walk g a ws b ∧ ws.map Prod.fst = q := by
  induction q with
  | nil =>
      intro a _ hlast
      obtain rfl : a = b := by simpa using hlast
      exact ⟨[], rfl, .nil a, rfl⟩
  | cons n q ih =>
      intro a hchain hlast
      rw [List.isChain_cons_cons] at hchain
      rw [List.getLast?_cons_cons] at hlast
      obtain ⟨ws, hws, hwalk, hrooms⟩ := ih n hchain.2 hlast
      obtain ⟨d, hd⟩ := Option.isSome_iff_exists.mp (RoomGraph.isSome_doorTile hchain.1)
      refine ⟨(n, d) :: ws, ?_, .cons hd hwalk, by rw [List.map_cons, hrooms]⟩
      have hcross : g.crossing (a, n) = some (n, d) := by rw [RoomGraph.crossing, hd]; rfl
      rw [List.zip_cons_cons, List.mapM_cons, hcross, hws]
      rfl

section Route

variable {A : AStar} {g : RoomGraph} {a b : String} {ws : List (String × Tile)}

/-- **A route is a walk that enters no room twice.** -/
theorem route_spec (hA : A.Sound) (h : g.route A a b = some ws) :
    Walk g a ws b ∧ (a :: ws.map Prod.fst).Nodup := by
  rw [RoomGraph.route] at h
  split at h
  · rename_i hab
    obtain rfl : [] = ws := by simpa using h
    exact ⟨hab ▸ .nil a, by simp⟩
  · obtain ⟨⟨p, c⟩, hrun, hmap⟩ := Option.bind_eq_some_iff.mp h
    have hpath := hA _ _ _ _ _ _ hrun
    obtain ⟨q, rfl⟩ := hpath.eq_cons
    obtain ⟨b', hlast, hb'⟩ := hpath.last
    obtain rfl : b' = b := by simpa using hb'
    obtain ⟨ws', hws', hwalk, hrooms⟩ := exists_walk_of_isChain q a hpath.chain hlast
    obtain rfl : ws' = ws := Option.some.inj (hws'.symm.trans hmap)
    exact ⟨hwalk, by rw [hrooms]; exact hpath.nodup⟩

/-- There is a route between rooms that the doors connect. -/
theorem route_ne_none (hA : A.Sound) (hC : A.Complete)
    (hreach : Relation.ReflTransGen (Edge g.successors) a b) : g.route A a b ≠ none := by
  rw [RoomGraph.route]
  split
  · simp
  · obtain ⟨⟨p, c⟩, hrun⟩ := Option.ne_none_iff_exists'.mp
      (hC a b g.successors (fun _ => 0) (fun r => r = b) hreach (by simp))
    have hpath := hA _ _ _ _ _ _ hrun
    obtain ⟨q, rfl⟩ := hpath.eq_cons
    obtain ⟨b', hlast, _⟩ := hpath.last
    obtain ⟨ws, hws, _⟩ := exists_walk_of_isChain q a hpath.chain hlast
    rw [hrun, Option.bind_some]
    exact Option.ne_none_iff_exists'.mpr ⟨ws, hws⟩

end Route

/-! ### Tiles inside one room -/

/-- The neighbours of a tile inside the bounds, all at cost 1. -/
def tileSuccessors (b : Bounds) (t : Tile) : List (Tile × ℕ) :=
  (t.neighbors.filter fun n => n ∈ b).map fun n => (n, 1)

/-- Tile waypoints inside a room, `none` if an end lies outside it. Source: `path.rs` `tile_path` -/
def tilePath (A : AStar) (b : Bounds) (src dst : Tile) : Option (List Tile) :=
  if src ∉ b ∨ dst ∉ b then none
  else
    (A.run src (tileSuccessors b) (fun t => (t.1 - dst.1).natAbs + (t.2 - dst.2).natAbs)
      fun t => t = dst).map Prod.fst

/-- `p` leads inside `b` from `src` to `dst`, tile by tile, without repetition. -/
structure TilePath (b : Bounds) (src dst : Tile) (p : List Tile) : Prop where
  path : IsPath (tileSuccessors b) (fun t => t = dst) src p
  src_mem : src ∈ b
  dst_mem : dst ∈ b

/-- A tile successor is a neighbour inside the bounds. -/
theorem edge_tileSuccessors {b : Bounds} {s t : Tile} :
    Edge (tileSuccessors b) s t ↔ t ∈ s.neighbors ∧ t ∈ b := by
  simp only [Edge, tileSuccessors, List.mem_map, List.mem_filter, decide_eq_true_eq,
    Prod.mk.injEq]
  constructor
  · rintro ⟨c, n, hn, rfl, _⟩
    exact hn
  · exact fun h => ⟨1, t, h, rfl, rfl⟩

/-- A neighbour is another tile. -/
theorem Tile.ne_of_mem_neighbors {s t : Tile} (h : t ∈ s.neighbors) : s ≠ t := by
  rintro rfl
  rw [Tile.mem_neighbors] at h
  omega

namespace TilePath

variable {b : Bounds} {src dst : Tile} {p : List Tile}

/-- Every tile of the path lies inside the room. -/
theorem mem (h : TilePath b src dst p) : ∀ t ∈ p, t ∈ b :=
  h.path.forall_mem h.src_mem fun _ _ _ he => (edge_tileSuccessors.mp he).2

/-- The path starts at its source. -/
theorem eq_cons (h : TilePath b src dst p) : ∃ q, p = src :: q :=
  h.path.eq_cons

/-- The path ends at its destination. -/
theorem getLast? (h : TilePath b src dst p) : p.getLast? = some dst := by
  obtain ⟨t, ht, hd⟩ := h.path.last
  obtain rfl : t = dst := by simpa using hd
  exact ht

/-- Consecutive tiles differ. -/
theorem isChain_ne (h : TilePath b src dst p) : p.IsChain (· ≠ ·) :=
  h.path.chain.imp fun _ _ he => Tile.ne_of_mem_neighbors (edge_tileSuccessors.mp he).1

/-- The path from a tile to itself is that tile. -/
theorem eq_singleton (h : TilePath b src src p) : p = [src] :=
  h.path.eq_singleton fun t ht => by simpa using ht

end TilePath

/-- What `tilePath` returns is a path inside the room. -/
theorem tilePath_spec {A : AStar} (hA : A.Sound) {b : Bounds} {src dst : Tile} {p : List Tile}
    (h : tilePath A b src dst = some p) : TilePath b src dst p := by
  rw [tilePath] at h
  split at h
  · exact absurd h (by simp)
  · rename_i hin
    rw [not_or, not_not, not_not] at hin
    obtain ⟨⟨q, c⟩, hrun, rfl⟩ := Option.map_eq_some_iff.mp h
    exact ⟨hA _ _ _ _ _ _ hrun, hin.1, hin.2⟩

/-- A tile of a rectangle other than the destination has a neighbour inside it that is closer. -/
theorem exists_closer {b : Bounds} {s d : Tile} (hs : s ∈ b) (hd : d ∈ b) (hne : s ≠ d) :
    ∃ n ∈ s.neighbors, n ∈ b ∧
      (n.1 - d.1).natAbs + (n.2 - d.2).natAbs + 1 = (s.1 - d.1).natAbs + (s.2 - d.2).natAbs := by
  obtain ⟨x, y⟩ := s
  obtain ⟨u, v⟩ := d
  simp only [Bounds.mem_iff] at hs hd
  rcases lt_trichotomy x u with hx | rfl | hx
  · refine ⟨(x + 1, y), Tile.mem_neighbors.mpr (by dsimp only; omega), ?_, ?_⟩
    · simp only [Bounds.mem_iff]
      omega
    · simp only
      omega
  · have hy : y ≠ v := fun h => hne (by rw [h])
    rcases lt_or_gt_of_ne hy with hy | hy
    · refine ⟨(x, y + 1), Tile.mem_neighbors.mpr (by dsimp only; omega), ?_, ?_⟩
      · simp only [Bounds.mem_iff]
        omega
      · simp only
        omega
    · refine ⟨(x, y - 1), Tile.mem_neighbors.mpr (by dsimp only; omega), ?_, ?_⟩
      · simp only [Bounds.mem_iff]
        omega
      · simp only
        omega
  · refine ⟨(x - 1, y), Tile.mem_neighbors.mpr (by dsimp only; omega), ?_, ?_⟩
    · simp only [Bounds.mem_iff]
      omega
    · simp only
      omega

/-- **The tiles of a rectangle are connected inside it.** -/
theorem reachable_inside {b : Bounds} {d : Tile} (hd : d ∈ b) (k : ℕ) : ∀ s : Tile, s ∈ b →
    (s.1 - d.1).natAbs + (s.2 - d.2).natAbs = k →
      Relation.ReflTransGen (Edge (tileSuccessors b)) s d := by
  induction k with
  | zero =>
      intro s _ hk
      have hsd : s = d := Prod.ext (by omega) (by omega)
      exact hsd ▸ .refl
  | succ k ih =>
      intro s hs hk
      by_cases hsd : s = d
      · exact hsd ▸ .refl
      · obtain ⟨n, hn, hnb, hdist⟩ := exists_closer hs hd hsd
        exact .head (edge_tileSuccessors.mpr ⟨hn, hnb⟩) (ih n hnb (by omega))

/-- There is a path between any two tiles of a room. -/
theorem tilePath_ne_none {A : AStar} (hC : A.Complete) {b : Bounds} {src dst : Tile}
    (hs : src ∈ b) (hd : dst ∈ b) : tilePath A b src dst ≠ none := by
  rw [tilePath, if_neg (by simp [hs, hd])]
  intro h
  rw [Option.map_eq_none_iff] at h
  exact hC src dst _ _ _ (reachable_inside hd _ src hs rfl) (by simp) h

/-! ### Across doors -/

/-- The door tile itself if it lies inside, otherwise the first neighbour of it that does.
Source: `path.rs` `adjacent_inside` -/
def adjacentInside (b : Bounds) (door : Tile) : Option Tile :=
  if door ∈ b then some door else door.neighbors.find? fun n => n ∈ b

section AdjacentInside

variable {b c : Bounds} {door t : Tile}

/-- The tile found lies inside. -/
theorem mem_of_adjacentInside (h : adjacentInside b door = some t) : t ∈ b := by
  rw [adjacentInside] at h
  split at h
  · obtain rfl : door = t := by simpa using h
    assumption
  · simpa using List.find?_some h

/-- A door tile inside the room is its own exit. -/
theorem adjacentInside_of_mem (h : door ∈ b) : adjacentInside b door = some door :=
  if_pos h

/-- On either side of a door there is a tile to stand on. -/
theorem isSome_adjacentInside_of_doorBetween
    (h : TownLayout.DoorBetween door b c ∨ TownLayout.DoorBetween door c b) :
    (adjacentInside b door).isSome := by
  rw [adjacentInside]
  split
  · rfl
  · rename_i hout
    rcases h with ⟨hin, _⟩ | ⟨_, n, hn, hnb⟩
    · exact absurd hin hout
    · rw [List.find?_isSome]
      exact ⟨n, hn, by simpa using hnb⟩

end AdjacentInside

/-- A segment up to a door: the door tile is pushed only when the exit tile is not already the door
tile. -/
def toDoor (seg : List Tile) (exit door : Tile) : List Tile :=
  if exit ≠ door then seg ++ [door] else seg

/-- The segments from `(room, tile)` on: the loop of `full_route` over the waypoints, with
`current_room` and `current_tile` as arguments, and after the last waypoint the segment inside the
destination room. -/
def routeFrom (A : AStar) (roomBounds : Table String Bounds) (target : Tile) :
    String → Tile → List (String × Tile) → Option (List (String × List Tile))
  | room, tile, [] => do
      let bounds ← roomBounds.lookup room
      let segment ← tilePath A bounds tile target
      return [(room, segment)]
  | room, tile, (next, door) :: rest => do
      let bounds ← roomBounds.lookup room
      let exit ← adjacentInside bounds door
      let segment ← tilePath A bounds tile exit
      let nextBounds ← roomBounds.lookup next
      let entry ← adjacentInside nextBounds door
      let out ← routeFrom A roomBounds target next entry rest
      return (room, toDoor segment exit door) :: out

/-- A route as one segment of tiles per room. The same-room case of the source is the empty list
of waypoints. Source: `path.rs` `full_route` -/
def fullRoute (A : AStar) (g : RoomGraph) (roomBounds : Table String Bounds)
    (src dst : String × Tile) : Option (List (String × List Tile)) := do
  let waypoints ← g.route A src.1 dst.1
  routeFrom A roomBounds dst.2 src.1 src.2 waypoints

/-- `Legs L target room tile ws segs`: the segments `segs` lead from `tile` in `room` over the
waypoints `ws` to `target`. -/
inductive Legs (L : TownLayout) (target : Tile) :
    String → Tile → List (String × Tile) → List (String × List Tile) → Prop
  /-- The segment inside the destination room. -/
  | last {room : String} {tile : Tile} {b : Bounds} {seg : List Tile} :
      L.boundsOf room = some b → TilePath b tile target seg →
        Legs L target room tile [] [(room, seg)]
  /-- A segment up to the door tile, and the rest from the entry tile of the next room. -/
  | door {room next : String} {tile exit entry door : Tile} {b nb : Bounds} {seg : List Tile}
      {ws : List (String × Tile)} {segs : List (String × List Tile)} :
      L.boundsOf room = some b → adjacentInside b door = some exit → TilePath b tile exit seg →
      L.boundsOf next = some nb → adjacentInside nb door = some entry →
      Legs L target next entry ws segs →
        Legs L target room tile ((next, door) :: ws)
          ((room, toDoor seg exit door) :: segs)

section ToDoor

variable {b : Bounds} {tile exit door : Tile} {seg : List Tile}

/-- A segment up to a door starts where the path inside the room starts. -/
theorem toDoor_eq_cons (h : TilePath b tile exit seg) : ∃ q, toDoor seg exit door = tile :: q := by
  obtain ⟨q, rfl⟩ := h.eq_cons
  rw [toDoor]
  split
  · exact ⟨q ++ [door], rfl⟩
  · exact ⟨q, rfl⟩

/-- It ends on the door tile. -/
theorem getLast?_toDoor (h : TilePath b tile exit seg) :
    (toDoor seg exit door).getLast? = some door := by
  rw [toDoor]
  split
  · simp
  · rename_i hexit
    rw [h.getLast?, not_not.mp hexit]

/-- It moves at every step. -/
theorem isChain_toDoor (h : TilePath b tile exit seg) :
    (toDoor seg exit door).IsChain (· ≠ ·) := by
  rw [toDoor]
  split
  · rename_i hexit
    refine List.isChain_append.mpr ⟨h.isChain_ne, List.isChain_singleton door, ?_⟩
    intro x hx y hy
    rw [h.getLast?] at hx
    obtain rfl : exit = x := by simpa using hx
    obtain rfl : door = y := by simpa using hy
    exact hexit
  · exact h.isChain_ne

end ToDoor

section FullRoute

variable {A : AStar} {L : TownLayout} {g : RoomGraph} {target tile : Tile} {room : String}
  {ws : List (String × Tile)} {segs : List (String × List Tile)}

/-- What the loop returns are the legs of its waypoints. -/
theorem legs_of_routeFrom (hA : A.Sound) :
    ∀ (ws : List (String × Tile)) (room : String) (tile : Tile) (segs : List (String × List Tile)),
      routeFrom A L.roomBoundsMap target room tile ws = some segs →
        Legs L target room tile ws segs := by
  intro ws
  induction ws with
  | nil =>
      intro room tile segs h
      simp only [routeFrom, Option.bind_eq_bind, Option.bind_eq_some_iff, Option.pure_def,
        Option.some.injEq] at h
      obtain ⟨b, hb, seg, hseg, rfl⟩ := h
      exact .last hb (tilePath_spec hA hseg)
  | cons w ws ih =>
      intro room tile segs h
      simp only [routeFrom, Option.bind_eq_bind, Option.bind_eq_some_iff, Option.pure_def,
        Option.some.injEq] at h
      obtain ⟨b, hb, exit, hexit, seg, hseg, nb, hnb, entry, hentry, out, hout, rfl⟩ := h
      exact .door hb hexit (tilePath_spec hA hseg) hnb hentry (ih _ _ _ hout)

/-- **A full route follows a walk between the rooms, leg by leg.** -/
theorem fullRoute_spec (hA : A.Sound) {src dst : String × Tile}
    (h : fullRoute A g L.roomBoundsMap src dst = some segs) :
    ∃ ws, g.route A src.1 dst.1 = some ws ∧ Legs L dst.2 src.1 src.2 ws segs := by
  obtain ⟨ws, hws, hrest⟩ := Option.bind_eq_some_iff.mp h
  exact ⟨ws, hws, legs_of_routeFrom hA ws _ _ _ hrest⟩

end FullRoute

end Cliptown.Town
