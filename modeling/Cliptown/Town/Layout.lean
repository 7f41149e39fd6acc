import Cliptown.Lib.Table
import Mathlib.Data.Int.Order.Basic

/-!
# The town layout

* `Tile`, `Bounds` — tiles of the grid and half-open rectangles of them.
* `TownLayout` — rooms and doors, with `TownLayout.roomBoundsMap` and `TownLayout.room`.
* `defaultTown` — the seeded town.
* `TownLayout.WellFormed` — disjoint rooms of positive size, each door tile in one of its two
  rooms and next to the other; `defaultTown_wellFormed`.

The source computes with `i32`. The model uses the integers: the coordinates of a layout are taken
to be small enough that none of its sums overflows.
-/

namespace Cliptown.Town

open Cliptown.Lib

/-- A tile of the grid. Source: `(i32, i32)` -/
abbrev Tile := ℤ × ℤ

/-- The tile moved by an offset. Source: the `nx`, `ny` of `path.rs` -/
def Tile.shift (t d : Tile) : Tile :=
  (t.1 + d.1, t.2 + d.2)

/-- The four offsets, in the order in which the source tries them.
Source: `path.rs`, `for (dx, dy) in …` -/
def offsets : List Tile :=
  [(-1, 0), (1, 0), (0, -1), (0, 1)]

/-- The four tiles at distance 1. -/
def Tile.neighbors (t : Tile) : List Tile :=
  offsets.map t.shift

/-- The neighbours are the tiles at Manhattan distance 1. -/
theorem Tile.mem_neighbors {s t : Tile} :
    t ∈ s.neighbors ↔ (t.1 - s.1).natAbs + (t.2 - s.2).natAbs = 1 := by
  simp only [neighbors, offsets, shift, List.map_cons, List.map_nil, List.mem_cons, Prod.ext_iff,
    List.not_mem_nil, or_false]
  omega

/-- The bounds `(x, y, w, h)` of a room. Source: `seed.rs` `RoomDef::bounds` -/
structure Bounds where
  /-- Left edge. -/
  x : ℤ
  /-- Top edge. -/
  y : ℤ
  /-- Width. -/
  w : ℤ
  /-- Height. -/
  h : ℤ
  deriving DecidableEq, Repr

/-- `t ∈ b`: the tile lies in the half-open rectangle. Source: `path.rs`, the closure `in_bounds` -/
instance : Membership Tile Bounds where
  mem b t := b.x ≤ t.1 ∧ t.1 < b.x + b.w ∧ b.y ≤ t.2 ∧ t.2 < b.y + b.h

theorem Bounds.mem_iff {b : Bounds} {t : Tile} :
    t ∈ b ↔ b.x ≤ t.1 ∧ t.1 < b.x + b.w ∧ b.y ≤ t.2 ∧ t.2 < b.y + b.h :=
  Iff.rfl

instance (t : Tile) (b : Bounds) : Decidable (t ∈ b) :=
  decidable_of_iff _ Bounds.mem_iff.symm

/-- No tile lies in both rectangles. -/
def Bounds.Disjoint (b c : Bounds) : Prop :=
  ∀ t : Tile, t ∈ b → t ∉ c

theorem Bounds.Disjoint.symm {b c : Bounds} (h : b.Disjoint c) : c.Disjoint b :=
  fun t hc hb => h t hb hc

/-- Rectangles separated along an axis are disjoint. -/
theorem Bounds.disjoint_of_separated {b c : Bounds}
    (h : b.x + b.w ≤ c.x ∨ c.x + c.w ≤ b.x ∨ b.y + b.h ≤ c.y ∨ c.y + c.h ≤ b.y) :
    b.Disjoint c := by
  intro t hb hc
  rw [Bounds.mem_iff] at hb hc
  omega

/-! ### Rooms and doors -/

/-- Source: `seed.rs` `RoomDef` -/
structure RoomDef where
  id : String
  bounds : Bounds
  /-- `none` for a common room, `some s` for a room private to the startup `s`. -/
  privateToStartupId : Option String
  deriving DecidableEq, Repr

/-- Source: `seed.rs` `DoorDef` -/
structure DoorDef where
  id : String
  aRoom : String
  bRoom : String
  tile : Tile
  deriving DecidableEq, Repr

/-- Source: `seed.rs` `TownLayout` -/
structure TownLayout where
  townId : String
  rooms : List RoomDef
  doors : List DoorDef
  deriving DecidableEq, Repr

namespace TownLayout

/-- Room ids with their bounds, collected into a hash map: the last room of an id wins.
Source: `seed.rs` `TownLayout::room_bounds_map` -/
def roomBoundsMap (L : TownLayout) : Table String Bounds :=
  .ofList (L.rooms.map fun r => (r.id, r.bounds))

/-- The first room of an id. Source: `seed.rs` `TownLayout::room` -/
def room (L : TownLayout) (id : String) : Option RoomDef :=
  L.rooms.find? fun r => r.id = id

/-- The bounds that the movement code sees for a room. -/
def boundsOf (L : TownLayout) (id : String) : Option Bounds :=
  L.roomBoundsMap.lookup id

/-- The bounds of a room are those of some room definition with that id. -/
theorem exists_room_of_boundsOf {L : TownLayout} {id : String} {b : Bounds}
    (h : L.boundsOf id = some b) : ∃ r ∈ L.rooms, r.id = id ∧ r.bounds = b := by
  have hmem := Table.mem_of_lookup_ofList h
  obtain ⟨r, hr, hrb⟩ := List.mem_map.mp hmem
  exact ⟨r, hr, congrArg Prod.fst hrb, congrArg Prod.snd hrb⟩

/-- A door tile `t` stands in `b` and next to `c`. -/
def DoorBetween (t : Tile) (b c : Bounds) : Prop :=
  t ∈ b ∧ ∃ n ∈ t.neighbors, n ∈ c

instance (t : Tile) (b c : Bounds) : Decidable (DoorBetween t b c) :=
  inferInstanceAs (Decidable (_ ∧ _))

/-- Rooms are pairwise disjoint rectangles of positive size, and every door tile lies in one of
its two rooms and at distance 1 from the other. -/
structure WellFormed (L : TownLayout) : Prop where
  positive : ∀ r ∈ L.rooms, 0 < r.bounds.w ∧ 0 < r.bounds.h
  disjoint : L.rooms.Pairwise fun r s => r.bounds.Disjoint s.bounds
  doors : ∀ d ∈ L.doors, ∃ a ∈ L.boundsOf d.aRoom, ∃ b ∈ L.boundsOf d.bRoom,
    DoorBetween d.tile a b ∨ DoorBetween d.tile b a

/-- A tile of a well-formed layout lies in one room only. -/
theorem WellFormed.room_unique {L : TownLayout} (hL : L.WellFormed) {i j : String} {b c : Bounds}
    {t : Tile} (hi : L.boundsOf i = some b) (hj : L.boundsOf j = some c) (hb : t ∈ b)
    (hc : t ∈ c) : i = j := by
  obtain ⟨r, hr, hri, rfl⟩ := exists_room_of_boundsOf hi
  obtain ⟨s, hs, hsj, rfl⟩ := exists_room_of_boundsOf hj
  by_contra hij
  have hrs : r ≠ s := by
    rintro rfl
    exact hij (hri.symm.trans hsj)
  have hsymm : Std.Symm fun r s : RoomDef => r.bounds.Disjoint s.bounds := ⟨fun _ _ h => h.symm⟩
  have hdis := hL.disjoint.forall hr hs hrs
  exact hdis t hb hc

end TownLayout

/-! ### The seeded town -/

/-- Source: `seed.rs` `TownLayout::default_town` -/
def defaultTown : TownLayout where
  townId := "town_default"
  rooms := [
    ⟨"suite_1", ⟨0, 0, 7, 6⟩, none⟩,
    ⟨"suite_2", ⟨0, 6, 7, 6⟩, none⟩,
    ⟨"suite_3", ⟨33, 0, 7, 6⟩, none⟩,
    ⟨"suite_4", ⟨33, 6, 7, 6⟩, none⟩,
    ⟨"lobby", ⟨7, 4, 26, 4⟩, none⟩,
    ⟨"cafe", ⟨7, 0, 26, 4⟩, none⟩,
    ⟨"library", ⟨7, 8, 26, 4⟩, none⟩]
  doors := [
    ⟨"door_s1_lobby", "suite_1", "lobby", (7, 4)⟩,
    ⟨"door_s2_lobby", "suite_2", "lobby", (7, 7)⟩,
    ⟨"door_s3_lobby", "suite_3", "lobby", (33, 4)⟩,
    ⟨"door_s4_lobby", "suite_4", "lobby", (33, 7)⟩,
    ⟨"door_lobby_cafe", "lobby", "cafe", (20, 4)⟩,
    ⟨"door_lobby_library", "lobby", "library", (20, 8)⟩]

/-- The seeded town is well formed. -/
theorem defaultTown_wellFormed : defaultTown.WellFormed where
  positive := by decide
  disjoint := by
    have hsep : defaultTown.rooms.Pairwise fun r s =>
        r.bounds.x + r.bounds.w ≤ s.bounds.x ∨ s.bounds.x + s.bounds.w ≤ r.bounds.x ∨
          r.bounds.y + r.bounds.h ≤ s.bounds.y ∨ s.bounds.y + s.bounds.h ≤ r.bounds.y := by
      decide
    exact hsep.imp fun h => Bounds.disjoint_of_separated h
  doors := by decide

end Cliptown.Town
