import Cliptown.Town.Continuity

/-!
# Paths inside a room

The tiles of a room form a rectangle, and the search inside it goes by the Manhattan distance.

* `consistent_distance` — the heuristic of the search falls by at most one a step.
* `exists_staircase` — a path that comes closer with every step stays inside the rectangle.
* `Exact` — a path from tile to tile inside the room, as long as the distance asks for.
* `tilePath_exact` — an optimal search finds such a path exactly between two tiles of the room.
-/

namespace Cliptown.Town

open Cliptown.Lib

/-- A step inside a room costs one. -/
theorem tileSuccessors_cost {b : Bounds} (s t : Tile) (c : ℕ) (h : (t, c) ∈ tileSuccessors b s) : c = 1 := by
  obtain ⟨_, _, heq⟩ := List.mem_map.mp h
  exact (congrArg Prod.snd heq).symm

/-- The distance to the destination is a consistent heuristic. -/
theorem consistent_distance (b : Bounds) (dst : Tile) :
    Consistent (tileSuccessors b) (fun t => t = dst) fun t => t.distance dst where
  le_add s t c h := by
    have hc := tileSuccessors_cost s t c h
    have hst := Tile.distance_eq_one_iff.mpr (edge_tileSuccessors.mp ⟨c, h⟩).1
    unfold Tile.distance at hst ⊢
    omega
  goal t ht := by
    obtain rfl : t = dst := by simpa using ht
    simp [Tile.distance]

/-- **A staircase inside the rectangle**: a path whose distance to the destination falls by one with every step. -/
theorem exists_staircase {b : Bounds} {dst : Tile} (hdst : dst ∈ b) (k : ℕ) : ∀ src : Tile, src ∈ b →
    src.distance dst = k → ∃ p, IsPath (tileSuccessors b) (fun t => t = dst) src p ∧ p.length = k + 1 ∧
      ∀ t ∈ p, t.distance dst ≤ k := by
  induction k with
  | zero =>
    intro src _ hk
    obtain rfl : src = dst := by
      unfold Tile.distance at hk
      exact Prod.ext (by omega) (by omega)
    exact ⟨[src], ⟨rfl, List.isChain_singleton src, ⟨src, rfl, by simp⟩, List.nodup_singleton src⟩, rfl,
      fun t ht => List.mem_singleton.mp ht ▸ hk.le⟩
  | succ k ih =>
    intro src hsrc hk
    have hne : src ≠ dst := by
      rintro rfl
      simp [Tile.distance] at hk
    obtain ⟨n, hn, hnb, hcloser⟩ := exists_closer hsrc hdst hne
    have hnk : n.distance dst = k := by
      unfold Tile.distance at hk ⊢
      omega
    obtain ⟨p, hp, hlength, hle⟩ := ih n hnb hnk
    -- the tiles from the next one on are closer than the first, which they therefore do not repeat
    have hsrcp : src ∉ p := by
      intro hmem
      have := hle src hmem
      omega
    refine ⟨src :: p, hp.cons (edge_tileSuccessors.mpr ⟨hn, hnb⟩) hsrcp, by rw [List.length_cons, hlength], ?_⟩
    intro t ht
    rcases List.mem_cons.mp ht with rfl | ht
    · exact hk.le
    · exact (hle t ht).trans (Nat.le_succ k)

/-- `p` leads from `src` to `dst` from tile to tile inside `b`, and it is as long as the distance asks for. -/
structure Exact (b : Bounds) (src dst : Tile) (p : List Tile) : Prop where
  head : p.head? = some src
  last : p.getLast? = some dst
  mem : ∀ t ∈ p, t ∈ b
  adjacent : p.IsChain fun s t => s.distance t = 1
  length : p.length = src.distance dst + 1

/-- A cheapest path inside a room is exact. -/
theorem Exact.of_isCheapest {b : Bounds} {src dst : Tile} {p : List Tile} {c : ℕ} (hsrc : src ∈ b) (hdst : dst ∈ b)
    (h : IsCheapest (tileSuccessors b) (fun t => t = dst) src p c) : Exact b src dst p := by
  have hpath : TilePath b src dst p := ⟨h.path, hsrc, hdst⟩
  refine ⟨h.path.head, hpath.getLast?, hpath.mem, hpath.isChain_distance, ?_⟩
  have hlength := h.cost.length_eq tileSuccessors_cost
  have hlower := (consistent_distance b dst).le_cost h.path h.cost
  obtain ⟨q, hq, hqlength, -⟩ := exists_staircase hdst _ src hsrc rfl
  have hupper : c ≤ src.distance dst := by
    obtain ⟨r, rfl⟩ := hq.eq_cons
    obtain ⟨d, hd⟩ := exists_pathCost r src hq.chain
    have hle := h.le _ d hq hd
    have hdlength := hd.length_eq tileSuccessors_cost
    omega
  omega

section

variable {A : AStar}

/-- **Tile paths are exact**: there is one exactly between two tiles of the room, and it goes from the one to the other
inside the room, tile by tile, without a detour. -/
theorem tilePath_exact (hA : A.Optimal) (b : Bounds) (src dst : Tile) :
    ((tilePath A b src dst).isSome ↔ src ∈ b ∧ dst ∈ b) ∧
      ∀ p, tilePath A b src dst = some p → Exact b src dst p := by
  by_cases hin : src ∉ b ∨ dst ∉ b
  · have hnone : tilePath A b src dst = none := if_pos hin
    rw [hnone]
    refine ⟨⟨fun h => absurd h (by simp), fun h => ?_⟩, fun p hp => absurd hp (by simp)⟩
    exact absurd hin (by simp [h.1, h.2])
  · have hboth : src ∈ b ∧ dst ∈ b := by simpa using hin
    obtain ⟨hsrc, hdst⟩ := hboth
    obtain ⟨q, hq, -, -⟩ := exists_staircase hdst _ src hsrc rfl
    obtain ⟨p, c, hrun, hcheap⟩ := hA src _ _ _ (consistent_distance b dst) ⟨q, hq⟩
    have hsome : tilePath A b src dst = some p := by
      rw [tilePath, if_neg hin]
      exact congrArg (Option.map Prod.fst) hrun
    rw [hsome]
    refine ⟨⟨fun _ => ⟨hsrc, hdst⟩, fun _ => rfl⟩, ?_⟩
    intro p' hp'
    obtain rfl : p = p' := Option.some.inj hp'
    exact Exact.of_isCheapest hsrc hdst hcheap

/-- Along a corridor there is one way to go. -/
theorem tilePath_exact_corridor :
    AStar.cheapest.Optimal ∧
      ((tilePath .cheapest ⟨0, 0, 3, 1⟩ (0, 0) (2, 0)).isSome ↔
        ((0, 0) : Tile) ∈ (⟨0, 0, 3, 1⟩ : Bounds) ∧ ((2, 0) : Tile) ∈ (⟨0, 0, 3, 1⟩ : Bounds)) ∧
      tilePath .cheapest ⟨0, 0, 3, 1⟩ (0, 0) (2, 0) = some [(0, 0), (1, 0), (2, 0)] := by
  obtain ⟨hiff, hexact⟩ := tilePath_exact AStar.cheapest_optimal ⟨0, 0, 3, 1⟩ (0, 0) (2, 0)
  refine ⟨AStar.cheapest_optimal, hiff, ?_⟩
  obtain ⟨p, hp⟩ := Option.isSome_iff_exists.mp (hiff.mpr (by decide))
  have h := hexact p hp
  have hlength : p.length = 3 := h.length
  obtain ⟨s, m, t, rfl⟩ := List.length_eq_three.mp hlength
  obtain rfl : s = (0, 0) := by simpa using h.head
  obtain rfl : t = (2, 0) := by simpa using h.last
  -- the tile between lies in the corridor, one step from the first
  have hm := Bounds.mem_iff.mp (h.mem m (by simp))
  have hstep : Tile.distance (0, 0) m = 1 := (List.isChain_cons_cons.mp h.adjacent).1
  have hmid : m = (1, 0) := by
    unfold Tile.distance at hstep
    simp only at hm hstep
    exact Prod.ext (by dsimp only; omega) (by dsimp only; omega)
  rw [hp, hmid]

end

end Cliptown.Town
