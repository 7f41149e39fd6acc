import Mathlib.Data.List.Chain
import Mathlib.Order.Lattice

/-!
# Levels crossed by a sequence

A value moves, and what is reported of a move is the highest level that it crosses upwards.

* `crossedLevel` — what is reported of one move, with `crossedLevel_eq_some_iff`.
* `crossedLevels` — what is reported of a sequence of moves.
* `pairwise_crossedLevels` — where the value never falls, the levels reported rise strictly.
* `crossedLevel_iff_first` — and a level is reported by the first move that reaches it, unless that move reaches
  a higher one.

Nothing here names a program: the values are of any linear order.
-/

namespace Cliptown.Lib

variable {α : Type*} [LinearOrder α] {levels before ys : List α} {l x y : α}

/-- The first of the levels above `prev` that is not above `new`. -/
def crossedLevel (levels : List α) (prev new : α) : Option α :=
  levels.find? fun l => prev < l ∧ l ≤ new

/-- What is reported of the moves from `x` along a list. -/
def crossedLevels (levels : List α) : α → List α → List α
  | _, [] => []
  | x, y :: ys => (crossedLevel levels x y).toList ++ crossedLevels levels y ys

/-- A level that is reported was crossed. -/
theorem crossed_of_crossedLevel (h : crossedLevel levels x y = some l) : l ∈ levels ∧ x < l ∧ l ≤ y := by
  have hcrossed := List.find?_some h
  exact ⟨List.mem_of_find?_eq_some h, by simpa using hcrossed⟩

/-- Nothing is reported where the value stays. -/
theorem crossedLevel_self : crossedLevel levels x x = none := by
  rcases h : crossedLevel levels x x with _ | l
  · rfl
  · obtain ⟨-, hlt, hle⟩ := crossed_of_crossedLevel h
    exact absurd hlt (not_lt.mpr hle)

/-- **One move**: where the levels fall, the highest one that is crossed is reported. -/
theorem crossedLevel_eq_some_iff (hlevels : levels.Pairwise (· > ·)) :
    crossedLevel levels x y = some l ↔
      l ∈ levels ∧ x < l ∧ l ≤ y ∧ ∀ u ∈ levels, l < u → y < u := by
  induction levels with
  | nil => simp [crossedLevel]
  | cons u levels ih =>
      obtain ⟨hu, hlevels⟩ := List.pairwise_cons.mp hlevels
      unfold crossedLevel
      by_cases hcross : x < u ∧ u ≤ y
      · rw [List.find?_cons_of_pos (by simpa using hcross), Option.some.injEq]
        constructor
        · rintro rfl
          refine ⟨List.mem_cons_self, hcross.1, hcross.2, fun v hv huv => ?_⟩
          rcases List.mem_cons.mp hv with rfl | hv
          · exact absurd huv (lt_irrefl v)
          · exact absurd huv (hu v hv).asymm
        · rintro ⟨hl, -, -, hhighest⟩
          rcases List.mem_cons.mp hl with rfl | hl
          · rfl
          · exact absurd (hhighest u List.mem_cons_self (hu l hl)) (not_lt.mpr hcross.2)
      · rw [List.find?_cons_of_neg (by simpa using hcross)]
        refine (ih hlevels).trans ?_
        constructor
        · rintro ⟨hl, hxl, hly, hhighest⟩
          refine ⟨List.mem_cons_of_mem _ hl, hxl, hly, fun v hv hlv => ?_⟩
          rcases List.mem_cons.mp hv with rfl | hv
          · exact not_le.mp fun hvy => hcross ⟨hxl.trans hlv, hvy⟩
          · exact hhighest v hv hlv
        · rintro ⟨hl, hxl, hly, hhighest⟩
          rcases List.mem_cons.mp hl with rfl | hl
          · exact absurd ⟨hxl, hly⟩ hcross
          · exact ⟨hl, hxl, hly, fun v hv => hhighest v (List.mem_cons_of_mem _ hv)⟩

/-- Where the value never falls, every level that is reported lies above where it starts. -/
theorem lt_of_mem_crossedLevels : ∀ {ys : List α} {x : α}, (x :: ys).IsChain (· ≤ ·) →
    l ∈ crossedLevels levels x ys → x < l := by
  intro ys
  induction ys with
  | nil => exact fun _ hl => absurd hl List.not_mem_nil
  | cons y ys ih =>
      intro x hchain hl
      obtain ⟨hxy, hchain⟩ := List.isChain_cons_cons.mp hchain
      rcases List.mem_append.mp hl with hl | hl
      · exact (crossed_of_crossedLevel (Option.mem_toList.mp hl)).2.1
      · exact hxy.trans_lt (ih hchain hl)

/-- **A whole sequence**: the levels that are reported rise strictly. -/
theorem pairwise_crossedLevels : ∀ {ys : List α} {x : α}, (x :: ys).IsChain (· ≤ ·) →
    (crossedLevels levels x ys).Pairwise (· < ·) := by
  intro ys
  induction ys with
  | nil => exact fun _ => List.Pairwise.nil
  | cons y ys ih =>
      intro x hchain
      obtain ⟨-, hchain⟩ := List.isChain_cons_cons.mp hchain
      refine List.pairwise_append.mpr ⟨?_, ih hchain, fun u hu v hv => ?_⟩
      · cases crossedLevel levels x y <;> simp
      · have hreached := (crossed_of_crossedLevel (Option.mem_toList.mp hu)).2.2
        exact hreached.trans_lt (lt_of_mem_crossedLevels hchain hv)

/-- **The first move that reaches a level** reports it, unless it reaches a higher one. -/
theorem crossedLevel_iff_first (hlevels : levels.Pairwise (· > ·)) (hbefore : ∀ z ∈ before, z ≤ x) :
    crossedLevel levels x y = some l ↔
      l ∈ levels ∧ (∀ z ∈ x :: before, z < l) ∧ l ≤ y ∧ ∀ u ∈ levels, l < u → y < u := by
  rw [crossedLevel_eq_some_iff hlevels]
  refine and_congr_right fun _ => and_congr_left fun _ => ?_
  constructor
  · intro hxl z hz
    rcases List.mem_cons.mp hz with rfl | hz
    · exact hxl
    · exact (hbefore z hz).trans_lt hxl
  · exact fun h => h x List.mem_cons_self

end Cliptown.Lib
