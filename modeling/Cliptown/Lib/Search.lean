import Mathlib.Logic.Relation
import Mathlib.Data.List.Chain
import Mathlib.Data.List.Nodup
import Mathlib.Data.Nat.Find

/-!
# Path search

* `IsPath succ success a p` — `p` starts at `a`, moves along `succ`, ends where `success` holds
  and repeats no node.
* `AStar` — the shape of a generic best-first search `astar(start, successors, heuristic,
  success)` returning a path and its cost, with the two facts its callers rely on:
  `AStar.Sound` (what it returns is a path) and `AStar.Complete` (it finds one when there is one).
* `exists_isPath` — reachability gives a path without repetition.
* `deepen` — iterative deepening, an executable search, with `isPath_of_deepen`.
* `AStar.reference` — a search that runs on short paths and is sound and complete on all.
* `PathCost`, `IsCheapest`, `Consistent`, `AStar.Optimal` — what a path costs, and a search that
  returns a cheapest one under a consistent heuristic; `Consistent.le_cost`: the heuristic is a
  lower bound.
* `AStar.cheapest` — a search that is optimal.
-/

namespace Cliptown.Lib

variable {α : Type} {succ : α → List (α × ℕ)} {success : α → Bool} {a b : α} {p : List α}

/-- One move of the successor function, whatever it costs. -/
def Edge (succ : α → List (α × ℕ)) (a b : α) : Prop :=
  ∃ c, (b, c) ∈ succ a

/-- `p` is a path of successors from `a` to a node where `success` holds, with no node twice. -/
structure IsPath (succ : α → List (α × ℕ)) (success : α → Bool) (a : α) (p : List α) : Prop where
  /-- It starts at `a`. -/
  head : p.head? = some a
  /-- Each node is a successor of the one before. -/
  chain : p.IsChain (Edge succ)
  /-- It ends at a goal. -/
  last : ∃ b, p.getLast? = some b ∧ success b
  /-- No node is visited twice. -/
  nodup : p.Nodup

/-- The shape of `astar`: start node, successor function with costs, heuristic, goal test. -/
structure AStar where
  /-- The search itself. -/
  run : {α : Type} → [DecidableEq α] → α → (α → List (α × ℕ)) → (α → ℕ) → (α → Bool) →
    Option (List α × ℕ)

/-- What is returned is a path from the start to a goal. -/
def AStar.Sound (A : AStar) : Prop :=
  ∀ {α : Type} [DecidableEq α] (a : α) (succ : α → List (α × ℕ)) (h : α → ℕ)
    (success : α → Bool) (p : List α) (c : ℕ),
    A.run a succ h success = some (p, c) → IsPath succ success a p

/-- A path is found whenever the successors connect the start to a goal. -/
def AStar.Complete (A : AStar) : Prop :=
  ∀ {α : Type} [DecidableEq α] (a b : α) (succ : α → List (α × ℕ)) (h : α → ℕ)
    (success : α → Bool),
    Relation.ReflTransGen (Edge succ) a b → success b → A.run a succ h success ≠ none

/-! ### Paths -/

namespace IsPath

/-- A path is its start followed by the rest. -/
theorem eq_cons (h : IsPath succ success a p) : ∃ q, p = a :: q := by
  rcases p with _ | ⟨x, q⟩
  · simpa using h.head
  · have hx : x = a := by simpa using h.head
    exact ⟨q, by rw [hx]⟩

/-- A path from a goal that is the only goal is the start alone. -/
theorem eq_singleton (h : IsPath succ success a p) (ha : ∀ b, success b → b = a) : p = [a] := by
  obtain ⟨q, rfl⟩ := h.eq_cons
  obtain ⟨b, hb, hs⟩ := h.last
  rcases q with _ | ⟨x, q⟩
  · rfl
  · -- the goal is the last node of the rest, so `a` would occur twice
    have hmem : b ∈ x :: q := by
      rw [List.getLast?_cons_cons] at hb
      exact List.mem_of_getLast? hb
    rw [ha b hs] at hmem
    exact absurd hmem (List.nodup_cons.mp h.nodup).1

/-- A property of the start that every move keeps holds along the path. -/
theorem forall_mem {P : α → Prop} (h : IsPath succ success a p) (ha : P a)
    (hstep : ∀ x y, P x → Edge succ x y → P y) : ∀ x ∈ p, P x := by
  obtain ⟨q, rfl⟩ := h.eq_cons
  have hgen : ∀ (q : List α) (a : α), P a → (a :: q).IsChain (Edge succ) →
      ∀ x ∈ a :: q, P x := by
    intro q
    induction q with
    | nil =>
        intro a ha _ x hx
        rw [List.mem_singleton] at hx
        exact hx ▸ ha
    | cons y q ih =>
        intro a ha hc x hx
        rw [List.isChain_cons_cons] at hc
        rcases List.mem_cons.mp hx with rfl | hx
        · exact ha
        · exact ih y (hstep _ _ ha hc.1) hc.2 x hx
  exact hgen q a ha h.chain

end IsPath

/-- A path may be entered one move earlier, from a node it does not visit. -/
theorem IsPath.cons [DecidableEq α] (h : IsPath succ success b p) (he : Edge succ a b)
    (ha : a ∉ p) : IsPath succ success a (a :: p) := by
  obtain ⟨q, rfl⟩ := h.eq_cons
  refine ⟨rfl, List.isChain_cons_cons.mpr ⟨he, h.chain⟩, ?_, List.nodup_cons.mpr ⟨ha, h.nodup⟩⟩
  obtain ⟨g, hg, hs⟩ := h.last
  exact ⟨g, by rw [List.getLast?_cons_cons]; exact hg, hs⟩

/-- The part of a path from a node it visits is a path. -/
theorem IsPath.suffix {q r : List α} (h : IsPath succ success b (q ++ a :: r)) :
    IsPath succ success a (a :: r) := by
  refine ⟨rfl, h.chain.right_of_append, ?_, (List.nodup_append.mp h.nodup).2.1⟩
  obtain ⟨g, hg, hs⟩ := h.last
  refine ⟨g, ?_, hs⟩
  rw [List.getLast?_append] at hg
  simpa [List.getLast?_cons] using hg

/-- **Reachability gives a path without repetition.** -/
theorem exists_isPath [DecidableEq α] (h : Relation.ReflTransGen (Edge succ) a b)
    (hb : success b) : ∃ p, IsPath succ success a p := by
  induction h using Relation.ReflTransGen.head_induction_on with
  | refl => exact ⟨[b], rfl, List.isChain_singleton b, ⟨b, rfl, hb⟩, List.nodup_singleton b⟩
  | @head x y he _ ih =>
      obtain ⟨p, hp⟩ := ih
      by_cases hx : x ∈ p
      · obtain ⟨q, r, rfl⟩ := List.append_of_mem hx
        exact ⟨x :: r, hp.suffix⟩
      · exact ⟨x :: p, hp.cons he hx⟩

/-! ### Iterative deepening -/

section Deepen

variable [DecidableEq α]

/-- Depth-first search to depth `n` around the nodes of `visited`. -/
def depthFirst (succ : α → List (α × ℕ)) (success : α → Bool) : ℕ → List α → α → Option (List α)
  | 0, _, a => if success a then some [a] else none
  | n + 1, visited, a =>
      if success a then some [a]
      else (succ a).findSome? fun y =>
        if y.1 ∈ a :: visited then none
        else (depthFirst succ success n (a :: visited) y.1).map (a :: ·)

/-- Depth-first search to depths `0, 1, …, n` in turn. -/
def deepen (succ : α → List (α × ℕ)) (success : α → Bool) (n : ℕ) (a : α) : Option (List α) :=
  (List.range (n + 1)).findSome? fun k => depthFirst succ success k [] a

/-- What depth-first search returns is a path around the visited nodes. -/
theorem isPath_of_depthFirst (n : ℕ) : ∀ (visited : List α) (a : α) (p : List α), a ∉ visited →
    depthFirst succ success n visited a = some p →
      IsPath succ success a p ∧ ∀ x ∈ p, x ∉ visited := by
  have hgoal : ∀ (visited : List α) (a : α), a ∉ visited → success a →
      IsPath succ success a [a] ∧ ∀ x ∈ [a], x ∉ visited := by
    intro visited a ha hs
    refine ⟨⟨rfl, List.isChain_singleton a, ⟨a, rfl, hs⟩, List.nodup_singleton a⟩, ?_⟩
    intro x hx
    rw [List.mem_singleton] at hx
    exact hx ▸ ha
  induction n with
  | zero =>
      intro visited a p ha h
      simp only [depthFirst] at h
      split at h
      · obtain rfl : [a] = p := by simpa using h
        exact hgoal visited a ha ‹_›
      · exact absurd h (by simp)
  | succ n ih =>
      intro visited a p ha h
      simp only [depthFirst] at h
      split at h
      · obtain rfl : [a] = p := by simpa using h
        exact hgoal visited a ha ‹_›
      · obtain ⟨⟨y, c⟩, hmem, hy⟩ := List.exists_of_findSome?_eq_some h
        dsimp only at hy
        split at hy
        · exact absurd hy (by simp)
        · rename_i hnew
          obtain ⟨q, hq, rfl⟩ := Option.map_eq_some_iff.mp hy
          obtain ⟨hpath, hout⟩ := ih (a :: visited) y q hnew hq
          have haq : a ∉ q := fun hin => hout a hin List.mem_cons_self
          refine ⟨hpath.cons ⟨c, hmem⟩ haq, ?_⟩
          intro x hx
          rcases List.mem_cons.mp hx with rfl | hx
          · exact ha
          · exact fun hv => hout x hx (List.mem_cons_of_mem a hv)

/-- What iterative deepening returns is a path. -/
theorem isPath_of_deepen {n : ℕ} (h : deepen succ success n a = some p) :
    IsPath succ success a p := by
  obtain ⟨k, _, hk⟩ := List.exists_of_findSome?_eq_some h
  exact (isPath_of_depthFirst k [] a p List.not_mem_nil hk).1

end Deepen

/-! ### A sound and complete search -/

open Classical in
/-- Iterative deepening to `depth`, and beyond it some path if there is one. The cost is that of
unit steps. -/
noncomputable def AStar.reference (depth : ℕ) : AStar where
  run a succ _ success :=
    match deepen succ success depth a with
    | some p => some (p, p.length - 1)
    | none =>
        if h : ∃ p, IsPath succ success a p then some (h.choose, h.choose.length - 1) else none

/-- The reference search returns paths. -/
theorem AStar.reference_sound (depth : ℕ) : (AStar.reference depth).Sound := by
  intro α _ a succ h success p c hrun
  simp only [AStar.reference] at hrun
  split at hrun
  · rename_i q hq
    obtain ⟨rfl, _⟩ : q = p ∧ q.length - 1 = c := by simpa using hrun
    exact isPath_of_deepen hq
  · split at hrun
    · rename_i hex
      obtain ⟨hp, _⟩ : hex.choose = p ∧ hex.choose.length - 1 = c := by simpa using hrun
      exact hp ▸ hex.choose_spec
    · exact absurd hrun (by simp)

/-- The reference search finds a path where there is one. -/
theorem AStar.reference_complete (depth : ℕ) : (AStar.reference depth).Complete := by
  intro α _ a b succ h success hreach hb
  simp only [AStar.reference]
  split
  · simp
  · rw [dif_pos (exists_isPath hreach hb)]
    simp

/-! ### Cheapest paths -/

/-- The moves along the nodes cost `c` in all. -/
inductive PathCost (succ : α → List (α × ℕ)) : List α → ℕ → Prop
  | single (a : α) : PathCost succ [a] 0
  | cons {a b : α} {p : List α} {c d : ℕ} :
      (b, c) ∈ succ a → PathCost succ (b :: p) d → PathCost succ (a :: b :: p) (c + d)

/-- `p` is a path of cost `c`, and no path costs less. -/
structure IsCheapest (succ : α → List (α × ℕ)) (success : α → Bool) (a : α) (p : List α)
    (c : ℕ) : Prop where
  path : IsPath succ success a p
  cost : PathCost succ p c
  le : ∀ q d, IsPath succ success a q → PathCost succ q d → c ≤ d

/-- The heuristic falls by at most what a move costs, and it is zero at every goal. -/
structure Consistent (succ : α → List (α × ℕ)) (success : α → Bool) (h : α → ℕ) : Prop where
  le_add : ∀ a b c, (b, c) ∈ succ a → h a ≤ c + h b
  goal : ∀ a, success a → h a = 0

/-- A cheapest path is returned whenever the heuristic is consistent and there is a path. -/
def AStar.Optimal (A : AStar) : Prop :=
  ∀ {α : Type} [DecidableEq α] (a : α) (succ : α → List (α × ℕ)) (h : α → ℕ)
    (success : α → Bool), Consistent succ success h → (∃ p, IsPath succ success a p) →
      ∃ p c, A.run a succ h success = some (p, c) ∧ IsCheapest succ success a p c

/-- A chain of moves has a cost. -/
theorem exists_pathCost (p : List α) : ∀ a, (a :: p).IsChain (Edge succ) →
    ∃ c, PathCost succ (a :: p) c := by
  induction p with
  | nil => exact fun a _ => ⟨0, .single a⟩
  | cons b p ih =>
      intro a h
      rw [List.isChain_cons_cons] at h
      obtain ⟨⟨c, hc⟩, hrest⟩ := h
      obtain ⟨d, hd⟩ := ih b hrest
      exact ⟨c + d, .cons hc hd⟩

/-- If every move costs one, a path has one node more than it costs. -/
theorem PathCost.length_eq {c : ℕ} (h : PathCost succ p c) (hunit : ∀ a b c, (b, c) ∈ succ a → c = 1) :
    p.length = c + 1 := by
  induction h with
  | single a => rfl
  | cons hmove _ ih =>
      rw [List.length_cons, ih, hunit _ _ _ hmove]
      omega

namespace Consistent

variable {h : α → ℕ} {c : ℕ}

/-- Along a path the heuristic falls by at most the cost. -/
theorem le_add_of_pathCost (hh : Consistent succ success h) (hp : PathCost succ p c) :
    ∀ a b, p.head? = some a → p.getLast? = some b → h a ≤ c + h b := by
  induction hp with
  | single x =>
      intro a b ha hb
      obtain rfl : x = a := by simpa using ha
      obtain rfl : x = b := by simpa using hb
      omega
  | @cons x y q c d hmove _ ih =>
      intro a b ha hb
      obtain rfl : x = a := by simpa using ha
      rw [List.getLast?_cons_cons] at hb
      have hfirst := hh.le_add x y c hmove
      have hrest := ih y b rfl hb
      omega

/-- A consistent heuristic is a lower bound of the cost of every path to a goal. -/
theorem le_cost (hh : Consistent succ success h) (hp : IsPath succ success a p)
    (hc : PathCost succ p c) : h a ≤ c := by
  obtain ⟨b, hlast, hb⟩ := hp.last
  have := hh.le_add_of_pathCost hc a b hp.head hlast
  rw [hh.goal b hb] at this
  exact this

end Consistent

/-- Where there is a path there is a cheapest one. -/
theorem exists_isCheapest (h : ∃ p, IsPath succ success a p) :
    ∃ x : List α × ℕ, IsCheapest succ success a x.1 x.2 := by
  classical
  have hcost : ∃ c p, IsPath succ success a p ∧ PathCost succ p c := by
    obtain ⟨p, hp⟩ := h
    obtain ⟨q, rfl⟩ := hp.eq_cons
    obtain ⟨c, hc⟩ := exists_pathCost q a hp.chain
    exact ⟨c, a :: q, hp, hc⟩
  obtain ⟨p, hp, hc⟩ := Nat.find_spec hcost
  exact ⟨(p, Nat.find hcost), hp, hc, fun q d hq hd => Nat.find_min' hcost ⟨q, hq, hd⟩⟩

open Classical in
/-- Some cheapest path, with its cost. -/
noncomputable def AStar.cheapest : AStar where
  run a succ _ success :=
    if h : ∃ x : _ × ℕ, IsCheapest succ success a x.1 x.2 then some h.choose else none

/-- It is optimal. -/
theorem AStar.cheapest_optimal : AStar.cheapest.Optimal := by
  intro α _ a succ h success _ hex
  have hcheap := exists_isCheapest hex
  exact ⟨_, _, dif_pos hcheap, hcheap.choose_spec⟩

end Cliptown.Lib
