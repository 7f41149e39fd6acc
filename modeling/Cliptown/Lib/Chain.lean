import Mathlib.Data.Set.Finite.Basic
import Mathlib.Logic.Relation
import Mathlib.Order.WellFounded

/-!
# Relations without cycles

* `Acyclic r` — no element reaches itself by one or more steps of `r`.
* `Acyclic.mono` — fewer steps keep it.
* `Acyclic.insert`, `acyclic_redirect_iff` — one step `t → u` more: a cycle appears if and only if
  `u` reached `t` before.
* `Acyclic.exists_end` — within a finite set every element reaches one that has no further step.

Nothing here names a program: the elements are of any type.
-/

namespace Cliptown.Lib

open Relation

variable {τ : Type*} {r r' : τ → τ → Prop} {t u x : τ}

/-- No element reaches itself. -/
def Acyclic (r : τ → τ → Prop) : Prop :=
  ∀ x, ¬ TransGen r x x

/-- The empty relation has no cycle. -/
theorem acyclic_of_forall_not (h : ∀ x y, ¬ r x y) : Acyclic r := by
  intro x hx
  obtain ⟨y, hxy, _⟩ := TransGen.head'_iff.mp hx
  exact h x y hxy

namespace Acyclic

/-- Fewer steps have no more cycles. -/
theorem mono (h : Acyclic r) (hsub : ∀ x y, r' x y → r x y) : Acyclic r' := by
  intro x hx
  exact h x (TransGen.mono hsub x x hx)

/-- What one step `t → u` more lets an element reach. -/
theorem transGen_insert (hsub : ∀ x y, r' x y → r x y ∨ (x = t ∧ y = u)) {x y : τ}
    (h : TransGen r' x y) :
    TransGen r x y ∨ (ReflTransGen r x t ∧ ReflTransGen r u y) := by
  induction h with
  | single hxy =>
      rcases hsub _ _ hxy with hr | ⟨rfl, rfl⟩
      · exact .inl (.single hr)
      · exact .inr ⟨.refl, .refl⟩
  | tail _ hyz ih =>
      rcases hsub _ _ hyz with hr | ⟨rfl, rfl⟩
      · rcases ih with ih | ⟨hxt, huy⟩
        · exact .inl (ih.tail hr)
        · exact .inr ⟨hxt, huy.tail hr⟩
      · rcases ih with ih | ⟨hxt, _⟩
        · exact .inr ⟨ih.to_reflTransGen, .refl⟩
        · exact .inr ⟨hxt, .refl⟩

/-- **One step more** closes no cycle when its target did not reach its source. -/
theorem insert (h : Acyclic r) (hsub : ∀ x y, r' x y → r x y ∨ (x = t ∧ y = u))
    (hu : ¬ ReflTransGen r u t) : Acyclic r' := by
  intro x hx
  rcases transGen_insert hsub hx with hr | ⟨hxt, hux⟩
  · exact h x hr
  · exact hu (hux.trans hxt)

/-- **Within a finite set every chain ends.** -/
theorem exists_end (h : Acyclic r) {S : Set τ} (hS : S.Finite)
    (hclosed : ∀ x ∈ S, ∀ y, r x y → y ∈ S) (hx : x ∈ S) :
    ∃ y ∈ S, ReflTransGen r x y ∧ ∀ z, ¬ r y z := by
  have : Finite S := hS
  let below : S → S → Prop := fun y z => TransGen r z y
  have : IsTrans S below := ⟨fun _ _ _ hab hbc => hbc.trans hab⟩
  have : Std.Irrefl below := ⟨fun y hy => h y hy⟩
  have hwf : WellFounded below := Finite.wellFounded_of_trans_of_irrefl below
  obtain ⟨y, hy, hmin⟩ := hwf.has_min {y | ReflTransGen r x y} ⟨⟨x, hx⟩, .refl⟩
  refine ⟨y, y.2, hy, fun z hyz => ?_⟩
  have hz : z ∈ S := hclosed y y.2 z hyz
  exact hmin ⟨z, hz⟩ (ReflTransGen.tail hy hyz) (.single hyz)

end Acyclic

/-- A path to `t` does not need the steps out of `t`. -/
theorem reflTransGen_avoid (hkeep : ∀ x y, x ≠ t → r x y → r' x y) (h : ReflTransGen r x t) :
    ReflTransGen r' x t := by
  induction h using ReflTransGen.head_induction_on with
  | refl => exact .refl
  | @head x y hxy _ ih =>
      by_cases hxt : x = t
      · rw [hxt]
      · exact .head (hkeep x y hxt hxy) ih

/-- **Redirecting an element**: when the steps out of `t` are replaced by the one step `t → u`, a
cycle appears if and only if `u` reached `t` before. -/
theorem acyclic_redirect_iff (h : Acyclic r)
    (hstep : ∀ x y, r' x y ↔ (x ≠ t ∧ r x y) ∨ (x = t ∧ y = u)) :
    Acyclic r' ↔ ¬ ReflTransGen r u t := by
  constructor
  · intro hr' hut
    have hback : ReflTransGen r' u t :=
      reflTransGen_avoid (fun x y hxt hxy => (hstep x y).mpr (.inl ⟨hxt, hxy⟩)) hut
    exact hr' t (.head' ((hstep t u).mpr (.inr ⟨rfl, rfl⟩)) hback)
  · apply h.insert
    intro x y hxy
    rcases (hstep x y).mp hxy with ⟨_, hr⟩ | hr
    · exact .inl hr
    · exact .inr hr

end Cliptown.Lib
