import Mathlib.Data.List.Count

/-!
# Steps that append to a log

* `Appends log P s s'` — what the log of `s'` has beyond that of `s` are entries that satisfy `P`.
* `Appends.refl`, `Appends.trans`, `Appends.foldl` — steps that append compose, also in loops.
* `appends_trans_iff` — where both steps append, the entries of a composed step are those of its parts.
* `Appends.countP` — entries that are not appended are not counted.

Nothing here names a program: the states and the entries are of arbitrary types.
-/

namespace Cliptown.Lib

variable {σ α ι : Type*} {log : σ → List α} {P Q : α → Prop} {s t u : σ}

/-- A step appends entries that satisfy `P` to the log. -/
def Appends (log : σ → List α) (P : α → Prop) (s t : σ) : Prop :=
  ∃ new, log t = log s ++ new ∧ ∀ a ∈ new, P a

namespace Appends

/-- A step that leaves the log alone. -/
theorem of_eq (h : log t = log s) : Appends log P s t :=
  ⟨[], by rw [h, List.append_nil], fun _ ha => absurd ha List.not_mem_nil⟩

theorem refl (s : σ) : Appends log P s s :=
  of_eq rfl

/-- A step that appends one entry. -/
theorem single {a : α} (h : log t = log s ++ [a]) (ha : P a) : Appends log P s t :=
  ⟨[a], h, fun _ hb => List.mem_singleton.mp hb ▸ ha⟩

theorem trans (h : Appends log P s t) (h' : Appends log P t u) : Appends log P s u := by
  obtain ⟨new, heq, hnew⟩ := h
  obtain ⟨new', heq', hnew'⟩ := h'
  refine ⟨new ++ new', by rw [heq', heq, List.append_assoc], fun a ha => ?_⟩
  rcases List.mem_append.mp ha with ha | ha
  · exact hnew a ha
  · exact hnew' a ha

theorem mono (himp : ∀ a, P a → Q a) (h : Appends log P s t) : Appends log Q s t := by
  obtain ⟨new, heq, hnew⟩ := h
  exact ⟨new, heq, fun a ha => himp a (hnew a ha)⟩

/-- A loop whose turns append. -/
theorem foldl {f : σ → ι → σ} (l : List ι) (hf : ∀ i ∈ l, ∀ s, Appends log P s (f s i)) :
    ∀ s, Appends log P s (l.foldl f s) := by
  induction l with
  | nil => exact refl
  | cons i l ih =>
      intro s
      have hrest := ih fun j hj => hf j (List.mem_cons_of_mem _ hj)
      exact (hf i List.mem_cons_self s).trans (hrest (f s i))

/-- Entries of a kind that is not appended are as many as before. -/
theorem countP_eq {p : α → Bool} (h : Appends log P s t) (hp : ∀ a, P a → p a = false) :
    (log t).countP p = (log s).countP p := by
  obtain ⟨new, heq, hnew⟩ := h
  have hnone : new.countP p = 0 := List.countP_eq_zero.mpr fun a ha => by simp [hp a (hnew a ha)]
  rw [heq, List.countP_append, hnone, Nat.add_zero]

end Appends

/-- The entries of two steps together are those of the first and those of the second. -/
theorem appends_trans_iff (h : Appends log Q s t) (h' : Appends log Q t u) :
    Appends log P s u ↔ Appends log P s t ∧ Appends log P t u := by
  refine ⟨?_, fun hboth => hboth.1.trans hboth.2⟩
  obtain ⟨new, heq, -⟩ := h
  obtain ⟨new', heq', -⟩ := h'
  rintro ⟨all, hall, hP⟩
  rw [heq', heq, List.append_assoc] at hall
  obtain rfl := List.append_cancel_left hall
  constructor
  · exact ⟨new, heq, fun a ha => hP a (List.mem_append_left _ ha)⟩
  · exact ⟨new', heq', fun a ha => hP a (List.mem_append_right _ ha)⟩

end Cliptown.Lib
