import Mathlib.Data.Option.Basic

/-!
# Checks that may fail

A request handler is a sequence of checks, each with the error it answers, followed by its effect.

* `ensure p e` — continue if `p`, else fail with `e`.
* `require o e` — the value of `o`, or fail with `e`.
* `bind_eq_ok`, `ensure_eq_ok`, `require_eq_ok`, `mapError_eq_ok` — what a handler that succeeds has
  checked: with them `simp only` turns `handler = .ok r` into the conjunction of its checks.
* `settle` — run a handler on a state that a failure leaves as it was.

Nothing here names a program: the error, value and state types are arbitrary.
-/

namespace Cliptown.Lib

universe u v

variable {ε : Type u} {α β σ : Type v}

/-- Continue if `p` holds, else fail with `e`. -/
def ensure (p : Prop) [Decidable p] (e : ε) : Except ε Unit :=
  if p then .ok () else .error e

/-- The value of an option, or a failure with `e`. -/
def require (o : Option α) (e : ε) : Except ε α :=
  match o with
  | some a => .ok a
  | none => .error e

/-- The state after a handler: a failure leaves it as it was. -/
def settle (s : σ) : Except ε (α × σ) → Except ε α × σ
  | .ok (a, t) => (.ok a, t)
  | .error e => (.error e, s)

/-- A sequence succeeds when both parts do. -/
theorem bind_eq_ok {x : Except ε α} {f : α → Except ε β} {b : β} :
    (x >>= f) = .ok b ↔ ∃ a, x = .ok a ∧ f a = .ok b := by
  cases x with
  | error e => simp [bind, Except.bind]
  | ok a => simp [bind, Except.bind]

/-- A value is returned. -/
theorem pure_eq_ok {a b : α} : (pure a : Except ε α) = .ok b ↔ a = b := by
  simp [pure, Except.pure]

/-- A check that passes. -/
theorem ensure_eq_ok {p : Prop} [Decidable p] {e : ε} {u : Unit} :
    ensure p e = .ok u ↔ p := by
  unfold ensure
  split <;> simp_all

/-- A value that is there. -/
theorem require_eq_ok {o : Option α} {e : ε} {a : α} : require o e = .ok a ↔ o = some a := by
  cases o <;> simp [require]

/-- Another error in place of the one that was answered. -/
theorem mapError_eq_ok {δ : Type u} {x : Except ε α} {f : ε → δ} {a : α} :
    x.mapError f = .ok a ↔ x = .ok a := by
  cases x <;> simp [Except.mapError]

/-- A handler that leaves the state as it was, or succeeds. -/
theorem settle_cases (s : σ) (r : Except ε (α × σ)) :
    (settle s r).2 = s ∨ ∃ a t, r = .ok (a, t) ∧ settle s r = (.ok a, t) := by
  cases r with
  | error e => exact .inl rfl
  | ok p => exact .inr ⟨p.1, p.2, rfl, rfl⟩

/-- A handler that fails has left the state as it was. -/
theorem eq_of_settle_error {s t : σ} {r : Except ε (α × σ)} {e : ε} (h : settle s r = (.error e, t)) :
    t = s := by
  cases r with
  | error e' => exact (Prod.mk.inj h).2.symm
  | ok p => exact absurd (Prod.mk.inj h).1 (by simp)

end Cliptown.Lib
