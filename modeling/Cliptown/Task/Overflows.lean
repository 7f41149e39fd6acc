import Cliptown.Task.Notices
import Cliptown.Task.Rounds

/-!
# Builds with and without overflow checks

`now - deadline_at` is computed in `i64`, and a deadline is any `i64`. A build without overflow checks wraps the
difference around, which is what the scan of the scheduler does. In a build with them the scan panics, and with it the
loop ends.

* `checkedScan`, `checkedTick` — the scan and the tick of a build with overflow checks.
* `CheckedLoop`, `loopRun` — the runs of either build.
* `LoopEvent.Overflows` — a tick that announces a deadline so long past that the difference does not fit.
* `checkedTick_eq`, `loopRun_eq` — where no tick overflows, both builds do the same.
-/

namespace Cliptown.Task

open Cliptown.Lib Cliptown.Town Cliptown.World Cliptown.Console

/-- The difference of two `i64` fits `i64`. -/
def FitsI64 (a b : ℤ) : Prop := -2 ^ 63 ≤ a - b ∧ a - b < 2 ^ 63

instance (a b : ℤ) : Decidable (FitsI64 a b) := inferInstanceAs (Decidable (_ ∧ _))

/-- The rows in turn, until one of them panics: the subtraction comes before the notice and the stamp. -/
def notifyAll (env : Env) : List (String × String × ℤ) → LoopState → Except LoopState LoopState
  | [], s => .ok s
  | (id, startupId, deadline) :: rows, s =>
      if FitsI64 env.now deadline then notifyAll env rows (notifyOverdue env s id startupId deadline) else .error s

/-- Source: `scheduler.rs` `tick`, the deadline scan, with overflow checks -/
def checkedScan (env : Env) (s : LoopState) : Except LoopState LoopState := notifyAll env (overdueRows env s.db) s

/-- A tick with overflow checks. What the loop holds in memory is lost when it panics; what is in the database
stays. The cutoff of the auto-steal pass always fits: the clock is not negative, and the setting is positive. -/
def checkedTick (cfg : Config) (env : Env) (s : LoopState) : Except LoopState LoopState :=
  (checkedScan env (dispatchLoop cfg env (afterMoves env s))).map fun s =>
    autoRecoveryPass env (autoStealPass env s)

/-- The state, and whether the loop has ended. -/
structure CheckedLoop where
  state : LoopState
  ended : Bool

/-- One request. When the loop has ended nothing is handled but what does not go through it. -/
def LoopEvent.applyIn (checks : Bool) (cfg : Config) (c : CheckedLoop) (l : LoopEvent) : CheckedLoop :=
  if c.ended then
    match l with
    | .createTask .. => { c with state := l.apply cfg c.state }
    | _ => c
  else
    match l, checks with
    | .tick env, true =>
        match checkedTick cfg env c.state with
        | .ok s => ⟨s, false⟩
        | .error s => ⟨s, true⟩
    | _, _ => ⟨l.apply cfg c.state, false⟩

/-- A run of the loop, in a build with or without overflow checks. -/
def loopRun (checks : Bool) (cfg : Config) (s : LoopState) (ls : List LoopEvent) : CheckedLoop :=
  ls.foldl (LoopEvent.applyIn checks cfg) ⟨s, false⟩

/-- A tick that finds a deadline to be announced which lies so far back that the difference does not fit. -/
def LoopEvent.Overflows (s : LoopState) : LoopEvent → Prop
  | .tick env => ∃ id ∈ s.db.tasks.keys, ∃ t ∈ s.db.tasks.lookup id, ∃ d ∈ overdue env.now t, ¬ FitsI64 env.now d
  | _ => False

instance (s : LoopState) (l : LoopEvent) : Decidable (l.Overflows s) :=
  match l with
  | .tick _ => inferInstanceAs (Decidable (∃ _ ∈ _, ∃ _ ∈ _, ∃ _ ∈ _, _))
  | .autoSteal _ | .autoRecovery _ | .mcp .. | .console .. | .createTask .. | .registerWorker _
  | .unregisterWorker _ => inferInstanceAs (Decidable False)

/-- No tick of a run overflows, unless overflows are not checked. -/
def Fits (checks : Bool) (cfg : Config) (s : LoopState) (ls : List LoopEvent) : Prop :=
  checks = true → ∀ x ∈ runTrace cfg s ls, ¬ x.2.Overflows x.1

instance (checks : Bool) (cfg : Config) (s : LoopState) (ls : List LoopEvent) : Decidable (Fits checks cfg s ls) :=
  inferInstanceAs (Decidable (_ → _))

section Checked

variable {checks : Bool} {cfg : Config} {env : Env} {s : LoopState}

/-- Rows that fit are announced as without checks. -/
theorem notifyAll_eq {rows : List (String × String × ℤ)} (h : ∀ row ∈ rows, FitsI64 env.now row.2.2) :
    ∀ s, notifyAll env rows s =
      .ok (rows.foldl (fun s row => notifyOverdue env s row.1 row.2.1 row.2.2) s) := by
  induction rows with
  | nil => exact fun _ => rfl
  | cons row rows ih =>
      intro s
      obtain ⟨hrow, hrows⟩ := List.forall_mem_cons.mp h
      rw [notifyAll, if_pos hrow]
      exact ih hrows _

/-- **The rows of the scan** are those that the tick has found. -/
theorem overdue_of_mem_overdueRows {row : String × String × ℤ}
    (h : row ∈ overdueRows env (dispatchLoop cfg env (afterMoves env s)).db) :
    ∃ t, s.db.tasks.lookup row.1 = some t ∧ overdue env.now t = some row.2.2 := by
  obtain ⟨id, -, hrow⟩ := List.mem_filterMap.mp h
  obtain ⟨t', ht', hrow⟩ := Option.bind_eq_some_iff.mp hrow
  obtain ⟨deadline, hdeadline, rfl⟩ := Option.map_eq_some_iff.mp hrow
  rcases ht : s.db.tasks.lookup id with _ | t
  · have hmoved : (afterMoves env s).db.tasks.lookup id = none := by rw [db_afterMoves, ht]
    have hgone := lookup_dispatchLoop_eq_none cfg env hmoved
    exact absurd (hgone.symm.trans ht') (by simp)
  · have hmoved : (afterMoves env s).db.tasks.lookup id = some t := by rw [db_afterMoves, ht]
    obtain ⟨t₁, ht₁, hdeadlineAt, hstamp, hterminal, -⟩ := dispatchLoop_notices cfg env hmoved
    obtain rfl := Option.some.inj (ht₁.symm.trans ht')
    exact ⟨t, rfl, by rw [← overdue_congr hdeadlineAt hstamp hterminal]; exact hdeadline⟩

/-- **A tick that does not overflow** is the same in both builds. -/
theorem checkedTick_eq (h : ¬ (LoopEvent.tick env).Overflows s) : checkedTick cfg env s = .ok (loopTick cfg env s) := by
  have hfits : ∀ row ∈ overdueRows env (dispatchLoop cfg env (afterMoves env s)).db, FitsI64 env.now row.2.2 := by
    intro row hrow
    obtain ⟨t, ht, hdue⟩ := overdue_of_mem_overdueRows hrow
    by_contra hover
    exact h ⟨row.1, AList.mem_keys.mp (AList.lookup_isSome.mp (Option.isSome_of_mem ht)), t, ht, _, hdue, hover⟩
  rw [checkedTick, checkedScan, notifyAll_eq hfits]
  rfl

/-- So is any request. -/
theorem applyIn_eq {l : LoopEvent} (h : checks = true → ¬ l.Overflows s) :
    l.applyIn checks cfg ⟨s, false⟩ = ⟨l.apply cfg s, false⟩ := by
  cases checks with
  | false => cases l <;> rfl
  | true =>
      cases l with
      | tick env =>
          simp only [LoopEvent.applyIn, Bool.false_eq_true, if_false, checkedTick_eq (h rfl), LoopEvent.apply]
      | _ => rfl

/-- **A run in which no tick overflows** is the same in both builds. -/
theorem loopRun_eq (ls : List LoopEvent) : ∀ {s : LoopState}, Fits checks cfg s ls →
    loopRun checks cfg s ls = ⟨runEvents cfg s ls, false⟩ := by
  induction ls with
  | nil => exact fun _ => rfl
  | cons l ls ih =>
      intro s h
      have hfirst : l.applyIn checks cfg ⟨s, false⟩ = ⟨l.apply cfg s, false⟩ :=
        applyIn_eq fun hchecks => h hchecks (s, l) List.mem_cons_self
      have hrest := ih fun hchecks x hx => h hchecks x (List.mem_cons_of_mem _ hx)
      rw [loopRun, List.foldl_cons, hfirst]
      exact hrest

end Checked

end Cliptown.Task
