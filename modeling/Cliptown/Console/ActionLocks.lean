import Cliptown.Lib.Runs
import Cliptown.Lib.Table
import Mathlib.Data.Int.Order.Basic

/-!
# Action locks

Soft locks on destructive operator actions.

* `tryAcquire`, `release`, `gcExpired` — the three operations, each a sequence of SQL statements.
* `lockSystem` — any number of calls by any number of operators, interleaved statement by statement
  under a clock that does not go back; `tryAcquire_run` and `gcExpired_run` show that a call is a run
  of its statements.
* `Exclusive` — between a granted acquire and the next one by another operator the holder has
  released the key, or its lock has expired.
* `Protects` — the invariant: the holder's row is there, or its time has passed.
* `exclusive_of_own_releases` — mutual exclusion in every run in which no operator releases the live
  lock of another.
-/

namespace Cliptown.Console

open Cliptown.Lib

/-- A row of `action_locks`; the key is the table's. Source: `migrations/0013_action_locks.sql` -/
structure Lock where
  operatorId : String
  acquiredAt : ℤ
  expiresAt : ℤ
  deriving DecidableEq, Repr

/-- The table `action_locks`, keyed by its unique column `lock_key`. -/
abbrev LockTable := Table String Lock

/-- Source: `action_locks.rs` `LockInfo`, `LockConflict` -/
structure LockInfo where
  lockKey : String
  operatorId : String
  operatorName : String
  expiresAt : ℤ
  deriving DecidableEq, Repr

/-- Source: `action_locks.rs` `AcquireError` -/
inductive AcquireError where
  | conflict (c : LockInfo)
  | sql
  deriving DecidableEq, Repr

/-- The time to live that the handlers pass. Source: `action_locks.rs` `DEFAULT_TTL_SECS` -/
def defaultTtlSecs : ℤ := 30

/-! ### Statements -/

/-- `DELETE FROM action_locks WHERE lock_key = ? AND expires_at < ?`. -/
def sweepKey (t : LockTable) (key : String) (now : ℤ) : LockTable :=
  t.deleteWhere fun k row => decide (k = key ∧ row.expiresAt < now)

/-- `INSERT INTO action_locks`: the unique column decides first, then the foreign key on
`operators`. -/
def insertLock (operators : Table String String) (t : LockTable) (key operatorId : String)
    (now expiresAt : ℤ) : Option LockTable :=
  if (t.lookup key).isNone ∧ (operators.lookup operatorId).isSome then
    some (t.insert key ⟨operatorId, now, expiresAt⟩)
  else none

/-- The holder that a refused caller reads back. -/
def readHolder (operators : Table String String) (t : LockTable) (key : String) : LockInfo :=
  match t.lookup key with
  | some row => ⟨key, row.operatorId, (operators.lookup row.operatorId).getD row.operatorId,
      row.expiresAt⟩
  | none => ⟨key, "?", "?", 0⟩

/-- `SELECT lock_key FROM action_locks WHERE expires_at < ?`. -/
def selectStale (t : LockTable) (now : ℤ) : List String :=
  t.entries.filterMap fun e => if e.2.expiresAt < now then some e.1 else none

/-- `DELETE FROM action_locks WHERE expires_at < ?`. -/
def deleteStale (t : LockTable) (now : ℤ) : LockTable :=
  t.deleteWhere fun _ row => decide (row.expiresAt < now)

/-! ### Operations -/

/-- Source: `action_locks.rs` `try_acquire` -/
def tryAcquire (operators : Table String String) (t : LockTable) (key operatorId : String)
    (ttl now : ℤ) : LockTable × Except AcquireError LockInfo :=
  let swept := sweepKey t key now
  match insertLock operators swept key operatorId now (now + ttl) with
  | some t' => (t', .ok ⟨key, operatorId, (operators.lookup operatorId).getD operatorId, now + ttl⟩)
  | none =>
      if (swept.lookup key).isSome then (swept, .error (.conflict (readHolder operators swept key)))
      else (swept, .error .sql)

/-- Source: `action_locks.rs` `release` -/
def release (t : LockTable) (key : String) : LockTable × Bool :=
  (t.erase key, (t.lookup key).isSome)

/-- Source: `action_locks.rs` `gc_expired` -/
def gcExpired (t : LockTable) (now : ℤ) : LockTable × List String :=
  match selectStale t now with
  | [] => (t, [])
  | stale => (deleteStale t now, stale)

/-- Nobody holds a live lock on the key. -/
def Unheld (t : LockTable) (key : String) (now : ℤ) : Prop :=
  ∀ row ∈ t.lookup key, row.expiresAt < now

/-- The sweep frees the key unless it is held. -/
theorem lookup_sweepKey_eq_none_iff {t : LockTable} {key : String} {now : ℤ} :
    (sweepKey t key now).lookup key = none ↔ Unheld t key now := by
  unfold sweepKey Unheld
  rw [Table.lookup_deleteWhere]
  cases t.lookup key with
  | none => simp
  | some row => simp

/-- **When an acquire is granted**: the key is free, and the operator has a row that the lock can refer
to. -/
theorem tryAcquire_isOk_iff {operators : Table String String} {t : LockTable} {key operatorId : String}
    {ttl now : ℤ} :
    (tryAcquire operators t key operatorId ttl now).2.isOk ↔
      Unheld t key now ∧ (operators.lookup operatorId).isSome := by
  rw [← lookup_sweepKey_eq_none_iff]
  unfold tryAcquire insertLock
  by_cases hgranted : (sweepKey t key now).lookup key = none ∧ (operators.lookup operatorId).isSome
  · simp [hgranted.1, hgranted.2, Except.isOk, Except.toBool]
  · rw [← Option.isNone_iff_eq_none] at hgranted ⊢
    simp only [hgranted, if_false, iff_false]
    split <;> simp [Except.isOk, Except.toBool]

/-! ### The system -/

/-- A `try_acquire` between its sweep and its insert. -/
structure Acquiring where
  operatorId : String
  key : String
  now : ℤ
  expiresAt : ℤ
  deriving DecidableEq, Repr

/-- The lock table, the clock, and the calls that are between two of their statements. -/
structure LockState where
  clock : ℤ
  table : LockTable
  acquiring : List Acquiring
  /-- The `now` of each `gc_expired` between its select and its delete. -/
  collecting : List ℤ

/-- One statement of one call. -/
inductive LockEvent where
  /-- `try_acquire` by an operator reads the clock and sweeps the key. -/
  | sweep (operatorId key : String) (ttl : ℤ)
  /-- Its insert, with the expiry it asks for, and whether it succeeds. -/
  | insert (operatorId key : String) (expiresAt : ℤ) (granted : Bool)
  /-- `release` called by an operator. -/
  | release (operatorId key : String)
  /-- `gc_expired` reads the clock and selects. -/
  | gcSelect
  /-- Its delete. -/
  | gcDelete (now : ℤ)
  deriving DecidableEq, Repr

/-- What a statement does at the time `s.clock`. -/
def LockEvent.Step (operators : Table String String) (s : LockState) : LockEvent → LockState → Prop
  | .sweep op key ttl, t =>
      t = { s with
        table := sweepKey s.table key s.clock
        acquiring := ⟨op, key, s.clock, s.clock + ttl⟩ :: s.acquiring }
  | .insert op key expiresAt granted, t => ∃ now, ⟨op, key, now, expiresAt⟩ ∈ s.acquiring ∧
      match insertLock operators s.table key op now expiresAt with
      | some table => granted = true ∧
          t = { s with table := table, acquiring := s.acquiring.erase ⟨op, key, now, expiresAt⟩ }
      | none => granted = false ∧
          t = { s with acquiring := s.acquiring.erase ⟨op, key, now, expiresAt⟩ }
  | .release _ key, t => t = { s with table := (Console.release s.table key).1 }
  | .gcSelect, t =>
      t = if selectStale s.table s.clock = [] then s
          else { s with collecting := s.clock :: s.collecting }
  | .gcDelete now, t => now ∈ s.collecting ∧
      t = { s with table := deleteStale s.table now, collecting := s.collecting.erase now }

/-- Calls of any operators, interleaved statement by statement; a label is a statement and the
time at which it runs, which is never before the one of the statement before. -/
def lockSystem (operators : Table String String) : System LockState (ℤ × LockEvent) where
  init s := s.acquiring = [] ∧ s.collecting = []
  step s l t := s.clock ≤ l.1 ∧ l.2.Step operators { s with clock := l.1 } t

/-- Mutual exclusion: between a granted acquire of `B` and a granted acquire of another operator on
the same key, `B` has released the key, or the lock of `B` has expired. -/
def Exclusive (ls : List (ℤ × LockEvent)) : Prop :=
  ∀ before between after A B key expiresB expiresA timeB timeA,
    ls = before ++ (timeB, .insert B key expiresB true) ::
      (between ++ (timeA, .insert A key expiresA true) :: after) →
    A ≠ B → (∀ time, (time, .release B key) ∉ between) → expiresB < timeA

/-- The condition on a step: an operator releases a key only while the row for it, if it has not
expired, is the operator's own. -/
def OwnRelease (s : LockState) : ℤ × LockEvent → Prop
  | (time, .release op key) => ∀ row ∈ s.table.lookup key, time ≤ row.expiresAt → row.operatorId = op
  | _ => True

/-! ### Calls are runs of their statements -/

/-- A `try_acquire` with nothing in between is its sweep and its insert, granted exactly when the
call returns `Ok`. -/
theorem tryAcquire_run (operators : Table String String) {s : LockState} (now : ℤ)
    (hnow : s.clock ≤ now) (op key : String) (ttl : ℤ) :
    Run ((lockSystem operators).restrict OwnRelease).step s
      [(now, .sweep op key ttl),
        (now, .insert op key (now + ttl) (tryAcquire operators s.table key op ttl now).2.isOk)]
      { s with clock := now, table := (tryAcquire operators s.table key op ttl now).1 } := by
  apply Run.cons (t := { s with
    clock := now
    table := sweepKey s.table key now
    acquiring := ⟨op, key, now, now + ttl⟩ :: s.acquiring })
  · exact ⟨trivial, hnow, rfl⟩
  · apply Run.single
    refine ⟨trivial, le_refl now, now, List.mem_cons_self, ?_⟩
    unfold tryAcquire
    simp only [List.erase_cons_head]
    cases insertLock operators (sweepKey s.table key now) key op now (now + ttl) with
    | some t => exact ⟨rfl, rfl⟩
    | none =>
        simp only
        split
        · exact ⟨rfl, rfl⟩
        · exact ⟨rfl, rfl⟩

/-- A `release` is one statement. -/
theorem release_step (operators : Table String String) {s : LockState} (now : ℤ)
    (hnow : s.clock ≤ now) (op key : String) :
    (lockSystem operators).step s (now, .release op key)
      { s with clock := now, table := (release s.table key).1 } :=
  ⟨hnow, rfl⟩

/-- A `gc_expired` with nothing in between is its select and, if anything is stale, its delete. -/
theorem gcExpired_run (operators : Table String String) {s : LockState} {now : ℤ}
    (hnow : s.clock ≤ now) :
    ∃ ls, Run ((lockSystem operators).restrict OwnRelease).step s ls
      { s with clock := now, table := (gcExpired s.table now).1 } := by
  unfold gcExpired
  cases hstale : selectStale s.table now with
  | nil =>
      refine ⟨[(now, .gcSelect)], .single ⟨trivial, hnow, ?_⟩⟩
      simp [LockEvent.Step, hstale]
  | cons k ks =>
      refine ⟨[(now, .gcSelect), (now, .gcDelete now)],
        .cons (t := { s with clock := now, collecting := now :: s.collecting })
          ⟨trivial, hnow, ?_⟩ (.single ⟨trivial, le_refl now, List.mem_cons_self, ?_⟩)⟩
      · simp [LockEvent.Step, hstale]
      · simp

/-! ### Mutual exclusion -/

section Exclusion

variable {operators : Table String String} {s t : LockState} {l : ℤ × LockEvent}
  {B key : String} {expires : ℤ}

/-- No `gc_expired` in flight holds a time ahead of the clock. -/
def CollectingPast (s : LockState) : Prop :=
  ∀ now ∈ s.collecting, now ≤ s.clock

/-- The lock of `B` on `key` is in the table, or its time has passed. -/
def Protects (B key : String) (expires : ℤ) (s : LockState) : Prop :=
  (∃ row ∈ s.table.lookup key, row.operatorId = B ∧ row.expiresAt = expires) ∨ expires < s.clock

/-- The clock does not go back. -/
theorem clock_le_of_step (h : (lockSystem operators).step s l t) : s.clock ≤ l.1 ∧ t.clock = l.1 := by
  obtain ⟨time, e⟩ := l
  obtain ⟨hclock, hstep⟩ := h
  refine ⟨hclock, ?_⟩
  cases e with
  | sweep op key ttl => rw [hstep]
  | insert op key expiresAt granted =>
      obtain ⟨now, _, hinsert⟩ := hstep
      split at hinsert
      · rw [hinsert.2]
      · rw [hinsert.2]
  | release op key => rw [hstep]
  | gcSelect =>
      rw [hstep]
      split <;> rfl
  | gcDelete now => rw [hstep.2]

/-- The times held by collectors stay in the past. -/
theorem collectingPast_of_step (hs : CollectingPast s) (h : (lockSystem operators).step s l t) :
    CollectingPast t := by
  obtain ⟨hle, hclock⟩ := clock_le_of_step h
  obtain ⟨time, e⟩ := l
  have hold : ∀ now ∈ s.collecting, now ≤ t.clock := fun now hnow => by
    have := hs now hnow
    simp only at hle hclock
    omega
  obtain ⟨_, hstep⟩ := h
  intro now hnow
  cases e with
  | sweep op key ttl =>
      rw [hstep] at hnow
      exact hold now hnow
  | insert op key expiresAt granted =>
      obtain ⟨_, _, hinsert⟩ := hstep
      split at hinsert <;> (rw [hinsert.2] at hnow; exact hold now hnow)
  | release op key =>
      rw [hstep] at hnow
      exact hold now hnow
  | gcSelect =>
      rw [hstep] at hnow
      split at hnow
      · exact hold now hnow
      · rcases List.mem_cons.mp hnow with rfl | hnow
        · exact le_of_eq hclock.symm
        · exact hold now hnow
  | gcDelete now' =>
      rw [hstep.2] at hnow
      exact hold now (List.mem_of_mem_erase hnow)

/-- **A step keeps the lock of `B`**, unless `B` releases the key: another operator's acquire is
refused while the row is there, sweeps and collections take expired rows only, and no other operator
releases a live row. -/
theorem protects_of_step (hs : CollectingPast s) (hp : Protects B key expires s)
    (h : ((lockSystem operators).restrict OwnRelease).step s l t)
    (hl : ∀ time, l ≠ (time, .release B key)) : Protects B key expires t := by
  obtain ⟨hown, hstep⟩ := h
  obtain ⟨hle, hclock⟩ := clock_le_of_step hstep
  obtain ⟨time, e⟩ := l
  obtain ⟨_, hstep⟩ := hstep
  simp only at hle hclock
  rcases hp with ⟨row, hrow, hB, hexp⟩ | hpast
  · by_cases hexpired : expires < time
    · exact .inr (hclock ▸ hexpired)
    · -- the row is live: it survives every statement
      refine .inl ⟨row, ?_, hB, hexp⟩
      rw [Option.mem_def] at hrow ⊢
      cases e with
      | sweep op k ttl =>
          rw [hstep]
          simp [sweepKey, hrow, hexp, hexpired]
      | insert op k expiresAt granted =>
          obtain ⟨now, _, hinsert⟩ := hstep
          unfold insertLock at hinsert
          by_cases hk : key = k
          · subst hk
            simp only [hrow, Option.isNone_some, Bool.false_eq_true, false_and, if_false] at hinsert
            rw [hinsert.2]
            exact hrow
          · split at hinsert
            · rename_i table htable
              rw [hinsert.2]
              split at htable
              · obtain rfl := Option.some.inj htable
                rw [AList.lookup_insert_ne hk]
                exact hrow
              · exact absurd htable (by simp)
            · rw [hinsert.2]
              exact hrow
      | release op k =>
          rw [hstep]
          have hk : key ≠ k := by
            rintro rfl
            have hop := hown row hrow (by omega)
            exact hl time (by rw [← hop, hB])
          exact (AList.lookup_erase_ne hk).trans hrow
      | gcSelect =>
          rw [hstep]
          split <;> exact hrow
      | gcDelete now =>
          have hnow := hs now hstep.1
          rw [hstep.2]
          have hlive : ¬ row.expiresAt < now := by omega
          simp [deleteStale, hrow, hlive]
  · exact .inr (by omega)

/-- A granted acquire puts the lock into the table. -/
theorem protects_of_granted {time : ℤ}
    (h : (lockSystem operators).step s (time, .insert B key expires true) t) :
    Protects B key expires t := by
  obtain ⟨_, now, _, hinsert⟩ := h
  unfold insertLock at hinsert
  split at hinsert
  · rename_i table htable
    split at htable
    · obtain rfl := Option.some.inj htable
      rw [hinsert.2]
      exact .inl ⟨_, AList.lookup_insert _, rfl, rfl⟩
    · exact absurd htable (by simp)
  · exact absurd hinsert.1 (by simp)

/-- An acquire is granted only when the key is free. -/
theorem expired_of_granted {time : ℤ} {A : String} {expiresA : ℤ} (hp : Protects B key expires s)
    (h : (lockSystem operators).step s (time, .insert A key expiresA true) t) : expires < time := by
  obtain ⟨hle, now, _, hinsert⟩ := h
  rcases hp with ⟨row, hrow, _⟩ | hpast
  · rw [Option.mem_def] at hrow
    unfold insertLock at hinsert
    simp [hrow] at hinsert
  · exact lt_of_lt_of_le hpast hle

/-- **Mutual exclusion**, in every run in which no operator releases the live lock of another.
Source: `action_locks.rs` `try_acquire`, `release`, `gc_expired` -/
theorem exclusive_of_own_releases {ls : List (ℤ × LockEvent)} (hinit : (lockSystem operators).init s)
    (h : Run ((lockSystem operators).restrict OwnRelease).step s ls t) : Exclusive ls := by
  rintro before between after A B key expiresB expiresA timeB timeA rfl hne hrel
  obtain ⟨s₁, hbefore, h⟩ := h.split
  obtain ⟨s₂, hgrant, h⟩ := h.cons_inv
  obtain ⟨s₃, hbetween, h⟩ := h.split
  obtain ⟨s₄, hsecond, _⟩ := h.cons_inv
  have hpast₀ : CollectingPast s := by
    intro now hnow
    simp [hinit.2] at hnow
  have hpast : CollectingPast s₂ :=
    collectingPast_of_step (hbefore.preserves (fun _ _ _ hs hst => collectingPast_of_step hs hst.2)
      hpast₀) hgrant.2
  have hprotects : CollectingPast s₃ ∧ Protects B key expiresB s₃ := by
    refine hbetween.preserves_of_mem (I := fun s => CollectingPast s ∧ Protects B key expiresB s)
      ?_ ⟨hpast, protects_of_granted hgrant.2⟩
    rintro s l t hl ⟨hc, hp⟩ hst
    exact ⟨collectingPast_of_step hc hst.2,
      protects_of_step hc hp hst fun time heq => hrel time (heq ▸ hl)⟩
  exact expired_of_granted hprotects.2 hsecond.2

end Exclusion

/-! ### A late release -/

/-- Three operators. -/
def threeOperators : Table String String :=
  .ofList [("op_a", "A"), ("op_b", "B"), ("op_c", "C")]

/-- `op_a` takes a lock and releases it; `op_b` takes it then. -/
theorem exclusive_hand_over :
    Exclusive [(0, .sweep "op_a" "task:T1:force_fail" 30),
      (0, .insert "op_a" "task:T1:force_fail" 30 true),
      (5, .release "op_a" "task:T1:force_fail"),
      (6, .sweep "op_b" "task:T1:force_fail" 30),
      (6, .insert "op_b" "task:T1:force_fail" 36 true)] := by
  have hfirst := tryAcquire_run threeOperators (s := ⟨0, ∅, [], []⟩) 0 (le_refl 0) "op_a"
    "task:T1:force_fail" 30
  have hlocks : (tryAcquire threeOperators ∅ "task:T1:force_fail" "op_a" 30 0).1 =
      AList.singleton "task:T1:force_fail" ⟨"op_a", 0, 30⟩ := AList.ext (by decide)
  have hown : OwnRelease ⟨0, AList.singleton "task:T1:force_fail" ⟨"op_a", 0, 30⟩, [], []⟩
      (5, .release "op_a" "task:T1:force_fail") := by
    intro row hrow _
    exact (Table.lookup_singleton_iff.mp hrow).2 ▸ rfl
  rw [← hlocks] at hown
  have hrelease := hfirst.trans (.single ⟨hown, release_step threeOperators 5 (by decide) _ _⟩)
  have hsecond := hrelease.trans
    (tryAcquire_run threeOperators 6 (by decide) "op_b" "task:T1:force_fail" 30)
  exact exclusive_of_own_releases ⟨rfl, rfl⟩ hsecond

/-- `op_a` outlives its lock, `op_b` takes the key over at 31, and the late release of `op_a` removes
the lock of `op_b`: `op_c` is granted the key at 32, long before the lock of `op_b` expires at 61. -/
theorem not_exclusive_after_late_release :
    ¬ ∀ operators s ls t, (lockSystem operators).init s → Run (lockSystem operators).step s ls t →
      Exclusive ls := by
  intro h
  have hcall := fun (s : LockState) now hnow op =>
    System.run_of_restrict (tryAcquire_run threeOperators (s := s) now hnow op "k" 30)
  have hfirst := hcall ⟨0, ∅, [], []⟩ 0 (le_refl 0) "op_a"
  have hsecond := hfirst.trans (hcall _ 31 (by decide) "op_b")
  have hrelease := hsecond.trans (.single (release_step threeOperators 31 (by decide) "op_a" "k"))
  have hthird := hrelease.trans (hcall _ 32 (by decide) "op_c")
  have hex := h _ _ _ _ ⟨rfl, rfl⟩ hthird
  have hlate := hex [(0, .sweep "op_a" "k" 30), (0, .insert "op_a" "k" 30 true),
    (31, .sweep "op_b" "k" 30)] [(31, .release "op_a" "k"), (32, .sweep "op_c" "k" 30)] [] "op_c"
    "op_b" "k" 61 62 31 32 (by decide) (by decide) (by simp)
  exact absurd hlate (by decide)

end Cliptown.Console
