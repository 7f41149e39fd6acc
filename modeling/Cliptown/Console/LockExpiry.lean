import Cliptown.Console.ActionLocks

/-!
# The collector of expired locks

`gc_expired` selects the expired rows, deletes what is expired then, and returns what it has selected, so that
the consoles are told that these keys are free. Other calls run between its statements.

* `Collection` — a call of the collector after its first statement.
* `expirySystem` — acquires, releases and collectors, interleaved statement by statement.
* `AnnouncesDead` — a collector returns keys that nobody holds, all that it has deleted among them.
* `Undisturbed` — the condition on a step: no acquire gets in between with a row that spoils this.
* `Swept` — the invariant: what was selected stays dead, and what the delete will find was selected.
* `announces_dead` — collectors tell the truth in every run of such steps; `misannounced_of_disturbed` — any
  other step can lead to a collector that does not.
-/

namespace Cliptown.Console

open Cliptown.Lib

/-- A `gc_expired` that has selected something: the time it was called with, the keys that it will return, and
the keys of the rows that it has deleted, if it has. -/
structure Collection where
  now : ℤ
  keys : List String
  dropped : Option (List String)
  deriving DecidableEq, Repr

/-- The locks, and the collectors at work. -/
structure ExpiryState where
  locks : LockState
  collections : List Collection

/-- One statement of one call. -/
inductive ExpiryEvent where
  /-- A statement of `try_acquire` or `release`. -/
  | lock (e : LockEvent)
  /-- `gc_expired` is called with a time, and selects. -/
  | select (now : ℤ)
  /-- Its delete. -/
  | delete (c : Collection)
  /-- It returns. -/
  | finish (c : Collection)
  deriving DecidableEq, Repr

/-- A statement of a caller. -/
def LockEvent.Caller : LockEvent → Prop
  | .gcSelect | .gcDelete _ => False
  | _ => True

/-- The collectors after a select: one that finds nothing returns. -/
def addCollection (now : ℤ) : List String → List Collection → List Collection
  | [], cs => cs
  | keys, cs => ⟨now, keys, none⟩ :: cs

/-- What a statement does at the time of the clock. The time that a collector is called with has been read
before. -/
def ExpiryEvent.Step (operators : Table String String) (s : ExpiryState) : ExpiryEvent → ExpiryState → Prop
  | .lock e, t => e.Caller ∧ e.Step operators s.locks t.locks ∧ t.collections = s.collections
  | .select now, t => now ≤ s.locks.clock ∧
      t = { s with collections := addCollection now (selectStale s.locks.table now) s.collections }
  | .delete c, t => c ∈ s.collections ∧ c.dropped = none ∧
      t =
        { locks := { s.locks with table := deleteStale s.locks.table c.now }
          collections := { c with dropped := some (selectStale s.locks.table c.now) } ::
            s.collections.erase c }
  | .finish c, t => c ∈ s.collections ∧ c.dropped.isSome ∧
      t = { s with collections := s.collections.erase c }

/-- The state at a time. -/
def ExpiryState.at (s : ExpiryState) (time : ℤ) : ExpiryState :=
  { s with locks := { s.locks with clock := time } }

/-- Calls of any operators and of the collector, interleaved statement by statement. -/
def expirySystem (operators : Table String String) : System ExpiryState (ℤ × ExpiryEvent) where
  init s := s.locks.acquiring = [] ∧ s.collections = []
  step s l t := s.locks.clock ≤ l.1 ∧ l.2.Step operators (s.at l.1) t

/-- What a collector that returns now has to say is true: nobody holds a key that it returns, and it returns
every key whose row it has deleted. -/
def Collection.Truthful (c : Collection) (t : LockTable) (time : ℤ) : Prop :=
  (∀ key ∈ c.keys, Unheld t key time) ∧ ∀ dropped ∈ c.dropped, dropped ⊆ c.keys

/-- Every collector tells the truth when it returns. -/
def AnnouncesDead (S : System ExpiryState (ℤ × ExpiryEvent)) : Prop :=
  ∀ s time c t, S.Reachable s → S.step s (time, .finish c) t → c.Truthful s.locks.table time

/-- A row with the key and the expiry does not disturb a collector: where the collector returns the key, the row
has expired, and where it will delete the row, it returns the key. -/
def Collection.Admits (c : Collection) (key : String) (expiresAt time : ℤ) : Prop :=
  (key ∈ c.keys → expiresAt < time) ∧ (c.dropped = none → expiresAt < c.now → key ∈ c.keys)

/-- The condition on a step: an acquire that is granted disturbs no collector at work. -/
def Undisturbed (operators : Table String String) (s : ExpiryState) : ℤ × ExpiryEvent → Prop
  | (time, .lock (.insert op key expiresAt _)) =>
      s.locks.table.lookup key = none → (operators.lookup op).isSome →
        ∀ c ∈ s.collections, c.Admits key expiresAt time
  | _ => True

section Expiry

variable {operators : Table String String} {s t : ExpiryState} {l : ℤ × ExpiryEvent} {table : LockTable}
  {key : String} {now : ℤ}

/-! ### Statements -/

/-- The keys of the expired rows. -/
theorem mem_selectStale :
    key ∈ selectStale table now ↔ ∃ row, table.lookup key = some row ∧ row.expiresAt < now := by
  unfold selectStale
  simp only [List.mem_filterMap]
  constructor
  · rintro ⟨e, he, heq⟩
    split at heq
    · rename_i hexpired
      obtain rfl := Option.some.inj heq
      exact ⟨e.2, AList.mem_lookup_iff.mpr he, hexpired⟩
    · exact absurd heq (by simp)
  · rintro ⟨row, hrow, hexpired⟩
    exact ⟨⟨key, row⟩, AList.mem_lookup_iff.mp hrow, if_pos hexpired⟩

/-- What is left was there and has not expired. -/
theorem of_lookup_deleteStale {row : Lock} (h : (deleteStale table now).lookup key = some row) :
    table.lookup key = some row ∧ ¬ row.expiresAt < now := by
  obtain ⟨hrow, hkept⟩ := Table.of_lookup_deleteWhere h
  exact ⟨hrow, of_decide_eq_false hkept⟩

/-- An insert that is granted puts the row in, and nothing else. -/
theorem insertLock_eq_some {op : String} {expiresAt : ℤ} {table' : LockTable}
    (h : insertLock operators table key op now expiresAt = some table') :
    (table.lookup key = none ∧ (operators.lookup op).isSome) ∧
      table' = table.insert key ⟨op, now, expiresAt⟩ := by
  unfold insertLock at h
  split at h
  · rename_i hgranted
    exact ⟨⟨Option.isNone_iff_eq_none.mp hgranted.1, hgranted.2⟩, (Option.some.inj h).symm⟩
  · exact absurd h (by simp)

/-- A collector that is added has selected something. -/
theorem mem_addCollection {keys : List String} {cs : List Collection} {c : Collection}
    (h : c ∈ addCollection now keys cs) : c = ⟨now, keys, none⟩ ∨ c ∈ cs := by
  cases keys with
  | nil => exact .inr h
  | cons k ks => exact List.mem_cons.mp h

/-! ### The invariant -/

/-- The rows of the keys that a collector at work returns have expired; what its delete will find it returns, and
what it has found. -/
structure Swept (s : ExpiryState) : Prop where
  dead : ∀ c ∈ s.collections, ∀ key ∈ c.keys, Unheld s.locks.table key s.locks.clock
  covered : ∀ c ∈ s.collections, c.dropped = none → ∀ key row, s.locks.table.lookup key = some row →
    row.expiresAt < c.now → key ∈ c.keys
  dropped : ∀ c ∈ s.collections, ∀ dropped ∈ c.dropped, dropped ⊆ c.keys

/-- Rows go, and time passes. -/
theorem Swept.of_sub (hs : Swept s) (hclock : s.locks.clock ≤ t.locks.clock)
    (htable : ∀ key row, t.locks.table.lookup key = some row → s.locks.table.lookup key = some row)
    (hcollections : ∀ c ∈ t.collections, c ∈ s.collections) : Swept t where
  dead c hc key hkey row hrow :=
    lt_of_lt_of_le (hs.dead c (hcollections c hc) key hkey row (htable key row hrow)) hclock
  covered c hc hnone key row hrow :=
    hs.covered c (hcollections c hc) hnone key row (htable key row hrow)
  dropped c hc := hs.dropped c (hcollections c hc)

theorem Swept.at (hs : Swept s) {time : ℤ} (h : s.locks.clock ≤ time) : Swept (s.at time) :=
  hs.of_sub (t := s.at time) h (fun _ _ hrow => hrow) fun _ hc => hc

/-- A row that disturbs no collector. -/
theorem Swept.insert (hs : Swept s) {row : Lock} (hclock : t.locks.clock = s.locks.clock)
    (htable : t.locks.table = s.locks.table.insert key row) (hcollections : t.collections = s.collections)
    (hadmits : ∀ c ∈ s.collections, c.Admits key row.expiresAt s.locks.clock) : Swept t := by
  have hcases : ∀ {k r}, t.locks.table.lookup k = some r → k = key ∧ r = row ∨ s.locks.table.lookup k = some r := by
    intro k r hr
    rw [htable, Table.lookup_insert_eq] at hr
    split at hr
    · rename_i heq
      exact .inl ⟨heq, (Option.some.inj hr).symm⟩
    · exact .inr hr
  constructor
  · rw [hcollections, hclock]
    intro c hc k hk r hr
    rcases hcases hr with ⟨rfl, rfl⟩ | hr
    · exact (hadmits c hc).1 hk
    · exact hs.dead c hc k hk r hr
  · rw [hcollections]
    intro c hc hnone k r hr hexpired
    rcases hcases hr with ⟨rfl, rfl⟩ | hr
    · exact (hadmits c hc).2 hnone hexpired
    · exact hs.covered c hc hnone k r hr hexpired
  · rw [hcollections]
    exact hs.dropped

/-- A statement of a caller. -/
theorem swept_of_lock {e : LockEvent} (hs : Swept s) (hcaller : e.Caller)
    (hstep : e.Step operators s.locks t.locks) (hcollections : t.collections = s.collections)
    (hadmits : ∀ op key expiresAt granted, e = .insert op key expiresAt granted →
      s.locks.table.lookup key = none → (operators.lookup op).isSome →
        ∀ c ∈ s.collections, c.Admits key expiresAt s.locks.clock) : Swept t := by
  have hsame : ∀ c ∈ t.collections, c ∈ s.collections := fun c hc => hcollections ▸ hc
  cases e with
  | sweep op key ttl =>
      refine hs.of_sub (by rw [hstep]) (fun k row hrow => ?_) hsame
      rw [hstep] at hrow
      exact (Table.of_lookup_deleteWhere hrow).1
  | insert op key expiresAt granted =>
      obtain ⟨now, -, hinsert⟩ := hstep
      split at hinsert
      · rename_i table htable
        obtain ⟨⟨hfree, hoperator⟩, rfl⟩ := insertLock_eq_some htable
        have htable : t.locks.table = s.locks.table.insert key ⟨op, now, expiresAt⟩ := by rw [hinsert.2]
        exact hs.insert (by rw [hinsert.2]) htable hcollections (hadmits op key expiresAt granted rfl hfree hoperator)
      · exact hs.of_sub (by rw [hinsert.2]) (fun k row hrow => by rwa [hinsert.2] at hrow) hsame
  | release op key =>
      refine hs.of_sub (by rw [hstep]) (fun k row hrow => ?_) hsame
      rw [hstep] at hrow
      unfold release at hrow
      rw [Table.lookup_erase_eq] at hrow
      split at hrow
      · exact absurd hrow (by simp)
      · exact hrow
  | gcSelect | gcDelete => exact absurd hcaller id

/-- **Every step under the condition keeps the invariant.** -/
theorem swept_of_step (hs : Swept s) (h : ((expirySystem operators).restrict (Undisturbed operators)).step s l t) :
    Swept t := by
  obtain ⟨hundisturbed, hclock, hstep⟩ := h
  obtain ⟨time, e⟩ := l
  replace hs := hs.at hclock
  cases e with
  | lock e =>
      obtain ⟨hcaller, hstep, hcollections⟩ := hstep
      refine swept_of_lock hs hcaller hstep hcollections ?_
      rintro op key expiresAt granted rfl hfree hoperator
      exact hundisturbed hfree hoperator
  | select now =>
      obtain ⟨hpast, rfl⟩ := hstep
      refine ⟨fun c hc => ?_, fun c hc => ?_, fun c hc => ?_⟩
      · rcases mem_addCollection hc with rfl | hc
        · intro key hkey row hrow
          obtain ⟨row', hrow', hexpired⟩ := mem_selectStale.mp hkey
          obtain rfl := Option.some.inj (hrow'.symm.trans hrow)
          exact lt_of_lt_of_le hexpired hpast
        · exact hs.dead c hc
      · rcases mem_addCollection hc with rfl | hc
        · exact fun _ key row hrow hexpired => mem_selectStale.mpr ⟨row, hrow, hexpired⟩
        · exact hs.covered c hc
      · rcases mem_addCollection hc with rfl | hc
        · exact fun dropped hdropped => absurd hdropped (by simp)
        · exact hs.dropped c hc
  | delete c =>
      obtain ⟨hc, hnone, rfl⟩ := hstep
      have hcases : ∀ {c'}, c' ∈ { c with dropped := some (selectStale (s.at time).locks.table c.now) } ::
          (s.at time).collections.erase c →
            c' = { c with dropped := some (selectStale (s.at time).locks.table c.now) } ∨
              c' ∈ (s.at time).collections :=
        fun hc' => (List.mem_cons.mp hc').imp_right List.mem_of_mem_erase
      refine ⟨fun c' hc' key hkey row hrow => ?_, fun c' hc' hnone' key row hrow => ?_, fun c' hc' => ?_⟩
      · have hrow := (of_lookup_deleteStale hrow).1
        rcases hcases hc' with rfl | hc'
        · exact hs.dead c hc key hkey row hrow
        · exact hs.dead c' hc' key hkey row hrow
      · have hrow := (of_lookup_deleteStale hrow).1
        rcases hcases hc' with rfl | hc'
        · exact absurd hnone' (by simp)
        · exact hs.covered c' hc' hnone' key row hrow
      · rcases hcases hc' with rfl | hc'
        · -- what the delete has found it was going to find
          rintro dropped hdropped key hkey
          obtain rfl := Option.some.inj hdropped
          obtain ⟨row, hrow, hexpired⟩ := mem_selectStale.mp hkey
          exact hs.covered c hc hnone key row hrow hexpired
        · exact hs.dropped c' hc'
  | finish c =>
      obtain ⟨-, -, rfl⟩ := hstep
      exact hs.of_sub (t := { s.at time with collections := (s.at time).collections.erase c }) le_rfl
        (fun _ _ hrow => hrow) fun c' hc' => List.mem_of_mem_erase hc'

theorem swept_of_reachable
    (h : ((expirySystem operators).restrict (Undisturbed operators)).Reachable s) : Swept s := by
  apply h.invariant
  · rintro s ⟨-, hnone⟩
    constructor <;> simp [hnone]
  · exact fun s l t hs hst => swept_of_step hs hst

/-- **Lock expiry announces only dead locks**, in every run in which no acquire disturbs a collector. Source:
`action_locks.rs` `gc_expired` -/
theorem announces_dead (operators : Table String String) :
    AnnouncesDead ((expirySystem operators).restrict (Undisturbed operators)) := by
  rintro s time c t hs ⟨-, hclock, hc, -, -⟩
  have hswept := (swept_of_reachable hs).at hclock
  exact ⟨hswept.dead c hc, hswept.dropped c hc⟩

/-! ### Disturbances -/

/-- A collector that is at work after a step was at work before, called with the same time, or is called now with
a past one. -/
theorem now_le_clock_of_step (hs : ∀ c ∈ s.collections, c.now ≤ s.locks.clock)
    (h : (expirySystem operators).step s l t) : ∀ c ∈ t.collections, c.now ≤ t.locks.clock := by
  obtain ⟨hclock, hstep⟩ := h
  obtain ⟨time, e⟩ := l
  have hbefore : ∀ c ∈ s.collections, c.now ≤ time := fun c hc => le_trans (hs c hc) hclock
  cases e with
  | lock e =>
      obtain ⟨-, hstep, hcollections⟩ := hstep
      have hlock : (lockSystem operators).step s.locks (time, e) t.locks := ⟨hclock, hstep⟩
      have hlocks := (clock_le_of_step hlock).2
      rw [hcollections, hlocks]
      exact hbefore
  | select now =>
      obtain ⟨hpast, rfl⟩ := hstep
      intro c hc
      rcases mem_addCollection hc with rfl | hc
      · exact hpast
      · exact hbefore c hc
  | delete c =>
      obtain ⟨hc, -, rfl⟩ := hstep
      intro c' hc'
      rcases List.mem_cons.mp hc' with rfl | hc'
      · exact hbefore c hc
      · exact hbefore c' (List.mem_of_mem_erase hc')
  | finish c =>
      obtain ⟨-, -, rfl⟩ := hstep
      exact fun c' hc' => hbefore c' (List.mem_of_mem_erase hc')

/-- **The condition is needed**: an acquire that disturbs a collector may be followed by nothing but the rest of
the collector, which then says what is not true. -/
theorem misannounced_of_disturbed (hs : (expirySystem operators).Reachable s)
    (h : (expirySystem operators).step s l t) (hdisturbed : ¬ Undisturbed operators s l) :
    ∃ ls u time c v, Run (expirySystem operators).step t ls u ∧
      (expirySystem operators).step u (time, .finish c) v ∧ ¬ c.Truthful u.locks.table time := by
  have hpast : ∀ c ∈ s.collections, c.now ≤ s.locks.clock := by
    apply hs.invariant
    · rintro s ⟨-, hnone⟩
      simp [hnone]
    · exact fun s l t hs hst => now_le_clock_of_step hs hst
  unfold Undisturbed at hdisturbed
  split at hdisturbed
  · rename_i time op key expiresAt granted
    push Not at hdisturbed
    obtain ⟨hfree, hoperator, c, hc, hadmits⟩ := hdisturbed
    obtain ⟨hclock, -, hstep, hcollections⟩ := h
    obtain ⟨now, -, hinsert⟩ := hstep
    have hgranted : insertLock operators (s.at time).locks.table key op now expiresAt =
        some (AList.insert key ⟨op, now, expiresAt⟩ s.locks.table) :=
      if_pos ⟨Option.isNone_iff_eq_none.mpr hfree, hoperator⟩
    rw [hgranted] at hinsert
    obtain ⟨-, hlocks⟩ := hinsert
    have htime : t.locks.clock = time := by rw [hlocks]; rfl
    have hrow : t.locks.table.lookup key = some ⟨op, now, expiresAt⟩ := by
      rw [hlocks]
      exact AList.lookup_insert _
    replace hcollections : t.collections = s.collections := hcollections
    rw [← hcollections] at hc
    cases hdropped : c.dropped with
    | some dropped =>
        refine ⟨[], t, time, c, { t with collections := t.collections.erase c }, .nil t,
          ⟨htime.le, hc, by rw [hdropped]; rfl, ?_⟩, fun htruth => hadmits ⟨fun hkey => ?_, fun hnone => ?_⟩⟩
        · rw [← htime]
          rfl
        · exact htruth.1 key hkey _ hrow
        · rw [hdropped] at hnone
          exact absurd hnone (by simp)
    | none =>
        refine ⟨[(time, .delete c)], _, time, { c with dropped := some (selectStale t.locks.table c.now) }, _,
          .single ⟨htime.le, hc, hdropped, rfl⟩, ⟨le_rfl, List.mem_cons_self, rfl, rfl⟩,
          fun htruth => hadmits ⟨fun hkey => ?_, fun _ hexpired => ?_⟩⟩
        · -- the delete leaves the row, if it is live
          by_contra hlive
          refine hlive (htruth.1 key hkey ⟨op, now, expiresAt⟩ ?_)
          have hpast := hpast c (hcollections ▸ hc)
          have hkept : ¬ expiresAt < c.now := by omega
          show (deleteStale t.locks.table c.now).lookup key = _
          simp [deleteStale, hrow, hkept]
        · exact htruth.2 _ rfl (mem_selectStale.mpr ⟨_, hrow, hexpired⟩)
  · exact absurd trivial hdisturbed

/-! ### Calls are runs of their statements -/

/-- What the callers do among themselves they do beside the collectors. -/
theorem lock_run {locks locks' : LockState} {ls : List (ℤ × LockEvent)} (hcaller : ∀ l ∈ ls, l.2.Caller)
    (h : Run (lockSystem operators).step locks ls locks') (cs : List Collection) :
    Run (expirySystem operators).step ⟨locks, cs⟩ (ls.map fun l => (l.1, .lock l.2)) ⟨locks', cs⟩ := by
  induction h with
  | nil locks => exact .nil _
  | @cons locks mid _ l ls hst _ ih =>
      have hstep : (expirySystem operators).step ⟨locks, cs⟩ (l.1, .lock l.2) ⟨mid, cs⟩ :=
        ⟨hst.1, hcaller l List.mem_cons_self, hst.2, rfl⟩
      exact .cons hstep (ih fun l' hl' => hcaller l' (List.mem_cons_of_mem _ hl'))

/-- A collector with nothing in between selects, deletes and returns what `gcExpired` does. -/
theorem gcExpired_finish (locks : LockState) {now : ℤ} (hnow : locks.clock ≤ now)
    (hstale : selectStale locks.table now ≠ []) :
    ∃ u c, Run (expirySystem operators).step ⟨locks, []⟩ [(now, .select now),
        (now, .delete ⟨now, selectStale locks.table now, none⟩)] u ∧
      (expirySystem operators).step u (now, .finish c)
        ⟨{ locks with clock := now, table := (gcExpired locks.table now).1 }, []⟩ ∧
      c.keys = (gcExpired locks.table now).2 := by
  have hselect : (expirySystem operators).step ⟨locks, []⟩ (now, .select now)
      ⟨{ locks with clock := now }, [⟨now, selectStale locks.table now, none⟩]⟩ := by
    refine ⟨hnow, le_rfl, ?_⟩
    cases hkeys : selectStale locks.table now with
    | nil => exact absurd hkeys hstale
    | cons key keys =>
        show _ = ExpiryState.mk _ (addCollection now (selectStale locks.table now) [])
        rw [hkeys]
        rfl
  have hcall : gcExpired locks.table now = (deleteStale locks.table now, selectStale locks.table now) := by
    unfold gcExpired
    split
    · rename_i hnil
      exact absurd hnil hstale
    · rfl
  refine ⟨_, ⟨now, selectStale locks.table now, some (selectStale locks.table now)⟩,
    .cons hselect (.single ⟨le_rfl, List.mem_cons_self, rfl, rfl⟩), ⟨le_rfl, List.mem_cons_self, rfl, ?_⟩, ?_⟩
  · rw [hcall]
    simp [ExpiryState.at]
  · rw [hcall]

end Expiry

/-! ### An acquire in between -/

/-- The lock of an operator on `k`. -/
def heldBy (operatorId : String) (now : ℤ) : LockTable :=
  AList.singleton "k" ⟨operatorId, now, now + 30⟩

/-- An acquire of `k` with nothing in between, beside the collectors. -/
theorem acquire_run {table table' : LockTable} {clock now : ℤ} (hnow : clock ≤ now) (op : String)
    (htable : (tryAcquire threeOperators table "k" op 30 now).1 = table') (cs : List Collection) :
    ∃ ls, Run (expirySystem threeOperators).step ⟨⟨clock, table, [], []⟩, cs⟩ ls
      ⟨⟨now, table', [], []⟩, cs⟩ := by
  subst htable
  have hcall := System.run_of_restrict
    (tryAcquire_run threeOperators (s := ⟨clock, table, [], []⟩) now hnow op "k" 30)
  refine ⟨_, lock_run (fun l hl => ?_) hcall cs⟩
  rcases List.mem_cons.mp hl with rfl | hl
  · trivial
  · rw [List.mem_singleton.mp hl]
    trivial

/-- **Not in every run**: a lock of `op_a` expires and is selected, `op_b` takes the key over before the delete,
and the collector returns the key that `op_b` holds. -/
theorem not_announces_dead : ¬ ∀ operators, AnnouncesDead (expirySystem operators) := by
  intro h
  obtain ⟨_, hfirst⟩ := acquire_run (le_refl 0) "op_a"
    (AList.ext (by decide) : (tryAcquire threeOperators ∅ "k" "op_a" 30 0).1 = heldBy "op_a" 0) []
  have hselect : (expirySystem threeOperators).step ⟨⟨0, heldBy "op_a" 0, [], []⟩, []⟩ (31, .select 31)
      ⟨⟨31, heldBy "op_a" 0, [], []⟩, [⟨31, ["k"], none⟩]⟩ :=
    ⟨by decide, le_rfl, rfl⟩
  obtain ⟨_, hsecond⟩ := acquire_run (le_refl 31) "op_b"
    (AList.ext (by decide) : (tryAcquire threeOperators (heldBy "op_a" 0) "k" "op_b" 30 31).1 =
      heldBy "op_b" 31) [⟨31, ["k"], none⟩]
  have hdelete : (expirySystem threeOperators).step
      ⟨⟨31, heldBy "op_b" 31, [], []⟩, [⟨31, ["k"], none⟩]⟩ (31, .delete ⟨31, ["k"], none⟩)
      ⟨⟨31, deleteStale (heldBy "op_b" 31) 31, [], []⟩, [⟨31, ["k"], some []⟩]⟩ :=
    ⟨le_rfl, List.mem_cons_self, rfl, rfl⟩
  have hfinish : (expirySystem threeOperators).step
      ⟨⟨31, deleteStale (heldBy "op_b" 31) 31, [], []⟩, [⟨31, ["k"], some []⟩]⟩
      (31, .finish ⟨31, ["k"], some []⟩) ⟨⟨31, deleteStale (heldBy "op_b" 31) 31, [], []⟩, []⟩ :=
    ⟨le_rfl, List.mem_cons_self, rfl, rfl⟩
  have hinit : (expirySystem threeOperators).init ⟨⟨0, ∅, [], []⟩, []⟩ := ⟨rfl, rfl⟩
  have hreachable := (((System.Reachable.init hinit).run hfirst).step hselect).run hsecond
  have htruth := h threeOperators _ 31 _ _ (hreachable.step hdelete) hfinish
  have hlive := htruth.1 "k" List.mem_cons_self ⟨"op_b", 31, 61⟩ (by decide)
  exact absurd hlive (by decide)

end Cliptown.Console
