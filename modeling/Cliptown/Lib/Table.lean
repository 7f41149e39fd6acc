import Mathlib.Algebra.BigOperators.Group.List.Basic
import Mathlib.Data.List.AList

/-!
# Keyed tables

A table keyed by `κ` is Mathlib's `AList`: a list of rows whose keys are pairwise distinct, as a
hash map or an SQL table with a primary key has them. The order of the rows is what an iteration
sees; statements that read a table through `lookup` do not depend on it.

* `Table.ofList` — build from a list, later rows overriding earlier ones.
* `Table.mapRows` — keep, change or drop each row; `Table.update` (`UPDATE … WHERE`),
  `Table.deleteWhere` (`DELETE … WHERE`) and `Table.modify` (one key) are instances.
* `lookup_*` — how each operation reads back, for every key.
* `Table.column` — one column of a table.
* `Table.select` — the rows that meet a condition; `select_*` — which changes it does not see.
* `Table.sum` — the total of a column.
-/

namespace Cliptown.Lib

/-- A finite table from keys to rows. -/
abbrev Table (κ β : Type*) := AList (fun _ : κ => β)

namespace Table

variable {κ β : Type*} [DecidableEq κ] {t : Table κ β} {k : κ} {b : β}

/-- Collect rows into a table: the last row of a key wins. -/
def ofList (rows : List (κ × β)) : Table κ β :=
  rows.foldl (fun t r => t.insert r.1 r.2) ∅

/-- A row that a collected table holds was among those collected. -/
theorem mem_of_lookup_ofList {rows : List (κ × β)} (h : (ofList rows).lookup k = some b) :
    (k, b) ∈ rows := by
  have hgen : ∀ (rows : List (κ × β)) (t : Table κ β),
      (rows.foldl (fun t r => t.insert r.1 r.2) t).lookup k = some b →
        t.lookup k = some b ∨ (k, b) ∈ rows := by
    intro rows
    induction rows with
    | nil => exact fun t h => .inl h
    | cons r rows ih =>
        intro t h
        rcases ih _ h with h | h
        · by_cases hk : k = r.1
          · subst hk
            rw [AList.lookup_insert] at h
            obtain rfl : r.2 = b := by simpa using h
            exact .inr List.mem_cons_self
          · rw [AList.lookup_insert_ne hk] at h
            exact .inl h
        · exact .inr (List.mem_cons_of_mem r h)
  rcases hgen rows ∅ h with h | h
  · exact absurd h (by simp)
  · exact h

/-- When no key has two rows, a collected table holds exactly the rows collected. -/
theorem lookup_ofList_iff {rows : List (κ × β)} (h : ∀ k b b', (k, b) ∈ rows → (k, b') ∈ rows → b = b') :
    (ofList rows).lookup k = some b ↔ (k, b) ∈ rows := by
  have hgen : ∀ (rows : List (κ × β)) (t : Table κ β), k ∈ t ∨ (∃ b, (k, b) ∈ rows) →
      k ∈ rows.foldl (fun t r => t.insert r.1 r.2) t := by
    intro rows
    induction rows with
    | nil => exact fun t ht => ht.resolve_right (by simp)
    | cons r rows ih =>
        intro t ht
        refine ih _ (ht.elim (fun hk => .inl ((AList.mem_insert _).mpr (.inr hk))) ?_)
        rintro ⟨b, hb⟩
        rcases List.mem_cons.mp hb with rfl | hb
        · exact .inl ((AList.mem_insert _).mpr (.inl rfl))
        · exact .inr ⟨b, hb⟩
  refine ⟨mem_of_lookup_ofList, fun hb => ?_⟩
  obtain ⟨b', hb'⟩ := Option.isSome_iff_exists.mp (AList.lookup_isSome.mpr (hgen rows ∅ (.inr ⟨b, hb⟩)))
  obtain rfl := h k b b' hb (mem_of_lookup_ofList hb')
  exact hb'

/-- Two tables that are collected from one list have their rows at the same places. -/
theorem lookup_ofList_map {α : Type*} {key : α → κ} (f : α → β) (l : List α) (k : κ) :
    (ofList (l.map fun a => (key a, f a))).lookup k =
      ((ofList (l.map fun a => (key a, a))).lookup k).map f := by
  have hgen : ∀ (l : List α) (t : Table κ β) (t' : Table κ α),
      (∀ k, t.lookup k = (t'.lookup k).map f) →
        ((l.map fun a => (key a, f a)).foldl (fun t r => t.insert r.1 r.2) t).lookup k =
          (((l.map fun a => (key a, a)).foldl (fun t r => t.insert r.1 r.2) t').lookup k).map f := by
    intro l
    induction l with
    | nil => exact fun t t' h => h k
    | cons a l ih =>
        intro t t' h
        refine ih _ _ fun k' => ?_
        by_cases hk : k' = key a
        · subst hk
          rw [AList.lookup_insert, AList.lookup_insert]
          rfl
        · rw [AList.lookup_insert_ne hk, AList.lookup_insert_ne hk, h k']
  exact hgen l ∅ ∅ fun _ => by simp

/-! ### Row-wise changes -/

/-- Change or drop one row, keeping its key. -/
def mapRow (f : κ → β → Option β) (r : Σ _ : κ, β) : Option (Σ _ : κ, β) :=
  (f r.1 r.2).map fun b => ⟨r.1, b⟩

omit [DecidableEq κ] in
/-- No key is added by changing and dropping rows. -/
theorem keys_filterMap_mapRow (f : κ → β → Option β) (l : List (Σ _ : κ, β)) :
    (l.filterMap (mapRow f)).keys.Sublist l.keys := by
  induction l with
  | nil => exact List.Sublist.refl _
  | cons r l ih =>
      rcases hf : f r.1 r.2 with _ | b
      · simpa [List.filterMap_cons, mapRow, hf] using ih.trans (List.sublist_cons_self _ _)
      · simpa [List.filterMap_cons, mapRow, hf] using ih

/-- Keep, change or drop each row. -/
def mapRows (t : Table κ β) (f : κ → β → Option β) : Table κ β where
  entries := t.entries.filterMap (mapRow f)
  nodupKeys := (keys_filterMap_mapRow f t.entries).nodup t.nodupKeys

/-- A row after a row-wise change comes from the row before. -/
@[simp]
theorem lookup_mapRows (t : Table κ β) (f : κ → β → Option β) (k : κ) :
    (t.mapRows f).lookup k = (t.lookup k).bind (f k) := by
  have hgen : ∀ l : List (Σ _ : κ, β), l.NodupKeys →
      (l.filterMap (mapRow f)).dlookup k = (l.dlookup k).bind (f k) := by
    intro l
    induction l with
    | nil => exact fun _ => rfl
    | cons r l ih =>
        intro hl
        rw [List.nodupKeys_cons] at hl
        by_cases hk : k = r.1
        · subst hk
          rw [List.dlookup_cons_eq, List.filterMap_cons]
          rcases hf : f r.1 r.2 with _ | b
          · have hnone : l.dlookup r.1 = none := List.dlookup_eq_none.mpr hl.1
            simpa [mapRow, hf, hnone] using ih hl.2
          · simp [mapRow, hf]
        · rw [List.dlookup_cons_ne _ _ hk, List.filterMap_cons]
          rcases hf : f r.1 r.2 with _ | b
          · simpa [mapRow, hf] using ih hl.2
          · simp only [mapRow, hf, Option.map_some]
            exact (List.dlookup_cons_ne _ (⟨r.1, b⟩ : Σ _ : κ, β) hk).trans (ih hl.2)
  exact hgen t.entries t.nodupKeys

/-- Change the rows that satisfy `p`. -/
def update (t : Table κ β) (p : κ → β → Bool) (f : β → β) : Table κ β :=
  t.mapRows fun k b => some (if p k b then f b else b)

/-- Drop the rows that satisfy `p`. -/
def deleteWhere (t : Table κ β) (p : κ → β → Bool) : Table κ β :=
  t.mapRows fun k b => if p k b then none else some b

/-- Change the row of one key. -/
def modify (t : Table κ β) (k : κ) (f : β → β) : Table κ β :=
  t.update (fun k' _ => k' = k) f

@[simp]
theorem lookup_update (t : Table κ β) (p : κ → β → Bool) (f : β → β) (k : κ) :
    (t.update p f).lookup k = (t.lookup k).map fun b => if p k b then f b else b := by
  rw [update, lookup_mapRows]
  rcases t.lookup k with _ | b <;> rfl

@[simp]
theorem lookup_deleteWhere (t : Table κ β) (p : κ → β → Bool) (k : κ) :
    (t.deleteWhere p).lookup k = (t.lookup k).bind fun b => if p k b then none else some b := by
  rw [deleteWhere, lookup_mapRows]

/-- A row that survives a deletion was there, and is not one of those deleted. -/
theorem of_lookup_deleteWhere {p : κ → β → Bool} (h : (t.deleteWhere p).lookup k = some b) :
    t.lookup k = some b ∧ p k b = false := by
  rw [lookup_deleteWhere] at h
  obtain ⟨c, hc, heq⟩ := Option.bind_eq_some_iff.mp h
  split at heq
  · exact absurd heq (by simp)
  · rename_i hp
    obtain rfl := Option.some.inj heq
    exact ⟨hc, eq_false_of_ne_true hp⟩

theorem lookup_modify_self (t : Table κ β) (k : κ) (f : β → β) :
    (t.modify k f).lookup k = (t.lookup k).map f := by
  simp [modify]

theorem lookup_modify_ne (t : Table κ β) {k k' : κ} (h : k' ≠ k) (f : β → β) :
    (t.modify k f).lookup k' = t.lookup k' := by
  simp [modify, h]

/-- One row of a changed table, whichever key it has. -/
theorem lookup_modify (t : Table κ β) (k k' : κ) (f : β → β) :
    (t.modify k f).lookup k' = if k' = k then (t.lookup k').map f else t.lookup k' := by
  split
  · rename_i h
    rw [h, lookup_modify_self]
  · exact lookup_modify_ne t ‹_› f

/-- One row after an insertion, whichever key it has. -/
theorem lookup_insert_eq (t : Table κ β) (k k' : κ) (b : β) :
    (t.insert k b).lookup k' = if k' = k then some b else t.lookup k' := by
  split
  · rename_i h
    rw [h, AList.lookup_insert]
  · exact AList.lookup_insert_ne ‹_›

/-- One row after a deletion, whichever key it has. -/
theorem lookup_erase_eq (t : Table κ β) (k k' : κ) :
    (t.erase k).lookup k' = if k' = k then none else t.lookup k' := by
  split
  · rename_i h
    rw [h, AList.lookup_erase]
  · exact AList.lookup_erase_ne ‹_›

/-! ### Columns -/

/-- A column of a table. -/
def column {γ : Type*} (t : Table κ β) (f : β → γ) : Table κ γ where
  entries := t.entries.map fun r => ⟨r.1, f r.2⟩
  nodupKeys := by
    have hkeys : (t.entries.map fun r => (⟨r.1, f r.2⟩ : Σ _ : κ, γ)).keys = t.entries.keys := by
      simp [List.keys, Function.comp_def]
    unfold List.NodupKeys
    rw [hkeys]
    exact t.nodupKeys

/-- A column holds what the row holds. -/
@[simp]
theorem lookup_column {γ : Type*} (t : Table κ β) (f : β → γ) (k : κ) :
    (t.column f).lookup k = (t.lookup k).map f := by
  have hgen : ∀ l : List (Σ _ : κ, β),
      (l.map fun r => (⟨r.1, f r.2⟩ : Σ _ : κ, γ)).dlookup k = (l.dlookup k).map f := by
    intro l
    induction l with
    | nil => rfl
    | cons r l ih =>
        obtain ⟨key, row⟩ := r
        rw [List.map_cons]
        by_cases hk : k = key
        · subst hk
          simp [List.dlookup_cons_eq]
        · rw [List.dlookup_cons_ne _ (⟨key, f row⟩ : Σ _ : κ, γ) hk,
            List.dlookup_cons_ne _ (⟨key, row⟩ : Σ _ : κ, β) hk, ih]
  exact hgen t.entries

omit [DecidableEq κ] in
/-- A change of other columns. -/
theorem column_update {γ : Type*} {p : κ → β → Bool} {f : β → β} {g : β → γ} (h : ∀ b, g (f b) = g b) :
    (t.update p f).column g = t.column g := by
  have hgen : ∀ l : List (Σ _ : κ, β),
      (l.filterMap (mapRow fun k b => some (if p k b then f b else b))).map
        (fun r => (⟨r.1, g r.2⟩ : Σ _ : κ, γ)) = l.map fun r => ⟨r.1, g r.2⟩ := by
    intro l
    induction l with
    | nil => rfl
    | cons r l ih =>
        have hrow : g (if p r.1 r.2 then f r.2 else r.2) = g r.2 := by
          split
          · exact h r.2
          · rfl
        rw [List.filterMap_cons_some (by rfl), List.map_cons, List.map_cons, ih]
        exact congrArg (fun c => (⟨r.1, c⟩ : Σ _ : κ, γ) :: _) hrow
  exact AList.ext (hgen t.entries)

omit [DecidableEq κ] in
/-- A column has the keys of its table. -/
theorem keys_column {γ : Type*} (g : β → γ) : (t.column g).keys = t.keys := by
  simp [AList.keys, column, List.keys, Function.comp_def]

/-! ### Selections -/

/-- The row of a key, if it meets the condition: `SELECT … WHERE`. -/
def select (t : Table κ β) (p : κ → β → Bool) (k : κ) : Option β :=
  (t.lookup k).filter (p k)

/-- What is selected. -/
theorem select_eq_some_iff {p : κ → β → Bool} :
    t.select p k = some b ↔ t.lookup k = some b ∧ p k b = true := by
  unfold select
  rw [Option.filter_eq_some_iff]

/-- Conditions that agree on the rows of a table select the same. -/
theorem select_congr {t t' : Table κ β} {p q : κ → β → Bool}
    (h : ∀ k b, t.lookup k = some b ∧ p k b = true ↔ t'.lookup k = some b ∧ q k b = true) :
    t.select p = t'.select q := by
  funext k
  apply Option.ext
  intro b
  rw [select_eq_some_iff, select_eq_some_iff, h k b]

/-- A row that is not selected, neither before a change nor after it. -/
theorem select_modify {p : κ → β → Bool} {f : β → β}
    (h : ∀ b, t.lookup k = some b → p k b = false ∧ p k (f b) = false) :
    (t.modify k f).select p = t.select p := by
  apply select_congr
  intro k' b
  rw [lookup_modify]
  split
  · rename_i heq
    subst heq
    constructor
    · rintro ⟨hb, hp⟩
      obtain ⟨b₀, hb₀, rfl⟩ := Option.map_eq_some_iff.mp hb
      rw [(h b₀ hb₀).2] at hp
      exact absurd hp (by simp)
    · rintro ⟨hb, hp⟩
      rw [(h b hb).1] at hp
      exact absurd hp (by simp)
  · rfl

/-- A new row that is not selected. -/
theorem select_insert {p : κ → β → Bool} (hnone : t.lookup k = none) (hb : p k b = false) :
    select (t.insert k b) p = t.select p := by
  apply select_congr
  intro k' b'
  rw [lookup_insert_eq]
  split
  · rename_i heq
    subst heq
    constructor
    · rintro ⟨heq, hp⟩
      rw [← Option.some.inj heq, hb] at hp
      exact absurd hp (by simp)
    · rintro ⟨hb', -⟩
      exact absurd (hnone.symm.trans hb') (by simp)
  · rfl

/-- Deleted rows that are not selected. -/
theorem select_deleteWhere {p q : κ → β → Bool}
    (h : ∀ k b, t.lookup k = some b → q k b = true → p k b = false) :
    (t.deleteWhere q).select p = t.select p := by
  apply select_congr
  intro k b
  constructor
  · rintro ⟨hb, hp⟩
    exact ⟨(of_lookup_deleteWhere hb).1, hp⟩
  · rintro ⟨hb, hp⟩
    refine ⟨?_, hp⟩
    rw [lookup_deleteWhere, hb, Option.bind_some, if_neg]
    intro hq
    rw [h k b hb hq] at hp
    exact absurd hp (by simp)

/-- A deleted row that is not selected. -/
theorem select_erase {p : κ → β → Bool} (h : ∀ b, t.lookup k = some b → p k b = false) :
    select (t.erase k) p = t.select p := by
  apply select_congr
  intro k' b
  rw [lookup_erase_eq]
  split
  · rename_i heq
    subst heq
    constructor
    · rintro ⟨hb, -⟩
      exact absurd hb (by simp)
    · rintro ⟨hb, hp⟩
      rw [h b hb] at hp
      exact absurd hp (by simp)
  · rfl

/-! ### Totals -/

/-- The total of a column: `SELECT SUM(…)`. -/
def sum {M : Type*} [AddMonoid M] (t : Table κ β) (f : β → M) : M :=
  (t.entries.map fun r => f r.2).sum

/-- A new row adds to the total. -/
theorem sum_insert {M : Type*} [AddMonoid M] (h : t.lookup k = none) (b : β) (f : β → M) :
    sum (t.insert k b) f = f b + t.sum f := by
  unfold sum
  rw [AList.entries_insert_of_notMem (AList.lookup_eq_none.mp h)]
  rfl

/-- A column of zeros. -/
theorem sum_eq_zero {M : Type*} [AddMonoid M] {f : β → M}
    (h : ∀ k b, t.lookup k = some b → f b = 0) : t.sum f = 0 := by
  apply List.sum_eq_zero
  intro x hx
  obtain ⟨r, hr, rfl⟩ := List.mem_map.mp hx
  exact h r.1 r.2 (AList.mem_lookup_iff.mpr hr)

/-- What a table of one row holds. -/
theorem lookup_singleton_iff {k k' : κ} {b c : β} :
    (AList.singleton k b : Table κ β).lookup k' = some c ↔ k' = k ∧ b = c := by
  rw [← AList.insert_empty, lookup_insert_eq]
  split
  · rename_i h
    simp [h]
  · rename_i h
    simp [h]

end Table

end Cliptown.Lib
