import Mathlib.Data.List.Basic
import Mathlib.Tactic.Common

/-!
# Lines out of a stream

* `complete`, `rest` — the pieces of a stream that a separator ends, and the piece still open.
* `complete_append`, `rest_append` — the open piece is all that has to be carried from one part of
  the stream to the next.
* `splitOn_flatMap` — pieces that are each ended by a separator split into themselves.
-/

namespace Cliptown.Lib.Lines

variable {α : Type*} [DecidableEq α] (sep : α)

/-- The pieces that a separator ends. -/
def complete (xs : List α) : List (List α) := (xs.splitOn sep).dropLast

/-- The piece still open. -/
def rest (xs : List α) : List α := (xs.splitOn sep).getLast (List.splitOn_ne_nil sep xs)

theorem splitOn_eq (xs : List α) : xs.splitOn sep = complete sep xs ++ [rest sep xs] :=
  (List.dropLast_append_getLast _).symm

/-- Pieces and an open piece are what a stream splits into in one way only. -/
theorem complete_rest_of_splitOn {xs : List α} (pieces : List (List α)) (last : List α)
    (h : xs.splitOn sep = pieces ++ [last]) : complete sep xs = pieces ∧ rest sep xs = last := by
  rw [splitOn_eq] at h
  obtain ⟨hpieces, hlast⟩ := List.append_inj' h rfl
  exact ⟨hpieces, by simpa using hlast⟩

theorem complete_of_notMem {xs : List α} (h : sep ∉ xs) : complete sep xs = [] :=
  (complete_rest_of_splitOn sep [] xs (List.splitOn_eq_singleton h)).1

theorem rest_of_notMem {xs : List α} (h : sep ∉ xs) : rest sep xs = xs :=
  (complete_rest_of_splitOn sep [] xs (List.splitOn_eq_singleton h)).2

theorem complete_append_cons (xs ys : List α) :
    complete sep (xs ++ sep :: ys) = complete sep xs ++ rest sep xs :: complete sep ys := by
  apply (complete_rest_of_splitOn sep _ (rest sep ys) _).1
  rw [List.splitOn_append_cons_self, splitOn_eq sep xs, splitOn_eq sep ys]
  simp

theorem rest_append_cons (xs ys : List α) : rest sep (xs ++ sep :: ys) = rest sep ys := by
  apply (complete_rest_of_splitOn sep (complete sep xs ++ rest sep xs :: complete sep ys) _ _).2
  rw [List.splitOn_append_cons_self, splitOn_eq sep xs, splitOn_eq sep ys]
  simp

theorem complete_cons_self (xs : List α) : complete sep (sep :: xs) = [] :: complete sep xs := by
  simpa [complete_of_notMem, rest_of_notMem] using complete_append_cons sep [] xs

theorem rest_cons_self (xs : List α) : rest sep (sep :: xs) = rest sep xs :=
  rest_append_cons sep [] xs

/-- The open piece is what comes after the last separator. -/
theorem notMem_or_append_cons (xs : List α) :
    sep ∉ xs ∨ ∃ a r, xs = a ++ sep :: r ∧ sep ∉ r := by
  induction xs with
  | nil => exact .inl List.not_mem_nil
  | cons x xs ih =>
    rcases ih with h | ⟨a, r, rfl, hr⟩
    · by_cases hx : x = sep
      · exact .inr ⟨[], xs, by rw [hx]; rfl, h⟩
      · exact .inl (by simp [h, Ne.symm hx])
    · exact .inr ⟨x :: a, r, rfl, hr⟩

theorem notMem_rest (xs : List α) : sep ∉ rest sep xs := by
  rcases notMem_or_append_cons sep xs with h | ⟨a, r, rfl, hr⟩
  · rwa [rest_of_notMem sep h]
  · rwa [rest_append_cons, rest_of_notMem sep hr]

/-- A longer stream: the open piece is carried over. -/
theorem complete_append (xs ys : List α) :
    complete sep (xs ++ ys) = complete sep xs ++ complete sep (rest sep xs ++ ys) := by
  rcases notMem_or_append_cons sep xs with h | ⟨a, r, rfl, hr⟩
  · rw [complete_of_notMem sep h, rest_of_notMem sep h, List.nil_append]
  · rw [List.append_assoc, List.cons_append, complete_append_cons, complete_append_cons,
      rest_append_cons, complete_of_notMem sep hr, rest_of_notMem sep hr]
    simp

theorem rest_append (xs ys : List α) : rest sep (xs ++ ys) = rest sep (rest sep xs ++ ys) := by
  rcases notMem_or_append_cons sep xs with h | ⟨a, r, rfl, hr⟩
  · rw [rest_of_notMem sep h]
  · rw [List.append_assoc, List.cons_append, rest_append_cons, rest_append_cons,
      rest_of_notMem sep hr]

/-! ### Lines put together again -/

theorem notMem_of_mem_splitOn {xs piece : List α} (h : piece ∈ xs.splitOn sep) : sep ∉ piece := by
  induction xs generalizing piece with
  | nil =>
    rw [List.splitOn_nil, List.mem_singleton] at h
    rw [h]
    exact List.not_mem_nil
  | cons x xs ih =>
    rw [List.splitOn_cons_eq_if_modifyHead] at h
    by_cases hx : x = sep
    · rw [if_pos (by simpa using hx), List.mem_cons] at h
      rcases h with rfl | h
      · exact List.not_mem_nil
      · exact ih h
    · rw [if_neg (by simpa using hx)] at h
      rcases hsplit : xs.splitOn sep with _ | ⟨first, pieces⟩
      · exact absurd hsplit (List.splitOn_ne_nil sep xs)
      · rw [hsplit, List.modifyHead_cons, List.mem_cons] at h
        rcases h with rfl | h
        · exact List.not_mem_cons_of_ne_of_not_mem (Ne.symm hx) (ih (by rw [hsplit]; exact List.mem_cons_self))
        · exact ih (by rw [hsplit]; exact List.mem_cons_of_mem _ h)

/-- Pieces that are each ended by a separator split into themselves, with nothing left open. -/
theorem splitOn_flatMap {pieces : List (List α)} (h : ∀ piece ∈ pieces, sep ∉ piece) :
    (pieces.flatMap fun piece => piece ++ [sep]).splitOn sep = pieces ++ [[]] := by
  induction pieces with
  | nil => rfl
  | cons piece pieces ih =>
    obtain ⟨hpiece, hpieces⟩ := List.forall_mem_cons.mp h
    rw [List.flatMap_cons, List.append_assoc, List.singleton_append,
      List.splitOn_append_cons_self_of_not_mem hpiece, ih hpieces, List.cons_append]

end Cliptown.Lib.Lines
