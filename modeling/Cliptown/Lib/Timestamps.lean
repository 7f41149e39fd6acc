import Mathlib.Data.Nat.Basic
import Mathlib.Order.Monotone.Basic
import Mathlib.Tactic.Ring

/-!
# Times as text

Dates of the calendar, and times written with a fixed number of digits, so that their texts are in their order.

* `digits` — a number with a given number of digits; `digits_append`, `digits_lt`.
* `Date`, `Date.next`, `dateOf` — the calendar, day by day from the beginning of 1970.
* `timeCode`, `code_lt`, `timeCode_lt` — dates and times of day as numbers.
* `stamp`, `stamp_lt` — `YYYYMMDD-HHMMSS`: what is earlier is written by a smaller text, up to the year 9999.

Nothing here names a program.
-/

namespace Cliptown.Lib

/-! ### Digits -/

/-- The last `w` digits of a number. -/
def digits : ℕ → ℕ → List Char
  | 0, _ => []
  | w + 1, n => digits w (n / 10) ++ [Char.ofNat (48 + n % 10)]

@[simp]
theorem length_digits (w n : ℕ) : (digits w n).length = w := by
  induction w generalizing n with
  | zero => rfl
  | succ w ih => rw [digits, List.length_append, ih, List.length_singleton]

/-- Digits of a number after those of another one. -/
theorem digits_append (a b x : ℕ) {y : ℕ} (hy : y < 10 ^ b) :
    digits (a + b) (x * 10 ^ b + y) = digits a x ++ digits b y := by
  induction b generalizing y with
  | zero =>
      rw [pow_zero] at hy
      rw [pow_zero, Nat.mul_one, Nat.lt_one_iff.mp hy, Nat.add_zero, Nat.add_zero, digits, List.append_nil]
  | succ b ih =>
      have hpow : x * 10 ^ (b + 1) = 10 * (x * 10 ^ b) := by ring
      have hdiv : (x * 10 ^ (b + 1) + y) / 10 = x * 10 ^ b + y / 10 := by omega
      have hmod : (x * 10 ^ (b + 1) + y) % 10 = y % 10 := by omega
      have hlt : y / 10 < 10 ^ b := by
        rw [pow_succ] at hy
        omega
      rw [← Nat.add_assoc, digits, hdiv, hmod, ih hlt, digits, List.append_assoc]

/-- Texts that begin with different texts of one length. -/
theorem append_lt_append {α : Type*} [LT α] {a a' : List α} (b b' : List α) (hlength : a.length = a'.length)
    (h : a < a') : a ++ b < a' ++ b' := by
  induction a generalizing a' with
  | nil =>
      rw [List.eq_nil_of_length_eq_zero hlength.symm] at h
      exact absurd h (List.not_lt_nil [])
  | cons x a ih =>
      obtain _ | ⟨x', a'⟩ := a'
      · cases hlength
      · rw [List.cons_append, List.cons_append, List.cons_lt_cons_iff]
        rcases List.cons_lt_cons_iff.mp h with hx | ⟨hx, hrest⟩
        · exact .inl hx
        · exact .inr ⟨hx, ih (Nat.succ.inj hlength) hrest⟩

/-- Texts that begin with the same text. -/
theorem append_lt_append_left {α : Type*} [LT α] (a : List α) {b b' : List α} (h : b < b') :
    a ++ b < a ++ b' := by
  induction a with
  | nil => exact h
  | cons x a ih => exact List.cons_lt_cons_iff.mpr (.inr ⟨rfl, ih⟩)

theorem digit_lt : ∀ i < 10, ∀ j < 10, i < j → Char.ofNat (48 + i) < Char.ofNat (48 + j) := by
  decide

/-- **Numbers with as many digits are in the order of their texts.** -/
theorem digits_lt {w n m : ℕ} (h : n < m) (hm : m < 10 ^ w) : digits w n < digits w m := by
  induction w generalizing n m with
  | zero =>
      rw [pow_zero] at hm
      omega
  | succ w ih =>
      rw [digits, digits]
      by_cases hdiv : n / 10 = m / 10
      · rw [hdiv]
        have hlast : Char.ofNat (48 + n % 10) < Char.ofNat (48 + m % 10) :=
          digit_lt _ (Nat.mod_lt _ (by decide)) _ (Nat.mod_lt _ (by decide)) (by omega)
        exact append_lt_append_left _ (List.cons_lt_cons_iff.mpr (Or.inl hlast))
      · rw [pow_succ] at hm
        have hlength : (digits w (n / 10)).length = (digits w (m / 10)).length := by
          rw [length_digits, length_digits]
        exact append_lt_append _ _ hlength (ih (by omega) (by omega))

/-! ### Dates -/

/-- A date; its day fits two digits, as its month does. -/
structure Date where
  year : ℕ
  month : ℕ
  day : ℕ
  month_le : month ≤ 12
  day_le : day ≤ 31

/-- The years with a 29th of February. -/
def isLeap (year : ℕ) : Bool := year % 4 = 0 ∧ (year % 100 ≠ 0 ∨ year % 400 = 0)

/-- The length of a month. -/
def daysInMonth (year month : ℕ) : ℕ :=
  if month = 2 then if isLeap year then 29 else 28
  else if month ∈ [4, 6, 9, 11] then 30
  else 31

theorem daysInMonth_le (year month : ℕ) : daysInMonth year month ≤ 31 := by
  unfold daysInMonth
  split_ifs <;> decide

namespace Date

/-- The beginning of the year 1970. -/
def epoch : Date := ⟨1970, 1, 1, by decide, by decide⟩

/-- The day after a date. -/
def next (d : Date) : Date :=
  if hday : d.day < daysInMonth d.year d.month then
    { d with day := d.day + 1, day_le := (Nat.succ_le_of_lt hday).trans (daysInMonth_le d.year d.month) }
  else if hmonth : d.month < 12 then ⟨d.year, d.month + 1, 1, hmonth, by decide⟩
  else ⟨d.year + 1, 1, 1, by decide, by decide⟩

/-- A date as a number whose digits are those of the date. -/
def code (d : Date) : ℕ := d.year * 10000 + d.month * 100 + d.day

theorem code_lt_next (d : Date) : d.code < d.next.code := by
  have hmonth := d.month_le
  have hday := d.day_le
  unfold next
  split_ifs <;> simp only [code] <;> omega

end Date

/-- The date of a day, counted from the beginning of 1970. -/
def dateOf : ℕ → Date
  | 0 => .epoch
  | n + 1 => (dateOf n).next

/-- **Later days have later dates.** -/
theorem code_lt {n m : ℕ} (h : n < m) : (dateOf n).code < (dateOf m).code :=
  strictMono_nat_of_lt_succ (fun n => (dateOf n).code_lt_next) h

/-! ### Times -/

/-- A time of day as a number whose digits are hours, minutes and seconds. -/
def timeCode (s : ℕ) : ℕ := s / 3600 * 10000 + s / 60 % 60 * 100 + s % 60

theorem timeCode_lt {s t : ℕ} (h : s < t) : timeCode s < timeCode t := by
  have hs : s / 3600 = s / 60 / 60 := (Nat.div_div_eq_div_mul s 60 60).symm
  have ht : t / 3600 = t / 60 / 60 := (Nat.div_div_eq_div_mul t 60 60).symm
  rw [timeCode, timeCode, hs, ht]
  omega

theorem timeCode_lt_pow {s : ℕ} (h : s < 86400) : timeCode s < 10 ^ 6 := by
  unfold timeCode
  omega

/-- A moment, in seconds from the beginning of 1970, as `YYYYMMDD-HHMMSS`. -/
def stamp (now : ℕ) : List Char :=
  let d := dateOf (now / 86400)
  let s := now % 86400
  digits 4 d.year ++ digits 2 d.month ++ digits 2 d.day ++ '-' ::
    (digits 2 (s / 3600) ++ digits 2 (s / 60 % 60) ++ digits 2 (s % 60))

/-- The year of a moment. -/
def yearOf (now : ℕ) : ℕ := (dateOf (now / 86400)).year

theorem stamp_eq (now : ℕ) :
    stamp now = digits 8 (dateOf (now / 86400)).code ++ '-' :: digits 6 (timeCode (now % 86400)) := by
  have hmonth := (dateOf (now / 86400)).month_le
  have hday := (dateOf (now / 86400)).day_le
  have hdate : digits 8 (dateOf (now / 86400)).code = digits 4 (dateOf (now / 86400)).year ++
      digits 2 (dateOf (now / 86400)).month ++ digits 2 (dateOf (now / 86400)).day := by
    rw [← digits_append 4 2 _ (by omega), ← digits_append 6 2 _ (by omega), Date.code]
    congr 1
    ring
  have htime : digits 6 (timeCode (now % 86400)) = digits 2 (now % 86400 / 3600) ++
      digits 2 (now % 86400 / 60 % 60) ++ digits 2 (now % 86400 % 60) := by
    rw [← digits_append 2 2 _ (by omega), ← digits_append 4 2 _ (by omega), timeCode]
    congr 1
    ring
  rw [stamp, hdate, htime]

@[simp]
theorem length_stamp (now : ℕ) : (stamp now).length = 15 := by
  simp [stamp_eq]

theorem code_lt_pow {now : ℕ} (hyear : yearOf now ≤ 9999) : (dateOf (now / 86400)).code < 10 ^ 8 := by
  have hmonth := (dateOf (now / 86400)).month_le
  have hday := (dateOf (now / 86400)).day_le
  rw [yearOf] at hyear
  rw [Date.code]
  omega

/-- **Earlier moments have smaller texts.** -/
theorem stamp_lt {now later : ℕ} (h : now < later) (hyear : yearOf later ≤ 9999) : stamp now < stamp later := by
  rw [stamp_eq, stamp_eq]
  by_cases hday : now / 86400 = later / 86400
  · have htime : digits 6 (timeCode (now % 86400)) < digits 6 (timeCode (later % 86400)) :=
      digits_lt (timeCode_lt (by omega)) (timeCode_lt_pow (Nat.mod_lt _ (by decide)))
    rw [hday]
    exact append_lt_append_left _ (List.cons_lt_cons_iff.mpr (Or.inr ⟨rfl, htime⟩))
  · have hdate : digits 8 (dateOf (now / 86400)).code < digits 8 (dateOf (later / 86400)).code :=
      digits_lt (code_lt (by omega)) (code_lt_pow hyear)
    exact append_lt_append _ _ (by rw [length_digits, length_digits]) hdate

end Cliptown.Lib
