import Cliptown.Lib.Utf8
import Cliptown.Sandbox.Command
import Mathlib.Data.List.TakeWhile

/-!
# The tail of an output

What a command has written is cut to its last bytes, and the cut may land inside a character.

* `decodeNext_encodeChar`, `fromUtf8Lossy_encode` — the lossy decoder takes an encoded character as a whole, and so it
  returns a text that was encoded as it was.
* `suffix_dropWhile` — a part that starts at a character survives the loop that looks for one.
* `CleanTail` — the longest end of a text that fits under the cap.
* `tailToString_encode` — this is what is kept of every text.
-/

namespace Cliptown.Sandbox

open Cliptown.Lib Cliptown.Lib.Utf8

/-! ### Decoding an encoded text -/

theorem isContinuation_eq_true_iff {b : UInt8} : isContinuation b = true ↔ IsContinuation b :=
  beq_iff_eq

/-- What follows a first byte, by the number that the byte is. -/
theorem follows_eq (b : UInt8) :
    follows b =
      if 0xC2 ≤ b.toNat ∧ b.toNat ≤ 0xDF then some (0x80, 0xBF, 0)
      else if b.toNat = 0xE0 then some (0xA0, 0xBF, 1)
      else if b.toNat = 0xED then some (0x80, 0x9F, 1)
      else if 0xE1 ≤ b.toNat ∧ b.toNat ≤ 0xEF then some (0x80, 0xBF, 1)
      else if b.toNat = 0xF0 then some (0x90, 0xBF, 2)
      else if 0xF1 ≤ b.toNat ∧ b.toNat ≤ 0xF3 then some (0x80, 0xBF, 2)
      else if b.toNat = 0xF4 then some (0x80, 0x8F, 2)
      else none := by
  simp only [follows, UInt8.le_iff_toNat_le, ← UInt8.toNat_inj]
  rfl

section

variable {b x : UInt8} {v : ℕ}

/-- The bounds of the byte after the first one, and that it lies between them, in numbers. -/
theorem exists_bounds (low high : ℕ) {more : ℕ} (hlow' : low < 256) (hhigh' : high < 256)
    (hfollows : follows b = some (.ofNat low, .ofNat high, more)) (hlow : low ≤ x.toNat) (hhigh : x.toNat ≤ high) :
    ∃ low high, follows b = some (low, high, more) ∧ low ≤ x ∧ x ≤ high := by
  refine ⟨_, _, hfollows, UInt8.le_iff_toNat_le.mpr ?_, UInt8.le_iff_toNat_le.mpr ?_⟩
  · rwa [UInt8.toNat_ofNat', Nat.mod_eq_of_lt hlow']
  · rwa [UInt8.toNat_ofNat', Nat.mod_eq_of_lt hhigh']

/-- The first two bytes of a character of two bytes. -/
theorem follows_two (hb : b.toNat = v / 64 + 0xC0) (hx : IsContinuation x) (hlow : 0x7F < v)
    (hhigh : v ≤ 0x7FF) : ∃ low high, follows b = some (low, high, 0) ∧ low ≤ x ∧ x ≤ high := by
  rw [isContinuation_iff] at hx
  have heq := follows_eq b
  rw [if_pos (by omega)] at heq
  exact exists_bounds 0x80 0xBF (by omega) (by omega) heq hx.1 hx.2

/-- The first two bytes of a character of three bytes: the bounds exclude the overlong forms and the surrogates, which
the value of a character is not. -/
theorem follows_three (hb : b.toNat = v / 4096 + 0xE0) (hx : x.toNat = v / 64 % 64 + 0x80) (hlow : 0x7FF < v)
    (hhigh : v ≤ 0xFFFF) (hscalar : v < 0xD800 ∨ 0xDFFF < v) :
    ∃ low high, follows b = some (low, high, 1) ∧ low ≤ x ∧ x ≤ high := by
  have heq := follows_eq b
  rw [if_neg (by omega)] at heq
  by_cases h0 : b.toNat = 0xE0
  · rw [if_pos h0] at heq
    exact exists_bounds 0xA0 0xBF (by omega) (by omega) heq (by omega) (by omega)
  by_cases hD : b.toNat = 0xED
  · rw [if_neg h0, if_pos hD] at heq
    exact exists_bounds 0x80 0x9F (by omega) (by omega) heq (by omega) (by omega)
  · rw [if_neg h0, if_neg hD, if_pos (by omega)] at heq
    exact exists_bounds 0x80 0xBF (by omega) (by omega) heq (by omega) (by omega)

/-- The first two bytes of a character of four bytes. -/
theorem follows_four (hb : b.toNat = v / 262144 + 0xF0) (hx : x.toNat = v / 4096 % 64 + 0x80) (hlow : 0xFFFF < v)
    (hhigh : v < 0x110000) : ∃ low high, follows b = some (low, high, 2) ∧ low ≤ x ∧ x ≤ high := by
  have heq := follows_eq b
  rw [if_neg (by omega), if_neg (by omega), if_neg (by omega), if_neg (by omega)] at heq
  by_cases h0 : b.toNat = 0xF0
  · rw [if_pos h0] at heq
    exact exists_bounds 0x90 0xBF (by omega) (by omega) heq (by omega) (by omega)
  by_cases h4 : b.toNat = 0xF4
  · rw [if_neg h0, if_neg (by omega), if_pos h4] at heq
    exact exists_bounds 0x80 0x8F (by omega) (by omega) heq (by omega) (by omega)
  · rw [if_neg h0, if_pos (by omega)] at heq
    exact exists_bounds 0x80 0xBF (by omega) (by omega) heq (by omega) (by omega)

end

/-- A first byte that expects `more` bytes after the next one, and they are there: the character that they make. -/
theorem decodeNext_of_follows {b x low high : UInt8} {more : List UInt8} (rest : List UInt8) (hb : 0x80 ≤ b.toNat)
    (hfollows : follows b = some (low, high, more.length)) (hlow : low ≤ x) (hhigh : x ≤ high)
    (hmore : ∀ c ∈ more, IsContinuation c) :
    decodeNext b (x :: more ++ rest) = (codePoint b (x :: more), 1 + more.length) := by
  have hascii : ¬ b < 0x80 := by
    rw [UInt8.lt_iff_toNat_lt]
    exact Nat.not_lt.mpr hb
  have htail : ((more ++ rest).take more.length).takeWhile isContinuation = more := by
    rw [List.take_left, List.takeWhile_eq_self_iff]
    exact fun c hc => isContinuation_eq_true_iff.mpr (hmore c hc)
  simp only [decodeNext, if_neg hascii, hfollows, List.cons_append, htail, hlow, hhigh, and_self, not_true_eq_false,
    if_false, if_true]

/-- The character of a number, when the bits of the bytes make the number. -/
theorem codePoint_eq {b : UInt8} {rest : List UInt8} {v : ℕ}
    (h : rest.foldl (fun n c => n * 64 + c.toNat % 64) (b.toNat % (0x40 >>> rest.length)) = v) :
    codePoint b rest = Char.ofNat v := by
  rw [codePoint, h]

/-- **An encoded character is decoded as a whole**, whatever comes after it. -/
theorem decodeNext_encodeChar (c : Char) (rest : List UInt8) :
    ∃ b tail, String.utf8EncodeChar c = b :: tail ∧ decodeNext b (tail ++ rest) = (c, tail.length) := by
  have hv : c.val.toNat < 0xd800 ∨ (0xdfff < c.val.toNat ∧ c.val.toNat < 0x110000) := c.valid
  have hc : Char.ofNat c.val.toNat = c := Char.ofNat_toNat c
  unfold String.utf8EncodeChar
  generalize c.val.toNat = v at hv hc
  simp only
  by_cases h1 : v ≤ 0x7F
  · have hb : (UInt8.ofNat v).toNat = v := by rw [UInt8.toNat_ofNat']; omega
    have hascii : UInt8.ofNat v < 0x80 := by
      rw [UInt8.lt_iff_toNat_lt, hb]
      exact Nat.lt_succ_of_le h1
    rw [if_pos h1]
    refine ⟨_, [], rfl, ?_⟩
    simp only [decodeNext, if_pos hascii, hb, hc, List.length_nil]
  by_cases h2 : v ≤ 0x7FF
  · have hb : (UInt8.ofNat (v / 64 % 0x20 + 0xC0)).toNat = v / 64 + 0xC0 := by
      rw [UInt8.toNat_ofNat']; omega
    obtain ⟨low, high, hfollows, hlow, hhigh⟩ :=
      follows_two hb (isContinuation_tail v) (by omega) h2
    rw [if_neg h1, if_pos h2]
    refine ⟨_, _, rfl, ?_⟩
    rw [decodeNext_of_follows rest (by omega) hfollows hlow hhigh (by simp), codePoint_eq (v := v), hc]
    · rfl
    · simp [hb, toNat_tail, -UInt8.ofNat_add, -UInt8.toNat_ofNat']
      omega
  by_cases h3 : v ≤ 0xFFFF
  · have hb : (UInt8.ofNat (v / 4096 % 0x10 + 0xE0)).toNat = v / 4096 + 0xE0 := by
      rw [UInt8.toNat_ofNat']; omega
    obtain ⟨low, high, hfollows, hlow, hhigh⟩ :=
      follows_three hb (toNat_tail (v / 64)) (by omega) h3 (by omega)
    rw [if_neg h1, if_neg h2, if_pos h3]
    refine ⟨_, _, rfl, ?_⟩
    have hmore : ∀ x ∈ [UInt8.ofNat (v % 0x40 + 0x80)], IsContinuation x := by
      simp [-UInt8.ofNat_add, isContinuation_tail]
    rw [decodeNext_of_follows rest (by omega) hfollows hlow hhigh hmore, codePoint_eq (v := v), hc]
    · rfl
    · simp [hb, toNat_tail, -UInt8.ofNat_add, -UInt8.toNat_ofNat']
      omega
  · have hb : (UInt8.ofNat (v / 262144 % 0x08 + 0xF0)).toNat = v / 262144 + 0xF0 := by
      rw [UInt8.toNat_ofNat']; omega
    obtain ⟨low, high, hfollows, hlow, hhigh⟩ :=
      follows_four hb (toNat_tail (v / 4096)) (by omega) (by omega)
    rw [if_neg h1, if_neg h2, if_neg h3]
    refine ⟨_, _, rfl, ?_⟩
    have hmore : ∀ x ∈ [UInt8.ofNat (v / 64 % 0x40 + 0x80), UInt8.ofNat (v % 0x40 + 0x80)], IsContinuation x := by
      simp [-UInt8.ofNat_add, isContinuation_tail]
    rw [decodeNext_of_follows rest (by omega) hfollows hlow hhigh hmore, codePoint_eq (v := v), hc]
    · rfl
    · simp [hb, toNat_tail, -UInt8.ofNat_add, -UInt8.toNat_ofNat']
      omega

theorem decodeUpTo_encode (text : List Char) : ∀ n, (encode text).length ≤ n → decodeUpTo n (encode text) = text := by
  induction text with
  | nil =>
    intro n _
    cases n <;> rfl
  | cons c text ih =>
    intro n hn
    obtain ⟨b, tail, hshape, hdecode⟩ := decodeNext_encodeChar c (encode text)
    rw [encode_cons, hshape, List.cons_append] at hn ⊢
    rw [List.length_cons, List.length_append] at hn
    cases n with
    | zero => omega
    | succ n =>
      rw [decodeUpTo, hdecode]
      simp only [List.drop_left, ih n (by omega)]

/-- A text that was encoded is read as it was. -/
theorem fromUtf8Lossy_encode (text : List Char) : fromUtf8Lossy (encode text) = .ofList text := by
  rw [fromUtf8Lossy, decodeUpTo_encode text _ le_rfl]

/-! ### Looking for a character -/

/-- Where the loop stops a character starts, or the bytes are at their end. -/
theorem not_startsInside_dropWhile (bytes : List UInt8) : ¬ StartsInside (bytes.dropWhile isContinuation) := by
  induction bytes with
  | nil => exact not_false
  | cons b bytes ih =>
    by_cases hb : isContinuation b
    · rwa [List.dropWhile_cons_of_pos hb]
    · rw [List.dropWhile_cons_of_neg hb]
      exact fun h => hb (isContinuation_eq_true_iff.mpr h)

/-- The loop drops no part that starts at a character. -/
theorem suffix_dropWhile {part bytes : List UInt8} (h : part <:+ bytes) (hpart : ¬ StartsInside part) :
    part <:+ bytes.dropWhile isContinuation := by
  induction bytes with
  | nil => exact h
  | cons b bytes ih =>
    by_cases hb : isContinuation b
    · rw [List.dropWhile_cons_of_pos hb]
      rcases List.suffix_cons_iff.mp h with rfl | h
      · exact absurd (isContinuation_eq_true_iff.mp hb) hpart
      · exact ih h
    · rwa [List.dropWhile_cons_of_neg hb]

/-! ### What is kept -/

/-- `tail` is the longest end of the text whose bytes fit under the cap: no part of the bytes that starts at a
character, or is empty, and fits reaches further back. -/
structure CleanTail (text tail : List Char) : Prop where
  suffix : tail <:+ text
  length_le : (encode tail).length ≤ tailCapBytes
  longest : ∀ part, part <:+ encode text → ¬ StartsInside part → part.length ≤ tailCapBytes → part <:+ encode tail

/-- **The tail of an output is clean**: of the bytes of a text the longest end is kept that starts at a character and
fits under the cap, and its characters are those of the text. -/
theorem tailToString_encode (text : List Char) :
    ∃ tail, CleanTail text tail ∧ tailToString (encode text) = .ofList tail := by
  have hdrop : (encode text).drop ((encode text).length - tailCapBytes) <:+ encode text := List.drop_suffix _ _
  have hkept := (List.dropWhile_suffix isContinuation).trans hdrop
  obtain ⟨before, hbefore⟩ := hkept
  obtain ⟨a, tail, rfl, -, htail⟩ := encode_eq_append hbefore (not_startsInside_dropWhile _)
  refine ⟨tail, ⟨List.suffix_append _ _, ?_, ?_⟩, ?_⟩
  · rw [← htail]
    refine (List.dropWhile_suffix isContinuation).length_le.trans ?_
    rw [List.length_drop]
    omega
  · intro part hpart hstarts hlength
    rw [← htail]
    refine suffix_dropWhile (List.suffix_of_suffix_length_le hpart hdrop ?_) hstarts
    have := hpart.length_le
    rw [List.length_drop]
    omega
  · rw [tailToString, htail, fromUtf8Lossy_encode]

end Cliptown.Sandbox
