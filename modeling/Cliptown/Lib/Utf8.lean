import Mathlib.Data.List.Basic
import Mathlib.Tactic.Common

/-!
# UTF-8 as a stream

* `IsContinuation` — the bytes `10xxxxxx`, which never start a character.
* `encode` — the bytes of a text, character by character.
* `Decoder`, `Decoder.step`, `Decoder.run` — the decoding algorithm of the Encoding Standard, one
  byte at a time: a byte that cannot continue the pending sequence gives one U+FFFD for the
  sequence and is read again as a first byte.
* `decode` — decode a whole byte string on its own, the pending sequence at its end included.
* `TextDecoder` — the same over a stream of pieces, which also drops a byte order mark at the start;
  `TextDecoder.decode_append`: the pieces do not matter.
* `run_encode` — the decoder returns the text that was encoded, and owes nothing after it.
* `decode_flatten_eq_iff` — decoding the pieces of an encoded text one by one gives the text if and
  only if no piece starts with a continuation byte.
-/

namespace Cliptown.Lib.Utf8

/-! ### Bytes -/

/-- The bytes with the bit pattern `10xxxxxx`. -/
def IsContinuation (b : UInt8) : Prop := b &&& 0xC0 = 0x80

instance (b : UInt8) : Decidable (IsContinuation b) :=
  inferInstanceAs (Decidable (b &&& 0xC0 = 0x80))

theorem bitVec_isContinuation_iff :
    ∀ x : BitVec 8, (x &&& 0xC0#8 = 0x80#8) ↔ 0x80 ≤ x.toNat ∧ x.toNat ≤ 0xBF := by
  decide +kernel

theorem isContinuation_iff {b : UInt8} :
    IsContinuation b ↔ 0x80 ≤ b.toNat ∧ b.toNat ≤ 0xBF := by
  have h := bitVec_isContinuation_iff b.toBitVec
  rw [IsContinuation, ← UInt8.toBitVec_inj]
  simpa using h

/-- The bytes of a text. -/
def encode (text : List Char) : List UInt8 := text.flatMap String.utf8EncodeChar

@[simp]
theorem encode_nil : encode [] = [] := rfl

@[simp]
theorem encode_cons (c : Char) (text : List Char) :
    encode (c :: text) = String.utf8EncodeChar c ++ encode text := rfl

/-! ### The decoder -/

/-- Where the decoder stands between two bytes: how many bytes it still expects, what the code
point is so far, and between which bounds the next byte must lie. Both bounds stay inside the
continuation bytes. -/
structure Decoder where
  needed : Nat
  point : Nat
  lower : Nat
  upper : Nat
  lower_ge : 0x80 ≤ lower
  upper_le : upper ≤ 0xBF
  deriving DecidableEq

namespace Decoder

/-- Between two characters. -/
def start : Decoder := ⟨0, 0, 0x80, 0xBF, by omega, by omega⟩

/-- Wait for `needed` more bytes of which the next may be any continuation byte. -/
def expect (needed point : Nat) : Decoder := ⟨needed, point, 0x80, 0xBF, by omega, by omega⟩

/-- Read the first byte of a character. -/
def lead (b : UInt8) : Decoder × List Char :=
  if b.toNat ≤ 0x7F then (start, [Char.ofNat b.toNat])
  else if 0xC2 ≤ b.toNat ∧ b.toNat ≤ 0xDF then (expect 1 (b.toNat - 0xC0), [])
  else if b.toNat = 0xE0 then (⟨2, 0, 0xA0, 0xBF, by omega, by omega⟩, [])
  else if b.toNat = 0xED then (⟨2, 0xD, 0x80, 0x9F, by omega, by omega⟩, [])
  else if 0xE1 ≤ b.toNat ∧ b.toNat ≤ 0xEF then (expect 2 (b.toNat - 0xE0), [])
  else if b.toNat = 0xF0 then (⟨3, 0, 0x90, 0xBF, by omega, by omega⟩, [])
  else if b.toNat = 0xF4 then (⟨3, 4, 0x80, 0x8F, by omega, by omega⟩, [])
  else if 0xF1 ≤ b.toNat ∧ b.toNat ≤ 0xF3 then (expect 3 (b.toNat - 0xF0), [])
  else (start, ['\uFFFD'])

/-- Read one byte: the state after it and the characters that it completes. -/
def step (d : Decoder) (b : UInt8) : Decoder × List Char :=
  if d.needed = 0 then lead b
  else if d.lower ≤ b.toNat ∧ b.toNat ≤ d.upper then
    if d.needed = 1 then (start, [Char.ofNat (d.point * 64 + (b.toNat - 0x80))])
    else (expect (d.needed - 1) (d.point * 64 + (b.toNat - 0x80)), [])
  else ((lead b).1, '\uFFFD' :: (lead b).2)

/-- Read the bytes of one piece of a stream. -/
def run (d : Decoder) : List UInt8 → Decoder × List Char
  | [] => (d, [])
  | b :: bytes => ((run (d.step b).1 bytes).1, (d.step b).2 ++ (run (d.step b).1 bytes).2)

/-- What is left to say at the end of the stream. -/
def flush (d : Decoder) : List Char := if d.needed = 0 then [] else ['\uFFFD']

@[simp]
theorem run_nil (d : Decoder) : d.run [] = (d, []) := rfl

theorem run_cons (d : Decoder) (b : UInt8) (bytes : List UInt8) :
    d.run (b :: bytes) = ((run (d.step b).1 bytes).1, (d.step b).2 ++ (run (d.step b).1 bytes).2) := rfl

/-- What the decoder has read is all that its next piece depends on. -/
theorem run_append (d : Decoder) (x y : List UInt8) :
    d.run (x ++ y) = (((d.run x).1.run y).1, (d.run x).2 ++ ((d.run x).1.run y).2) := by
  induction x generalizing d with
  | nil => simp
  | cons b x ih => simp only [List.cons_append, run_cons, ih, List.append_assoc]

end Decoder

/-- Decode a byte string on its own. -/
def decode (bytes : List UInt8) : List Char :=
  (Decoder.start.run bytes).2 ++ (Decoder.start.run bytes).1.flush

@[simp]
theorem decode_nil : decode [] = [] := rfl

/-! ### Decoding a stream -/

/-- A decoder of a stream: where it stands, and whether the first character has come. -/
structure TextDecoder where
  utf8 : Decoder
  started : Bool

namespace TextDecoder

/-- A decoder that has read nothing. -/
def new : TextDecoder := ⟨Decoder.start, false⟩

/-- Drop a byte order mark at the start of the stream. -/
def strip (started : Bool) (text : List Char) : List Char :=
  if started then text
  else
    match text with
    | c :: rest => if c = '\uFEFF' then rest else text
    | [] => []

/-- `decode(bytes, { stream: true })`. -/
def decode (d : TextDecoder) (bytes : List UInt8) : TextDecoder × List Char :=
  let (utf8, text) := d.utf8.run bytes
  (⟨utf8, d.started || !text.isEmpty⟩, strip d.started text)

theorem strip_append (started : Bool) (x y : List Char) :
    strip started (x ++ y) = strip started x ++ strip (started || !x.isEmpty) y := by
  cases started with
  | true => simp [strip]
  | false =>
    cases x with
    | nil => simp [strip]
    | cons c x =>
      simp only [strip, List.cons_append, Bool.false_or, List.isEmpty_cons, Bool.not_false, if_true]
      by_cases hc : c = '\uFEFF' <;> simp [hc]

/-- Two pieces are decoded to what they are decoded to as one. -/
theorem decode_append (d : TextDecoder) (x y : List UInt8) :
    d.decode (x ++ y) = (((d.decode x).1.decode y).1, (d.decode x).2 ++ ((d.decode x).1.decode y).2) := by
  simp only [decode, Decoder.run_append, strip_append]
  cases d.started <;> cases (d.utf8.run x).2 <;> simp

end TextDecoder

/-! ### Decoding what was encoded -/

section

variable {d : Decoder} {b : UInt8} {n v x : Nat}

/-- A byte in bounds that is not the last one. -/
theorem Decoder.step_more (hneeded : d.needed = n + 2) (hlower : d.lower ≤ b.toNat)
    (hupper : b.toNat ≤ d.upper) :
    d.step b = (expect (n + 1) (d.point * 64 + (b.toNat - 0x80)), []) := by
  simp [Decoder.step, hneeded, hlower, hupper]

/-- A byte in bounds that is the last one. -/
theorem Decoder.step_last (hneeded : d.needed = 1) (hlower : d.lower ≤ b.toNat)
    (hupper : b.toNat ≤ d.upper) :
    d.step b = (start, [Char.ofNat (d.point * 64 + (b.toNat - 0x80))]) := by
  simp [Decoder.step, hneeded, hlower, hupper]

/-- The first byte of a character of three bytes: the bounds exclude the overlong forms and the
surrogates, which the value of a character is not. -/
theorem Decoder.lead_three (hb : b.toNat = v / 4096 + 0xE0) (hx : x = v / 64 % 64 + 0x80)
    (hlow : 0x7FF < v) (hhigh : v ≤ 0xFFFF) (hscalar : v < 0xD800 ∨ 0xDFFF < v) :
    ∃ d : Decoder, lead b = (d, []) ∧ d.needed = 2 ∧ d.point = v / 4096 ∧ d.lower ≤ x ∧
      x ≤ d.upper := by
  have hrange : 0xE0 ≤ b.toNat ∧ b.toNat ≤ 0xEF := by omega
  rw [lead, if_neg (by omega), if_neg (by omega)]
  by_cases h0 : b.toNat = 0xE0
  · rw [if_pos h0]
    exact ⟨_, rfl, rfl, by simp only; omega, by simp only; omega, by simp only; omega⟩
  by_cases hD : b.toNat = 0xED
  · rw [if_neg h0, if_pos hD]
    exact ⟨_, rfl, rfl, by simp only; omega, by simp only; omega, by simp only; omega⟩
  · rw [if_neg h0, if_neg hD, if_pos (by omega)]
    exact ⟨_, rfl, rfl, by simp only [expect]; omega, by simp only [expect]; omega,
      by simp only [expect]; omega⟩

/-- The first byte of a character of four bytes. -/
theorem Decoder.lead_four (hb : b.toNat = v / 262144 + 0xF0) (hx : x = v / 4096 % 64 + 0x80)
    (hlow : 0xFFFF < v) (hhigh : v < 0x110000) :
    ∃ d : Decoder, lead b = (d, []) ∧ d.needed = 3 ∧ d.point = v / 262144 ∧ d.lower ≤ x ∧
      x ≤ d.upper := by
  rw [lead, if_neg (by omega), if_neg (by omega), if_neg (by omega), if_neg (by omega),
    if_neg (by omega)]
  by_cases h0 : b.toNat = 0xF0
  · rw [if_pos h0]
    exact ⟨_, rfl, rfl, by simp only; omega, by simp only; omega, by simp only; omega⟩
  by_cases h4 : b.toNat = 0xF4
  · rw [if_neg h0, if_pos h4]
    exact ⟨_, rfl, rfl, by simp only; omega, by simp only; omega, by simp only; omega⟩
  · rw [if_neg h0, if_neg h4, if_pos (by omega)]
    exact ⟨_, rfl, rfl, by simp only [expect]; omega, by simp only [expect]; omega,
      by simp only [expect]; omega⟩

end

@[simp]
theorem Decoder.step_start (b : UInt8) : start.step b = lead b := rfl

@[simp]
theorem Decoder.step_expect_last (point : Nat) (b : UInt8) (hb : IsContinuation b) :
    (expect 1 point).step b = (start, [Char.ofNat (point * 64 + (b.toNat - 0x80))]) :=
  step_last rfl (isContinuation_iff.mp hb).1 (isContinuation_iff.mp hb).2

@[simp]
theorem Decoder.step_expect_more (n point : Nat) (b : UInt8) (hb : IsContinuation b) :
    (expect (n + 2) point).step b = (expect (n + 1) (point * 64 + (b.toNat - 0x80)), []) :=
  step_more rfl (isContinuation_iff.mp hb).1 (isContinuation_iff.mp hb).2

/-- The byte that carries six bits of a code point. -/
theorem toNat_tail (v : Nat) : (UInt8.ofNat (v % 0x40 + 0x80)).toNat = v % 64 + 0x80 := by
  rw [UInt8.toNat_ofNat']
  omega

theorem isContinuation_tail (v : Nat) : IsContinuation (UInt8.ofNat (v % 0x40 + 0x80)) := by
  rw [isContinuation_iff, toNat_tail]
  omega

/-- One character, from between two characters to between two characters. -/
theorem run_encodeChar (c : Char) :
    Decoder.start.run (String.utf8EncodeChar c) = (Decoder.start, [c]) := by
  have hv : c.val.toNat < 0xd800 ∨ (0xdfff < c.val.toNat ∧ c.val.toNat < 0x110000) := c.valid
  have hc : Char.ofNat c.val.toNat = c := Char.ofNat_toNat c
  unfold String.utf8EncodeChar
  generalize c.val.toNat = v at hv hc
  simp only
  by_cases h1 : v ≤ 0x7F
  · have hb : (UInt8.ofNat v).toNat = v := by rw [UInt8.toNat_ofNat']; omega
    rw [if_pos h1]
    simp [Decoder.run, Decoder.lead, hb, h1, hc]
  by_cases h2 : v ≤ 0x7FF
  · have hb : (UInt8.ofNat (v / 64 % 0x20 + 0xC0)).toNat = v / 64 + 0xC0 := by
      rw [UInt8.toNat_ofNat']; omega
    have hlead : Decoder.lead (UInt8.ofNat (v / 64 % 0x20 + 0xC0)) = (Decoder.expect 1 (v / 64), []) := by
      rw [Decoder.lead, if_neg (by omega), if_pos (by omega), hb, Nat.add_sub_cancel]
    have hpoint : v / 64 * 64 + v % 64 = v := by omega
    rw [if_neg h1, if_pos h2]
    simp [Decoder.run, -UInt8.ofNat_add, -UInt8.toNat_ofNat', hlead, isContinuation_tail, toNat_tail, hpoint, hc]
  by_cases h3 : v ≤ 0xFFFF
  · have hb : (UInt8.ofNat (v / 4096 % 0x10 + 0xE0)).toNat = v / 4096 + 0xE0 := by
      rw [UInt8.toNat_ofNat']; omega
    obtain ⟨d, hlead, hneeded, hdpoint, hlower, hupper⟩ :=
      Decoder.lead_three hb rfl (by omega) h3 (by omega)
    have hstep := Decoder.step_more (b := UInt8.ofNat (v / 64 % 0x40 + 0x80)) hneeded
      (by rw [toNat_tail]; exact hlower) (by rw [toNat_tail]; exact hupper)
    have hpoint : (v / 4096 * 64 + v / 64 % 64) * 64 + v % 64 = v := by omega
    rw [if_neg h1, if_neg h2, if_pos h3]
    simp [Decoder.run, -UInt8.ofNat_add, -UInt8.toNat_ofNat', hlead, hstep, hdpoint,
      isContinuation_tail, toNat_tail, hpoint, hc]
  · have hb : (UInt8.ofNat (v / 262144 % 0x08 + 0xF0)).toNat = v / 262144 + 0xF0 := by
      rw [UInt8.toNat_ofNat']; omega
    obtain ⟨d, hlead, hneeded, hdpoint, hlower, hupper⟩ :=
      Decoder.lead_four hb rfl (by omega) (by omega)
    have hstep := Decoder.step_more (b := UInt8.ofNat (v / 4096 % 0x40 + 0x80)) hneeded
      (by rw [toNat_tail]; exact hlower) (by rw [toNat_tail]; exact hupper)
    have hpoint : ((v / 262144 * 64 + v / 4096 % 64) * 64 + v / 64 % 64) * 64 + v % 64 = v := by omega
    rw [if_neg h1, if_neg h2, if_neg h3]
    simp [Decoder.run, -UInt8.ofNat_add, -UInt8.toNat_ofNat', hlead, hstep, hdpoint,
      isContinuation_tail, toNat_tail, hpoint, hc]

/-- The decoder returns the text that was encoded, and owes nothing after it. -/
theorem run_encode (text : List Char) : Decoder.start.run (encode text) = (Decoder.start, text) := by
  induction text with
  | nil => rfl
  | cons c text ih => rw [encode_cons, Decoder.run_append, run_encodeChar, ih]; rfl

@[simp]
theorem decode_encode (text : List Char) : decode (encode text) = text := by
  rw [decode, run_encode]
  exact List.append_nil text

/-! ### Characters and the bytes that start them -/

/-- How many bytes of the string can start a character. -/
def starts (bytes : List UInt8) : Nat := bytes.countP fun b => ¬ IsContinuation b

theorem starts_cons (b : UInt8) (bytes : List UInt8) :
    starts (b :: bytes) = starts bytes + if IsContinuation b then 0 else 1 := by
  by_cases hb : IsContinuation b <;> simp [starts, hb]

theorem starts_append (x y : List UInt8) : starts (x ++ y) = starts x + starts y :=
  List.countP_append

/-- An encoded character: one byte that is not a continuation byte, then continuation bytes. -/
theorem encodeChar_shape (c : Char) :
    ∃ b tail, String.utf8EncodeChar c = b :: tail ∧ ¬ IsContinuation b ∧
      ∀ x ∈ tail, IsContinuation x := by
  have hv : c.val.toNat < 0xd800 ∨ (0xdfff < c.val.toNat ∧ c.val.toNat < 0x110000) := c.valid
  unfold String.utf8EncodeChar
  generalize c.val.toNat = v at hv
  simp only
  by_cases h1 : v ≤ 0x7F
  · rw [if_pos h1]
    exact ⟨_, _, rfl, by rw [isContinuation_iff, UInt8.toNat_ofNat']; omega, by simp⟩
  by_cases h2 : v ≤ 0x7FF
  · rw [if_neg h1, if_pos h2]
    exact ⟨_, _, rfl, by rw [isContinuation_iff, UInt8.toNat_ofNat']; omega,
      by simp [-UInt8.ofNat_add, isContinuation_tail]⟩
  by_cases h3 : v ≤ 0xFFFF
  · rw [if_neg h1, if_neg h2, if_pos h3]
    exact ⟨_, _, rfl, by rw [isContinuation_iff, UInt8.toNat_ofNat']; omega,
      by simp [-UInt8.ofNat_add, isContinuation_tail]⟩
  · rw [if_neg h1, if_neg h2, if_neg h3]
    exact ⟨_, _, rfl, by rw [isContinuation_iff, UInt8.toNat_ofNat']; omega,
      by simp [-UInt8.ofNat_add, isContinuation_tail]⟩

theorem starts_encode (text : List Char) : starts (encode text) = text.length := by
  induction text with
  | nil => rfl
  | cons c text ih =>
    obtain ⟨b, tail, hshape, hb, htail⟩ := encodeChar_shape c
    have hzero : starts tail = 0 := by
      rw [starts, List.countP_eq_zero]
      simpa using htail
    rw [encode_cons, starts_append, hshape, starts_cons, hzero, if_neg hb, ih, List.length_cons]
    omega

/-! ### Decoding piece by piece -/

/-- A first byte gives at least one character, now or at the end of its sequence. -/
theorem length_lead (b : UInt8) :
    1 ≤ (Decoder.lead b).2.length + (Decoder.lead b).1.flush.length := by
  unfold Decoder.lead
  split_ifs <;> simp [Decoder.flush, Decoder.start, Decoder.expect]

/-- A byte outside the continuation bytes gives a character of its own, whatever is pending. -/
theorem length_step (d : Decoder) (b : UInt8) :
    d.flush.length + (if IsContinuation b then 0 else 1) ≤
      (d.step b).2.length + (d.step b).1.flush.length := by
  have hlead := length_lead b
  unfold Decoder.step
  by_cases h0 : d.needed = 0
  · have hflush : d.flush.length = 0 := by simp [Decoder.flush, h0]
    rw [if_pos h0, hflush]
    split_ifs <;> omega
  have hflush : d.flush.length = 1 := by simp [Decoder.flush, h0]
  by_cases hin : d.lower ≤ b.toNat ∧ b.toNat ≤ d.upper
  · have hb : IsContinuation b :=
      isContinuation_iff.mpr ⟨Nat.le_trans d.lower_ge hin.1, Nat.le_trans hin.2 d.upper_le⟩
    rw [if_neg h0, if_pos hin, if_pos hb, hflush]
    by_cases h1 : d.needed = 1
    · simp [h1]
    · have hmore : d.needed - 1 ≠ 0 := by omega
      simp [h1, Decoder.flush, Decoder.expect, hmore]
  · rw [if_neg h0, if_neg hin, hflush, List.length_cons]
    dsimp only
    split_ifs <;> omega

theorem length_run (d : Decoder) (bytes : List UInt8) :
    d.flush.length + starts bytes ≤ (d.run bytes).2.length + (d.run bytes).1.flush.length := by
  induction bytes generalizing d with
  | nil => simp [starts]
  | cons b bytes ih =>
    have hstep := length_step d b
    have hrest := ih (d.step b).1
    rw [Decoder.run_cons, starts_cons, List.length_append]
    dsimp only
    omega

theorem starts_le_length_decode (bytes : List UInt8) : starts bytes ≤ (decode bytes).length := by
  have h := length_run Decoder.start bytes
  rw [decode, List.length_append]
  omega

/-- The piece starts inside a character. -/
def StartsInside : List UInt8 → Prop
  | [] => False
  | b :: _ => IsContinuation b

instance : DecidablePred StartsInside
  | [] => inferInstanceAs (Decidable False)
  | b :: _ => inferInstanceAs (Decidable (IsContinuation b))

/-- A piece that starts inside a character decodes to more characters than start in it. -/
theorem starts_lt_length_decode {bytes : List UInt8} (h : StartsInside bytes) :
    starts bytes < (decode bytes).length := by
  cases bytes with
  | nil => exact absurd h not_false
  | cons b bytes =>
    have hb : IsContinuation b := h
    have hlead := length_lead b
    have hrest := length_run (Decoder.lead b).1 bytes
    rw [decode, Decoder.run_cons, Decoder.step_start, starts_cons, if_pos hb, List.length_append,
      List.length_append]
    dsimp only
    omega

/-- A text cut in two, the second part not inside a character: both parts are texts. -/
theorem encode_eq_append {text : List Char} {x y : List UInt8} (h : x ++ y = encode text)
    (hy : ¬ StartsInside y) : ∃ a b, text = a ++ b ∧ x = encode a ∧ y = encode b := by
  induction text generalizing x with
  | nil =>
    rw [encode_nil, List.append_eq_nil_iff] at h
    exact ⟨[], [], rfl, h.1, h.2⟩
  | cons c text ih =>
    rw [encode_cons, List.append_eq_append_iff] at h
    rcases h with ⟨z, hc, hz⟩ | ⟨z, hx, hz⟩
    · obtain ⟨b, tail, hshape, -, htail⟩ := encodeChar_shape c
      cases x with
      | nil => exact ⟨[], c :: text, rfl, rfl, by rw [hz, encode_cons, hc, List.nil_append]⟩
      | cons b' x =>
        rw [hshape, List.cons_append, List.cons.injEq] at hc
        cases z with
        | nil =>
          refine ⟨[c], text, rfl, ?_, by simpa using hz⟩
          rw [encode_cons, hshape, encode_nil, List.append_nil, hc.1, hc.2, List.append_nil]
        | cons b'' z =>
          have hinside : StartsInside y := by
            rw [hz, List.cons_append]
            exact htail b'' (by rw [hc.2]; simp)
          exact absurd hinside hy
    · obtain ⟨a, b, htext, hz, hy⟩ := ih hz.symm
      exact ⟨c :: a, b, by rw [htext]; rfl, by rw [hx, hz]; rfl, hy⟩

/-- No piece but the first can start inside a character unless the stream behind it does. -/
theorem not_startsInside_flatten {pieces : List (List UInt8)}
    (h : ∀ piece ∈ pieces, ¬ StartsInside piece) : ¬ StartsInside pieces.flatten := by
  induction pieces with
  | nil => exact not_false
  | cons piece pieces ih =>
    obtain ⟨hpiece, hpieces⟩ := List.forall_mem_cons.mp h
    cases piece with
    | nil => exact ih hpieces
    | cons b piece => exact hpiece

/-- Decoding the pieces of an encoded text one by one gives the text if and only if no piece
starts inside a character. -/
theorem decode_flatten_eq_iff {pieces : List (List UInt8)} {text : List Char}
    (h : pieces.flatten = encode text) :
    pieces.flatMap decode = text ↔ ∀ piece ∈ pieces, ¬ StartsInside piece := by
  constructor
  · intro htext piece hpiece hinside
    have hcount : ∀ l : List (List UInt8), starts l.flatten ≤ (l.flatMap decode).length := by
      intro l
      induction l with
      | nil => exact Nat.le_refl 0
      | cons p l ih =>
        have := starts_le_length_decode p
        rw [List.flatten_cons, starts_append, List.flatMap_cons, List.length_append]
        omega
    obtain ⟨before, after, rfl⟩ := List.append_of_mem hpiece
    have hstrict := starts_lt_length_decode hinside
    have hbefore := hcount before
    have hafter := hcount after
    have htotal := congrArg List.length htext
    have hstarts := congrArg starts h
    rw [starts_encode] at hstarts
    simp only [List.flatten_append, List.flatten_cons, starts_append, List.flatMap_append,
      List.flatMap_cons, List.length_append] at hstarts htotal
    omega
  · intro hpieces
    induction pieces generalizing text with
    | nil =>
      cases text with
      | nil => rfl
      | cons c text =>
        obtain ⟨b, tail, hshape, -, -⟩ := encodeChar_shape c
        rw [encode_cons, hshape] at h
        cases h
    | cons piece pieces ih =>
      obtain ⟨-, hrest⟩ := List.forall_mem_cons.mp hpieces
      obtain ⟨a, b, rfl, hpiece, hflat⟩ := encode_eq_append h (not_startsInside_flatten hrest)
      rw [List.flatMap_cons, hpiece, decode_encode, ih hflat hrest]

end Cliptown.Lib.Utf8
