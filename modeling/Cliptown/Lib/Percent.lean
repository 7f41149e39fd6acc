import Cliptown.Lib.Utf8

/-!
# Percent encoding

* `hexDigit`, `hexValue` — digits of base sixteen.
* `encodeByte`, `encode` — bytes as text: some characters stand for themselves.
* `decode` — text as bytes; a percent sign without two digits stands for itself.
* `decode_encode` — what is encoded is decoded, whatever is kept, if that is ASCII and not the percent sign.
* `encodeComponent`, `decodeText` — the same for texts, over UTF-8; `decodeText_encodeComponent`.
* `mem_encodeComponent` — which characters are left in an encoded text.

Nothing here names a program.
-/

namespace Cliptown.Lib.Percent

/-! ### Digits -/

/-- A digit of base sixteen. -/
def hexDigit (n : ℕ) : Char :=
  if n < 10 then Char.ofNat (48 + n) else Char.ofNat (55 + n)

/-- The value of a digit, in upper or lower case. -/
def hexValue (c : Char) : Option ℕ :=
  if '0' ≤ c ∧ c ≤ '9' then some (c.toNat - 48)
  else if 'A' ≤ c ∧ c ≤ 'F' then some (c.toNat - 55)
  else if 'a' ≤ c ∧ c ≤ 'f' then some (c.toNat - 87)
  else none

theorem hexValue_hexDigit : ∀ n < 16, hexValue (hexDigit n) = some n := by
  decide

/-! ### Bytes -/

variable {keep : Char → Bool}

/-- A byte as text: itself, if it is kept, or its number. -/
def encodeByte (keep : Char → Bool) (b : UInt8) : List Char :=
  if b.toNat < 128 ∧ keep (Char.ofNat b.toNat) then [Char.ofNat b.toNat]
  else ['%', hexDigit (b.toNat / 16), hexDigit (b.toNat % 16)]

/-- Bytes as text. -/
def encode (keep : Char → Bool) (bytes : List UInt8) : List Char :=
  bytes.flatMap (encodeByte keep)

/-- Text as bytes. -/
def decode : List Char → List UInt8
  | [] => []
  | '%' :: x :: y :: rest =>
    match hexValue x, hexValue y with
    | some m, some n => UInt8.ofNat (m * 16 + n) :: decode rest
    | _, _ => 0x25 :: decode (x :: y :: rest)
  | c :: rest => String.utf8EncodeChar c ++ decode rest

/-- A character that is not the percent sign stands for itself. -/
theorem decode_cons {c : Char} (h : c ≠ '%') (rest : List Char) :
    decode (c :: rest) = String.utf8EncodeChar c ++ decode rest := by
  rw [decode]
  intro x y rest' hc
  exact absurd hc h

/-- The number of a byte stands for the byte. -/
theorem decode_number (b : UInt8) (rest : List Char) :
    decode ('%' :: hexDigit (b.toNat / 16) :: hexDigit (b.toNat % 16) :: rest) = b :: decode rest := by
  have hb := b.toNat_lt
  have hvalue : b.toNat / 16 * 16 + b.toNat % 16 = b.toNat := by omega
  rw [decode, hexValue_hexDigit _ (by omega), hexValue_hexDigit _ (by omega)]
  simp only [hvalue, UInt8.ofNat_toNat]

theorem utf8EncodeChar_ascii : ∀ n < 128, String.utf8EncodeChar (Char.ofNat n) = [UInt8.ofNat n] := by
  decide

/-- A character of ASCII is one byte. -/
theorem utf8EncodeChar_ofNat {b : UInt8} (h : b.toNat < 128) :
    String.utf8EncodeChar (Char.ofNat b.toNat) = [b] := by
  rw [utf8EncodeChar_ascii _ h, UInt8.ofNat_toNat]

/-- **What is encoded is decoded.** -/
theorem decode_encode (hkeep : keep '%' = false) (bytes : List UInt8) : decode (encode keep bytes) = bytes := by
  induction bytes with
  | nil => rfl
  | cons b bytes ih =>
    change decode (encodeByte keep b ++ encode keep bytes) = b :: bytes
    unfold encodeByte
    split
    · rename_i hkept
      have hne : Char.ofNat b.toNat ≠ '%' := fun heq => by simp [heq, hkeep] at hkept
      rw [List.singleton_append, decode_cons hne, utf8EncodeChar_ofNat hkept.1, ih]
      rfl
    · rw [List.cons_append, List.cons_append, List.cons_append, List.nil_append, decode_number, ih]

/-! ### Texts -/

/-- What stands for itself in a component of an address. -/
def unreserved (c : Char) : Bool :=
  c.isAlphanum || c ∈ ['-', '_', '.', '!', '~', '*', '\'', '(', ')']

/-- Source: `encodeURIComponent` -/
def encodeComponent (s : String) : String :=
  String.ofList (encode unreserved (Utf8.encode s.toList))

/-- The text of decoded bytes, if they are UTF-8. -/
def decodeText (s : String) : Option String :=
  let bytes := decode s.toList
  let text := Utf8.decode bytes
  if Utf8.encode text = bytes then some (String.ofList text) else none

/-- **A text that is encoded as a component is decoded.** -/
theorem decodeText_encodeComponent (s : String) : decodeText (encodeComponent s) = some s := by
  unfold decodeText encodeComponent
  simp [decode_encode (show unreserved '%' = false by decide)]

/-- What an encoded byte is made of. -/
theorem mem_encodeByte {b : UInt8} {c : Char} (h : c ∈ encodeByte keep b) :
    keep c ∨ c = '%' ∨ (hexValue c).isSome := by
  have hb := b.toNat_lt
  unfold encodeByte at h
  split at h
  · rename_i hkept
    obtain rfl := List.mem_singleton.mp h
    exact .inl hkept.2
  · simp only [List.mem_cons, List.not_mem_nil, or_false] at h
    rcases h with rfl | rfl | rfl
    · exact .inr (.inl rfl)
    · exact .inr (.inr (by rw [hexValue_hexDigit _ (by omega)]; rfl))
    · exact .inr (.inr (by rw [hexValue_hexDigit _ (by omega)]; rfl))

/-- **What is left in an encoded text**: what stands for itself, percent signs and digits. -/
theorem mem_encodeComponent {s : String} {c : Char} (h : c ∈ (encodeComponent s).toList) :
    unreserved c ∨ c = '%' ∨ (hexValue c).isSome := by
  unfold encodeComponent encode at h
  rw [String.toList_ofList] at h
  obtain ⟨b, -, hc⟩ := List.mem_flatMap.mp h
  exact mem_encodeByte hc

/-- Different texts are encoded differently. -/
theorem encodeComponent_injective : Function.Injective encodeComponent := by
  intro s t h
  have hdecode := congrArg decodeText h
  rw [decodeText_encodeComponent, decodeText_encodeComponent] at hdecode
  exact Option.some.inj hdecode

end Cliptown.Lib.Percent
