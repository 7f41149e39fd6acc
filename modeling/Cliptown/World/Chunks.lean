import Cliptown.Lib.Utf8
import Mathlib.Data.String.Basic

/-!
# Chunked snapshots

* `chunkSnapshot` — serialise a snapshot and cut the text at character boundaries.
* `reassemble` — join the payloads of the frames and parse the result.
* `Chunked` — what the frames of a text are: numbered, none of them too long, and the text when
  joined.
* `chunkSnapshot_chunked` — the loop ends, and its frames are that.
-/

namespace Cliptown.World

open Cliptown.Lib

/-- Source: `view.rs` `CHUNK_THRESHOLD` -/
def chunkThreshold : Nat := 256 * 1024

/-- Source: `view.rs` `CHUNK_SIZE` -/
def chunkSize : Nat := 64 * 1024

/-- Source: `view.rs` `ChunkFrame` -/
structure ChunkFrame where
  seq : UInt32
  total : UInt32
  payload : String
  deriving DecidableEq

/-- Step the end of a window back to the start of a character. Failing is the underflow below the
first byte. Source: `view.rs` `chunk_snapshot`, the inner loop -/
def backUp (bytes : ByteArray) : Nat → Option Nat
  | 0 => if ∃ h : 0 < bytes.size, Utf8.IsContinuation bytes[0] then none else some 0
  | stop + 1 =>
    if ∃ h : stop + 1 < bytes.size, Utf8.IsContinuation bytes[stop + 1] then backUp bytes stop
    else some (stop + 1)

/-- The text of one window. Failing is a window that ends before it starts or is not UTF-8.
Source: `view.rs` `chunk_snapshot`, `std::str::from_utf8(&bytes[start..end])?` -/
def window (bytes : ByteArray) (start stop : Nat) : Option String :=
  if start ≤ stop ∧ stop ≤ bytes.size then String.fromUTF8? (bytes.extract start stop) else none

/-- The outer loop, for at most `fuel` tests of its condition.
Source: `view.rs` `chunk_snapshot`, `while start < bytes.len()` -/
def chunkLoop (bytes : ByteArray) :
    Nat → Nat → UInt32 → List ChunkFrame → Option (List ChunkFrame)
  | 0, _, _, _ => none
  | fuel + 1, start, seq, frames =>
    if start < bytes.size then do
      let stop ← backUp bytes (min (start + chunkSize) bytes.size)
      let payload ← window bytes start stop
      chunkLoop bytes fuel stop (seq + 1) (frames ++ [⟨seq, 0, payload⟩])
    else some frames

/-- Source: `view.rs` `chunk_snapshot`, with `serde_json::to_string` as `serialise` -/
def chunkSnapshot {S : Type} (serialise : S → Option String) (fuel : Nat) (snapshot : S) :
    Option (List ChunkFrame) := do
  let json ← serialise snapshot
  if json.utf8ByteSize ≤ chunkThreshold then
    some [⟨0, 1, json⟩]
  else
    let frames ← chunkLoop json.toByteArray fuel 0 0 []
    some (frames.map fun f => { f with total := UInt32.ofNat frames.length })

/-- Source: `view.rs` `reassemble`, with `serde_json::from_str` as `parse` -/
def reassemble {T : Type} (parse : String → Option T) (frames : List ChunkFrame) : Option T :=
  match frames with
  | [] => none
  | first :: _ =>
    if UInt32.ofNat frames.length ≠ first.total then none
    else parse (String.join (frames.map (·.payload)))

/-- What the frames of a text are. -/
structure Chunked (json : String) (frames : List ChunkFrame) : Prop where
  single : json.utf8ByteSize ≤ chunkThreshold → frames.map (·.payload) = [json]
  bounded : chunkThreshold < json.utf8ByteSize →
    ∀ f ∈ frames, f.payload ≠ "" ∧ f.payload.utf8ByteSize ≤ chunkSize
  numbered : ∀ (i : Nat) (h : i < frames.length),
    frames[i].seq.toNat = i ∧ frames[i].total.toNat = frames.length
  joined : (String.join (frames.map (·.payload))).toByteArray = json.toByteArray

/-! ### The start of a character -/

/-- A byte of a text starts a character or continues one. -/
theorem isContinuation_or_isUTF8FirstByte (json : String) {p : Nat} (h : p < json.toByteArray.size) :
    Utf8.IsContinuation json.toByteArray[p] ∨ json.toByteArray[p].IsUTF8FirstByte := by
  have hmem : json.toByteArray[p] ∈ json.toList.flatMap String.utf8EncodeChar := by
    have hbytes : (json.toList.flatMap String.utf8EncodeChar).toByteArray = json.toByteArray :=
      String.utf8Encode_toList
    simp only [← hbytes, List.getElem_toByteArray]
    exact List.getElem_mem _
  obtain ⟨c, -, hc⟩ := List.mem_flatMap.mp hmem
  obtain ⟨b, tail, hshape, hb, htail⟩ := Utf8.encodeChar_shape c
  rw [hshape, List.mem_cons] at hc
  rcases hc with hc | hc
  · right
    have hfirst := UInt8.isUTF8FirstByte_getElem_zero_utf8EncodeChar (c := c)
    simpa [hshape, hc] using hfirst
  · exact .inl (htail _ hc)

theorem not_isUTF8FirstByte_of_isContinuation {b : UInt8} (h : Utf8.IsContinuation b) :
    ¬ b.IsUTF8FirstByte := by
  have hbits : ∀ x : BitVec 8, x &&& 0xC0#8 = 0x80#8 → ¬ (x &&& 0x80#8 = 0#8 ∨ x &&& 0xE0#8 = 0xC0#8 ∨
      x &&& 0xF0#8 = 0xE0#8 ∨ x &&& 0xF8#8 = 0xF0#8) := by
    decide +kernel
  have hb := hbits b.toBitVec
  rw [Utf8.IsContinuation, ← UInt8.toBitVec_inj] at h
  rw [UInt8.IsUTF8FirstByte]
  simp only [← UInt8.toBitVec_inj]
  simpa using hb (by simpa using h)

/-- Inside a text, the bytes that do not continue a character are the valid positions. -/
theorem isValid_iff_not_isContinuation (json : String) {p : Nat} (h : p < json.toByteArray.size) :
    String.Pos.Raw.IsValid json ⟨p⟩ ↔ ¬ Utf8.IsContinuation json.toByteArray[p] := by
  rw [String.Pos.Raw.isValid_iff_isUTF8FirstByte]
  constructor
  · rintro (hend | ⟨_, hfirst⟩) hcont
    · have hp : p = json.toByteArray.size := by simpa using congrArg String.Pos.Raw.byteIdx hend
      omega
    · exact not_isUTF8FirstByte_of_isContinuation hcont hfirst
  · intro hcont
    exact .inr ⟨by simpa [String.Pos.Raw.lt_iff] using h, (isContinuation_or_isUTF8FirstByte json h).resolve_left hcont⟩

/-- After a character there is another position within four bytes. -/
theorem exists_isValid_after {json : String} {start : Nat}
    (hstart : String.Pos.Raw.IsValid json ⟨start⟩) (h : start < json.toByteArray.size) :
    ∃ p, start < p ∧ p ≤ start + 4 ∧ p ≤ json.toByteArray.size ∧
      String.Pos.Raw.IsValid json ⟨p⟩ := by
  let pos : json.Pos := ⟨⟨start⟩, hstart⟩
  have hpos : pos ≠ json.endPos := by
    intro heq
    have hp : start = json.toByteArray.size := by
      simpa [pos] using congrArg (fun q : json.Pos => q.offset.byteIdx) heq
    omega
  have hsize := (pos.get hpos).utf8Size_le_four
  have hsize' := (pos.get hpos).utf8Size_pos
  have hnext := String.Pos.byteIdx_offset_next pos hpos
  have hvalid := (pos.next hpos).isValid
  have hle := String.Pos.Raw.le_iff.mp hvalid.le_rawEndPos
  have hoffset : pos.offset.byteIdx = start := rfl
  refine ⟨(pos.next hpos).offset.byteIdx, by omega, by omega, by simpa using hle, hvalid⟩

/-! ### One window -/

/-- Backing up stops at a valid position, and not before another one. -/
theorem backUp_spec (json : String) {low stop : Nat} (hlow : String.Pos.Raw.IsValid json ⟨low⟩)
    (hle : low ≤ stop) (hstop : stop ≤ json.toByteArray.size) :
    ∃ p, backUp json.toByteArray stop = some p ∧ low ≤ p ∧ p ≤ stop ∧
      String.Pos.Raw.IsValid json ⟨p⟩ := by
  induction stop with
  | zero =>
    have hvalid : String.Pos.Raw.IsValid json ⟨0⟩ := by simp
    have hcond : ¬ ∃ h : 0 < json.toByteArray.size, Utf8.IsContinuation json.toByteArray[0] := by
      rintro ⟨h, hcont⟩
      exact (isValid_iff_not_isContinuation json h).mp hvalid hcont
    exact ⟨0, by rw [backUp, if_neg hcond], hle, Nat.le_refl 0, hvalid⟩
  | succ stop ih =>
    by_cases hcond : ∃ h : stop + 1 < json.toByteArray.size,
        Utf8.IsContinuation json.toByteArray[stop + 1]
    · obtain ⟨h, hcont⟩ := hcond
      have hne : low ≠ stop + 1 := by
        rintro rfl
        exact (isValid_iff_not_isContinuation json h).mp hlow hcont
      obtain ⟨p, hp, hlowp, hpstop, hvalid⟩ := ih (by omega) (by omega)
      exact ⟨p, by rw [backUp, if_pos ⟨h, hcont⟩, hp], hlowp, by omega, hvalid⟩
    · refine ⟨stop + 1, by rw [backUp, if_neg hcond], hle, Nat.le_refl _, ?_⟩
      rcases Nat.lt_or_eq_of_le hstop with h | h
      · rw [isValid_iff_not_isContinuation json h]
        exact fun hcont => hcond ⟨h, hcont⟩
      · rw [String.Pos.Raw.isValid_iff_isUTF8FirstByte]
        exact .inl (String.Pos.Raw.ext (by simpa using h))

/-- The next window of a text: it makes progress, it is not too long, and it is text. -/
theorem window_spec (json : String) {start : Nat} (hstart : String.Pos.Raw.IsValid json ⟨start⟩)
    (h : start < json.toByteArray.size) :
    ∃ stop payload, backUp json.toByteArray (min (start + chunkSize) json.toByteArray.size) = some stop ∧
      window json.toByteArray start stop = some payload ∧ start < stop ∧
      stop ≤ start + chunkSize ∧ stop ≤ json.toByteArray.size ∧
      String.Pos.Raw.IsValid json ⟨stop⟩ ∧
      payload.toByteArray = json.toByteArray.extract start stop := by
  obtain ⟨low, hlow, hlow4, hlowsize, hlowvalid⟩ := exists_isValid_after hstart h
  have hfour : 4 ≤ chunkSize := by decide
  obtain ⟨stop, hback, hlowstop, hstop, hvalid⟩ :=
    backUp_spec json hlowvalid
      (show low ≤ min (start + chunkSize) json.toByteArray.size by omega) (by omega)
  have htext : (json.toByteArray.extract start stop).IsValidUTF8 :=
    (String.Pos.Raw.isValidUTF8_extract_iff ⟨start⟩ ⟨stop⟩ (by simp [String.Pos.Raw.le_iff]; omega)
      hvalid.le_rawEndPos).mpr (.inr ⟨hstart, hvalid⟩)
  refine ⟨stop, String.fromUTF8 _ htext, hback, ?_, by omega, by omega, by omega, hvalid, rfl⟩
  rw [window, if_pos ⟨by omega, by omega⟩, String.fromUTF8?, dif_pos htext]

/-! ### The loop -/

/-- The frames that the loop makes of the payloads, before their total is known. -/
def unpatched (seq : UInt32) : List String → List ChunkFrame
  | [] => []
  | payload :: payloads => ⟨seq, 0, payload⟩ :: unpatched (seq + 1) payloads

@[simp]
theorem length_unpatched (seq : UInt32) (payloads : List String) :
    (unpatched seq payloads).length = payloads.length := by
  induction payloads generalizing seq with
  | nil => rfl
  | cons payload payloads ih => rw [unpatched, List.length_cons, ih, List.length_cons]

@[simp]
theorem map_payload_unpatched (seq : UInt32) (payloads : List String) :
    (unpatched seq payloads).map (·.payload) = payloads := by
  induction payloads generalizing seq with
  | nil => rfl
  | cons payload payloads ih => rw [unpatched, List.map_cons, ih]

theorem seq_unpatched (seq : UInt32) (payloads : List String) (i : Nat)
    (h : i < (unpatched seq payloads).length) :
    (unpatched seq payloads)[i].seq = seq + UInt32.ofNat i := by
  induction payloads generalizing seq i with
  | nil => exact absurd h (Nat.not_lt_zero i)
  | cons payload payloads ih =>
    cases i with
    | zero => simp [unpatched]
    | succ i =>
      have hi := ih (seq + 1) i (by simpa [unpatched] using h)
      simp only [unpatched, List.getElem_cons_succ, hi, UInt32.ofNat_add]
      rw [UInt32.add_assoc, UInt32.add_comm 1]
      rfl

/-- From a valid position the loop ends, with windows of the rest of the text. -/
theorem chunkLoop_spec (json : String) (fuel : Nat) {start : Nat}
    (hstart : String.Pos.Raw.IsValid json ⟨start⟩) (hfuel : json.toByteArray.size < start + fuel)
    (seq : UInt32) (frames : List ChunkFrame) :
    ∃ payloads, chunkLoop json.toByteArray fuel start seq frames = some (frames ++ unpatched seq payloads) ∧
      (∀ p ∈ payloads, p ≠ "" ∧ p.utf8ByteSize ≤ chunkSize) ∧
      (String.join payloads).toByteArray = json.toByteArray.extract start json.toByteArray.size := by
  induction fuel generalizing start seq frames with
  | zero =>
    have hle := String.Pos.Raw.le_iff.mp hstart.le_rawEndPos
    simp at hle hfuel
    omega
  | succ fuel ih =>
    by_cases h : start < json.toByteArray.size
    · obtain ⟨stop, payload, hback, hwindow, hlt, hstop, hsize, hvalid, hbytes⟩ :=
        window_spec json hstart h
      obtain ⟨payloads, hloop, hbounded, hjoined⟩ :=
        ih hvalid (by omega) (seq + 1) (frames ++ [⟨seq, 0, payload⟩])
      have hpayload : payload.utf8ByteSize = stop - start := by
        rw [← String.size_toByteArray, hbytes, ByteArray.size_extract]
        omega
      refine ⟨payload :: payloads, ?_, ?_, ?_⟩
      · rw [chunkLoop, if_pos h]
        simp only [hback, hwindow, Option.bind_eq_bind, Option.bind_some, hloop, unpatched,
          List.append_assoc, List.cons_append, List.nil_append]
      · rw [List.forall_mem_cons]
        refine ⟨⟨?_, by omega⟩, hbounded⟩
        rintro rfl
        rw [String.utf8ByteSize_empty] at hpayload
        omega
      · rw [String.join_cons, String.toByteArray_append, hbytes, hjoined,
          ByteArray.extract_append_extract]
        congr 1 <;> omega
    · refine ⟨[], by rw [chunkLoop, if_neg h]; simp [unpatched], by simp, ?_⟩
      rw [String.join_nil]
      symm
      simpa [ByteArray.extract_eq_empty_iff] using h

/-! ### The frames -/

theorem chunked_single {json : String} (h : json.utf8ByteSize ≤ chunkThreshold) :
    Chunked json [⟨0, 1, json⟩] where
  single _ := rfl
  bounded hbig := absurd h (Nat.not_le_of_lt hbig)
  numbered i hi := by
    have hi0 : i = 0 := by simpa using hi
    subst hi0
    exact ⟨rfl, rfl⟩
  joined := by simp

theorem chunked_windows {json : String} {payloads : List String} (h : chunkThreshold < json.utf8ByteSize)
    (hbounded : ∀ p ∈ payloads, p ≠ "" ∧ p.utf8ByteSize ≤ chunkSize)
    (hjoined : (String.join payloads).toByteArray = json.toByteArray)
    (hcount : payloads.length < UInt32.size) :
    Chunked json ((unpatched 0 payloads).map fun f => { f with total := UInt32.ofNat payloads.length })
    where
  single hsmall := absurd hsmall (Nat.not_le_of_lt h)
  bounded _ f hf := by
    obtain ⟨g, hg, rfl⟩ := List.mem_map.mp hf
    have hpayload : g.payload ∈ (unpatched 0 payloads).map (·.payload) := List.mem_map_of_mem hg
    rw [map_payload_unpatched] at hpayload
    exact hbounded _ hpayload
  numbered i hi := by
    have hlt : i < payloads.length := by simpa using hi
    have hseq := seq_unpatched 0 payloads i (by simpa using hlt)
    simp only [List.getElem_map, hseq, UInt32.zero_add, List.length_map, length_unpatched]
    exact ⟨UInt32.toNat_ofNat_of_lt (Nat.lt_trans hlt hcount), UInt32.toNat_ofNat_of_lt hcount⟩
  joined := by
    have hmap : ((unpatched 0 payloads).map fun f =>
        { f with total := UInt32.ofNat payloads.length }).map (·.payload) = payloads := by
      rw [List.map_map]
      exact map_payload_unpatched 0 payloads
    rw [hmap, hjoined]

/-- Frames that carry their own count are reassembled into what they join to. -/
theorem Chunked.reassemble_eq {json : String} {frames : List ChunkFrame} (h : Chunked json frames)
    (hne : frames ≠ []) {T : Type} (parse : String → Option T) :
    reassemble parse frames = parse json := by
  cases frames with
  | nil => exact absurd rfl hne
  | cons first rest =>
    have htotal := (h.numbered 0 (by simp)).2
    have hfirst : UInt32.ofNat (first :: rest).length = first.total := by
      rw [← htotal]
      exact UInt32.ofNat_toNat
    simp only [reassemble, hfirst, ne_eq, not_true, if_false]
    rw [String.toByteArray_inj.mp h.joined]

/-- The loop ends once its condition can be tested as often as there are bytes, and then the frames
are numbered windows of the text that are put together again to the text. -/
theorem chunkSnapshot_chunked {S : Type} (serialise : S → Option String) (snapshot : S)
    (json : String) (hjson : serialise snapshot = some json) (fuel : Nat)
    (hfuel : json.utf8ByteSize < fuel) :
    ∃ frames, chunkSnapshot serialise fuel snapshot = some frames ∧
      (frames.length < UInt32.size → Chunked json frames ∧
        ∀ (T : Type) (parse : String → Option T), reassemble parse frames = parse json) := by
  by_cases h : json.utf8ByteSize ≤ chunkThreshold
  · have hchunked := chunked_single h
    exact ⟨[⟨0, 1, json⟩], by simp [chunkSnapshot, hjson, h],
      fun _ => ⟨hchunked, fun T parse => hchunked.reassemble_eq (by simp) parse⟩⟩
  · have hzero : String.Pos.Raw.IsValid json ⟨0⟩ := by simp
    obtain ⟨payloads, hloop, hbounded, hjoined⟩ :=
      chunkLoop_spec json fuel hzero (by simpa using hfuel) 0 []
    have hwhole : (String.join payloads).toByteArray = json.toByteArray := by
      rw [hjoined, ByteArray.extract_zero_size]
    have hframes : chunkSnapshot serialise fuel snapshot = some ((unpatched 0 payloads).map fun f =>
        { f with total := UInt32.ofNat payloads.length }) := by
      simp [chunkSnapshot, hjson, h, hloop]
    refine ⟨_, hframes, fun hcount => ?_⟩
    have hchunked := chunked_windows (by omega) hbounded hwhole (by simpa using hcount)
    refine ⟨hchunked, fun T parse => hchunked.reassemble_eq ?_ parse⟩
    rintro hnil
    have hempty : payloads = [] := by simpa using congrArg List.length hnil
    have hsize : json.utf8ByteSize = 0 := by
      rw [← String.size_toByteArray, ← hwhole, hempty, String.join_nil]
      rfl
    omega

/-! ### A long snapshot -/

theorem utf8Len_replicate (n : Nat) (c : Char) : String.utf8Len (List.replicate n c) = n * c.utf8Size := by
  induction n with
  | zero => simp
  | succ n ih => rw [List.replicate_succ, String.utf8Len_cons, ih, Nat.succ_mul]

/-- Each turn of the loop gives one frame at most. -/
theorem length_chunkLoop {bytes : ByteArray} {fuel start : Nat} {seq : UInt32} {frames out : List ChunkFrame}
    (h : chunkLoop bytes fuel start seq frames = some out) : out.length ≤ frames.length + fuel := by
  induction fuel generalizing start seq frames with
  | zero => exact absurd h (by simp [chunkLoop])
  | succ fuel ih =>
    rw [chunkLoop] at h
    split at h
    · simp only [bind, Option.bind_eq_some_iff] at h
      obtain ⟨stop, -, payload, -, hrest⟩ := h
      have hout := ih hrest
      simp only [List.length_append, List.length_singleton] at hout
      omega
    · obtain rfl := Option.some.inj h
      omega

/-- A snapshot of several frames has at most as many. -/
theorem length_chunkSnapshot {S : Type} {serialise : S → Option String} {snapshot : S} {json : String} {fuel : Nat}
    {frames : List ChunkFrame} (hjson : serialise snapshot = some json) (hlong : chunkThreshold < json.utf8ByteSize)
    (h : chunkSnapshot serialise fuel snapshot = some frames) : frames.length ≤ fuel := by
  simp only [chunkSnapshot, bind, hjson, Option.bind_some, if_neg (Nat.not_le.mpr hlong),
    Option.bind_eq_some_iff] at h
  obtain ⟨windows, hwindows, h⟩ := h
  obtain rfl := Option.some.inj h
  simpa using length_chunkLoop hwindows

/-- A text with a character of two bytes among letters. -/
def accentedText (m n : Nat) : String := String.ofList (List.replicate m 'a' ++ 'é' :: List.replicate n 'a')

theorem utf8Len_letters (n : Nat) : String.utf8Len (List.replicate n 'a') = n := by
  rw [utf8Len_replicate]
  exact Nat.mul_one n

theorem utf8Size_accented : 'é'.utf8Size = 2 := rfl

theorem utf8ByteSize_accentedText (m n : Nat) : (accentedText m n).utf8ByteSize = m + (n + 2) := by
  rw [accentedText, String.utf8ByteSize_ofList, String.utf8Len_append, String.utf8Len_cons, utf8Len_letters,
    utf8Len_letters, utf8Size_accented]

/-- Its second byte starts no character. -/
theorem not_isValid_accentedText (m n : Nat) : ¬ String.Pos.Raw.IsValid (accentedText m n) ⟨m + 1⟩ := by
  rw [String.Pos.Raw.isValid_iff_exists_append]
  rintro ⟨s, t, h, hsize⟩
  have hs : String.utf8Len s.toList = m + 1 := by
    rw [String.utf8Len_toList]
    exact (congrArg String.Pos.Raw.byteIdx hsize).symm
  have hlist : List.replicate m 'a' ++ 'é' :: List.replicate n 'a' = s.toList ++ t.toList := by
    rw [← String.toList_append, ← h, accentedText, String.toList_ofList]
  rcases List.append_eq_append_iff.mp hlist with ⟨front, hfront, hrest⟩ | ⟨rest, hrest, -⟩
  · rw [hfront, String.utf8Len_append, utf8Len_letters] at hs
    cases front with
    | nil => simp at hs
    | cons c front =>
      obtain ⟨rfl, -⟩ := List.cons.inj hrest
      rw [String.utf8Len_cons, utf8Size_accented] at hs
      omega
  · have hprefix := String.utf8Len_le_of_prefix (hrest ▸ List.prefix_append s.toList rest)
    rw [utf8Len_letters] at hprefix
    omega

/-- A snapshot of several frames, in which a character lies across the end of the first window. -/
theorem chunkSnapshot_chunked_accented :
    ¬ String.Pos.Raw.IsValid (accentedText 65535 200000) ⟨chunkSize⟩ ∧
    ∃ frames, chunkSnapshot some 300000 (accentedText 65535 200000) = some frames ∧ 1 < frames.length ∧
      Chunked (accentedText 65535 200000) frames ∧
      reassemble some frames = some (accentedText 65535 200000) := by
  have hsize : (accentedText 65535 200000).utf8ByteSize = 265537 := utf8ByteSize_accentedText 65535 200000
  have hedge := not_isValid_accentedText 65535 200000
  generalize accentedText 65535 200000 = json at hsize hedge ⊢
  refine ⟨hedge, ?_⟩
  obtain ⟨frames, hframes, hspec⟩ := chunkSnapshot_chunked some json json rfl 300000 (by omega)
  have hlong : chunkThreshold < json.utf8ByteSize := by
    rw [hsize]
    decide
  have hcount := length_chunkSnapshot rfl hlong hframes
  obtain ⟨hchunked, hreassemble⟩ := hspec (hcount.trans_lt (by decide))
  refine ⟨frames, hframes, ?_, hchunked, hreassemble String some⟩
  -- one frame is too short for it
  by_contra hfew
  have hjoined := congrArg ByteArray.size hchunked.joined
  rcases frames with _ | ⟨f, _ | ⟨g, frames⟩⟩
  · simp [hsize] at hjoined
  · have hle := (hchunked.bounded hlong f List.mem_cons_self).2
    simp only [List.map_cons, List.map_nil, String.join_cons, String.join_nil, String.append_empty,
      String.size_toByteArray, hsize] at hjoined
    rw [hjoined] at hle
    exact absurd hle (by decide)
  · simp at hfew

end Cliptown.World
