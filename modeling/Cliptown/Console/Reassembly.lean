import Cliptown.Lib.Js
import Cliptown.Lib.Table
import Mathlib.Algebra.Order.Field.Rat
import Mathlib.Data.Finset.Card
import Mathlib.Data.Nat.Cast.Order.Ring
import Mathlib.Data.Rat.Cast.CharZero
import Mathlib.Data.Set.Function

/-!
# Reassembly of snapshots at the console

The console client's buffers for world views that arrive in pieces.

* `readChunk`, `Chunk.Refused`, `handleChunk` — one `chunk_frame` message; `JSON.parse` is a
  parameter that fails on malformed text.
* `buffersAfter`, `delivered` — what a sequence of messages leaves, and what a message delivers.
* `Snapshot`, `IsFrame` — a snapshot cut into chunks, and the messages that carry them.
* `Admissible` — any interleaving of frames and of messages that the guards refuse, where a frame may
  come again as long as its snapshot is not complete.
* `Buffered` — what the client holds of a snapshot in such a sequence.
* `delivered_iff` — a message delivers an object if and only if it is the last missing frame of a
  snapshot, and then that snapshot's object, which is no longer buffered.
-/

namespace Cliptown.Console

open Cliptown.Lib

/-- What a message says of a chunk, with the defaults for what it does not say. -/
@[ext]
structure Chunk where
  id : String
  idx : ℚ
  total : ℚ
  chunk : String
  deriving DecidableEq

/-- Source: `ws.ts` `handleChunk` -/
def readChunk (m : Json) : Chunk where
  id := (m.getStr "snapshot_id").getD ""
  idx := ((m.get "index").bind Js.asNumber).getD (-1)
  total := ((m.get "total").bind Js.asNumber).getD 0
  chunk := (m.getStr "chunk").getD ""

/-- The guards. Source: `ws.ts` `handleChunk` -/
def Chunk.Refused (c : Chunk) : Prop := c.id = "" ∨ c.idx < 0 ∨ c.total ≤ 0 ∨ c.total ≤ c.idx

instance (c : Chunk) : Decidable c.Refused := inferInstanceAs (Decidable (_ ∨ _ ∨ _ ∨ _))

/-- Source: `ws.ts` `ChunkBuf` -/
structure ChunkBuf where
  total : ℚ
  parts : Table ℚ String

/-- The buffers by snapshot. Source: `ws.ts` `chunks` -/
abbrev Buffers := Table String ChunkBuf

/-- The buffer that a chunk goes into: a new one where there is none, or one of another total. -/
def openBuf (chunks : Buffers) (c : Chunk) : ChunkBuf :=
  match chunks.lookup c.id with
  | none => ⟨c.total, ∅⟩
  | some buf => if buf.total ≠ c.total then ⟨c.total, ∅⟩ else buf

/-- The buffer with the chunk set. -/
def setPart (chunks : Buffers) (c : Chunk) : ChunkBuf :=
  { openBuf chunks c with parts := (openBuf chunks c).parts.insert c.idx c.chunk }

/-- The chunks by index below the total, nothing where one is missing. -/
def ChunkBuf.ordered (buf : ChunkBuf) : List String :=
  (List.range buf.total.ceil.toNat).map fun (i : ℕ) => (buf.parts.lookup (i : ℚ)).getD ""

/-- `v && typeof v === "object"`. -/
def isObject : Json → Bool
  | .arr _ => true
  | .obj _ => true
  | _ => false

variable (parse : String → Option Json)

/-- One `chunk_frame` message: the buffers after it, and what it delivers.
Source: `ws.ts` `handleChunk` -/
def handleChunk (chunks : Buffers) (m : Json) : Buffers × Option Json :=
  let c := readChunk m
  if c.Refused then (chunks, none)
  else
    let buf := setPart chunks c
    if (buf.parts.entries.length : ℚ) = buf.total then
      (chunks.erase c.id, (parse (String.join buf.ordered)).filter isObject)
    else (chunks.insert c.id buf, none)

/-- The buffers after a sequence of messages. -/
def buffersAfter (ms : List Json) : Buffers :=
  ms.foldl (fun chunks m => (handleChunk parse chunks m).1) ∅

/-- What a message delivers after others. -/
def delivered (before : List Json) (m : Json) : Option Json :=
  (handleChunk parse (buffersAfter parse before) m).2

/-! ### Snapshots and their frames -/

/-- A snapshot, cut into chunks that join to the text of an object. -/
structure Snapshot where
  id : String
  chunks : List String
  fields : List (String × Json)
  parses : parse (String.join chunks) = some (.obj fields)

variable {parse}

/-- The message carries the chunk `i` of the snapshot. -/
def IsFrame (s : Snapshot parse) (i : ℕ) (m : Json) : Prop :=
  ∃ chunk, s.chunks[i]? = some chunk ∧ readChunk m = ⟨s.id, i, s.chunks.length, chunk⟩

/-- A frame with the chunk `i` is among the messages. -/
def Seen (s : Snapshot parse) (ms : List Json) (i : ℕ) : Prop := ∃ m ∈ ms, IsFrame s i m

/-- Each chunk has come. -/
def Complete (s : Snapshot parse) (ms : List Json) : Prop := ∀ i < s.chunks.length, Seen s ms i

/-- The message is the last that was missing. -/
def CompletedBy (s : Snapshot parse) (before : List Json) (m : Json) : Prop :=
  ¬ Complete s before ∧ Complete s (before ++ [m])

instance (s : Snapshot parse) (i : ℕ) (m : Json) : Decidable (IsFrame s i m) :=
  match h : s.chunks[i]? with
  | none => .isFalse fun ⟨_, hchunk, _⟩ => Option.some_ne_none _ (hchunk.symm.trans h)
  | some chunk =>
    decidable_of_iff (readChunk m = ⟨s.id, i, s.chunks.length, chunk⟩)
      ⟨fun hread => ⟨chunk, h, hread⟩, fun ⟨_, hchunk, hread⟩ =>
        Option.some.inj (h.symm.trans hchunk) ▸ hread⟩

instance (s : Snapshot parse) (ms : List Json) (i : ℕ) : Decidable (Seen s ms i) :=
  inferInstanceAs (Decidable (∃ m ∈ ms, IsFrame s i m))

instance (s : Snapshot parse) (ms : List Json) : Decidable (Complete s ms) :=
  inferInstanceAs (Decidable (∀ i < s.chunks.length, Seen s ms i))

/-- Messages that are refused by the guards, or frames of snapshots that are not complete. -/
inductive Admissible (S : Set (Snapshot parse)) : List Json → Prop
  | nil : Admissible S []
  | refused {ms : List Json} {m : Json} (h : Admissible S ms) (hm : (readChunk m).Refused) :
      Admissible S (ms ++ [m])
  | frame {ms : List Json} {m : Json} {s : Snapshot parse} {i : ℕ} (h : Admissible S ms) (hs : s ∈ S)
      (hmissing : ¬ Complete s ms) (hm : IsFrame s i m) : Admissible S (ms ++ [m])

/-- The message that carries a chunk. -/
def chunkFrame (id : String) (index total : ℕ) (chunk : String) : Json :=
  .obj [("type", .str "chunk_frame"), ("v", .int 1), ("snapshot_id", .str id), ("index", .int index),
    ("total", .int total), ("chunk", .str chunk)]

theorem readChunk_chunkFrame (id : String) (index total : ℕ) (chunk : String) :
    readChunk (chunkFrame id index total chunk) = ⟨id, index, total, chunk⟩ := by
  simp [readChunk, chunkFrame, Json.getStr, Json.get, Json.asStr, Js.asNumber]

/-- The message with a chunk of a snapshot is a frame of it. -/
theorem isFrame_chunkFrame {s : Snapshot parse} {i : ℕ} {chunk : String} (h : s.chunks[i]? = some chunk) :
    IsFrame s i (chunkFrame s.id i s.chunks.length chunk) :=
  ⟨chunk, h, readChunk_chunkFrame s.id i s.chunks.length chunk⟩

/-! ### One message -/

theorem handleChunk_refused {chunks : Buffers} {m : Json} (h : (readChunk m).Refused) :
    handleChunk parse chunks m = (chunks, none) := by
  simp only [handleChunk, if_pos h]

/-- Other snapshots keep their buffers. -/
theorem lookup_handleChunk_ne {chunks : Buffers} {m : Json} {id : String} (h : id ≠ (readChunk m).id) :
    (handleChunk parse chunks m).1.lookup id = chunks.lookup id := by
  simp only [handleChunk]
  split_ifs
  · rfl
  · exact AList.lookup_erase_ne h
  · exact AList.lookup_insert_ne h

theorem buffersAfter_concat (ms : List Json) (m : Json) :
    buffersAfter parse (ms ++ [m]) = (handleChunk parse (buffersAfter parse ms) m).1 := by
  simp only [buffersAfter, List.foldl_append, List.foldl_cons, List.foldl_nil]

/-! ### Frames -/

section Frames

variable {s t : Snapshot parse} {ms : List Json} {m : Json} {i j : ℕ}

theorem IsFrame.lt (h : IsFrame s i m) : i < s.chunks.length := by
  obtain ⟨chunk, hchunk, -⟩ := h
  exact (List.getElem?_eq_some_iff.mp hchunk).1

theorem IsFrame.id_eq (h : IsFrame s i m) : (readChunk m).id = s.id := by
  obtain ⟨chunk, -, hread⟩ := h
  rw [hread]

/-- A message carries one chunk. -/
theorem IsFrame.index_inj (h : IsFrame s i m) (h' : IsFrame s j m) : i = j := by
  obtain ⟨_, -, hread⟩ := h
  obtain ⟨_, -, hread'⟩ := h'
  have hidx : (i : ℚ) = j := congrArg Chunk.idx (hread.symm.trans hread')
  exact_mod_cast hidx

/-- The guards let the frames of a snapshot with an id through. -/
theorem IsFrame.not_refused (h : IsFrame s i m) (hid : s.id ≠ "") : ¬ (readChunk m).Refused := by
  have hlt : (i : ℚ) < s.chunks.length := by exact_mod_cast h.lt
  have hnonneg : (0 : ℚ) ≤ i := Nat.cast_nonneg i
  obtain ⟨_, -, hread⟩ := h
  rw [hread]
  rintro (h | h | h | h)
  · exact hid h
  · exact absurd h (not_lt.mpr hnonneg)
  · exact absurd h (not_le.mpr (lt_of_le_of_lt hnonneg hlt))
  · exact absurd h (not_le.mpr hlt)

theorem Seen.mono {ms' : List Json} (h : Seen s ms i) : Seen s (ms ++ ms') i := by
  obtain ⟨m, hm, hframe⟩ := h
  exact ⟨m, List.mem_append_left ms' hm, hframe⟩

theorem Complete.mono {ms' : List Json} (h : Complete s ms) : Complete s (ms ++ ms') :=
  fun i hi => (h i hi).mono

/-- What is seen with one more message. -/
theorem seen_concat : Seen s (ms ++ [m]) i ↔ Seen s ms i ∨ IsFrame s i m := by
  simp only [Seen, List.mem_append, List.mem_singleton]
  constructor
  · rintro ⟨m', hm | rfl, hframe⟩
    · exact .inl ⟨m', hm, hframe⟩
    · exact .inr hframe
  · rintro (⟨m', hm, hframe⟩ | hframe)
    · exact ⟨m', .inl hm, hframe⟩
    · exact ⟨m, .inr rfl, hframe⟩

/-- A message that the guards refuse is a frame of no snapshot with an id. -/
theorem not_isFrame_of_refused (hid : s.id ≠ "") (h : (readChunk m).Refused) : ¬ IsFrame s i m :=
  fun hframe => hframe.not_refused hid h

/-- A snapshot has a chunk, as no object is written with nothing. -/
theorem Snapshot.chunks_ne_nil (hempty : parse "" = none) (s : Snapshot parse) : s.chunks ≠ [] := by
  intro hnil
  have h := s.parses
  rw [hnil, String.join_nil, hempty] at h
  cases h

end Frames

/-! ### The buffer of a snapshot -/

/-- The buffer holds the chunks of the snapshot that have been seen, and nothing else. -/
structure Holds (s : Snapshot parse) (ms : List Json) (buf : ChunkBuf) : Prop where
  total : buf.total = s.chunks.length
  parts : ∀ (i : ℕ) chunk, buf.parts.lookup (i : ℚ) = some chunk ↔ Seen s ms i ∧ s.chunks[i]? = some chunk
  keys : ∀ q ∈ buf.parts, ∃ i : ℕ, q = i ∧ Seen s ms i

/-- What the client holds of a snapshot: nothing before its first frame and after its last one. -/
structure Buffered (s : Snapshot parse) (ms : List Json) (chunks : Buffers) : Prop where
  none_of_complete : Complete s ms → chunks.lookup s.id = none
  none_of_unseen : (∀ i, ¬ Seen s ms i) → chunks.lookup s.id = none
  holds : ∀ i, Seen s ms i → ¬ Complete s ms → ∃ buf, chunks.lookup s.id = some buf ∧ Holds s ms buf

section Buffer

variable {s : Snapshot parse} {ms : List Json} {m : Json} {i : ℕ} {buf : ChunkBuf} {chunks : Buffers}

theorem Seen.lt (h : Seen s ms i) : i < s.chunks.length := by
  obtain ⟨m, -, hframe⟩ := h
  exact hframe.lt

/-- A natural number is a key of the buffer if and only if that chunk has been seen. -/
theorem Holds.mem_iff (h : Holds s ms buf) : (i : ℚ) ∈ buf.parts ↔ Seen s ms i := by
  constructor
  · intro hmem
    obtain ⟨j, hj, hseen⟩ := h.keys _ hmem
    have hij : i = j := by exact_mod_cast hj
    exact hij ▸ hseen
  · intro hseen
    have hlt := hseen.lt
    have hpart := (h.parts i s.chunks[i]).mpr ⟨hseen, List.getElem?_eq_getElem hlt⟩
    exact AList.lookup_isSome.mp (by rw [hpart]; rfl)

/-- A list without repetitions of some numbers below `n` has `n` elements if and only if all are there. -/
theorem length_eq_iff_forall_mem {l : List ℚ} {n : ℕ} (hnodup : l.Nodup)
    (hl : ∀ q ∈ l, ∃ i < n, q = (i : ℚ)) : l.length = n ↔ ∀ i < n, (i : ℚ) ∈ l := by
  let all : Finset ℚ := (Finset.range n).image (Nat.cast : ℕ → ℚ)
  have hcard : all.card = n := by
    rw [Finset.card_image_of_injective _ Nat.cast_injective, Finset.card_range]
  have hsub : l.toFinset ⊆ all := by
    intro q hq
    obtain ⟨i, hi, rfl⟩ := hl q (List.mem_toFinset.mp hq)
    exact Finset.mem_image_of_mem _ (Finset.mem_range.mpr hi)
  have hlength : l.toFinset.card = l.length := List.toFinset_card_of_nodup hnodup
  constructor
  · intro h i hi
    have heq : l.toFinset = all := Finset.eq_of_subset_of_card_le hsub (by omega)
    rw [← List.mem_toFinset, heq]
    exact Finset.mem_image_of_mem _ (Finset.mem_range.mpr hi)
  · intro h
    have hsup : all ⊆ l.toFinset := by
      intro q hq
      obtain ⟨i, hi, rfl⟩ := Finset.mem_image.mp hq
      exact List.mem_toFinset.mpr (h i (Finset.mem_range.mp hi))
    rw [← hlength, Finset.Subset.antisymm hsub hsup, hcard]

/-- As many parts as the total: each chunk has come. -/
theorem Holds.size_iff (h : Holds s ms buf) :
    (buf.parts.entries.length : ℚ) = buf.total ↔ Complete s ms := by
  have hkeys : buf.parts.keys.length = buf.parts.entries.length := by
    rw [AList.keys, List.keys, List.length_map]
  have hmem : ∀ q ∈ buf.parts.keys, ∃ i < s.chunks.length, q = (i : ℚ) := by
    intro q hq
    obtain ⟨i, hi, hseen⟩ := h.keys q (AList.mem_keys.mpr hq)
    exact ⟨i, hseen.lt, hi⟩
  rw [h.total, ← hkeys, Nat.cast_inj, length_eq_iff_forall_mem buf.parts.keys_nodup hmem]
  exact forall_congr' fun i => imp_congr_right fun _ => AList.mem_keys.symm.trans h.mem_iff

/-- The chunks are joined in the order of their indices. -/
theorem Holds.ordered_eq (h : Holds s ms buf) (hcomplete : Complete s ms) : buf.ordered = s.chunks := by
  have hceil : buf.total.ceil.toNat = s.chunks.length := by
    rw [h.total]
    exact congrArg Int.toNat (Rat.ceil_intCast (s.chunks.length : ℤ))
  apply List.ext_getElem
  · rw [ChunkBuf.ordered, List.length_map, List.length_range, hceil]
  · intro i hi hlt
    have hpart := (h.parts i s.chunks[i]).mpr ⟨hcomplete i hlt, List.getElem?_eq_getElem hlt⟩
    simp only [ChunkBuf.ordered, List.getElem_map]
    rw [List.getElem_range, hpart]
    rfl

/-- The buffer that a frame goes into holds what has been seen before it. -/
theorem Buffered.holds_openBuf (h : Buffered s ms chunks) (hmissing : ¬ Complete s ms)
    (hm : IsFrame s i m) : Holds s ms (openBuf chunks (readChunk m)) := by
  have htotal : (readChunk m).total = s.chunks.length := by
    obtain ⟨_, -, hread⟩ := hm
    rw [hread]
  rw [openBuf, hm.id_eq]
  by_cases hseen : ∃ j, Seen s ms j
  · obtain ⟨j, hj⟩ := hseen
    obtain ⟨buf, hbuf, hholds⟩ := h.holds j hj hmissing
    simp only [hbuf, hholds.total, htotal, ne_eq, not_true, if_false]
    exact hholds
  · have hunseen : ∀ j, ¬ Seen s ms j := fun j hj => hseen ⟨j, hj⟩
    rw [h.none_of_unseen hunseen]
    refine ⟨htotal, fun j chunk => ?_, fun q hq => ?_⟩
    · simp [hunseen j]
    · exact absurd hq (AList.notMem_empty q)

/-- A frame is set in the buffer. -/
theorem Buffered.holds_setPart (h : Buffered s ms chunks) (hmissing : ¬ Complete s ms)
    (hm : IsFrame s i m) : Holds s (ms ++ [m]) (setPart chunks (readChunk m)) := by
  have hopen := h.holds_openBuf hmissing hm
  obtain ⟨chunk, hchunk, hread⟩ := id hm
  have hidx : (readChunk m).idx = i := by rw [hread]
  have hpart : (readChunk m).chunk = chunk := by rw [hread]
  refine ⟨hopen.total, fun j chunk' => ?_, fun q hq => ?_⟩
  · rw [setPart, hidx, hpart, Table.lookup_insert_eq, seen_concat]
    split_ifs with heq
    · obtain rfl : j = i := by exact_mod_cast heq
      rw [hchunk]
      exact ⟨fun h => ⟨.inr hm, h⟩, fun h => h.2⟩
    · have hne : ¬ IsFrame s j m := fun hframe => heq (by rw [hframe.index_inj hm])
      rw [hopen.parts, or_iff_left hne]
  · rw [setPart, hidx, AList.mem_insert] at hq
    rcases hq with rfl | hq
    · exact ⟨i, rfl, seen_concat.mpr (.inr hm)⟩
    · obtain ⟨j, hj, hseen⟩ := hopen.keys q hq
      exact ⟨j, hj, hseen.mono⟩

/-- A frame that is not the last one missing is kept. -/
theorem Buffered.handleChunk_kept (h : Buffered s ms chunks) (hid : s.id ≠ "")
    (hmissing : ¬ Complete s ms) (hm : IsFrame s i m) (hlast : ¬ Complete s (ms ++ [m])) :
    handleChunk parse chunks m = (chunks.insert s.id (setPart chunks (readChunk m)), none) := by
  have hsize := (h.holds_setPart hmissing hm).size_iff.not.mpr hlast
  simp only [handleChunk, if_neg (hm.not_refused hid), if_neg hsize, hm.id_eq]

/-- The last frame that was missing delivers the object, and the buffer is gone. -/
theorem Buffered.handleChunk_last (h : Buffered s ms chunks) (hid : s.id ≠ "")
    (hmissing : ¬ Complete s ms) (hm : IsFrame s i m) (hlast : Complete s (ms ++ [m])) :
    handleChunk parse chunks m = (chunks.erase s.id, some (.obj s.fields)) := by
  have hholds := h.holds_setPart hmissing hm
  simp only [handleChunk, if_neg (hm.not_refused hid), if_pos (hholds.size_iff.mpr hlast), hm.id_eq,
    hholds.ordered_eq hlast, s.parses]
  rfl

/-- A frame of the snapshot keeps the invariant. -/
theorem Buffered.frame (h : Buffered s ms chunks) (hid : s.id ≠ "") (hmissing : ¬ Complete s ms)
    (hm : IsFrame s i m) : Buffered s (ms ++ [m]) (handleChunk parse chunks m).1 := by
  have hseen : Seen s (ms ++ [m]) i := seen_concat.mpr (.inr hm)
  by_cases hlast : Complete s (ms ++ [m])
  · rw [h.handleChunk_last hid hmissing hm hlast]
    have hnone : (chunks.erase s.id).lookup s.id = none := AList.lookup_erase s.id chunks
    exact ⟨fun _ => hnone, fun _ => hnone, fun _ _ hnot => absurd hlast hnot⟩
  · rw [h.handleChunk_kept hid hmissing hm hlast]
    exact ⟨fun hcomplete => absurd hcomplete hlast, fun hunseen => absurd hseen (hunseen i),
      fun _ _ _ => ⟨_, AList.lookup_insert chunks, h.holds_setPart hmissing hm⟩⟩

/-- A message that shows nothing of the snapshot and leaves its buffer keeps the invariant. -/
theorem Buffered.of_lookup_eq {chunks' : Buffers} (h : Buffered s ms chunks)
    (hlookup : chunks'.lookup s.id = chunks.lookup s.id) (hm : ∀ i, ¬ IsFrame s i m) :
    Buffered s (ms ++ [m]) chunks' := by
  have hseen : ∀ j, Seen s (ms ++ [m]) j ↔ Seen s ms j :=
    fun j => seen_concat.trans (or_iff_left (hm j))
  have hcomplete : Complete s (ms ++ [m]) ↔ Complete s ms := by simp only [Complete, hseen]
  constructor
  · rw [hcomplete, hlookup]
    exact h.none_of_complete
  · simp only [hseen]
    rw [hlookup]
    exact h.none_of_unseen
  · intro j hj hmissing
    obtain ⟨buf, hbuf, hholds⟩ := h.holds j ((hseen j).mp hj) (hcomplete.not.mp hmissing)
    refine ⟨buf, hlookup.trans hbuf, hholds.total, fun k chunk => ?_, fun q hq => ?_⟩
    · rw [hseen, hholds.parts]
    · obtain ⟨k, hk, hkseen⟩ := hholds.keys q hq
      exact ⟨k, hk, (hseen k).mpr hkseen⟩

end Buffer

/-! ### Runs -/

section Runs

variable {S : Set (Snapshot parse)} {before ms : List Json} {m : Json}

/-- The last message of an admissible sequence. -/
theorem Admissible.last (h : Admissible S (before ++ [m])) :
    Admissible S before ∧
      ((readChunk m).Refused ∨ ∃ s ∈ S, ∃ i, ¬ Complete s before ∧ IsFrame s i m) := by
  generalize hms : before ++ [m] = ms at h
  cases h with
  | nil => simp at hms
  | refused h hm =>
      obtain ⟨rfl, hlast⟩ := List.append_inj' hms rfl
      obtain rfl := List.singleton_inj.mp hlast
      exact ⟨h, .inl hm⟩
  | frame h hs hmissing hm =>
      obtain ⟨rfl, hlast⟩ := List.append_inj' hms rfl
      obtain rfl := List.singleton_inj.mp hlast
      exact ⟨h, .inr ⟨_, hs, _, hmissing, hm⟩⟩

theorem Admissible.of_append {after : List Json} (h : Admissible S (before ++ after)) :
    Admissible S before := by
  induction after using List.reverseRecOn with
  | nil => rwa [List.append_nil] at h
  | append_singleton after m ih =>
      rw [← List.append_assoc] at h
      exact ih h.last.1

/-- The client holds what it should of each snapshot. -/
theorem Admissible.buffered (h : Admissible S ms) (hid : S.InjOn Snapshot.id)
    (hne : ∀ s ∈ S, s.id ≠ "") : ∀ s ∈ S, Buffered s ms (buffersAfter parse ms) := by
  induction h with
  | nil =>
      intro s _
      have hnone : (buffersAfter parse []).lookup s.id = none := AList.lookup_empty s.id
      refine ⟨fun _ => hnone, fun _ => hnone, fun i hi => ?_⟩
      obtain ⟨m, hm, -⟩ := hi
      exact absurd hm List.not_mem_nil
  | refused h hm ih =>
      intro s hs
      rw [buffersAfter_concat, handleChunk_refused hm]
      exact (ih s hs).of_lookup_eq rfl fun i => not_isFrame_of_refused (hne s hs) hm
  | @frame ms m t i h ht hmissing hm ih =>
      intro s hs
      rw [buffersAfter_concat]
      by_cases hst : s.id = t.id
      · obtain rfl := hid hs ht hst
        exact (ih s hs).frame (hne s hs) hmissing hm
      · have hother : s.id ≠ (readChunk m).id := by rwa [hm.id_eq]
        exact (ih s hs).of_lookup_eq (lookup_handleChunk_ne hother) fun j hframe =>
          hother hframe.id_eq.symm

/-- A message that carries nothing of a snapshot does not complete it. -/
theorem not_completedBy {s : Snapshot parse} (h : ∀ i, ¬ IsFrame s i m) : ¬ CompletedBy s before m := by
  rintro ⟨hmissing, hcomplete⟩
  exact hmissing fun i hi => (seen_concat.mp (hcomplete i hi)).resolve_right (h i)

/-- A message delivers the object of the snapshot that it completes, and nothing else. -/
theorem delivered_iff (h : Admissible S (before ++ [m])) (hid : S.InjOn Snapshot.id)
    (hne : ∀ s ∈ S, s.id ≠ "") (v : Json) :
    delivered parse before m = some v ↔
      ∃ s ∈ S, CompletedBy s before m ∧ parse (String.join s.chunks) = some v := by
  obtain ⟨hbefore, hm | ⟨t, ht, i, hmissing, hm⟩⟩ := h.last
  · have hnone : delivered parse before m = none := by rw [delivered, handleChunk_refused hm]
    rw [hnone]
    constructor
    · intro hv
      cases hv
    · rintro ⟨s, hs, hby, -⟩
      exact absurd hby (not_completedBy fun i => not_isFrame_of_refused (hne s hs) hm)
  · have hbuffered := hbefore.buffered hid hne t ht
    have honly : ∀ s ∈ S, CompletedBy s before m → s = t := by
      intro s hs hby
      by_contra hst
      refine not_completedBy (fun j hframe => hst (hid hs ht ?_)) hby
      exact hframe.id_eq.symm.trans hm.id_eq
    by_cases hlast : Complete t (before ++ [m])
    · have hsome : delivered parse before m = some (.obj t.fields) := by
        rw [delivered, hbuffered.handleChunk_last (hne t ht) hmissing hm hlast]
      rw [hsome, ← t.parses]
      constructor
      · exact fun hv => ⟨t, ht, ⟨hmissing, hlast⟩, hv⟩
      · rintro ⟨s, hs, hby, hv⟩
        rwa [honly s hs hby] at hv
    · have hnone : delivered parse before m = none := by
        rw [delivered, hbuffered.handleChunk_kept (hne t ht) hmissing hm hlast]
      rw [hnone]
      constructor
      · intro hv
        cases hv
      · rintro ⟨s, hs, hby, -⟩
        exact absurd (honly s hs hby ▸ hby.2) hlast

/-- Nothing is complete before the first message. -/
theorem not_complete_nil (hempty : parse "" = none) (s : Snapshot parse) : ¬ Complete s [] := by
  intro h
  obtain ⟨m, hm, -⟩ := h 0 (List.length_pos_iff.mpr (s.chunks_ne_nil hempty))
  exact absurd hm List.not_mem_nil

/-- A snapshot that is complete was completed by one message. -/
theorem existsUnique_completedBy {s : Snapshot parse} (hempty : parse "" = none) (h : Complete s ms) :
    ∃! k, ∃ hk : k < ms.length, CompletedBy s (ms.take k) ms[k] := by
  have hexists : ∃ k, Complete s (ms.take k) := ⟨ms.length, by rwa [List.take_length]⟩
  have hmono : ∀ j k, j ≤ k → Complete s (ms.take j) → Complete s (ms.take k) := by
    intro j k hjk hj
    obtain ⟨rest, hrest⟩ := List.take_prefix_take_left hjk (l := ms)
    exact hrest ▸ hj.mono
  classical
  obtain ⟨k, hk⟩ : ∃ k, Nat.find hexists = k + 1 := by
    refine Nat.exists_eq_succ_of_ne_zero fun hzero => not_complete_nil hempty s ?_
    have hspec := Nat.find_spec hexists
    rwa [hzero, List.take_zero] at hspec
  have hat : Complete s (ms.take (k + 1)) := hk ▸ Nat.find_spec hexists
  have hnot : ¬ Complete s (ms.take k) := Nat.find_min hexists (by omega)
  have hlt : k < ms.length := by
    by_contra hge
    rw [List.take_of_length_le (by omega)] at hnot
    exact hnot h
  refine ⟨k, ⟨hlt, hnot, ?_⟩, ?_⟩
  · rwa [← List.take_succ_eq_append_getElem hlt]
  · rintro j ⟨hj, hjnot, hjat⟩
    rw [← List.take_succ_eq_append_getElem hj] at hjat
    have hjk : ¬ j + 1 ≤ k := fun hle => hnot (hmono _ _ hle hjat)
    have hkj : ¬ k + 1 ≤ j := fun hle => hjnot (hmono _ _ hle hat)
    omega

/-- In any interleaving of the frames of snapshots that have ids, each snapshot is delivered once, by
the last of its frames that was missing, and leaves no buffer. -/
theorem delivered_once (hempty : parse "" = none) (hid : S.InjOn Snapshot.id)
    (hne : ∀ s ∈ S, s.id ≠ "") (h : Admissible S ms) :
    (∀ before m after v, ms = before ++ m :: after →
      (delivered parse before m = some v ↔
        ∃ s ∈ S, CompletedBy s before m ∧ parse (String.join s.chunks) = some v)) ∧
    ∀ s ∈ S, Complete s ms →
      (∃! k, ∃ hk : k < ms.length, CompletedBy s (ms.take k) ms[k]) ∧
        (buffersAfter parse ms).lookup s.id = none := by
  refine ⟨fun before m after v hms => ?_, fun s hs hcomplete => ?_⟩
  · have hprefix : Admissible S ((before ++ [m]) ++ after) := by
      rw [List.append_assoc]
      exact hms ▸ h
    exact delivered_iff hprefix.of_append hid hne v
  · exact ⟨existsUnique_completedBy hempty hcomplete,
      (h.buffered hid hne s hs).none_of_complete hcomplete⟩

end Runs

/-! ### Samples -/

/-- A parser that knows the empty object. -/
def parseEmptyObject (text : String) : Option Json := if text = "\x7b\x7d" then some (.obj []) else none

/-- A snapshot in two pieces. -/
def inTwo : Snapshot parseEmptyObject := ⟨"a", ["\x7b", "\x7d"], [], rfl⟩

/-- A snapshot in one piece. -/
def inOne (id : String) : Snapshot parseEmptyObject := ⟨id, ["\x7b\x7d"], [], rfl⟩

/-- The second piece twice, the other snapshot and a refused message in between. -/
def interleaved : List Json :=
  [chunkFrame "a" 1 2 "\x7d", chunkFrame "b" 0 1 "\x7b\x7d", chunkFrame "a" 2 2 "", chunkFrame "a" 1 2 "\x7d"]

/-- The second piece comes twice and then the first, with another snapshot in between. -/
theorem delivered_once_interleaved :
    delivered parseEmptyObject interleaved (chunkFrame "a" 0 2 "\x7b") = some (.obj []) ∧
      (buffersAfter parseEmptyObject (interleaved ++ [chunkFrame "a" 0 2 "\x7b"])).lookup "a" = none := by
  have ha : inTwo ∈ ({inTwo, inOne "b"} : Set (Snapshot parseEmptyObject)) := .inl rfl
  have hb : inOne "b" ∈ ({inTwo, inOne "b"} : Set (Snapshot parseEmptyObject)) := .inr rfl
  have hfour : Admissible {inTwo, inOne "b"} interleaved :=
    (((Admissible.nil.frame ha (by decide +kernel) (isFrame_chunkFrame (i := 1) rfl)).frame hb (by decide +kernel)
      (isFrame_chunkFrame (i := 0) rfl)).refused (by decide +kernel)).frame ha (by decide +kernel)
      (isFrame_chunkFrame (i := 1) rfl)
  have hlast := hfour.frame ha (by decide +kernel) (isFrame_chunkFrame (i := 0) rfl)
  have hid : Set.InjOn Snapshot.id {inTwo, inOne "b"} := by
    rintro s (rfl | rfl) t (rfl | rfl) heq
    · rfl
    · exact absurd heq (by decide)
    · exact absurd heq (by decide)
    · rfl
  have hne : ∀ s ∈ ({inTwo, inOne "b"} : Set (Snapshot parseEmptyObject)), s.id ≠ "" := by
    rintro s (rfl | rfl) <;> decide
  obtain ⟨hdelivered, hcomplete⟩ := delivered_once rfl hid hne hlast
  exact ⟨(hdelivered _ _ [] _ rfl).mpr ⟨inTwo, ha, ⟨by decide +kernel, by decide +kernel⟩, rfl⟩,
    (hcomplete inTwo ha (by decide +kernel)).2⟩

/-- The guards refuse the frame of a snapshot without an id. -/
theorem not_delivered_unnamed :
    Admissible {inOne ""} [chunkFrame "" 0 1 "\x7b\x7d"] ∧
      CompletedBy (inOne "") [] (chunkFrame "" 0 1 "\x7b\x7d") ∧
      delivered parseEmptyObject [] (chunkFrame "" 0 1 "\x7b\x7d") = none := by
  refine ⟨Admissible.nil.frame rfl (by decide +kernel) (isFrame_chunkFrame (s := inOne "") (i := 0) rfl),
    ⟨by decide +kernel, by decide +kernel⟩, ?_⟩
  rw [delivered, handleChunk_refused (by decide +kernel)]

end Cliptown.Console
