import Cliptown.Lib.Json
import Cliptown.Lib.Lines
import Cliptown.Lib.Utf8

/-!
# Server-sent events, chunk by chunk

* `subscribeSse` — the client: it decodes the chunks of a stream, cuts its buffer at blank lines,
  and yields what the data lines of a frame parse to.
* `dataValue`, `blockData`, `sseValues` — what a text says: the data lines of its blocks of lines that a blank line
  ends.
* `extractDataPayload_eq` — the client takes the data of a frame for what it is.
* `subscribeSse_eq` — the client yields the values of the decoded stream, for any chunks.
-/

namespace Cliptown.Adapter

open Cliptown.Lib

/-! ### The client -/

/-- Source: `sse_client.ts` `extractDataPayload`, `line.slice(5).replace(/^ /, "")` -/
def dropSpace : List Char → List Char
  | ' ' :: rest => rest
  | line => line

/-- The data of one line. Source: `sse_client.ts` `extractDataPayload`, the loop -/
def dataPart (line : List Char) : Option (List Char) :=
  if "data:".toList.isPrefixOf line then some (dropSpace (line.drop 5)) else none

/-- The data lines among the lines of a frame, joined. -/
def joinData (lines : List (List Char)) : Option (List Char) :=
  match lines.filterMap dataPart with
  | [] => none
  | parts => some (['\n'].intercalate parts)

/-- Source: `sse_client.ts` `extractDataPayload` -/
def extractDataPayload (frame : List Char) : Option (List Char) := joinData (frame.splitOn '\n')

/-- `buf.indexOf("\n\n")`, with `none` for `-1`. -/
def blankIndex : List Char → Option ℕ
  | [] => none
  | c :: rest =>
    if c = '\n' ∧ rest.head? = some '\n' then some 0 else (blankIndex rest).map (· + 1)

theorem blankIndex_lt {buf : List Char} {idx : ℕ} (h : blankIndex buf = some idx) :
    idx < buf.length := by
  induction buf generalizing idx with
  | nil => cases h
  | cons c rest ih =>
    rw [blankIndex] at h
    split_ifs at h with hblank
    · cases h
      exact Nat.succ_pos _
    · obtain ⟨i, hi, rfl⟩ := Option.map_eq_some_iff.mp h
      exact Nat.succ_lt_succ (ih hi)

/-- The complete frames of the buffer, and what is left in it. Source: `sse_client.ts`
`subscribeSse`, the inner loop -/
def cutFrames (buf : List Char) : List (List Char) × List Char :=
  match h : blankIndex buf with
  | none => ([], buf)
  | some idx =>
    have := blankIndex_lt h
    (buf.take idx :: (cutFrames (buf.drop (idx + 2))).1, (cutFrames (buf.drop (idx + 2))).2)
termination_by buf.length
decreasing_by all_goals simp only [List.length_drop]; omega

section

variable (parse : String → Option Json)

/-- What a frame yields, with `JSON.parse` as `parse`. -/
def frameValue (frame : List Char) : Option Json :=
  (extractDataPayload frame).bind fun data => parse (String.ofList data)

/-- The variables of the loop. Source: `sse_client.ts` `subscribeSse` -/
structure SseReader where
  decoder : Utf8.TextDecoder
  buf : List Char

/-- One chunk of the response. Source: `sse_client.ts` `subscribeSse`, a turn of the outer loop -/
def SseReader.read (r : SseReader) (chunk : List UInt8) : SseReader × List Json :=
  let (decoder, text) := r.decoder.decode chunk
  let (frames, rest) := cutFrames (r.buf ++ text)
  (⟨decoder, rest⟩, frames.filterMap (frameValue parse))

/-- What is yielded for the chunks to come. -/
def SseReader.values (r : SseReader) : List (List UInt8) → List Json
  | [] => []
  | chunk :: chunks => (r.read parse chunk).2 ++ SseReader.values (r.read parse chunk).1 chunks

/-- What is yielded for a response that comes in the given chunks. Source: `sse_client.ts`
`subscribeSse` -/
def subscribeSse (chunks : List (List UInt8)) : List Json :=
  SseReader.values parse ⟨.new, []⟩ chunks

/-! ### What the frames of a text are -/

/-- The value of a line that is a data line: what comes after the colon, and after one space if there is one. -/
def dataValue : List Char → Option (List Char)
  | 'd' :: 'a' :: 't' :: 'a' :: ':' :: ' ' :: value => some value
  | 'd' :: 'a' :: 't' :: 'a' :: ':' :: value => some value
  | _ => none

/-- The data of a block of lines: the values of its data lines, each in a line of its own. -/
def blockData : List (List Char) → Option (List Char)
  | [] => none
  | line :: block =>
    match dataValue line, blockData block with
    | none, data => data
    | some value, none => some value
    | some value, some data => some (value ++ '\n' :: data)

/-- What the data of a block parses to. -/
def blockValue (block : List (List Char)) : Option Json :=
  (blockData block).bind fun data => parse (String.ofList data)

/-- The values of a text: of each block of lines that a blank line ends, where its data parses. -/
def sseValues (text : List Char) : List Json :=
  (Lines.complete [] (Lines.complete '\n' text)).filterMap (blockValue parse)

end

/-! ### The data of a frame -/

/-- The client takes the data lines for what they are. -/
theorem dataPart_eq (line : List Char) : dataPart line = dataValue line := by
  unfold dataPart
  split_ifs with hprefix
  · obtain ⟨value, rfl⟩ := List.isPrefixOf_iff_prefix.mp hprefix
    cases value with
    | nil => rfl
    | cons c value =>
      by_cases hspace : c = ' '
      · subst hspace
        rfl
      · simp [dropSpace, dataValue, hspace]
  · unfold dataValue
    split
    · exact absurd rfl hprefix
    · exact absurd rfl hprefix
    · rfl

/-- The client joins them as they stand in the block. -/
theorem joinData_eq (block : List (List Char)) : joinData block = blockData block := by
  induction block with
  | nil => rfl
  | cons line block ih =>
    unfold joinData at ih ⊢
    rw [List.filterMap_cons, dataPart_eq, blockData, ← ih]
    cases dataValue line with
    | none => rfl
    | some value =>
      cases hparts : block.filterMap dataPart with
      | nil => simp
      | cons part parts => simp [List.intercalate]

/-- The data of a frame is that of its lines. -/
theorem extractDataPayload_eq (frame : List Char) : extractDataPayload frame = blockData (frame.splitOn '\n') :=
  joinData_eq _

theorem frameValue_eq (parse : String → Option Json) (frame : List Char) :
    frameValue parse frame = blockValue parse (frame.splitOn '\n') := by
  rw [frameValue, extractDataPayload_eq, blockValue]

/-! ### Cutting at blank lines -/

theorem blankIndex_append_left {x y : List Char} (h : blankIndex (x ++ y) = none) :
    blankIndex x = none := by
  induction x with
  | nil => rfl
  | cons c x ih =>
    rw [List.cons_append, blankIndex] at h
    rw [blankIndex]
    split_ifs at h with hblank
    have hhead : ¬ (c = '\n' ∧ x.head? = some '\n') := by
      rintro ⟨hc, hx⟩
      exact hblank ⟨hc, by rw [List.head?_append, hx]; rfl⟩
    rw [if_neg hhead, ih (Option.map_eq_none_iff.mp h)]
    rfl

theorem blankIndex_frame {f : List Char} (h : blankIndex (f ++ ['\n']) = none) (rest : List Char) :
    blankIndex (f ++ '\n' :: '\n' :: rest) = some f.length := by
  induction f with
  | nil => simp [blankIndex]
  | cons c f ih =>
    rw [List.cons_append, blankIndex] at h
    split_ifs at h with hblank
    have hhead : (f ++ '\n' :: '\n' :: rest).head? = (f ++ ['\n']).head? := by
      cases f <;> rfl
    rw [List.cons_append, blankIndex, hhead, if_neg hblank, ih (Option.map_eq_none_iff.mp h)]
    rfl

/-- A buffer has no blank line, or a first frame before its first one. -/
theorem blankIndex_cases (buf : List Char) :
    blankIndex buf = none ∨
      ∃ f rest, buf = f ++ '\n' :: '\n' :: rest ∧ blankIndex (f ++ ['\n']) = none := by
  induction buf with
  | nil => exact .inl rfl
  | cons c buf ih =>
    by_cases hblank : c = '\n' ∧ buf.head? = some '\n'
    · obtain ⟨rfl, hhead⟩ := hblank
      obtain ⟨rest, rfl⟩ := List.head?_eq_some_iff.mp hhead
      exact .inr ⟨[], rest, rfl, rfl⟩
    rcases ih with h | ⟨f, rest, rfl, hf⟩
    · exact .inl (by rw [blankIndex, if_neg hblank, h]; rfl)
    · refine .inr ⟨c :: f, rest, rfl, ?_⟩
      have hhead : (f ++ '\n' :: '\n' :: rest).head? = (f ++ ['\n']).head? := by
        cases f <;> rfl
      rw [List.cons_append, blankIndex, ← hhead, if_neg hblank, hf]
      rfl

theorem cutFrames_of_none {buf : List Char} (h : blankIndex buf = none) : cutFrames buf = ([], buf) := by
  rw [cutFrames]
  split
  · rfl
  · simp_all

theorem cutFrames_frame {f : List Char} (h : blankIndex (f ++ ['\n']) = none) (rest : List Char) :
    cutFrames (f ++ '\n' :: '\n' :: rest) = (f :: (cutFrames rest).1, (cutFrames rest).2) := by
  have hidx := blankIndex_frame h rest
  rw [cutFrames]
  split
  · simp_all
  · next idx heq =>
    rw [hidx, Option.some.injEq] at heq
    subst heq
    simp

/-- What is left in the buffer is all that the frames to come depend on. -/
theorem cutFrames_append (buf x : List Char) :
    cutFrames (buf ++ x) = ((cutFrames buf).1 ++ (cutFrames ((cutFrames buf).2 ++ x)).1,
      (cutFrames ((cutFrames buf).2 ++ x)).2) := by
  induction hn : buf.length using Nat.strong_induction_on generalizing buf with
  | _ n ih =>
    rcases blankIndex_cases buf with h | ⟨f, rest, rfl, hf⟩
    · rw [cutFrames_of_none h]
      rfl
    · have hshort : rest.length < n := by
        rw [← hn, List.length_append, List.length_cons, List.length_cons]
        omega
      rw [cutFrames_frame hf, List.append_assoc, List.cons_append, List.cons_append,
        cutFrames_frame hf, ih rest.length hshort rest rfl]
      rfl

theorem blankIndex_cutFrames (buf : List Char) : blankIndex (cutFrames buf).2 = none := by
  induction hn : buf.length using Nat.strong_induction_on generalizing buf with
  | _ n ih =>
    rcases blankIndex_cases buf with h | ⟨f, rest, rfl, hf⟩
    · rwa [cutFrames_of_none h]
    · have hshort : rest.length < n := by
        rw [← hn, List.length_append, List.length_cons, List.length_cons]
        omega
      rw [cutFrames_frame hf]
      exact ih rest.length hshort rest rfl

/-! ### Frames and blocks of lines -/

/-- A text without a blank line in it, after its first line. -/
theorem notMem_tail_splitOn {f : List Char} (h : blankIndex (f ++ ['\n']) = none) :
    [] ∉ (f.splitOn '\n').tail := by
  induction f with
  | nil => simp
  | cons c f ih =>
    rw [List.cons_append, blankIndex] at h
    split_ifs at h with hblank
    have hrest := ih (Option.map_eq_none_iff.mp h)
    rw [List.splitOn_cons_eq_if_modifyHead]
    by_cases hc : c = '\n'
    · rw [if_pos (by simpa using hc), List.tail_cons]
      cases f with
      | nil => exact absurd ⟨hc, rfl⟩ hblank
      | cons d f =>
        have hd : d ≠ '\n' := fun hd => hblank ⟨hc, by simp [hd]⟩
        rw [List.splitOn_cons_eq_if_modifyHead, if_neg (by simpa using hd)] at hrest ⊢
        cases hsplit : f.splitOn '\n' with
        | nil => exact absurd hsplit (List.splitOn_ne_nil _ f)
        | cons first others =>
          rw [hsplit] at hrest
          simpa using hrest
    · rw [if_neg (by simpa using hc)]
      cases hsplit : f.splitOn '\n' with
      | nil => exact absurd hsplit (List.splitOn_ne_nil _ f)
      | cons first others =>
        rw [hsplit] at hrest
        simpa using hrest

section

variable (parse : String → Option Json)

/-- Lines of which only the first may be blank are one block, after an empty one perhaps. -/
theorem filterMap_blocks {lines : List (List Char)} (hne : lines ≠ []) (h : [] ∉ lines.tail) :
    (Lines.complete [] lines ++ [Lines.rest [] lines]).filterMap (blockValue parse) =
      (blockValue parse lines).toList := by
  cases lines with
  | nil => exact absurd rfl hne
  | cons line lines =>
    rw [List.tail_cons] at h
    by_cases hline : line = []
    · have hvalue : blockValue parse ([] :: lines) = blockValue parse lines := rfl
      have hempty : blockValue parse [] = none := rfl
      rw [hline, Lines.complete_cons_self, Lines.rest_cons_self, Lines.complete_of_notMem _ h,
        Lines.rest_of_notMem _ h, hvalue]
      cases hlines : blockValue parse lines <;> simp [hempty, hlines]
    · have hnone : [] ∉ line :: lines := by simp [h, Ne.symm hline]
      rw [Lines.complete_of_notMem _ hnone, Lines.rest_of_notMem _ hnone]
      cases hlines : blockValue parse (line :: lines) <;> simp [hlines]

/-- A text without a blank line in it yields nothing. -/
theorem sseValues_of_none {text : List Char} (h : blankIndex text = none) : sseValues parse text = [] := by
  rcases Lines.notMem_or_append_cons '\n' text with hline | ⟨a, r, rfl, hr⟩
  · rw [sseValues, Lines.complete_of_notMem _ hline]
    rfl
  · have hcomplete : Lines.complete '\n' (a ++ '\n' :: r) = a.splitOn '\n' := by
      rw [Lines.complete_append_cons, Lines.complete_of_notMem _ hr, Lines.splitOn_eq]
    have htail : [] ∉ (a.splitOn '\n').tail :=
      notMem_tail_splitOn (blankIndex_append_left (y := r) (by simpa using h))
    rw [sseValues, hcomplete]
    cases hsplit : a.splitOn '\n' with
    | nil => exact absurd hsplit (List.splitOn_ne_nil _ a)
    | cons line lines =>
      rw [hsplit, List.tail_cons] at htail
      by_cases hblank : line = []
      · rw [hblank, Lines.complete_cons_self, Lines.complete_of_notMem _ htail]
        rfl
      · rw [Lines.complete_of_notMem _ (by simp [htail, Ne.symm hblank])]
        rfl

/-- The first frame of a text, and the text behind its blank line. -/
theorem sseValues_frame {f : List Char} (h : blankIndex (f ++ ['\n']) = none) (rest : List Char) :
    sseValues parse (f ++ '\n' :: '\n' :: rest) =
      (frameValue parse f).toList ++ sseValues parse rest := by
  have hlines : Lines.complete '\n' (f ++ '\n' :: '\n' :: rest) =
      f.splitOn '\n' ++ [] :: Lines.complete '\n' rest := by
    rw [Lines.complete_append_cons, Lines.complete_cons_self, Lines.splitOn_eq, List.append_assoc]
    rfl
  have hframe := filterMap_blocks parse (List.splitOn_ne_nil '\n' f) (notMem_tail_splitOn h)
  rw [sseValues, hlines, Lines.complete_append_cons, List.append_cons, List.filterMap_append, hframe, frameValue_eq]
  rfl

/-- The frames that the client cuts yield what the blocks of lines do. -/
theorem filterMap_cutFrames (text : List Char) :
    (cutFrames text).1.filterMap (frameValue parse) = sseValues parse text := by
  induction hn : text.length using Nat.strong_induction_on generalizing text with
  | _ n ih =>
    rcases blankIndex_cases text with h | ⟨f, rest, rfl, hf⟩
    · rw [cutFrames_of_none h, sseValues_of_none parse h]
      rfl
    · have hshort : rest.length < n := by
        rw [← hn, List.length_append, List.length_cons, List.length_cons]
        omega
      rw [cutFrames_frame hf, sseValues_frame parse hf, ← ih rest.length hshort rest rfl]
      cases hvalue : frameValue parse f <;> simp [hvalue]

/-- What is yielded from a state of the loop on. -/
theorem values_eq (chunks : List (List UInt8)) (r : SseReader) (hbuf : blankIndex r.buf = none) :
    r.values parse chunks = sseValues parse (r.buf ++ (r.decoder.decode chunks.flatten).2) := by
  induction chunks generalizing r with
  | nil =>
    have htext : (r.decoder.decode []).2 = [] := by
      simp [Utf8.TextDecoder.decode, Utf8.TextDecoder.strip]
    rw [List.flatten_nil, htext, List.append_nil, sseValues_of_none parse hbuf]
    rfl
  | cons chunk chunks ih =>
    have hrest := ih (r.read parse chunk).1 (blankIndex_cutFrames _)
    rw [SseReader.values, hrest, List.flatten_cons, Utf8.TextDecoder.decode_append,
      ← filterMap_cutFrames, ← filterMap_cutFrames, ← List.append_assoc,
      cutFrames_append (r.buf ++ (r.decoder.decode chunk).2), List.filterMap_append]
    rfl

/-- The client yields the values of the decoded stream, for any chunks that it comes in. -/
theorem subscribeSse_eq (chunks : List (List UInt8)) :
    subscribeSse parse chunks = sseValues parse (Utf8.TextDecoder.new.decode chunks.flatten).2 :=
  values_eq parse chunks ⟨.new, []⟩ rfl

end

-- a frame with two data lines in two chunks, a comment, data that does not parse, and a frame that is still open
example : (subscribeSse (fun text => if text = "[1,\n2]" then some (.str "both") else none)
    [Utf8.encode "data: [1,\nda".toList, Utf8.encode "ta:2]\n\n: ping\n\ndata: [\n\ndata: [1,".toList]).map
      Json.asStr = [some "both"] := by
  decide +kernel

end Cliptown.Adapter
