import Cliptown.Adapter.Sessions

/-!
# Byte streams of tools, Buffer by Buffer

* `handleRequest` — the hook bridge: the Buffers of a body are decoded one by one and joined.
* `CodexSession.fed` — a codex child whose output arrives as the given Buffers, and that exits.
* `SameStream`, `SameRequest` — a stream gives what it gives as one Buffer.
* `CrashesApart` — an exception comes in a later Buffer than a hook.
* `chunkIndependent_iff` — where no Buffer starts inside a character, and only there, the streams that
  give what they give as one Buffer are those that do not crash apart, and every request does.
-/

namespace Cliptown.Adapter

open Cliptown.Lib

/-! ### The hook bridge -/

/-- Source: `hook_bridge.ts` `extractToolName` -/
def extractToolName : Json → String
  | .obj fields =>
    match (Json.obj fields).getStr "tool_name", (Json.obj fields).getStr "tool" with
    | some name, _ => name
    | none, some tool => tool
    | none, none => ""
  | _ => ""

/-- The last part of a path. Source: `hook_bridge.ts`, the regular expression on `req.url` -/
def hookKind (url : String) : Option HookKind :=
  if url = "/hook/pre_tool" then some .preTool
  else if url = "/hook/post_tool" then some .postTool
  else if url = "/hook/session_stop" then some .sessionStop
  else if url = "/hook/session_error" then some .sessionError
  else none

/-- What a request gets back: the status, the event that was forwarded, and the counter. -/
structure BridgeReply where
  status : ℕ
  event : Option HookEvent
  seq : ℕ

section

variable (parse : String → Option Json)

/-- The payload of a body. Source: `hook_bridge.ts`, `body ? JSON.parse(body) : null`, where an
exception leaves `null` -/
def bodyPayload (body : List Char) : Json :=
  if body = [] then .null else (parse (String.ofList body)).getD .null

/-- One request, its body in the Buffers it arrives in. Source: `hook_bridge.ts` `startHookBridge`,
the request listener -/
def handleRequest (method url : String) (chunks : List (List UInt8)) (seq : ℕ) : BridgeReply :=
  if method ≠ "POST" ∨ url = "" then ⟨405, none, seq⟩
  else
    match hookKind url with
    | none => ⟨404, none, seq⟩
    | some kind =>
      let payload := bodyPayload parse (chunks.flatMap Utf8.decode)
      ⟨200, some ⟨kind, extractToolName payload, payload, seq + 1⟩, seq + 1⟩

end

/-! ### The same stream as one Buffer -/

section

variable (num : Js.Numbers) (parse : String → Option Json)

/-- A Buffer, where the process still runs. -/
def CodexSession.feed (s : CodexSession) (chunk : List UInt8) : CodexSession :=
  if s.crashed then s else s.onStdout num parse chunk

/-- A child whose output arrives as the given Buffers, and that exits. -/
def CodexSession.fed (s : CodexSession) (chunks : List (List UInt8)) (r : ExitInfo) : CodexSession :=
  let sent := chunks.foldl (CodexSession.feed num parse) s
  if sent.crashed then sent else sent.onWaited num parse r

/-- The hooks and the usage are those of the stream as one Buffer. -/
def SameStream (s : CodexSession) (chunks : List (List UInt8)) (r : ExitInfo) : Prop :=
  (s.fed num parse chunks r).emitted = (s.fed num parse [chunks.flatten] r).emitted ∧
    (s.fed num parse chunks r).result = (s.fed num parse [chunks.flatten] r).result

/-- The complete lines of a stream, its Buffers decoded one by one. -/
def linesOf (chunks : List (List UInt8)) : List (List Char) :=
  Lines.complete '\n' (chunks.flatMap Utf8.decode)

/-- The lines from which a hook is read: the start or the end of a command or of a tool call. -/
def readsHook (line : List Char) : Bool :=
  !line.all Js.isWhitespace && (parse (String.ofList line)).any fun evt =>
    (evt.getStr "type" = some "item.started" || evt.getStr "type" = some "item.completed") &&
      (evt.get "item").any fun item => Js.truthy item &&
        (item.getStr "type" = some "command_execution" || item.getStr "type" = some "mcp_tool_call")

/-- The first Buffer that completes a line on which the parser throws comes after one that completes a
line from which a hook is read. -/
def CrashesApart (chunks : List (List UInt8)) : Prop :=
  ∃ earlier chunk later, chunks = earlier ++ chunk :: later ∧
    (∀ line ∈ linesOf earlier, throws parse line = false) ∧
    (∃ line ∈ linesOf (earlier ++ [chunk]), throws parse line = true) ∧
    ∃ line ∈ linesOf earlier, readsHook parse line = true

/-- The request gets what it gets with its body as one Buffer. -/
def SameRequest (method url : String) (chunks : List (List UInt8)) (seq : ℕ) : Prop :=
  handleRequest parse method url chunks seq = handleRequest parse method url [chunks.flatten] seq

end

section

variable {num : Js.Numbers} {parse : String → Option Json}

/-- Two sessions that differ in nothing that `wait()` reads. -/
structure CodexSession.Holds (s t : CodexSession) (parser : CodexParserState) (hooks : List HookEvent) :
    Prop where
  crashed : t.crashed = false
  parser : t.parser = parser
  emitted : t.emitted = s.emitted ++ hooks
  result : t.result = s.result
  stderrTail : t.stderrTail = s.stderrTail
  modelId : t.modelId = s.modelId

theorem holds_foldl_feed {chunks : List (List UInt8)} {s : CodexSession} (hs : s.crashed = false)
    {r : CodexParserState × List HookEvent}
    (h : parseChunks num parse (chunks.map Utf8.decode) s.parser = some r) :
    s.Holds (chunks.foldl (CodexSession.feed num parse) s) r.1 r.2 := by
  induction chunks generalizing s r with
  | nil =>
    rw [← Option.some.inj h]
    exact ⟨hs, rfl, (List.append_nil _).symm, rfl, rfl, rfl⟩
  | cons chunk chunks ih =>
    simp only [List.map_cons, parseChunks, Option.bind_eq_bind, Option.bind_eq_some_iff] at h
    obtain ⟨first, hchunk, rest, hchunks, heq⟩ := h
    have hfeed : s.feed num parse chunk = { s with
        parser := first.1, emitted := s.emitted ++ first.2, delivered := s.delivered ++ [chunk] } := by
      simp [CodexSession.feed, hs, CodexSession.onStdout, hchunk]
    have hrest := ih (s := s.feed num parse chunk) (by rw [hfeed]; exact hs)
      (by rw [hfeed]; exact hchunks)
    rw [← Option.some.inj heq, List.foldl_cons]
    rw [hfeed] at hrest ⊢
    exact ⟨hrest.crashed, hrest.parser, by rw [hrest.emitted, List.append_assoc], hrest.result,
      hrest.stderrTail, hrest.modelId⟩

/-- A parser with a line still open, and what it has read. -/
theorem parseChunks_emptyState (chunks : List (List UInt8)) :
    parseChunks num parse (chunks.map Utf8.decode) emptyState =
      (parseLines num parse (linesOf chunks) emptyState).map
        (withCarry (Lines.rest '\n' (chunks.flatMap Utf8.decode))) := by
  have hempty : emptyState.carry = [] := rfl
  rw [parseChunks_eq num parse _ emptyState List.not_mem_nil, hempty, List.nil_append,
    ← List.flatMap_def, parseLines_carry, linesOf]

variable (num) in
theorem isSome_parseChunks (chunks : List (List UInt8)) :
    (parseChunks num parse (chunks.map Utf8.decode) emptyState).isSome ↔
      ∀ line ∈ linesOf chunks, throws parse line = false := by
  rw [parseChunks_emptyState, Option.isSome_map, isSome_parseLines]

/-! ### Lines without an exception -/

/-- Where no complete line throws, what a child emits and returns is a matter of its text. -/
theorem fed_congr {s : CodexSession} (hs : s.crashed = false) (hparser : s.parser = emptyState)
    {chunks chunks' : List (List UInt8)} (htext : chunks.flatMap Utf8.decode = chunks'.flatMap Utf8.decode)
    (hthrows : ∀ line ∈ linesOf chunks, throws parse line = false) (r : ExitInfo) :
    (s.fed num parse chunks r).emitted = (s.fed num parse chunks' r).emitted ∧
      (s.fed num parse chunks r).result = (s.fed num parse chunks' r).result := by
  obtain ⟨sent, hsent⟩ := Option.isSome_iff_exists.mp ((isSome_parseChunks num chunks).mpr hthrows)
  have hsent' : parseChunks num parse (chunks'.map Utf8.decode) emptyState = some sent := by
    rw [← hsent, parseChunks_emptyState, parseChunks_emptyState, linesOf, linesOf, htext]
  rw [← hparser] at hsent hsent'
  have hleft := holds_foldl_feed hs hsent
  have hright := holds_foldl_feed hs hsent'
  simp only [CodexSession.fed, hleft.crashed, hright.crashed, Bool.false_eq_true, if_false,
    CodexSession.onWaited, hleft.parser, hright.parser, hleft.stderrTail, hright.stderrTail]
  rcases finalize num parse ⟨r.exitCode, r.signal, s.stderrTail⟩ sent.1 with _ | last
  · exact ⟨hleft.emitted.trans hright.emitted.symm, hleft.result.trans hright.result.symm⟩
  · simp [hleft.emitted, hright.emitted, hleft.modelId, hright.modelId]

/-! ### Lines with an exception -/

theorem foldl_feed_crashed {chunks : List (List UInt8)} {s : CodexSession} (hs : s.crashed = true) :
    chunks.foldl (CodexSession.feed num parse) s = s := by
  induction chunks with
  | nil => rfl
  | cons chunk chunks ih => rw [List.foldl_cons, CodexSession.feed, if_pos hs, ih]

theorem parseItemEvent_hooks (kind : HookKind) (evt : Json) (state : CodexParserState) :
    (parseItemEvent kind evt state).2 = [] ↔
      ¬ (evt.get "item").any (fun item => Js.truthy item &&
        (item.getStr "type" = some "command_execution" || item.getStr "type" = some "mcp_tool_call")) := by
  rcases hitem : evt.get "item" with _ | item
  · simp [parseItemEvent, hitem]
  · simp only [parseItemEvent, hitem, parseItem, Option.any_some]
    split_ifs <;> simp_all

theorem parseEvent_hooks {evt : Json} {state : CodexParserState} {r : CodexParserState × List HookEvent}
    (h : parseEvent num evt state = some r) :
    r.2 = [] ↔ ¬ ((evt.getStr "type" = some "item.started" ∨ evt.getStr "type" = some "item.completed") ∧
      (evt.get "item").any fun item => Js.truthy item &&
        (item.getStr "type" = some "command_execution" || item.getStr "type" = some "mcp_tool_call")) := by
  rw [parseEvent] at h
  split_ifs at h with hnull hstarted hcompleted hturn
  · rw [← Option.some.inj h, parseItemEvent_hooks]
    simp [hstarted]
  · rw [← Option.some.inj h, parseItemEvent_hooks]
    simp [hcompleted]
  · have hempty : r.2 = [] := by
      rcases husage : evt.get "usage" with _ | usage
      · rw [husage] at h
        rw [← Option.some.inj h]
      · rw [husage] at h
        dsimp only at h
        split_ifs at h
        · obtain ⟨state', -, rfl⟩ := Option.map_eq_some_iff.mp h
          rfl
        · rw [← Option.some.inj h]
    simp [hempty, hstarted, hcompleted]
  · rw [← Option.some.inj h]
    simp [hstarted, hcompleted]

/-- What is read from a line is a hook, or not, whatever has been read before. -/
theorem parseLine_hooks {line : List Char} {state : CodexParserState}
    {r : CodexParserState × List HookEvent} (h : parseLine num parse line state = some r) :
    r.2 = [] ↔ readsHook parse line = false := by
  by_cases hblank : line.all Js.isWhitespace
  · rw [parseLine, if_pos hblank] at h
    rw [← Option.some.inj h, readsHook, hblank]
    simp
  rcases hparse : parse (String.ofList line) with _ | evt
  · simp only [parseLine, hblank, hparse, if_false, Option.some.injEq, Bool.false_eq_true] at h
    rw [← h, readsHook, hparse]
    simp
  have hline : readsHook parse line = ((evt.getStr "type" = some "item.started" ||
      evt.getStr "type" = some "item.completed") && (evt.get "item").any fun item => Js.truthy item &&
        (item.getStr "type" = some "command_execution" || item.getStr "type" = some "mcp_tool_call")) := by
    simp [readsHook, hblank, hparse]
  simp only [parseLine, hblank, hparse, Bool.false_eq_true, if_false] at h
  rw [parseEvent_hooks h, hline]
  simp

theorem parseLines_hooks {lines : List (List Char)} {state : CodexParserState}
    {r : CodexParserState × List HookEvent} (h : parseLines num parse lines state = some r) :
    r.2 = [] ↔ ∀ line ∈ lines, readsHook parse line = false := by
  induction lines generalizing state r with
  | nil =>
    rw [← Option.some.inj h]
    simp
  | cons line lines ih =>
    simp only [parseLines, Option.bind_eq_bind, Option.bind_eq_some_iff] at h
    obtain ⟨first, hline, rest, hlines, heq⟩ := h
    rw [← Option.some.inj heq, List.append_eq_nil_iff, parseLine_hooks hline, ih hlines, List.forall_mem_cons]

theorem mem_linesOf_append {earlier : List (List UInt8)} {line : List Char} (h : line ∈ linesOf earlier)
    (later : List (List UInt8)) : line ∈ linesOf (earlier ++ later) := by
  rw [linesOf, List.flatMap_append, Lines.complete_append]
  exact List.mem_append_left _ h

/-- The first Buffer that completes a line on which the parser throws. -/
theorem exists_crash {chunks : List (List UInt8)} (h : ∃ line ∈ linesOf chunks, throws parse line = true) :
    ∃ earlier chunk later, chunks = earlier ++ chunk :: later ∧
      (∀ line ∈ linesOf earlier, throws parse line = false) ∧
      ∃ line ∈ linesOf (earlier ++ [chunk]), throws parse line = true := by
  induction chunks using List.reverseRecOn with
  | nil =>
    obtain ⟨line, hline, -⟩ := h
    cases hline
  | append_singleton chunks chunk ih =>
    by_cases hearlier : ∃ line ∈ linesOf chunks, throws parse line = true
    · obtain ⟨earlier, first, later, rfl, hsafe, hthrows⟩ := ih hearlier
      exact ⟨earlier, first, later ++ [chunk], by simp, hsafe, hthrows⟩
    · exact ⟨chunks, chunk, [], rfl, by simpa using hearlier, h⟩

/-- Buffers on which the parser does not throw come before the one on which it does. -/
theorem exists_append_of_crash {earlier earlier' later later' : List (List UInt8)} {chunk chunk' : List UInt8}
    (heq : earlier ++ chunk :: later = earlier' ++ chunk' :: later')
    (hthrows : ∃ line ∈ linesOf (earlier ++ [chunk]), throws parse line = true)
    (hsafe' : ∀ line ∈ linesOf earlier', throws parse line = false) : ∃ rest, earlier = earlier' ++ rest := by
  have hfirst : earlier ++ [chunk] <+: earlier' ++ chunk' :: later' := ⟨later, by rw [← heq]; simp⟩
  have hsecond : earlier' <+: earlier' ++ chunk' :: later' := List.prefix_append _ _
  have hlength : earlier'.length ≤ earlier.length := by
    by_contra hlonger
    obtain ⟨rest, rfl⟩ := List.prefix_of_prefix_length_le hfirst hsecond (by simp; omega)
    obtain ⟨line, hline, htrue⟩ := hthrows
    have hfalse := hsafe' line (mem_linesOf_append hline _)
    rw [htrue] at hfalse
    cases hfalse
  obtain ⟨rest, hrest⟩ :=
    List.prefix_of_prefix_length_le hsecond ((List.prefix_append _ _).trans hfirst) hlength
  exact ⟨rest, hrest.symm⟩

variable (num) in
/-- Where a line throws, the child has emitted the hooks of the Buffers before, and returns nothing. -/
theorem fed_crash {s : CodexSession} (hs : s.crashed = false) (hparser : s.parser = emptyState)
    {earlier : List (List UInt8)} {chunk : List UInt8}
    (hsafe : ∀ line ∈ linesOf earlier, throws parse line = false)
    (hthrows : ∃ line ∈ linesOf (earlier ++ [chunk]), throws parse line = true)
    (later : List (List UInt8)) (r : ExitInfo) :
    ∃ hooks, (s.fed num parse (earlier ++ chunk :: later) r).emitted = s.emitted ++ hooks ∧
      (s.fed num parse (earlier ++ chunk :: later) r).result = s.result ∧
      (hooks = [] ↔ ∀ line ∈ linesOf earlier, readsHook parse line = false) := by
  obtain ⟨sent, hsent⟩ := Option.isSome_iff_exists.mp ((isSome_parseChunks num earlier).mpr hsafe)
  have hnone : parseChunks num parse ((earlier ++ [chunk]).map Utf8.decode) emptyState = none := by
    rw [← Option.not_isSome_iff_eq_none, isSome_parseChunks num]
    simpa using hthrows
  have hchunk : parseChunk num parse (Utf8.decode chunk) sent.1 = none := by
    rw [List.map_append, List.map_singleton, parseChunks_concat, hsent] at hnone
    cases hchunk : parseChunk num parse (Utf8.decode chunk) sent.1 with
    | none => rfl
    | some result => simp [hchunk] at hnone
  have hhooks : sent.2 = [] ↔ ∀ line ∈ linesOf earlier, readsHook parse line = false := by
    rw [parseChunks_emptyState, Option.map_eq_some_iff] at hsent
    obtain ⟨lines, hlines, hcarry⟩ := hsent
    rw [← parseLines_hooks hlines, ← hcarry, withCarry]
  rw [← hparser] at hsent
  have hearlier := holds_foldl_feed hs hsent
  generalize hmid : earlier.foldl (CodexSession.feed num parse) s = mid at hearlier
  have hfeed : mid.feed num parse chunk =
      { mid with delivered := mid.delivered ++ [chunk], crashed := true } := by
    simp [CodexSession.feed, hearlier.crashed, CodexSession.onStdout, hearlier.parser, hchunk]
  have hfed : s.fed num parse (earlier ++ chunk :: later) r = mid.feed num parse chunk := by
    rw [CodexSession.fed, List.foldl_append, hmid, List.foldl_cons, foldl_feed_crashed (by rw [hfeed]), hfeed]
    simp
  refine ⟨sent.2, ?_, ?_, hhooks⟩
  · rw [hfed, hfeed]
    exact hearlier.emitted
  · rw [hfed, hfeed]
    exact hearlier.result

/-- **A stream whose Buffers decode to the text of the whole** gives what it gives as one Buffer exactly
if it does not crash apart. -/
theorem sameStream_iff {s : CodexSession} (hs : s.crashed = false) (hparser : s.parser = emptyState)
    {chunks : List (List UInt8)} {text : List Char} (hvalid : chunks.flatten = Utf8.encode text)
    (hdecode : chunks.flatMap Utf8.decode = text) (r : ExitInfo) :
    SameStream num parse s chunks r ↔ ¬ CrashesApart parse chunks := by
  have hwhole : [chunks.flatten].flatMap Utf8.decode = text := by
    simp [hvalid]
  have htext : chunks.flatMap Utf8.decode = [chunks.flatten].flatMap Utf8.decode := hdecode.trans hwhole.symm
  by_cases hsafe : ∀ line ∈ linesOf chunks, throws parse line = false
  · refine iff_of_true (fed_congr hs hparser htext hsafe r) ?_
    rintro ⟨earlier, chunk, later, rfl, -, ⟨line, hline, htrue⟩, -⟩
    have hmem := mem_linesOf_append hline later
    rw [List.append_assoc, List.singleton_append] at hmem
    rw [hsafe line hmem] at htrue
    cases htrue
  · have hthrows : ∃ line ∈ linesOf chunks, throws parse line = true := by simpa using hsafe
    have hone : ∃ line ∈ linesOf ([] ++ [chunks.flatten]), throws parse line = true := by
      rw [List.nil_append, linesOf, ← htext]
      exact hthrows
    obtain ⟨nothing, hwholeEmitted, hwholeResult, hnothing⟩ :=
      fed_crash num hs hparser (by intro line hline; cases hline) hone [] r
    obtain ⟨earlier, chunk, later, rfl, hbefore, hcrash⟩ := exists_crash hthrows
    obtain ⟨hooks, hemitted, hresult, hhooks⟩ := fed_crash num hs hparser hbefore hcrash later r
    have hsame : SameStream num parse s (earlier ++ chunk :: later) r ↔ hooks = [] := by
      have hnone : nothing = [] := hnothing.mpr (by intro line hline; cases hline)
      rw [List.nil_append] at hwholeEmitted hwholeResult
      rw [SameStream, hemitted, hresult, hwholeEmitted, hwholeResult, hnone]
      simp
    rw [hsame, hhooks]
    constructor
    · rintro hquiet ⟨earlier', chunk', later', heq, hsafe', -, line, hline, hhook⟩
      obtain ⟨rest, rfl⟩ := exists_append_of_crash heq hcrash hsafe'
      rw [hquiet line (mem_linesOf_append hline _)] at hhook
      cases hhook
    · intro hnot line hline
      by_contra hhook
      exact hnot ⟨earlier, chunk, later, rfl, hbefore, hcrash, line, hline, by simpa using hhook⟩

/-- A request whose Buffers decode to the text of the whole. -/
theorem sameRequest_of_decode {chunks : List (List UInt8)} {text : List Char}
    (hvalid : chunks.flatten = Utf8.encode text) (hdecode : chunks.flatMap Utf8.decode = text)
    (method url : String) (seq : ℕ) : SameRequest parse method url chunks seq := by
  have hwhole : [chunks.flatten].flatMap Utf8.decode = text := by
    simp [hvalid]
  rw [SameRequest, handleRequest, handleRequest, hdecode, hwhole]

end

/-- A request that gets the same whatever `JSON.parse` makes of its body has the same text. -/
theorem decode_of_sameRequest {chunks : List (List UInt8)} {text : List Char}
    (hvalid : chunks.flatten = Utf8.encode text)
    (h : ∀ parse, SameRequest parse "POST" "/hook/pre_tool" chunks 0) :
    chunks.flatMap Utf8.decode = text := by
  -- a parser that tells the text from every other one
  have hsame := h fun other => some (.bool (other = String.ofList text))
  have hwhole : [chunks.flatten].flatMap Utf8.decode = text := by
    simp [hvalid]
  have hkind : hookKind "/hook/pre_tool" = some .preTool := by decide
  simp only [SameRequest, handleRequest, hwhole, hkind, bodyPayload] at hsame
  generalize chunks.flatMap Utf8.decode = body at hsame
  by_cases htext : text = [] <;> by_cases hbody : body = [] <;> simp_all [String.ofList_inj]

/-- **A stream gives what it gives as one Buffer**, whatever `JSON.parse` makes of its text, exactly if
it does not crash apart, and a body always, if and only if no Buffer starts inside a character. -/
theorem chunkIndependent_iff (num : Js.Numbers) (modelId stderrTail : String) (r : ExitInfo)
    (chunks : List (List UInt8)) (text : List Char) (hvalid : chunks.flatten = Utf8.encode text) :
    (∀ parse, (SameStream num parse { CodexSession.spawned modelId with stderrTail := stderrTail } chunks r ↔
        ¬ CrashesApart parse chunks) ∧
      ∀ method url seq, SameRequest parse method url chunks seq) ↔
      ∀ chunk ∈ chunks, ¬ Utf8.StartsInside chunk := by
  rw [← Utf8.decode_flatten_eq_iff hvalid]
  constructor
  · intro h
    exact decode_of_sameRequest hvalid fun parse => (h parse).2 _ _ _
  · intro hdecode parse
    exact ⟨sameStream_iff rfl rfl hvalid hdecode r,
      fun method url seq => sameRequest_of_decode hvalid hdecode method url seq⟩

/-- A line of codex with the given command. -/
def commandLine (command : String) : String :=
  "\x7b\"type\":\"item.started\",\"item\":\x7b\"type\":\"command_execution\",\"command\":\"" ++ command ++
    "\"\x7d\x7d"

/-- What `JSON.parse` makes of such a line with the command `é`, whole and cut. -/
def commandParse (text : String) : Option Json :=
  let event (command : String) := Json.obj [("type", .str "item.started"),
    ("item", .obj [("type", .str "command_execution"), ("command", .str command)])]
  if text = commandLine "é" then some (event "é")
  else if text = commandLine "\uFFFD\uFFFD" then some (event "\uFFFD\uFFFD")
  else none

/-- The line with the command `é` in two Buffers, the first of `n` bytes. -/
def cutLine (n : ℕ) : List (List UInt8) :=
  let bytes := Utf8.encode (commandLine "é").toList
  [bytes.take n, bytes.drop n]

theorem flatten_cutLine (n : ℕ) : (cutLine n).flatten = Utf8.encode (commandLine "é").toList := by
  simp [cutLine]

/-- Cut before the character, the line gives what it gives as one Buffer. -/
theorem chunkIndependent_before :
    SameStream sampleNumbers commandParse (CodexSession.spawned "gpt-5-chatgpt") (cutLine 69) ⟨0, none⟩ ∧
      SameRequest commandParse "POST" "/hook/pre_tool" (cutLine 69) 0 := by
  have hwhole : ∀ chunk ∈ cutLine 69, ¬ Utf8.StartsInside chunk := by decide +kernel
  have hquiet : ¬ CrashesApart commandParse (cutLine 69) := by
    rintro ⟨earlier, chunk, later, heq, -, -, line, hline, -⟩
    have hlines : linesOf (cutLine 69) = [] := by decide +kernel
    have hmem := mem_linesOf_append hline (chunk :: later)
    rw [← heq, hlines] at hmem
    cases hmem
  have hsame := (chunkIndependent_iff sampleNumbers "gpt-5-chatgpt" "" ⟨0, none⟩ (cutLine 69)
    (commandLine "é").toList (flatten_cutLine 69)).mpr hwhole commandParse
  exact ⟨hsame.1.mpr hquiet, hsame.2 _ _ _⟩

/-- Cut inside the character, it gives another payload, on both ways. -/
theorem not_chunkIndependent_inside :
    ¬ SameStream sampleNumbers commandParse (CodexSession.spawned "gpt-5-chatgpt") (cutLine 70) ⟨0, none⟩ ∧
      ¬ SameRequest commandParse "POST" "/hook/pre_tool" (cutLine 70) 0 := by
  constructor
  · rintro ⟨hemitted, -⟩
    have hcommands := congrArg (fun hooks => hooks.map fun h => h.payload.getStr "command") hemitted
    revert hcommands
    decide +kernel
  · intro hsame
    have hcommand := congrArg (fun reply => reply.event.map fun h => h.payload.get "item" |>.bind (·.getStr "command"))
      hsame
    revert hcommand
    decide +kernel

end Cliptown.Adapter
