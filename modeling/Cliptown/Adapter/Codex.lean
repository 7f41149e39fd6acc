import Cliptown.Lib.Js
import Cliptown.Lib.Lines

/-!
# The event parser of the codex adapter

* `HookEvent`, `UsageReport` — what an adapter tells the worker.
* `parseLine`, `parseChunk`, `finalize`, `toUsageReport` — the parser, with `none` for an exception.
* `stream` — a child's whole output: its chunks in order, then the end.
* `stream_eq` — the chunks do not matter, only the lines of the output.
* `throws` — the lines on which the parser throws.
* `stream_eq_kept_iff` — the stream without its foreign lines gives the same hooks and usage if and
  only if no line is one of these.
-/

namespace Cliptown.Adapter

open Cliptown.Lib

/-! ### What an adapter tells the worker -/

/-- Source: `adapters/core/src/index.ts` `HookKind` -/
inductive HookKind where
  | preTool
  | postTool
  | sessionStop
  | sessionError
  deriving DecidableEq

/-- The two hooks around a tool call. -/
def HookKind.isTool : HookKind → Bool
  | .preTool => true
  | .postTool => true
  | _ => false

/-- Source: `adapters/core/src/index.ts` `HookEvent`, without its clock -/
structure HookEvent where
  kind : HookKind
  tool : String
  payload : Json
  seq : Nat

/-- Source: `adapters/core/src/index.ts` `UsageReport` -/
structure UsageReport where
  inTokens : Json
  outTokens : Json
  costUsd : Option ℚ
  modelId : String

/-! ### The parser -/

/-- Source: `event_parser.ts` `CodexUsageAccum` -/
structure CodexUsageAccum where
  inTokens : Js.Prim
  outTokens : Js.Prim
  saw : Bool

/-- Source: `event_parser.ts` `CodexParserState` -/
structure CodexParserState where
  seq : Nat
  usage : CodexUsageAccum
  carry : List Char

/-- Source: `event_parser.ts` `emptyState` -/
def emptyState : CodexParserState := ⟨0, ⟨.num 0, .num 0, false⟩, []⟩

/-- Source: `event_parser.ts` `FinalizeInfo` -/
structure FinalizeInfo where
  exitCode : ℤ
  signal : Option String
  stderrTail : String

/-- The hook of a tool call. Source: `event_parser.ts` `parseLine`, the two `out.push` -/
def parseItem (kind : HookKind) (item : Json) (state : CodexParserState) :
    CodexParserState × List HookEvent :=
  if item.getStr "type" = some "command_execution" then
    ({ state with seq := state.seq + 1 }, [⟨kind, "shell", item, state.seq + 1⟩])
  else if item.getStr "type" = some "mcp_tool_call" then
    let tool := match item.getStr "tool" with
      | some tool => if tool ≠ "" then tool else "mcp"
      | none => "mcp"
    ({ state with seq := state.seq + 1 }, [⟨kind, tool, item, state.seq + 1⟩])
  else (state, [])

/-- Source: `event_parser.ts` `parseLine`, `const item = evt.item; if (!item) return;` -/
def parseItemEvent (kind : HookKind) (evt : Json) (state : CodexParserState) :
    CodexParserState × List HookEvent :=
  match evt.get "item" with
  | some item => if Js.truthy item then parseItem kind item state else (state, [])
  | none => (state, [])

section

variable (num : Js.Numbers) (parse : String → Option Json)

/-- Source: `event_parser.ts` `parseLine`, the additions of `turn.completed` -/
def addUsage (usage : Json) (state : CodexParserState) : Option CodexParserState := do
  let input ← Js.orZero num (usage.get "input_tokens")
  let cached ← Js.orZero num (usage.get "cached_input_tokens")
  let output ← Js.orZero num (usage.get "output_tokens")
  some { state with
    usage := {
      inTokens := Js.plus num state.usage.inTokens (Js.plus num input cached)
      outTokens := Js.plus num state.usage.outTokens output
      saw := true } }

/-- One event; reading a field of `null` throws. Source: `event_parser.ts` `parseLine`, after
`JSON.parse` -/
def parseEvent (evt : Json) (state : CodexParserState) :
    Option (CodexParserState × List HookEvent) :=
  if evt.isNull then none
  else if evt.getStr "type" = some "item.started" then some (parseItemEvent .preTool evt state)
  else if evt.getStr "type" = some "item.completed" then some (parseItemEvent .postTool evt state)
  else if evt.getStr "type" = some "turn.completed" then
    match evt.get "usage" with
    | some usage =>
      if Js.truthy usage then (addUsage num usage state).map fun state => (state, [])
      else some (state, [])
    | none => some (state, [])
  else some (state, [])

/-- One line, with `JSON.parse` as `parse`. Source: `event_parser.ts` `parseLine` -/
def parseLine (line : List Char) (state : CodexParserState) :
    Option (CodexParserState × List HookEvent) :=
  if line.all Js.isWhitespace then some (state, [])
  else
    match parse (String.ofList line) with
    | none => some (state, [])
    | some evt => parseEvent num evt state

/-- The lines in order. Source: `event_parser.ts` `parseChunk`, the loop -/
def parseLines : List (List Char) → CodexParserState → Option (CodexParserState × List HookEvent)
  | [], state => some (state, [])
  | line :: lines, state => do
    let (state, hooks) ← parseLine num parse line state
    let (state, hooks') ← parseLines lines state
    some (state, hooks ++ hooks')

/-- Source: `event_parser.ts` `parseChunk` -/
def parseChunk (chunk : List Char) (state : CodexParserState) :
    Option (CodexParserState × List HookEvent) :=
  let combined := state.carry ++ chunk
  parseLines num parse (Lines.complete '\n' combined)
    { state with carry := Lines.rest '\n' combined }

/-- The hook that ends a session. Source: `event_parser.ts` `finalize`, the last `hooks.push` -/
def terminalHook (info : FinalizeInfo) (seq : Nat) : HookEvent where
  kind := if info.exitCode = 0 then .sessionStop else .sessionError
  tool := ""
  payload := .obj <|
    [("exit_code", .int info.exitCode)] ++
    (match info.signal with
      | some signal => if signal ≠ "" then [("signal", .str signal)] else []
      | none => []) ++
    (if info.exitCode = 0 then [] else [("stderr_tail", .str info.stderrTail)])
  seq := seq

/-- Source: `event_parser.ts` `finalize` -/
def finalize (info : FinalizeInfo) (state : CodexParserState) :
    Option (CodexParserState × List HookEvent) := do
  let (state, hooks) ←
    if state.carry ≠ [] then
      (parseLine num parse state.carry state).map fun r => ({ r.1 with carry := [] }, r.2)
    else some (state, [])
  some ({ state with seq := state.seq + 1 }, hooks ++ [terminalHook info (state.seq + 1)])

/-- Source: `event_parser.ts` `toUsageReport` -/
def toUsageReport (state : CodexParserState) (modelId : String) : Option UsageReport :=
  if state.usage.saw then
    some ⟨state.usage.inTokens.json, state.usage.outTokens.json, none, modelId⟩
  else none

/-- The chunks of a stream, one after another. -/
def parseChunks : List (List Char) → CodexParserState → Option (CodexParserState × List HookEvent)
  | [], state => some (state, [])
  | chunk :: chunks, state => do
    let (state, hooks) ← parseChunk num parse chunk state
    let (state, hooks') ← parseChunks chunks state
    some (state, hooks ++ hooks')

/-- A whole output: its chunks in order, then the end. -/
def stream (chunks : List (List Char)) (info : FinalizeInfo) :
    Option (CodexParserState × List HookEvent) := do
  let (state, hooks) ← parseChunks num parse chunks emptyState
  let (state, hooks') ← finalize num parse info state
  some (state, hooks ++ hooks')

/-! ### The lines are all that matters -/

/-- Set the partial line of a result. -/
def withCarry (carry : List Char) (r : CodexParserState × List HookEvent) :
    CodexParserState × List HookEvent :=
  ({ r.1 with carry := carry }, r.2)

theorem parseItemEvent_carry (kind : HookKind) (evt : Json) (state : CodexParserState)
    (carry : List Char) :
    parseItemEvent kind evt { state with carry := carry } =
      withCarry carry (parseItemEvent kind evt state) := by
  rcases hitem : evt.get "item" with _ | item
  · simp only [parseItemEvent, hitem]
    rfl
  · simp only [parseItemEvent, hitem, parseItem]
    split_ifs <;> rfl

theorem addUsage_carry (usage : Json) (state : CodexParserState) (carry : List Char) :
    addUsage num usage { state with carry := carry } =
      (addUsage num usage state).map fun state => { state with carry := carry } := by
  unfold addUsage
  cases Js.orZero num (usage.get "input_tokens") <;>
    cases Js.orZero num (usage.get "cached_input_tokens") <;>
      cases Js.orZero num (usage.get "output_tokens") <;> rfl

theorem parseEvent_carry (evt : Json) (state : CodexParserState) (carry : List Char) :
    parseEvent num evt { state with carry := carry } =
      (parseEvent num evt state).map (withCarry carry) := by
  rcases husage : evt.get "usage" with _ | usage
  · simp only [parseEvent, husage, parseItemEvent_carry]
    split_ifs <;> rfl
  · simp only [parseEvent, husage, parseItemEvent_carry, addUsage_carry, Option.map_map]
    split_ifs <;> simp [Option.map_map, Function.comp_def, withCarry]

/-- A line neither reads nor writes the partial line. -/
theorem parseLine_carry (line : List Char) (state : CodexParserState) (carry : List Char) :
    parseLine num parse line { state with carry := carry } =
      (parseLine num parse line state).map (withCarry carry) := by
  rcases hparse : parse (String.ofList line) with _ | evt
  · simp only [parseLine, hparse]
    split_ifs <;> rfl
  · simp only [parseLine, hparse, parseEvent_carry]
    split_ifs <;> rfl

theorem parseLines_carry (lines : List (List Char)) (state : CodexParserState)
    (carry : List Char) :
    parseLines num parse lines { state with carry := carry } =
      (parseLines num parse lines state).map (withCarry carry) := by
  induction lines generalizing state with
  | nil => rfl
  | cons line lines ih =>
    simp only [parseLines, parseLine_carry]
    rcases hline : parseLine num parse line state with _ | ⟨state', hooks⟩
    · rfl
    · simp only [Option.map_some, withCarry, Option.bind_eq_bind, Option.bind_some, ih]
      cases parseLines num parse lines state' <;> rfl

theorem parseLines_append (lines lines' : List (List Char)) (state : CodexParserState) :
    parseLines num parse (lines ++ lines') state = (do
      let (state, hooks) ← parseLines num parse lines state
      let (state, hooks') ← parseLines num parse lines' state
      some (state, hooks ++ hooks')) := by
  induction lines generalizing state with
  | nil => rcases hlines : parseLines num parse lines' state with _ | r <;> simp [parseLines, hlines]
  | cons line lines ih =>
    simp only [List.cons_append, parseLines]
    rcases hline : parseLine num parse line state with _ | ⟨state', hooks⟩
    · rfl
    · simp only [Option.bind_eq_bind, Option.bind_some, ih]
      rcases parseLines num parse lines state' with _ | ⟨state'', hooks'⟩
      · rfl
      · simp only [Option.bind_some]
        cases parseLines num parse lines' state'' <;> simp

/-- The chunks of a stream: its complete lines in order, and the open one kept. -/
theorem parseChunks_eq (chunks : List (List Char)) (state : CodexParserState)
    (hcarry : '\n' ∉ state.carry) :
    parseChunks num parse chunks state =
      parseLines num parse (Lines.complete '\n' (state.carry ++ chunks.flatten))
        { state with carry := Lines.rest '\n' (state.carry ++ chunks.flatten) } := by
  induction chunks generalizing state with
  | nil =>
    rw [List.flatten_nil, List.append_nil, Lines.complete_of_notMem _ hcarry,
      Lines.rest_of_notMem _ hcarry]
    rfl
  | cons chunk chunks ih =>
    have hopen := Lines.notMem_rest '\n' (state.carry ++ chunk)
    rw [List.flatten_cons, ← List.append_assoc, Lines.complete_append _ (state.carry ++ chunk),
      Lines.rest_append _ (state.carry ++ chunk), parseLines_carry, parseLines_append, parseChunks,
      parseChunk, parseLines_carry]
    generalize Lines.rest '\n' (state.carry ++ chunk) = carry at hopen
    rcases parseLines num parse (Lines.complete '\n' (state.carry ++ chunk)) state with _ | ⟨state', hooks⟩
    · rfl
    · have hrest := ih { state' with carry := carry } hopen
      simp only [parseLines_carry] at hrest
      simp only [Option.map_some, withCarry, Option.bind_eq_bind, Option.bind_some, hrest]
      cases parseLines num parse (Lines.complete '\n' (carry ++ chunks.flatten)) state' <;> rfl

/-- The end of the output, where the partial line is one more line. -/
theorem finalize_eq (info : FinalizeInfo) (state : CodexParserState) :
    finalize num parse info state = (parseLine num parse state.carry state).map fun r =>
      ({ r.1 with seq := r.1.seq + 1, carry := [] }, r.2 ++ [terminalHook info (r.1.seq + 1)]) := by
  by_cases hcarry : state.carry = []
  · have hline : parseLine num parse [] state = some (state, []) := rfl
    rw [finalize, if_neg (not_not.mpr hcarry), hcarry, hline, Option.map_some, ← hcarry]
    rfl
  · rw [finalize, if_pos hcarry]
    cases parseLine num parse state.carry state <;> rfl

/-- A whole output: its lines in order, the last one too, and the hook that ends the session. -/
theorem stream_eq (chunks : List (List Char)) (info : FinalizeInfo) :
    stream num parse chunks info =
      (parseLines num parse (chunks.flatten.splitOn '\n') emptyState).map fun r =>
        ({ r.1 with seq := r.1.seq + 1, carry := [] }, r.2 ++ [terminalHook info (r.1.seq + 1)]) := by
  have hempty : emptyState.carry = [] := rfl
  rw [stream, parseChunks_eq num parse chunks emptyState List.not_mem_nil, hempty, List.nil_append,
    Lines.splitOn_eq, parseLines_append, parseLines_carry]
  rcases parseLines num parse (Lines.complete '\n' chunks.flatten) emptyState with _ | ⟨state, hooks⟩
  · rfl
  simp only [Option.map_some, withCarry, Option.bind_eq_bind, Option.bind_some, finalize_eq,
    parseLines, parseLine_carry]
  rcases parseLine num parse (Lines.rest '\n' chunks.flatten) state with _ | ⟨state', hooks'⟩
  · rfl
  · simp [withCarry]

/-! ### Lines that throw -/

/-- A value of which the parser can read the token counts. -/
def tokensConvert (usage : Json) : Bool :=
  (usage.get "input_tokens").all Js.convertible &&
    (usage.get "cached_input_tokens").all Js.convertible &&
    (usage.get "output_tokens").all Js.convertible

/-- The JSON values on which the parser throws: `null`, and the end of a turn whose token counts
convert to nothing. -/
def eventThrows (evt : Json) : Bool :=
  evt.isNull || (evt.getStr "type" = some "turn.completed" &&
    (evt.get "usage").any fun usage => Js.truthy usage && !tokensConvert usage)

/-- The lines on which the parser throws. -/
def throws (line : List Char) : Bool :=
  !line.all Js.isWhitespace && (parse (String.ofList line)).any eventThrows

/-- The lines that are meant for the parser: a JSON object of one of three types. -/
def isOwn (line : List Char) : Bool :=
  (parse (String.ofList line)).any fun evt =>
    evt.getStr "type" = some "item.started" || evt.getStr "type" = some "item.completed" ||
      evt.getStr "type" = some "turn.completed"

theorem isSome_addUsage (usage : Json) (state : CodexParserState) :
    (addUsage num usage state).isSome = tokensConvert usage := by
  rw [tokensConvert, ← Js.isSome_orZero num, ← Js.isSome_orZero num, ← Js.isSome_orZero num, addUsage]
  cases Js.orZero num (usage.get "input_tokens") <;>
    cases Js.orZero num (usage.get "cached_input_tokens") <;>
      cases Js.orZero num (usage.get "output_tokens") <;> rfl

theorem isSome_parseEvent (evt : Json) (state : CodexParserState) :
    (parseEvent num evt state).isSome = !eventThrows evt := by
  rcases husage : evt.get "usage" with _ | usage
  · simp only [parseEvent, eventThrows, husage]
    split_ifs <;> simp_all
  · simp only [parseEvent, eventThrows, husage]
    split_ifs <;> simp_all [isSome_addUsage]

theorem isSome_parseLine (line : List Char) (state : CodexParserState) :
    (parseLine num parse line state).isSome = !throws parse line := by
  rcases hparse : parse (String.ofList line) with _ | evt
  · simp only [parseLine, throws, hparse]
    split_ifs <;> simp
  · simp only [parseLine, throws, hparse]
    split_ifs with hblank <;> simp [hblank, isSome_parseEvent]

/-- A line that is neither meant for the parser nor throws does nothing. -/
theorem parseLine_foreign {line : List Char} (hown : isOwn parse line = false)
    (hthrows : throws parse line = false) (state : CodexParserState) :
    parseLine num parse line state = some (state, []) := by
  by_cases hblank : line.all Js.isWhitespace
  · rw [parseLine, if_pos hblank]
  rcases hparse : parse (String.ofList line) with _ | evt
  · simp only [parseLine, hblank, hparse]
    rfl
  · simp only [throws, hblank, hparse, Option.any_some, eventThrows, Bool.not_false, Bool.true_and,
      Bool.or_eq_false_iff] at hthrows
    simp only [isOwn, hparse, Option.any_some, Bool.or_eq_false_iff, decide_eq_false_iff_not] at hown
    simp [parseLine, hblank, hparse, parseEvent, hthrows.1, hown.1.1, hown.1.2, hown.2]

theorem isSome_parseLines (lines : List (List Char)) (state : CodexParserState) :
    (parseLines num parse lines state).isSome ↔ ∀ line ∈ lines, throws parse line = false := by
  induction lines generalizing state with
  | nil => simp [parseLines]
  | cons line lines ih =>
    have hline := isSome_parseLine num parse line state
    rw [List.forall_mem_cons, parseLines]
    rcases hresult : parseLine num parse line state with _ | ⟨state', hooks⟩
    · rw [hresult] at hline
      simp_all
    · rw [hresult] at hline
      have hstep : throws parse line = false := by simpa using hline
      rw [← ih state']
      simp only [hstep, Option.bind_eq_bind, Option.bind_some, true_and]
      cases parseLines num parse lines state' <;> simp

theorem parseLines_filter {lines : List (List Char)}
    (h : ∀ line ∈ lines, throws parse line = false) (state : CodexParserState) :
    parseLines num parse (lines.filter (isOwn parse)) state = parseLines num parse lines state := by
  induction lines generalizing state with
  | nil => rfl
  | cons line lines ih =>
    obtain ⟨hline, hlines⟩ := List.forall_mem_cons.mp h
    by_cases hown : isOwn parse line
    · rw [List.filter_cons_of_pos hown]
      simp only [parseLines, ih hlines]
    · rw [List.filter_cons_of_neg hown, ih hlines, parseLines,
        parseLine_foreign num parse (by simpa using hown) hline]
      rcases hrest : parseLines num parse lines state with _ | r <;> simp [hrest]

/-! ### Foreign lines -/

/-- The hooks and the usage of a whole output. -/
def outcome (modelId : String) (chunks : List (List Char)) (info : FinalizeInfo) :
    Option (List HookEvent × Option UsageReport) :=
  (stream num parse chunks info).map fun r => (r.2, toUsageReport r.1 modelId)

/-- The output without its foreign lines. -/
def kept (chunks : List (List Char)) : List Char :=
  ((chunks.flatten.splitOn '\n').filter (isOwn parse)).flatMap fun line => line ++ ['\n']

/-- No exception, and the hooks and the usage of the output without its foreign lines. -/
def Tolerates (modelId : String) (chunks : List (List Char)) (info : FinalizeInfo) : Prop :=
  ∃ r, outcome num parse modelId chunks info = some r ∧
    outcome num parse modelId [kept parse chunks] info = some r

theorem parseLines_kept {chunks : List (List Char)}
    (h : ∀ line ∈ chunks.flatten.splitOn '\n', throws parse line = false) :
    parseLines num parse (([kept parse chunks].flatten).splitOn '\n') emptyState =
      parseLines num parse (chunks.flatten.splitOn '\n') emptyState := by
  have hlines : ([kept parse chunks].flatten).splitOn '\n' =
      (chunks.flatten.splitOn '\n').filter (isOwn parse) ++ [[]] := by
    rw [List.flatten_singleton]
    exact Lines.splitOn_flatMap '\n' fun line hline =>
      Lines.notMem_of_mem_splitOn '\n' (List.mem_filter.mp hline).1
  have hblank : ∀ state, parseLines num parse [[]] state = some (state, []) := fun _ => rfl
  rw [hlines, parseLines_append, parseLines_filter num parse h]
  rcases parseLines num parse (chunks.flatten.splitOn '\n') emptyState with _ | r <;> simp [hblank]

theorem isSome_outcome (modelId : String) (chunks : List (List Char)) (info : FinalizeInfo) :
    (outcome num parse modelId chunks info).isSome ↔
      ∀ line ∈ chunks.flatten.splitOn '\n', throws parse line = false := by
  rw [outcome, stream_eq, Option.isSome_map, Option.isSome_map, isSome_parseLines]

/-- The parser tolerates the foreign lines of an output if and only if it throws on no line. -/
theorem tolerates_iff (modelId : String) (chunks : List (List Char)) (info : FinalizeInfo) :
    Tolerates num parse modelId chunks info ↔
      ∀ line ∈ chunks.flatten.splitOn '\n', throws parse line = false := by
  rw [← isSome_outcome num parse modelId chunks info]
  constructor
  · rintro ⟨r, hr, -⟩
    rw [hr]
    rfl
  · intro hsome
    have hkept : outcome num parse modelId [kept parse chunks] info =
        outcome num parse modelId chunks info := by
      rw [outcome, outcome, stream_eq, stream_eq,
        parseLines_kept num parse ((isSome_outcome num parse modelId chunks info).mp hsome)]
    obtain ⟨r, hr⟩ := Option.isSome_iff_exists.mp hsome
    exact ⟨r, hr, hkept.trans hr⟩

end

/-- Numbers as they are added and written where they are small integers. -/
def sampleNumbers : Js.Numbers := ⟨(· + ·), fun q => toString q.num⟩

/-- One output of a single line `null`. -/
theorem not_tolerates_null :
    ¬ Tolerates sampleNumbers (fun text => if text = "null" then some .null else none)
      "gpt-5-chatgpt" ["null\n".toList] ⟨0, none, ""⟩ := by
  rintro ⟨r, hr, -⟩
  have hnone : (outcome sampleNumbers (fun text => if text = "null" then some .null else none)
      "gpt-5-chatgpt" ["null\n".toList] ⟨0, none, ""⟩).isNone := by decide +kernel
  rw [hr] at hnone
  cases hnone

end Cliptown.Adapter
