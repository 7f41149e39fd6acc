import Cliptown.Adapter.Codex
import Cliptown.Lib.Runs
import Cliptown.Lib.Utf8

/-!
# The child process of an adapter

* `ChildEvent` — what node delivers of a child, and the continuation of `wait()`.
* `CodexSession`, `codexStep` — `spawn` of the codex adapter: hooks go out as the output comes in, and
  `wait()` takes the usage and emits the last hook.
* `ClaudeSession`, `claudeStep` — `spawn` of the claude adapter: the output is collected, and `wait()`
  parses it.
* `CodexSession.Complete`, `ClaudeSession.Complete` — the result counts the whole output, and the
  last hook of codex is the last one.
* `complete_of_inTime` — so it is in every run in which `wait()` continues after the last output.
-/

namespace Cliptown.Adapter

open Cliptown.Lib

/-- What `'exit'` resolved to. Source: `index.ts` `resolve({ exit_code: code ?? -1, signal })` -/
structure ExitInfo where
  exitCode : ℤ
  signal : Option String

/-- What node delivers of a child, in any order, and the point where `wait()` goes on after `'exit'`
and the clean-up that it awaits. -/
inductive ChildEvent where
  | stdout (chunk : List UInt8)
  | stderr (chunk : List UInt8)
  | exit (code : Option ℤ) (signal : Option String)
  | waited

/-! ### codex -/

section

variable (num : Js.Numbers) (parse : String → Option Json) (lastUnits : String → String)

/-- The variables of `spawn`, what has been emitted, and what `wait()` returned. `rejected` says that
`wait()` threw, `crashed` that a listener did, which ends the process. Source:
`codex/src/index.ts` `spawn` -/
structure CodexSession where
  modelId : String
  parser : CodexParserState
  stderrTail : String
  emitted : List HookEvent
  delivered : List (List UInt8)
  exit : Option ExitInfo
  result : Option (ExitInfo × Option UsageReport)
  rejected : Bool
  crashed : Bool

/-- A child that has just been spawned. -/
def CodexSession.spawned (modelId : String) : CodexSession :=
  ⟨modelId, emptyState, "", [], [], none, none, false, false⟩

/-- Source: `codex/src/index.ts`, the handler of `stdout` -/
def CodexSession.onStdout (s : CodexSession) (chunk : List UInt8) : CodexSession :=
  match parseChunk num parse (Utf8.decode chunk) s.parser with
  | some (parser, hooks) =>
    { s with parser := parser, emitted := s.emitted ++ hooks, delivered := s.delivered ++ [chunk] }
  | none => { s with delivered := s.delivered ++ [chunk], crashed := true }

/-- Source: `codex/src/index.ts`, the handler of `stderr`, with `slice(-STDERR_TAIL_MAX)` as
`lastUnits` -/
def CodexSession.onStderr (s : CodexSession) (chunk : List UInt8) : CodexSession :=
  { s with stderrTail := lastUnits (s.stderrTail ++ String.ofList (Utf8.decode chunk)) }

/-- Source: `codex/src/index.ts` `wait`, after its two `await` -/
def CodexSession.onWaited (s : CodexSession) (r : ExitInfo) : CodexSession :=
  match finalize num parse ⟨r.exitCode, r.signal, s.stderrTail⟩ s.parser with
  | some (parser, hooks) =>
    { s with
      parser := parser
      emitted := s.emitted ++ hooks
      result := some (r, toUsageReport parser s.modelId) }
  | none => { s with rejected := true }

/-- One event, where it can happen. -/
def codexStep (s : CodexSession) : ChildEvent → Option CodexSession
  | .stdout chunk => if s.crashed then none else some (s.onStdout num parse chunk)
  | .stderr chunk => if s.crashed then none else some (s.onStderr lastUnits chunk)
  | .exit code signal =>
    if s.crashed ∨ s.exit.isSome then none
    else some { s with exit := some ⟨code.getD (-1), signal⟩ }
  | .waited =>
    match s.exit with
    | some r =>
      if s.crashed ∨ s.rejected ∨ s.result.isSome then none else some (s.onWaited num parse r)
    | none => none

/-- A codex child and its adapter. -/
def codexChild : System CodexSession ChildEvent where
  init s := ∃ modelId, s = CodexSession.spawned modelId
  step s e t := codexStep num parse lastUnits s e = some t

/-- No tool hook comes after a hook that ends the session. -/
def StopLast (hooks : List HookEvent) : Prop :=
  hooks.Pairwise fun earlier later => earlier.kind.isTool = false → later.kind.isTool = false

instance (hooks : List HookEvent) : Decidable (StopLast hooks) :=
  inferInstanceAs (Decidable (hooks.Pairwise _))

/-- The usage of an output, all of its lines counted. -/
def usageOf (modelId : String) (text : List Char) : Option (Option UsageReport) :=
  (parseLines num parse (text.splitOn '\n') emptyState).map fun r => toUsageReport r.1 modelId

/-- What `wait()` has returned counts the usage of all that has been delivered. -/
def CodexSession.CountsAll (s : CodexSession) : Prop :=
  ∀ r usage, s.result = some (r, usage) →
    usageOf num parse s.modelId (s.delivered.flatMap Utf8.decode) = some usage

/-- The usage counts everything, and no tool hook comes after the last hook. -/
def CodexSession.Complete (s : CodexSession) : Prop :=
  s.CountsAll num parse ∧ StopLast s.emitted

end

/-! ### claude -/

section

variable (num : Js.Numbers) (parse : String → Option Json)

/-- `Object.keys(value ?? {})[0]`, for an object in the order of its keys. -/
def firstKey : Option Json → Option String
  | some (.obj fields) => fields.head?.map Prod.fst
  | some (.arr items) => if items = [] then none else some "0"
  | some (.str s) => if s = "" then none else some "0"
  | _ => none

/-- Source: `claude-code/src/index.ts` `parseUsage`, where every exception is caught -/
def parseUsage (buf : List Char) : Option UsageReport := do
  let j ← parse (String.ofList buf)
  let u ← j.get "usage"
  let cost ← (j.get "total_cost_usd").bind Js.asNumber
  if Js.truthy u then
    let input ← Js.orZero num (u.get "input_tokens")
    let creation ← Js.orZero num (u.get "cache_creation_input_tokens")
    let read ← Js.orZero num (u.get "cache_read_input_tokens")
    some {
      inTokens := (Js.plus num (Js.plus num input creation) read).json
      outTokens := Js.valueOr (u.get "output_tokens") (.int 0)
      costUsd := some cost
      modelId := (firstKey (j.get "modelUsage")).getD "claude-unknown" }
  else none

/-- The variables of `spawn`, and what `wait()` returned. Source: `claude-code/src/index.ts`
`spawn` -/
structure ClaudeSession where
  stdoutBuf : List Char
  delivered : List (List UInt8)
  exit : Option ExitInfo
  result : Option (ExitInfo × Option UsageReport)

/-- A child that has just been spawned. -/
def ClaudeSession.spawned : ClaudeSession := ⟨[], [], none, none⟩

/-- One event, where it can happen. Source: `claude-code/src/index.ts` `spawn` and `wait` -/
def claudeStep (s : ClaudeSession) : ChildEvent → Option ClaudeSession
  | .stdout chunk =>
    some { s with stdoutBuf := s.stdoutBuf ++ Utf8.decode chunk, delivered := s.delivered ++ [chunk] }
  | .stderr _ => some s
  | .exit code signal =>
    if s.exit.isSome then none else some { s with exit := some ⟨code.getD (-1), signal⟩ }
  | .waited =>
    match s.exit with
    | some r =>
      if s.result.isSome then none
      else some { s with result := some (r, parseUsage num parse s.stdoutBuf) }
    | none => none

/-- A claude child and its adapter. -/
def claudeChild : System ClaudeSession ChildEvent where
  init s := s = ClaudeSession.spawned
  step s e t := claudeStep num parse s e = some t

/-- What `wait()` has returned counts the usage of all that has been delivered. -/
def ClaudeSession.Complete (s : ClaudeSession) : Prop :=
  ∀ r usage, s.result = some (r, usage) →
    usage = parseUsage num parse (s.delivered.flatMap Utf8.decode)

end

/-! ### Hooks before the end are tool hooks -/

section

variable {num : Js.Numbers} {parse : String → Option Json} {state : CodexParserState}
  {r : CodexParserState × List HookEvent}

theorem isTool_parseItemEvent {kind : HookKind} (hkind : kind.isTool = true) (evt : Json) :
    ∀ h ∈ (parseItemEvent kind evt state).2, h.kind.isTool = true := by
  rcases hitem : evt.get "item" with _ | item
  · simp [parseItemEvent, hitem]
  · simp only [parseItemEvent, hitem, parseItem]
    split_ifs <;> simp [hkind]

theorem isTool_parseEvent {evt : Json} (h : parseEvent num evt state = some r) :
    ∀ x ∈ r.2, x.kind.isTool = true := by
  unfold parseEvent at h
  split_ifs at h with hnull hstarted hcompleted hturn
  · rw [← Option.some.inj h]
    exact isTool_parseItemEvent rfl evt
  · rw [← Option.some.inj h]
    exact isTool_parseItemEvent rfl evt
  · have hnone : r.2 = [] := by
      rcases husage : evt.get "usage" with _ | usage <;> simp only [husage] at h
      · rw [← Option.some.inj h]
      · split_ifs at h
        · obtain ⟨_, -, rfl⟩ := Option.map_eq_some_iff.mp h
          rfl
        · rw [← Option.some.inj h]
    simp [hnone]
  · rw [← Option.some.inj h]
    simp

theorem isTool_parseLine {line : List Char} (h : parseLine num parse line state = some r) :
    ∀ x ∈ r.2, x.kind.isTool = true := by
  unfold parseLine at h
  split_ifs at h with hblank
  · rw [← Option.some.inj h]
    simp
  · rcases hparse : parse (String.ofList line) with _ | evt <;> simp only [hparse] at h
    · rw [← Option.some.inj h]
      simp
    · exact isTool_parseEvent h

theorem isTool_parseLines {lines : List (List Char)} (h : parseLines num parse lines state = some r) :
    ∀ x ∈ r.2, x.kind.isTool = true := by
  induction lines generalizing state r with
  | nil =>
    rw [← Option.some.inj h]
    simp
  | cons line lines ih =>
    simp only [parseLines, Option.bind_eq_bind, Option.bind_eq_some_iff] at h
    obtain ⟨first, hline, rest, hlines, heq⟩ := h
    rw [← Option.some.inj heq]
    intro x hx
    rcases List.mem_append.mp hx with hx | hx
    · exact isTool_parseLine hline x hx
    · exact ih hlines x hx

end

/-! ### Runs in which no output comes late -/

section

variable {num : Js.Numbers} {parse : String → Option Json} {lastUnits : String → String}

theorem parseChunks_concat (chunks : List (List Char)) (chunk : List Char) (state : CodexParserState) :
    parseChunks num parse (chunks ++ [chunk]) state = (do
      let (state, hooks) ← parseChunks num parse chunks state
      let (state, hooks') ← parseChunk num parse chunk state
      some (state, hooks ++ hooks')) := by
  induction chunks generalizing state with
  | nil =>
    rcases hchunk : parseChunk num parse chunk state with _ | r <;> simp [parseChunks, hchunk]
  | cons first chunks ih =>
    simp only [List.cons_append, parseChunks]
    rcases parseChunk num parse first state with _ | ⟨state', hooks⟩
    · rfl
    · simp only [Option.bind_eq_bind, Option.bind_some, ih]
      rcases parseChunks num parse chunks state' with _ | ⟨state'', hooks'⟩
      · rfl
      · simp only [Option.bind_some]
        cases parseChunk num parse chunk state'' <;> simp

/-- The output comes while `wait()` has not gone on yet. -/
def CodexSession.InTime (s : CodexSession) (e : ChildEvent) : Prop :=
  ∀ chunk, e = .stdout chunk → s.result = none

/-- The output comes while `wait()` has not gone on yet. -/
def ClaudeSession.InTime (s : ClaudeSession) (e : ChildEvent) : Prop :=
  ∀ chunk, e = .stdout chunk → s.result = none

/-- Until `wait()` goes on, the parser has been fed what was delivered, and only tool hooks went out;
afterwards the result is complete. -/
structure CodexSession.Inv (num : Js.Numbers) (parse : String → Option Json) (s : CodexSession) :
    Prop where
  fed : s.result = none → s.crashed = false →
    parseChunks num parse (s.delivered.map Utf8.decode) emptyState = some (s.parser, s.emitted)
  tools : s.result = none → ∀ h ∈ s.emitted, h.kind.isTool = true
  complete : s.Complete num parse

theorem stopLast_of_isTool {hooks : List HookEvent} (h : ∀ x ∈ hooks, x.kind.isTool = true) :
    StopLast hooks :=
  List.pairwise_of_forall_mem_list fun x hx y _ hfalse => by
    rw [h x hx] at hfalse
    cases hfalse

theorem stopLast_concat {hooks : List HookEvent} (h : ∀ x ∈ hooks, x.kind.isTool = true)
    (last : HookEvent) : StopLast (hooks ++ [last]) := by
  refine List.pairwise_append.mpr ⟨stopLast_of_isTool h, List.pairwise_singleton _ _, ?_⟩
  intro x hx y _ hfalse
  rw [h x hx] at hfalse
  cases hfalse

theorem CodexSession.inv_onStdout {s : CodexSession} (hs : s.Inv num parse) (hresult : s.result = none)
    (hcrashed : s.crashed = false) (chunk : List UInt8) : (s.onStdout num parse chunk).Inv num parse := by
  rcases hchunk : parseChunk num parse (Utf8.decode chunk) s.parser with _ | ⟨parser, hooks⟩
  · simp only [CodexSession.onStdout, hchunk]
    refine ⟨fun _ hfalse => Bool.noConfusion hfalse, hs.tools, ?_, hs.complete.2⟩
    intro r usage hsome
    rw [hresult] at hsome
    cases hsome
  · have htools : ∀ h ∈ s.emitted ++ hooks, h.kind.isTool = true := by
      intro h hh
      rcases List.mem_append.mp hh with hh | hh
      · exact hs.tools hresult h hh
      · exact isTool_parseLines hchunk h hh
    simp only [CodexSession.onStdout, hchunk]
    refine ⟨fun _ _ => ?_, fun _ => htools, ?_, stopLast_of_isTool htools⟩
    · rw [List.map_append, List.map_singleton, parseChunks_concat, hs.fed hresult hcrashed]
      simp [hchunk]
    · intro r usage hsome
      rw [hresult] at hsome
      cases hsome

theorem CodexSession.inv_onWaited {s : CodexSession} (hs : s.Inv num parse) (hresult : s.result = none)
    (hcrashed : s.crashed = false) (r : ExitInfo) : (s.onWaited num parse r).Inv num parse := by
  rcases hend : finalize num parse ⟨r.exitCode, r.signal, s.stderrTail⟩ s.parser with _ | ⟨parser, hooks⟩
  · simp only [CodexSession.onWaited, hend]
    exact ⟨hs.fed, hs.tools, hs.complete⟩
  · simp only [CodexSession.onWaited, hend]
    refine ⟨fun hnone => (nomatch hnone), fun hnone => (nomatch hnone), ?_, ?_⟩
    · intro r' usage hsome
      cases hsome
      have hstream : stream num parse (s.delivered.map Utf8.decode) ⟨r.exitCode, r.signal, s.stderrTail⟩ =
          some (parser, s.emitted ++ hooks) := by
        simp [stream, hs.fed hresult hcrashed, hend]
      rw [stream_eq, ← List.flatMap_def] at hstream
      obtain ⟨last, hlines, heq⟩ := Option.map_eq_some_iff.mp hstream
      simp only [usageOf, hlines, Option.map_some, ← (Prod.mk.inj heq).1]
      rfl
    · rw [finalize_eq] at hend
      obtain ⟨last, hline, heq⟩ := Option.map_eq_some_iff.mp hend
      cases heq
      rw [← List.append_assoc]
      apply stopLast_concat
      intro h hh
      rcases List.mem_append.mp hh with hh | hh
      · exact hs.tools hresult h hh
      · exact isTool_parseLine hline h hh

/-- One event that is in time. -/
theorem codexStep_inv {s t : CodexSession} {e : ChildEvent} (hs : s.Inv num parse) (htime : s.InTime e)
    (hstep : codexStep num parse lastUnits s e = some t) : t.Inv num parse := by
  cases e with
  | stdout chunk =>
    simp only [codexStep] at hstep
    split_ifs at hstep with hcrashed
    cases hstep
    exact CodexSession.inv_onStdout hs (htime chunk rfl) (by simpa using hcrashed) chunk
  | stderr chunk =>
    simp only [codexStep] at hstep
    split_ifs at hstep with hcrashed
    cases hstep
    exact ⟨hs.fed, hs.tools, hs.complete⟩
  | exit code signal =>
    simp only [codexStep] at hstep
    split_ifs at hstep with hdone
    cases hstep
    exact ⟨hs.fed, hs.tools, hs.complete⟩
  | waited =>
    rcases hexit : s.exit with _ | r <;> simp only [codexStep, hexit] at hstep
    · cases hstep
    · split_ifs at hstep with hdone
      obtain ⟨hcrashed, -, hresult⟩ : s.crashed = false ∧ s.rejected = false ∧ s.result = none := by
        simpa using hdone
      rw [← Option.some.inj hstep]
      exact CodexSession.inv_onWaited hs hresult hcrashed r

theorem CodexSession.inv_spawned (modelId : String) : (CodexSession.spawned modelId).Inv num parse where
  fed _ _ := rfl
  tools _ _ hh := absurd hh List.not_mem_nil
  complete := ⟨fun _ _ hsome => (nomatch hsome), List.Pairwise.nil⟩

/-- The claude adapter keeps what was delivered, and its result is complete. -/
def ClaudeSession.Inv (num : Js.Numbers) (parse : String → Option Json) (s : ClaudeSession) : Prop :=
  s.stdoutBuf = s.delivered.flatMap Utf8.decode ∧ s.Complete num parse

theorem claudeStep_inv {s t : ClaudeSession} {e : ChildEvent} (hs : s.Inv num parse) (htime : s.InTime e)
    (hstep : claudeStep num parse s e = some t) : t.Inv num parse := by
  cases e with
  | stdout chunk =>
    cases hstep
    refine ⟨by simp [hs.1], ?_⟩
    intro r usage hsome
    rw [htime chunk rfl] at hsome
    cases hsome
  | stderr chunk =>
    cases hstep
    exact hs
  | exit code signal =>
    simp only [claudeStep] at hstep
    split_ifs at hstep with hdone
    cases hstep
    exact hs
  | waited =>
    rcases hexit : s.exit with _ | r <;> simp only [claudeStep, hexit] at hstep
    · cases hstep
    · split_ifs at hstep with hdone
      cases hstep
      refine ⟨hs.1, ?_⟩
      intro r' usage hsome
      cases hsome
      rw [hs.1]

end

/-- In every run in which the output comes before `wait()` goes on, the usage is complete and the
hook that ends the session is the last one. -/
theorem complete_of_inTime (num : Js.Numbers) (parse : String → Option Json)
    (lastUnits : String → String) :
    (∀ s, ((codexChild num parse lastUnits).restrict CodexSession.InTime).Reachable s →
      s.Complete num parse) ∧
    ∀ s, ((claudeChild num parse).restrict ClaudeSession.InTime).Reachable s →
      s.Complete num parse := by
  constructor
  · intro s hs
    have hinv : s.Inv num parse := by
      refine hs.invariant ?_ ?_
      · rintro s ⟨modelId, rfl⟩
        exact CodexSession.inv_spawned modelId
      · intro s e t hinv hstep
        exact codexStep_inv hinv hstep.1 hstep.2
    exact hinv.complete
  · intro s hs
    have hinv : s.Inv num parse := by
      refine hs.invariant ?_ ?_
      · rintro s rfl
        exact ⟨rfl, fun _ _ hsome => (nomatch hsome)⟩
      · intro s e t hinv hstep
        exact claudeStep_inv hinv hstep.1 hstep.2
    exact hinv.2

/-! ### Output in time, and output that comes late -/

section

variable {num : Js.Numbers} {parse : String → Option Json} {lastUnits : String → String}

theorem codexStep_stdout {s : CodexSession} (h : s.crashed = false) (chunk : List UInt8) :
    codexStep num parse lastUnits s (.stdout chunk) = some (s.onStdout num parse chunk) := by
  simp [codexStep, h]

theorem codexStep_exit {s : CodexSession} (h : s.crashed = false) (hexit : s.exit.isSome = false)
    (code : ℤ) :
    codexStep num parse lastUnits s (.exit (some code) none) = some { s with exit := some ⟨code, none⟩ } := by
  simp [codexStep, h, hexit]

theorem codexStep_waited {s : CodexSession} (h : s.crashed = false) (hrejected : s.rejected = false)
    (hresult : s.result.isSome = false) {r : ExitInfo} (hexit : s.exit = some r) :
    codexStep num parse lastUnits s .waited = some (s.onWaited num parse r) := by
  simp [codexStep, h, hrejected, hresult, hexit]

/-- Output leaves the exit and the result as they are. -/
theorem CodexSession.onStdout_frame (s : CodexSession) (chunk : List UInt8) :
    (s.onStdout num parse chunk).exit = s.exit ∧ (s.onStdout num parse chunk).rejected = s.rejected ∧
      (s.onStdout num parse chunk).result = s.result := by
  unfold CodexSession.onStdout
  cases parseChunk num parse (Utf8.decode chunk) s.parser <;> exact ⟨rfl, rfl, rfl⟩

/-- A child that has sent its output exits, and `wait()` goes on. -/
theorem CodexSession.reachable_end {s : CodexSession}
    (hs : ((codexChild num parse lastUnits).restrict CodexSession.InTime).Reachable s)
    (h : s.crashed = false) (hexit : s.exit.isSome = false) (hrejected : s.rejected = false)
    (hresult : s.result.isSome = false) :
    ((codexChild num parse lastUnits).restrict CodexSession.InTime).Reachable
      (CodexSession.onWaited num parse { s with exit := some ⟨0, none⟩ } ⟨0, none⟩) := by
  have hexited := hs.step (l := .exit (some 0) none) ⟨fun _ h => (nomatch h), codexStep_exit h hexit 0⟩
  exact hexited.step (l := .waited) ⟨fun _ h => (nomatch h),
    codexStep_waited (s := { s with exit := some ⟨0, none⟩ }) h hrejected hresult rfl⟩

end

/-- What `JSON.parse` makes of two lines of codex and of an output of claude. -/
def sampleParse (text : String) : Option Json :=
  if text = "\x7b\"type\":\"turn.completed\",\"usage\":\x7b\"output_tokens\":20\x7d\x7d" then
    some (.obj [("type", .str "turn.completed"), ("usage", .obj [("output_tokens", .int 20)])])
  else if text = "\x7b\"type\":\"item.started\",\"item\":\x7b\"type\":\"command_execution\"\x7d\x7d" then
    some (.obj [("type", .str "item.started"), ("item", .obj [("type", .str "command_execution")])])
  else if text = "\x7b\"total_cost_usd\":1,\"usage\":\x7b\"output_tokens\":20\x7d\x7d" then
    some (.obj [("total_cost_usd", .int 1), ("usage", .obj [("output_tokens", .int 20)])])
  else none

/-- A line that starts a tool call and a line that ends a turn. -/
def sampleOutput : List UInt8 :=
  Utf8.encode ("\x7b\"type\":\"item.started\",\"item\":\x7b\"type\":\"command_execution\"\x7d\x7d\n" ++
    "\x7b\"type\":\"turn.completed\",\"usage\":\x7b\"output_tokens\":20\x7d\x7d\n").toList

/-- An output of claude. -/
def sampleEnvelope : List UInt8 :=
  Utf8.encode "\x7b\"total_cost_usd\":1,\"usage\":\x7b\"output_tokens\":20\x7d\x7d".toList

/-- The output comes, the child exits, and `wait()` goes on. -/
theorem complete_of_inTime_sample :
    (∃ s, ((codexChild sampleNumbers sampleParse id).restrict CodexSession.InTime).Reachable s ∧
      s.result.isSome ∧ s.Complete sampleNumbers sampleParse) ∧
    ∃ s, ((claudeChild sampleNumbers sampleParse).restrict ClaudeSession.InTime).Reachable s ∧
      s.result.isSome ∧ s.Complete sampleNumbers sampleParse := by
  have hcomplete := complete_of_inTime sampleNumbers sampleParse id
  constructor
  · have hsent : ((codexChild sampleNumbers sampleParse id).restrict CodexSession.InTime).Reachable
        ((CodexSession.spawned "gpt-5-chatgpt").onStdout sampleNumbers sampleParse sampleOutput) :=
      .step (l := .stdout sampleOutput) (.init ⟨_, rfl⟩)
        ⟨fun _ _ => rfl, codexStep_stdout rfl sampleOutput⟩
    obtain ⟨hexit, hrejected, hresult⟩ := @CodexSession.onStdout_frame sampleNumbers sampleParse
      (CodexSession.spawned "gpt-5-chatgpt") sampleOutput
    have hend := CodexSession.reachable_end hsent (by decide +kernel) (by rw [hexit]; rfl)
      (by rw [hrejected]; rfl) (by rw [hresult]; rfl)
    exact ⟨_, hend, by decide +kernel, hcomplete.1 _ hend⟩
  · let S := (claudeChild sampleNumbers sampleParse).restrict ClaudeSession.InTime
    let s₁ : ClaudeSession := ⟨[] ++ Utf8.decode sampleEnvelope, [sampleEnvelope], none, none⟩
    let s₂ : ClaudeSession := { s₁ with exit := some ⟨0, none⟩ }
    let s₃ : ClaudeSession :=
      { s₂ with result := some (⟨0, none⟩, parseUsage sampleNumbers sampleParse s₂.stdoutBuf) }
    have h₁ : S.Reachable s₁ :=
      .step (l := .stdout sampleEnvelope) (.init rfl) ⟨fun _ _ => rfl, rfl⟩
    have h₂ : S.Reachable s₂ := h₁.step (l := .exit (some 0) none) ⟨fun _ h => (nomatch h), rfl⟩
    have h₃ : S.Reachable s₃ := h₂.step (l := .waited) ⟨fun _ h => (nomatch h), rfl⟩
    exact ⟨s₃, h₃, rfl, hcomplete.2 s₃ h₃⟩

/-- The same outputs after `wait()` has gone on: their usage is lost, and a tool hook comes after the
hook that ended the session. -/
theorem not_complete_late :
    (∃ s, (codexChild sampleNumbers sampleParse id).Reachable s ∧
      ¬ s.CountsAll sampleNumbers sampleParse ∧ ¬ StopLast s.emitted) ∧
    ∃ s, (claudeChild sampleNumbers sampleParse).Reachable s ∧ ¬ s.Complete sampleNumbers sampleParse := by
  constructor
  · let S := codexChild sampleNumbers sampleParse id
    let s₀ := CodexSession.spawned "gpt-5-chatgpt"
    let s₁ : CodexSession := { s₀ with exit := some ⟨0, none⟩ }
    let s₂ := s₁.onWaited sampleNumbers sampleParse ⟨0, none⟩
    let s₃ := s₂.onStdout sampleNumbers sampleParse sampleOutput
    have h₁ : S.Reachable s₁ :=
      .step (l := .exit (some 0) none) (.init ⟨_, rfl⟩) (codexStep_exit rfl rfl 0)
    have h₂ : S.Reachable s₂ := h₁.step (l := .waited) (codexStep_waited (s := s₁) rfl rfl rfl rfl)
    have h₃ : S.Reachable s₃ :=
      h₂.step (l := .stdout sampleOutput) (codexStep_stdout (by decide +kernel) sampleOutput)
    have hfacts : ¬ StopLast s₃.emitted ∧ s₃.result.map (fun r => r.2.isSome) = some false ∧
        (usageOf sampleNumbers sampleParse s₃.modelId (s₃.delivered.flatMap Utf8.decode)).map
          Option.isSome = some true := by decide +kernel
    obtain ⟨hlast, hresult, hwhole⟩ := hfacts
    refine ⟨s₃, h₃, fun hall => ?_, hlast⟩
    obtain ⟨⟨r, usage⟩, hsome, husage⟩ := Option.map_eq_some_iff.mp hresult
    rw [hall r usage hsome, Option.map_some, husage] at hwhole
    cases hwhole
  · let S := claudeChild sampleNumbers sampleParse
    let s₁ : ClaudeSession := ⟨[], [], some ⟨0, none⟩, none⟩
    let s₂ : ClaudeSession := { s₁ with result := some (⟨0, none⟩, parseUsage sampleNumbers sampleParse []) }
    let s₃ : ClaudeSession :=
      { s₂ with stdoutBuf := [] ++ Utf8.decode sampleEnvelope, delivered := [sampleEnvelope] }
    have h₁ : S.Reachable s₁ := .step (l := .exit (some 0) none) (.init rfl) rfl
    have h₂ : S.Reachable s₂ := h₁.step (l := .waited) rfl
    have h₃ : S.Reachable s₃ := h₂.step (l := .stdout sampleEnvelope) rfl
    refine ⟨s₃, h₃, fun hcomplete => ?_⟩
    have hwhole : (parseUsage sampleNumbers sampleParse (s₃.delivered.flatMap Utf8.decode)).isSome = true := by
      decide +kernel
    have hnone : (parseUsage sampleNumbers sampleParse []).isSome = false := by decide +kernel
    rw [← hcomplete _ _ rfl, hnone] at hwhole
    cases hwhole

end Cliptown.Adapter
