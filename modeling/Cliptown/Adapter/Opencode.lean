import Cliptown.Adapter.Codex
import Cliptown.Lib.Table

/-!
# The event mapper of the opencode adapter

* `SseEvent`, `MapState`, `mapEvent` — the mapper.
* `mapEvents` — a sequence of events, each hook with the call of the event that emitted it.
* `CallHooks`, `WellFormed` — the hooks of one call, and of all calls with their numbers.
* `wellFormed_mapEvents` — they are well formed for every call whose id is not empty.
-/

namespace Cliptown.Adapter

open Cliptown.Lib

/-! ### Events -/

/-- Source: `event_mapper.ts` `SseEvent`, `state.time` -/
structure ToolTime where
  start : Option ℚ
  stop : Option ℚ
  deriving DecidableEq

/-- Source: `event_mapper.ts` `SseEvent`, `part.state` -/
structure ToolState where
  status : Option String
  input : Option Json
  output : Option Json
  time : Option ToolTime

/-- Source: `event_mapper.ts` `SseEvent`, `tokens.cache` -/
structure CacheTokens where
  write : Option ℚ
  read : Option ℚ

/-- Source: `event_mapper.ts` `SseEvent`, `part.tokens` -/
structure PartTokens where
  input : Option ℚ
  output : Option ℚ
  reasoning : Option ℚ
  cache : Option CacheTokens

/-- Source: `event_mapper.ts` `SseEvent`, `properties.part` -/
structure EventPart where
  type : Option String
  tool : Option String
  callID : Option String
  state : Option ToolState
  tokens : Option PartTokens
  cost : Option ℚ

/-- Source: `event_mapper.ts` `SseEvent`; `part` is `properties?.part` -/
structure SseEvent where
  type : Option String
  part : Option EventPart

/-! ### The mapper -/

/-- Source: `event_mapper.ts` `CallTracker` -/
structure CallTracker where
  firedPre : Bool
  firedPost : Bool
  deriving DecidableEq

/-- Source: `event_mapper.ts` `MapUsageAccum` -/
structure MapUsageAccum where
  inTokens : ℚ
  outTokens : ℚ
  costUsd : ℚ
  saw : Bool

/-- Source: `event_mapper.ts` `MapState` -/
structure MapState where
  seq : ℕ
  usage : MapUsageAccum
  calls : Table String CallTracker

/-- Source: `event_mapper.ts` `emptyMapState` -/
def emptyMapState : MapState := ⟨0, ⟨0, 0, 0, false⟩, ∅⟩

/-- Source: `event_mapper.ts` `mapEvent`, the payload of `pre_tool` -/
def prePayload (state : Option ToolState) : Json :=
  Js.valueOr (state.bind (·.input)) .null

/-- Source: `event_mapper.ts` `mapEvent`, the payload of `post_tool`; a member that is `undefined` is
left out -/
def postPayload (state : Option ToolState) (status : String) : Json :=
  let number (name : String) (n : Option ℚ) := n.toList.map fun n => (name, Json.float n)
  let time := (state.bind (·.time)).toList.map fun t =>
    ("time", Json.obj (number "start" t.start ++ number "end" t.stop))
  .obj ([("output", Js.valueOr (state.bind (·.output)) .null), ("status", .str status)] ++ time)

section

variable (num : Js.Numbers)

/-- Source: `event_mapper.ts` `mapEvent`, the additions of `step-finish` -/
def addTokens (part : EventPart) (tokens : PartTokens) (usage : MapUsageAccum) : MapUsageAccum :=
  let cached (f : CacheTokens → Option ℚ) := (tokens.cache.bind f).getD 0
  { inTokens := num.add usage.inTokens
      (num.add (num.add (tokens.input.getD 0) (cached (·.write))) (cached (·.read)))
    outTokens := num.add usage.outTokens (num.add (tokens.output.getD 0) (tokens.reasoning.getD 0))
    costUsd := num.add usage.costUsd (part.cost.getD 0)
    saw := true }

/-- A part of a tool call with an id. Source: `event_mapper.ts` `mapEvent`, from
`const status = ...` on -/
def mapCall (part : EventPart) (callID : String) (state : MapState) : MapState × List HookEvent :=
  let status := (part.state.bind (·.status)).getD ""
  let tool := part.tool.getD ""
  let tracker := (state.calls.lookup callID).getD ⟨false, false⟩
  let track (tracker : CallTracker) := state.calls.insert callID tracker
  if status = "running" ∧ tracker.firedPre = false then
    ({ state with seq := state.seq + 1, calls := track { tracker with firedPre := true } },
      [⟨.preTool, tool, prePayload part.state, state.seq + 1⟩])
  else if (status = "completed" ∨ status = "failed") ∧ tracker.firedPost = false then
    if tracker.firedPre = false then
      ({ state with seq := state.seq + 2, calls := track ⟨true, true⟩ },
        [⟨.preTool, tool, prePayload part.state, state.seq + 1⟩,
          ⟨.postTool, tool, postPayload part.state status, state.seq + 2⟩])
    else
      ({ state with seq := state.seq + 1, calls := track { tracker with firedPost := true } },
        [⟨.postTool, tool, postPayload part.state status, state.seq + 1⟩])
  else ({ state with calls := track tracker }, [])

/-- Source: `event_mapper.ts` `mapEvent` -/
def mapEvent (evt : SseEvent) (state : MapState) : MapState × List HookEvent :=
  if evt.type = some "session.idle" then
    ({ state with seq := state.seq + 1 }, [⟨.sessionStop, "", .obj [], state.seq + 1⟩])
  else if evt.type = some "session.status" then (state, [])
  else if evt.type ≠ some "message.part.updated" then (state, [])
  else
    match evt.part with
    | none => (state, [])
    | some part =>
      if part.type = some "step-finish" then
        match part.tokens with
        | some tokens => ({ state with usage := addTokens num part tokens state.usage }, [])
        | none => (state, [])
      else if part.type ≠ some "tool" then (state, [])
      else
        match part.callID with
        | none => (state, [])
        | some callID => if callID = "" then (state, []) else mapCall part callID state

/-- Source: `event_mapper.ts` `toUsageReport` -/
def mapUsageReport (state : MapState) (modelId : String) : Option UsageReport :=
  if state.usage.saw then
    some ⟨.float state.usage.inTokens, .float state.usage.outTokens, some state.usage.costUsd, modelId⟩
  else none

/-! ### The hooks of a call -/

/-- The call that an event is about: that of a part of type `tool`. -/
def callOf (evt : SseEvent) : Option String :=
  if evt.type = some "message.part.updated" then
    evt.part.bind fun part => if part.type = some "tool" then part.callID else none
  else none

/-- The status that a part carries. -/
def EventPart.status (part : EventPart) : String := (part.state.bind (·.status)).getD ""

/-- A completed or failed status of a call. -/
def Terminal (id : String) (evt : SseEvent) : Prop :=
  callOf evt = some id ∧ ∃ part ∈ evt.part, part.status = "completed" ∨ part.status = "failed"

/-- A sequence of events, each hook with the call of the event that emitted it. -/
def mapEvents : List SseEvent → MapState → MapState × List (Option String × HookEvent)
  | [], state => (state, [])
  | evt :: evts, state =>
    let (state, hooks) := mapEvent num evt state
    let (state, log) := mapEvents evts state
    (state, hooks.map (callOf evt, ·) ++ log)

end

/-- The kinds of the hooks of one call, in order. -/
def hooksOf (id : String) (log : List (Option String × HookEvent)) : List HookKind :=
  (log.filter fun x => x.1 = some id).map fun x => x.2.kind

/-- What the hooks of a call must be, after the given events. -/
structure CallHooks (evts : List SseEvent) (id : String) (kinds : List HookKind) : Prop where
  pre_once : kinds.count .preTool ≤ 1
  post_once : kinds.count .postTool ≤ 1
  post_iff : .postTool ∈ kinds ↔ ∃ evt ∈ evts, Terminal id evt
  pre_first : ∀ before after, kinds = before ++ .postTool :: after → .preTool ∈ before

/-! ### One event -/

/-- What the map holds of a call. -/
def MapState.tracker (state : MapState) (id : String) : CallTracker :=
  (state.calls.lookup id).getD ⟨false, false⟩

/-- The hooks that a tracker says have been emitted. -/
def CallTracker.kinds (t : CallTracker) : List HookKind :=
  (if t.firedPre then [.preTool] else []) ++ (if t.firedPost then [.postTool] else [])

/-- A call that is over has started. -/
def CallTracker.Valid (t : CallTracker) : Prop := t.firedPost = true → t.firedPre = true

/-- What an event does to a call: the hooks it adds, and whether it ends the call. -/
structure Advances (t t' : CallTracker) (kinds : List HookKind) (terminal : Prop) : Prop where
  valid : t'.Valid
  kinds : t'.kinds = t.kinds ++ kinds
  post : t'.firedPost = true ↔ t.firedPost = true ∨ terminal

theorem Advances.refl {t : CallTracker} (ht : t.Valid) {terminal : Prop} (h : ¬ terminal) :
    Advances t t [] terminal :=
  ⟨ht, (List.append_nil _).symm, by simp [h]⟩

/-- A part of a call as its tracker sees it. -/
def CallTracker.advance (running terminal : Bool) (t : CallTracker) : CallTracker × List HookKind :=
  if running ∧ t.firedPre = false then ({ t with firedPre := true }, [.preTool])
  else if terminal ∧ t.firedPost = false then
    (⟨true, true⟩, if t.firedPre = false then [.preTool, .postTool] else [.postTool])
  else (t, [])

theorem CallTracker.advances_advance {t : CallTracker} (ht : t.Valid) (running terminal : Bool)
    (h : running = true → terminal = false) :
    Advances t (t.advance running terminal).1 (t.advance running terminal).2 (terminal = true) := by
  obtain ⟨pre, post⟩ := t
  cases pre <;> cases post <;> cases running <;> cases terminal <;>
    simp_all [CallTracker.Valid, CallTracker.advance] <;>
    exact ⟨by simp [CallTracker.Valid], rfl, by simp⟩

theorem tracker_insert (state : MapState) (seq : ℕ) (usage : MapUsageAccum) (callID id : String)
    (t : CallTracker) :
    MapState.tracker ⟨seq, usage, state.calls.insert callID t⟩ id =
      if id = callID then t else state.tracker id := by
  rw [MapState.tracker, Table.lookup_insert_eq]
  split_ifs <;> rfl

theorem mapCall_advance (part : EventPart) (id : String) (state : MapState) :
    ((mapCall part id state).1.tracker id, (mapCall part id state).2.map (·.kind)) =
      (state.tracker id).advance (part.status = "running")
        (part.status = "completed" ∨ part.status = "failed") := by
  have htracker : (state.calls.lookup id).getD ⟨false, false⟩ = state.tracker id := rfl
  have hstatus : (part.state.bind (·.status)).getD "" = part.status := rfl
  simp only [mapCall, hstatus, htracker, CallTracker.advance, decide_eq_true_eq]
  split_ifs <;> simp_all [tracker_insert]

theorem mapCall_other {callID id : String} (h : id ≠ callID) (part : EventPart) (state : MapState) :
    (mapCall part callID state).1.tracker id = state.tracker id := by
  simp only [mapCall]
  split_ifs <;> exact (tracker_insert state _ _ _ _ _).trans (if_neg h)

theorem mapCall_seq (part : EventPart) (callID : String) (state : MapState) :
    (mapCall part callID state).2.map (·.seq) =
        List.range' (state.seq + 1) (mapCall part callID state).2.length ∧
      (mapCall part callID state).1.seq = state.seq + (mapCall part callID state).2.length := by
  simp only [mapCall]
  split_ifs <;> exact ⟨rfl, rfl⟩

section

variable (num : Js.Numbers)

/-- What an event can do: act on a call, or leave all calls alone and emit at most the hook that ends
the session. -/
theorem mapEvent_cases (evt : SseEvent) (state : MapState) :
    (∃ part callID, evt.part = some part ∧ callOf evt = some callID ∧
        mapEvent num evt state = mapCall part callID state) ∨
      (∀ id, id ≠ "" → callOf evt ≠ some id) ∧ (mapEvent num evt state).1.calls = state.calls ∧
        (mapEvent num evt state).2.map (·.seq) =
            List.range' (state.seq + 1) (mapEvent num evt state).2.length ∧
          (mapEvent num evt state).1.seq = state.seq + (mapEvent num evt state).2.length := by
  by_cases hidle : evt.type = some "session.idle"
  · right
    simp [mapEvent, callOf, hidle]
  by_cases hstatus : evt.type = some "session.status"
  · right
    simp [mapEvent, callOf, hstatus]
  by_cases htype : evt.type = some "message.part.updated"
  swap
  · right
    simp [mapEvent, callOf, hidle, hstatus, htype]
  rcases hpart : evt.part with _ | part
  · right
    simp [mapEvent, callOf, htype, hpart]
  by_cases hfinish : part.type = some "step-finish"
  · right
    cases htokens : part.tokens <;> simp [mapEvent, callOf, htype, hpart, hfinish, htokens]
  by_cases htool : part.type = some "tool"
  swap
  · right
    simp [mapEvent, callOf, htype, hpart, hfinish, htool]
  rcases hcall : part.callID with _ | callID
  · right
    simp [mapEvent, callOf, htype, hpart, htool, hcall]
  by_cases hempty : callID = ""
  · right
    simp [mapEvent, callOf, htype, hpart, htool, hcall, hempty, Ne.symm]
  · left
    exact ⟨part, callID, rfl, by simp [callOf, htype, hpart, htool, hcall],
      by simp [mapEvent, htype, hpart, htool, hcall, hempty]⟩

/-- An event for one call: its own part, and nothing else, moves the call. -/
theorem advances_mapEvent {id : String} (hid : id ≠ "") (evt : SseEvent) (state : MapState)
    (hvalid : (state.tracker id).Valid) :
    Advances (state.tracker id) ((mapEvent num evt state).1.tracker id)
      (hooksOf id ((mapEvent num evt state).2.map (callOf evt, ·))) (Terminal id evt) := by
  rcases mapEvent_cases num evt state with ⟨part, callID, hpart, hcall, heq⟩ | ⟨hnone, hcalls, -⟩
  · rw [heq]
    by_cases h : id = callID
    · subst h
      have hadvance := mapCall_advance part id state
      have hhooks : hooksOf id ((mapCall part id state).2.map (callOf evt, ·)) =
          (mapCall part id state).2.map (·.kind) := by
        simp [hooksOf, hcall, List.filter_map, Function.comp_def]
      have hterminal : Terminal id evt ↔
          decide (part.status = "completed" ∨ part.status = "failed") = true := by
        simp [Terminal, hcall, hpart]
      have hsteps := CallTracker.advances_advance hvalid (part.status = "running")
        (part.status = "completed" ∨ part.status = "failed") fun hrunning => by
          rw [decide_eq_true_eq] at hrunning
          simp [hrunning]
      rw [← hadvance] at hsteps
      rw [hhooks, propext hterminal]
      exact hsteps
    · have hhooks : hooksOf id ((mapCall part callID state).2.map (callOf evt, ·)) = [] := by
        simp [hooksOf, hcall, Ne.symm h]
      have hterminal : ¬ Terminal id evt := by
        rintro ⟨hother, -⟩
        rw [hcall, Option.some.injEq] at hother
        exact h hother.symm
      rw [hhooks, mapCall_other h]
      exact Advances.refl hvalid hterminal
  · have hhooks : hooksOf id ((mapEvent num evt state).2.map (callOf evt, ·)) = [] := by
      simp [hooksOf, hnone id hid]
    have htracker : (mapEvent num evt state).1.tracker id = state.tracker id := by
      rw [MapState.tracker, hcalls]
      rfl
    rw [hhooks, htracker]
    exact Advances.refl hvalid fun hterminal => hnone id hid hterminal.1

/-- The numbers that an event gives out follow the ones before. -/
theorem mapEvent_seq (evt : SseEvent) (state : MapState) :
    (mapEvent num evt state).2.map (·.seq) =
        List.range' (state.seq + 1) (mapEvent num evt state).2.length ∧
      (mapEvent num evt state).1.seq = state.seq + (mapEvent num evt state).2.length := by
  rcases mapEvent_cases num evt state with ⟨part, callID, -, -, heq⟩ | ⟨-, -, hseq⟩
  · rw [heq]
    exact mapCall_seq part callID state
  · exact hseq

/-! ### All events -/

theorem hooksOf_append (id : String) (log log' : List (Option String × HookEvent)) :
    hooksOf id (log ++ log') = hooksOf id log ++ hooksOf id log' := by
  simp [hooksOf]

theorem advances_mapEvents {id : String} (hid : id ≠ "") (evts : List SseEvent) (state : MapState)
    (hvalid : (state.tracker id).Valid) :
    Advances (state.tracker id) ((mapEvents num evts state).1.tracker id)
      (hooksOf id (mapEvents num evts state).2) (∃ evt ∈ evts, Terminal id evt) := by
  induction evts generalizing state with
  | nil => exact Advances.refl hvalid (by simp)
  | cons evt evts ih =>
    have hstep := advances_mapEvent num hid evt state hvalid
    have hrest := ih (mapEvent num evt state).1 hstep.valid
    refine ⟨hrest.valid, ?_, ?_⟩
    · simp only [mapEvents, hooksOf_append]
      rw [hrest.kinds, hstep.kinds, List.append_assoc]
    · rw [mapEvents, hrest.post, hstep.post, or_assoc, List.exists_mem_cons_iff]

theorem mapEvents_seq (evts : List SseEvent) (state : MapState) :
    (mapEvents num evts state).2.map (·.2.seq) =
      List.range' (state.seq + 1) (mapEvents num evts state).2.length := by
  induction evts generalizing state with
  | nil => rfl
  | cons evt evts ih =>
    obtain ⟨hseqs, hseq⟩ := mapEvent_seq num evt state
    have hrest := ih (mapEvent num evt state).1
    rw [hseq] at hrest
    simp only [mapEvents, List.map_append, List.map_map, Function.comp_def, List.length_append,
      List.length_map, hseqs, hrest]
    rw [Nat.add_right_comm, List.range'_append_1]

/-- A tracker of a sequence of events that starts from nothing. -/
theorem callHooks_of_advances {t : CallTracker} {evts : List SseEvent} {id : String}
    {kinds : List HookKind} (h : Advances ⟨false, false⟩ t kinds (∃ evt ∈ evts, Terminal id evt)) :
    CallHooks evts id kinds := by
  obtain ⟨hvalid, hkinds, hpost⟩ := h
  obtain ⟨pre, post⟩ := t
  have hkinds : kinds = (CallTracker.mk pre post).kinds := hkinds.symm
  cases post with
  | false =>
    have hnone : HookKind.postTool ∉ kinds := by
      rw [hkinds]
      cases pre <;> simp [CallTracker.kinds]
    have hover : ¬ ∃ evt ∈ evts, Terminal id evt := by simpa using hpost
    refine ⟨?_, ?_, iff_of_false hnone hover, ?_⟩
    · rw [hkinds]
      cases pre <;> decide
    · rw [List.count_eq_zero_of_not_mem hnone]
      exact Nat.zero_le 1
    · rintro before after rfl
      exact absurd (by simp) hnone
  | true =>
    have hpre : pre = true := hvalid rfl
    subst hpre
    have hpair : kinds = [.preTool, .postTool] := hkinds
    have hover : ∃ evt ∈ evts, Terminal id evt := by simpa using hpost
    subst hpair
    refine ⟨by decide, by decide, iff_of_true (by simp) hover, ?_⟩
    intro before after heq
    cases before with
    | nil => cases heq
    | cons first before =>
      rw [List.cons_append, List.cons.injEq] at heq
      rw [← heq.1]
      exact List.mem_cons_self

/-- The hooks of every call whose id is not empty are well formed, and all hooks are numbered from
one on. -/
theorem wellFormed_mapEvents (evts : List SseEvent) :
    (∀ id, id ≠ "" → CallHooks evts id (hooksOf id (mapEvents num evts emptyMapState).2)) ∧
      (mapEvents num evts emptyMapState).2.map (·.2.seq) =
        List.range' 1 (mapEvents num evts emptyMapState).2.length := by
  refine ⟨fun id hid => ?_, mapEvents_seq num evts emptyMapState⟩
  exact callHooks_of_advances
    (advances_mapEvents num hid evts emptyMapState fun hpost => Bool.noConfusion hpost)

end

/-- A part of a tool call. -/
def samplePart (callID status : String) : SseEvent where
  type := some "message.part.updated"
  part := some ⟨some "tool", some "bash", some callID, some ⟨some status, none, none, none⟩, none, none⟩

/-- Two calls that interleave. -/
theorem wellFormed_mapEvents_two :
    CallHooks [samplePart "c1" "running", samplePart "c2" "completed", samplePart "c1" "failed"] "c1"
      (hooksOf "c1" (mapEvents sampleNumbers
        [samplePart "c1" "running", samplePart "c2" "completed", samplePart "c1" "failed"] emptyMapState).2) :=
  (wellFormed_mapEvents sampleNumbers _).1 "c1" (by decide)

/-- The empty id is a string as well, and its call gets no hook. -/
theorem not_callHooks_empty :
    ¬ CallHooks [samplePart "" "completed"] ""
      (hooksOf "" (mapEvents sampleNumbers [samplePart "" "completed"] emptyMapState).2) := by
  intro h
  have hover : ∃ evt ∈ [samplePart "" "completed"], Terminal "" evt :=
    ⟨_, List.mem_singleton_self _, rfl, _, rfl, .inl rfl⟩
  have hpost := h.post_iff.mpr hover
  revert hpost
  decide

end Cliptown.Adapter
