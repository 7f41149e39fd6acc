import Cliptown.Lib.Json
import Mathlib.Data.Rat.Cast.Defs

/-!
# What the world tells a worker

* `WorkerOutbound` — the messages of the protocol.
* `WorkerOutbound.toJson`, `WorkerOutbound.ofJson` — how they are written, and how a JSON value is read as one:
  the variant is found by its tag, further fields are ignored, and an optional field may be absent.
* `ofJson_toJson` — what is written is read back.
* `Conveys` — a JSON value is read as a message and holds what the message says; `conveys_toJson`.
-/

namespace Cliptown.Worker

open Cliptown.Lib

/-- Source: `ws_messages.rs` `WorkerOutbound` -/
inductive WorkerOutbound where
  | mcpReply (v : UInt8) (corrId : String) (result : Json)
  | mcpError (v : UInt8) (corrId code message : String)
  | worldState (v : UInt8) (snapshot : Json)
  | worldStateChunk (v : UInt8) (seq total : UInt32) (payload : Json)
  | worldStateEnd (v : UInt8)
  | taskAssigned (v : UInt8) (taskId title description : String)
      (requiredRoom parentId preferredBackend preferredModel : Option String)
  | subtaskProposed (v : UInt8) (parentId proposedTaskId proposerAgentId title description : String)
      (suggestedAssigneeRole : Option String)
  | subtaskDone (v : UInt8) (parentId childId artifactPath : String) (reviewRound : UInt32)
  | directive (v : UInt8) (fromAgentId body : String) (inResponseToTask : Option String)
  | proximityTick (v : UInt8) (roomId : String) (members : List Json)
  | chatReceived (v : UInt8) (fromAgentId body roomId : String)
  | moveComplete (v : UInt8) (roomId : String)
  | moveFailed (v : UInt8) (reason : String)
  | budgetWarning (v : UInt8) (remainingUsd : ℚ) (percentUsed : UInt32)
  | pause (v : UInt8) (reason : String)
  | shutdown

/-! ### Writing -/

/-- The number of a version. -/
def version (v : UInt8) : String × Json :=
  ("v", .int v.toNat)

namespace WorkerOutbound

/-- Source: `ws_messages.rs` `WorkerOutbound`, `tag = "type", rename_all = "snake_case"` -/
def tag : WorkerOutbound → String
  | mcpReply .. => "mcp_reply"
  | mcpError .. => "mcp_error"
  | worldState .. => "world_state"
  | worldStateChunk .. => "world_state_chunk"
  | worldStateEnd .. => "world_state_end"
  | taskAssigned .. => "task_assigned"
  | subtaskProposed .. => "subtask_proposed"
  | subtaskDone .. => "subtask_done"
  | directive .. => "directive"
  | proximityTick .. => "proximity_tick"
  | chatReceived .. => "chat_received"
  | moveComplete .. => "move_complete"
  | moveFailed .. => "move_failed"
  | budgetWarning .. => "budget_warning"
  | pause .. => "pause"
  | shutdown => "shutdown"

/-- The fields of the variant. -/
def fields : WorkerOutbound → List (String × Json)
  | mcpReply v corrId result => [version v, ("corr_id", .str corrId), ("result", result)]
  | mcpError v corrId code message =>
      [version v, ("corr_id", .str corrId), ("code", .str code), ("message", .str message)]
  | worldState v snapshot => [version v, ("snapshot", snapshot)]
  | worldStateChunk v seq total payload =>
      [version v, ("seq", .int seq.toNat), ("total", .int total.toNat), ("payload", payload)]
  | worldStateEnd v => [version v]
  | taskAssigned v taskId title description requiredRoom parentId preferredBackend preferredModel =>
      [version v, ("task_id", .str taskId), ("title", .str title), ("description", .str description),
        ("required_room", Json.ofOption .str requiredRoom), ("parent_id", Json.ofOption .str parentId),
        ("preferred_backend", Json.ofOption .str preferredBackend),
        ("preferred_model", Json.ofOption .str preferredModel)]
  | subtaskProposed v parentId proposedTaskId proposerAgentId title description suggestedAssigneeRole =>
      [version v, ("parent_id", .str parentId), ("proposed_task_id", .str proposedTaskId),
        ("proposer_agent_id", .str proposerAgentId), ("title", .str title),
        ("description", .str description),
        ("suggested_assignee_role", Json.ofOption .str suggestedAssigneeRole)]
  | subtaskDone v parentId childId artifactPath reviewRound =>
      [version v, ("parent_id", .str parentId), ("child_id", .str childId),
        ("artifact_path", .str artifactPath), ("review_round", .int reviewRound.toNat)]
  | directive v fromAgentId body inResponseToTask =>
      [version v, ("from_agent_id", .str fromAgentId), ("body", .str body),
        ("in_response_to_task", Json.ofOption .str inResponseToTask)]
  | proximityTick v roomId members => [version v, ("room_id", .str roomId), ("members", .arr members)]
  | chatReceived v fromAgentId body roomId =>
      [version v, ("from_agent_id", .str fromAgentId), ("body", .str body), ("room_id", .str roomId)]
  | moveComplete v roomId => [version v, ("room_id", .str roomId)]
  | moveFailed v reason => [version v, ("reason", .str reason)]
  | budgetWarning v remainingUsd percentUsed =>
      [version v, ("remaining_usd", .float remainingUsd), ("percent_used", .int percentUsed.toNat)]
  | pause v reason => [version v, ("reason", .str reason)]
  | shutdown => []

/-- Source: `serde_json::to_value` -/
def toJson (m : WorkerOutbound) : Json :=
  .obj (("type", .str m.tag) :: m.fields)

end WorkerOutbound

/-! ### Reading -/

section Read

variable (frame : Json) (key : String)

/-- A number in 8 bits. -/
def readU8 : Option UInt8 :=
  match frame.get key with
  | some (.int n) => if 0 ≤ n ∧ n < 256 then some (UInt8.ofNat n.toNat) else none
  | _ => none

/-- A number in 32 bits. -/
def readU32 : Option UInt32 :=
  match frame.get key with
  | some (.int n) => if 0 ≤ n ∧ n < 4294967296 then some (UInt32.ofNat n.toNat) else none
  | _ => none

/-- A number with a fraction, or without. -/
def readF64 : Option ℚ :=
  match frame.get key with
  | some (.float q) => some q
  | some (.int n) => some n
  | _ => none

/-- An optional text may be absent, or `null`. -/
def readOption : Option (Option String) :=
  match frame.get key with
  | none | some .null => some none
  | some (.str s) => some (some s)
  | _ => none

/-- A list of values. -/
def readVec : Option (List Json) :=
  match frame.get key with
  | some (.arr items) => some items
  | _ => none

end Read

namespace WorkerOutbound

/-- Source: `serde_json::from_value` -/
def ofJson (frame : Json) : Option WorkerOutbound :=
  match frame.getStr "type" with
  | some "mcp_reply" => do
      return .mcpReply (← readU8 frame "v") (← frame.getStr "corr_id") (← frame.get "result")
  | some "mcp_error" => do
      return .mcpError (← readU8 frame "v") (← frame.getStr "corr_id") (← frame.getStr "code")
        (← frame.getStr "message")
  | some "world_state" => do return .worldState (← readU8 frame "v") (← frame.get "snapshot")
  | some "world_state_chunk" => do
      return .worldStateChunk (← readU8 frame "v") (← readU32 frame "seq") (← readU32 frame "total")
        (← frame.get "payload")
  | some "world_state_end" => do return .worldStateEnd (← readU8 frame "v")
  | some "task_assigned" => do
      return .taskAssigned (← readU8 frame "v") (← frame.getStr "task_id") (← frame.getStr "title")
        (← frame.getStr "description") (← readOption frame "required_room")
        (← readOption frame "parent_id") (← readOption frame "preferred_backend")
        (← readOption frame "preferred_model")
  | some "subtask_proposed" => do
      return .subtaskProposed (← readU8 frame "v") (← frame.getStr "parent_id")
        (← frame.getStr "proposed_task_id") (← frame.getStr "proposer_agent_id")
        (← frame.getStr "title") (← frame.getStr "description")
        (← readOption frame "suggested_assignee_role")
  | some "subtask_done" => do
      return .subtaskDone (← readU8 frame "v") (← frame.getStr "parent_id") (← frame.getStr "child_id")
        (← frame.getStr "artifact_path") (← readU32 frame "review_round")
  | some "directive" => do
      return .directive (← readU8 frame "v") (← frame.getStr "from_agent_id") (← frame.getStr "body")
        (← readOption frame "in_response_to_task")
  | some "proximity_tick" => do
      return .proximityTick (← readU8 frame "v") (← frame.getStr "room_id") (← readVec frame "members")
  | some "chat_received" => do
      return .chatReceived (← readU8 frame "v") (← frame.getStr "from_agent_id")
        (← frame.getStr "body") (← frame.getStr "room_id")
  | some "move_complete" => do return .moveComplete (← readU8 frame "v") (← frame.getStr "room_id")
  | some "move_failed" => do return .moveFailed (← readU8 frame "v") (← frame.getStr "reason")
  | some "budget_warning" => do
      return .budgetWarning (← readU8 frame "v") (← readF64 frame "remaining_usd")
        (← readU32 frame "percent_used")
  | some "pause" => do return .pause (← readU8 frame "v") (← frame.getStr "reason")
  | some "shutdown" => some .shutdown
  | _ => none

end WorkerOutbound

/-- A JSON value is read as the message, and holds the fields of the message: one that is `null` may be
absent. -/
structure Conveys (frame : Json) (m : WorkerOutbound) : Prop where
  reads : WorkerOutbound.ofJson frame = some m
  holds : ∀ f ∈ m.fields, (frame.get f.1).getD .null = f.2

/-- The fields that are optional in some variant. -/
def optionalFields : List String :=
  ["required_room", "parent_id", "preferred_backend", "preferred_model", "suggested_assignee_role",
    "in_response_to_task"]

/-- A field is written, or left out where it is optional. -/
def Written (frame : Json) (f : String × Json) : Prop :=
  frame.get f.1 = some f.2 ∨ frame.get f.1 = none ∧ f.1 ∈ optionalFields ∧ f.2 = .null

section Fields

variable {frame : Json} {key s : String} {value : Json}

/-! ### Single fields -/

theorem get_of_written (hkey : key ∉ optionalFields) (h : Written frame (key, value)) :
    frame.get key = some value :=
  h.resolve_right fun hout => hkey hout.2.1

theorem getStr_of_written (h : Written frame (key, .str s)) : frame.getStr key = some s := by
  have hget : frame.get key = some (.str s) := h.resolve_right fun hout => absurd hout.2.2 (by simp)
  unfold Json.getStr
  rw [hget]
  rfl

theorem readU8_of_written {v : UInt8} (h : Written frame (key, .int v.toNat)) :
    readU8 frame key = some v := by
  have hget : frame.get key = some (.int v.toNat) := h.resolve_right fun hout => absurd hout.2.2 (by simp)
  have hlt := v.toNat_lt
  unfold readU8
  rw [hget]
  simp only [Int.toNat_natCast, UInt8.ofNat_toNat]
  exact if_pos ⟨by omega, by omega⟩

theorem readU32_of_written {n : UInt32} (h : Written frame (key, .int n.toNat)) :
    readU32 frame key = some n := by
  have hget : frame.get key = some (.int n.toNat) := h.resolve_right fun hout => absurd hout.2.2 (by simp)
  have hlt := n.toNat_lt
  unfold readU32
  rw [hget]
  simp only [Int.toNat_natCast, UInt32.ofNat_toNat]
  exact if_pos ⟨by omega, by omega⟩

theorem readF64_of_written {q : ℚ} (h : Written frame (key, .float q)) : readF64 frame key = some q := by
  have hget : frame.get key = some (.float q) := h.resolve_right fun hout => absurd hout.2.2 (by simp)
  unfold readF64
  rw [hget]

theorem readVec_of_written {items : List Json} (h : Written frame (key, .arr items)) :
    readVec frame key = some items := by
  have hget : frame.get key = some (.arr items) := h.resolve_right fun hout => absurd hout.2.2 (by simp)
  unfold readVec
  rw [hget]

theorem readOption_of_written {o : Option String} (h : Written frame (key, Json.ofOption .str o)) :
    readOption frame key = some o := by
  unfold readOption
  rcases h with hget | ⟨hget, -, hnull⟩
  · simp only at hget
    rw [hget]
    cases o <;> rfl
  · simp only at hget hnull
    rw [hget]
    cases o with
    | none => rfl
    | some s => exact absurd hnull (by simp [Json.ofOption])

/-- A field that is left out counts as `null`. -/
theorem getD_of_written {f : String × Json} (h : Written frame f) : (frame.get f.1).getD .null = f.2 := by
  rcases h with hget | ⟨hget, -, hnull⟩
  · rw [hget]
    rfl
  · rw [hget, hnull]
    rfl

end Fields

/-- **A value with the tag and the fields of a message conveys it**, whatever else it holds. -/
theorem conveys_of_written {frame : Json} {m : WorkerOutbound} (htag : frame.getStr "type" = some m.tag)
    (hfields : ∀ f ∈ m.fields, Written frame f) : Conveys frame m := by
  refine ⟨?_, fun f hf => getD_of_written (hfields f hf)⟩
  unfold WorkerOutbound.ofJson
  rw [htag]
  cases m with
  | mcpReply v corrId result =>
      simp only [WorkerOutbound.fields, version, List.forall_mem_cons, List.not_mem_nil] at hfields
      obtain ⟨hv, hcorr, hresult, -⟩ := hfields
      simp [WorkerOutbound.tag, readU8_of_written hv, getStr_of_written hcorr,
        get_of_written (by decide) hresult]
  | mcpError v corrId code message =>
      simp only [WorkerOutbound.fields, version, List.forall_mem_cons, List.not_mem_nil] at hfields
      obtain ⟨hv, hcorr, hcode, hmessage, -⟩ := hfields
      simp [WorkerOutbound.tag, readU8_of_written hv, getStr_of_written hcorr, getStr_of_written hcode,
        getStr_of_written hmessage]
  | worldState v snapshot =>
      simp only [WorkerOutbound.fields, version, List.forall_mem_cons, List.not_mem_nil] at hfields
      obtain ⟨hv, hsnapshot, -⟩ := hfields
      simp [WorkerOutbound.tag, readU8_of_written hv, get_of_written (by decide) hsnapshot]
  | worldStateChunk v seq total payload =>
      simp only [WorkerOutbound.fields, version, List.forall_mem_cons, List.not_mem_nil] at hfields
      obtain ⟨hv, hseq, htotal, hpayload, -⟩ := hfields
      simp [WorkerOutbound.tag, readU8_of_written hv, readU32_of_written hseq, readU32_of_written htotal,
        get_of_written (by decide) hpayload]
  | worldStateEnd v =>
      simp only [WorkerOutbound.fields, version, List.forall_mem_cons, List.not_mem_nil] at hfields
      obtain ⟨hv, -⟩ := hfields
      simp [WorkerOutbound.tag, readU8_of_written hv]
  | taskAssigned v taskId title description requiredRoom parentId preferredBackend preferredModel =>
      simp only [WorkerOutbound.fields, version, List.forall_mem_cons, List.not_mem_nil] at hfields
      obtain ⟨hv, htask, htitle, hdescription, hroom, hparent, hbackend, hmodel, -⟩ := hfields
      simp [WorkerOutbound.tag, readU8_of_written hv, getStr_of_written htask, getStr_of_written htitle,
        getStr_of_written hdescription, readOption_of_written hroom, readOption_of_written hparent,
        readOption_of_written hbackend, readOption_of_written hmodel]
  | subtaskProposed v parentId proposedTaskId proposerAgentId title description role =>
      simp only [WorkerOutbound.fields, version, List.forall_mem_cons, List.not_mem_nil] at hfields
      obtain ⟨hv, hparent, hproposed, hproposer, htitle, hdescription, hrole, -⟩ := hfields
      simp [WorkerOutbound.tag, readU8_of_written hv, getStr_of_written hparent, getStr_of_written hproposed,
        getStr_of_written hproposer, getStr_of_written htitle, getStr_of_written hdescription,
        readOption_of_written hrole]
  | subtaskDone v parentId childId artifactPath reviewRound =>
      simp only [WorkerOutbound.fields, version, List.forall_mem_cons, List.not_mem_nil] at hfields
      obtain ⟨hv, hparent, hchild, hpath, hround, -⟩ := hfields
      simp [WorkerOutbound.tag, readU8_of_written hv, getStr_of_written hparent, getStr_of_written hchild,
        getStr_of_written hpath, readU32_of_written hround]
  | directive v fromAgentId body inResponseToTask =>
      simp only [WorkerOutbound.fields, version, List.forall_mem_cons, List.not_mem_nil] at hfields
      obtain ⟨hv, hfrom, hbody, htask, -⟩ := hfields
      simp [WorkerOutbound.tag, readU8_of_written hv, getStr_of_written hfrom, getStr_of_written hbody,
        readOption_of_written htask]
  | proximityTick v roomId members =>
      simp only [WorkerOutbound.fields, version, List.forall_mem_cons, List.not_mem_nil] at hfields
      obtain ⟨hv, hroom, hmembers, -⟩ := hfields
      simp [WorkerOutbound.tag, readU8_of_written hv, getStr_of_written hroom, readVec_of_written hmembers]
  | chatReceived v fromAgentId body roomId =>
      simp only [WorkerOutbound.fields, version, List.forall_mem_cons, List.not_mem_nil] at hfields
      obtain ⟨hv, hfrom, hbody, hroom, -⟩ := hfields
      simp [WorkerOutbound.tag, readU8_of_written hv, getStr_of_written hfrom, getStr_of_written hbody,
        getStr_of_written hroom]
  | moveComplete v roomId =>
      simp only [WorkerOutbound.fields, version, List.forall_mem_cons, List.not_mem_nil] at hfields
      obtain ⟨hv, hroom, -⟩ := hfields
      simp [WorkerOutbound.tag, readU8_of_written hv, getStr_of_written hroom]
  | moveFailed v reason =>
      simp only [WorkerOutbound.fields, version, List.forall_mem_cons, List.not_mem_nil] at hfields
      obtain ⟨hv, hreason, -⟩ := hfields
      simp [WorkerOutbound.tag, readU8_of_written hv, getStr_of_written hreason]
  | budgetWarning v remainingUsd percentUsed =>
      simp only [WorkerOutbound.fields, version, List.forall_mem_cons, List.not_mem_nil] at hfields
      obtain ⟨hv, hremaining, hpercent, -⟩ := hfields
      simp [WorkerOutbound.tag, readU8_of_written hv, readF64_of_written hremaining,
        readU32_of_written hpercent]
  | pause v reason =>
      simp only [WorkerOutbound.fields, version, List.forall_mem_cons, List.not_mem_nil] at hfields
      obtain ⟨hv, hreason, -⟩ := hfields
      simp [WorkerOutbound.tag, readU8_of_written hv, getStr_of_written hreason]
  | shutdown => rfl

/-- The keys of what is written are different. -/
theorem nodup_keys (m : WorkerOutbound) : (("type" :: m.fields.map Prod.fst)).Nodup := by
  cases m <;> simp [WorkerOutbound.fields, version]

/-- **What is written is read back**, with all that it says. -/
theorem conveys_toJson (m : WorkerOutbound) : Conveys m.toJson m := by
  refine conveys_of_written rfl fun f hf => .inl (Json.get_of_mem (nodup_keys m) ?_)
  exact List.mem_cons_of_mem _ hf

end Cliptown.Worker
