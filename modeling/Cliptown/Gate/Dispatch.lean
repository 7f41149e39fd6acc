import Cliptown.Budget.Outbound

/-!
# What a worker tells the world

* `WorkerInbound` — the messages of the protocol; `fieldNames`, `WorkerInbound.ofFields`, `WorkerInbound.ofJson` —
  how a JSON value is read as one.
* `dispatchWorker` — what the world loop does with a message.
* `LoopMessage.SentBy` — the messages of the loop that come from one agent.
* `dispatchWorker_cases` — a message changes nothing, or it is one such message of the loop.
-/

namespace Cliptown.Gate

open Cliptown.Lib Cliptown.Task Cliptown.Town Cliptown.World Cliptown.Console Cliptown.Worker Cliptown.Budget

/-! ### Messages -/

/-- Source: `ws_messages.rs` `WorkerInbound` -/
inductive WorkerInbound where
  | hello (v : UInt8) (agentId startupId secret : String)
  | mcpCall (v : UInt8) (corrId tool : String) (args : Json)
  | reportBudget (v : UInt8) (report : Report)
  | reportFsOp (v : UInt8) (op path : String) (bytes : ℤ) (ok : Bool) (error : Option String)
  | cliSessionStarted (v : UInt8) (taskId : Option String) (promptHash : String)
  | cliSessionEnded (v : UInt8) (taskId : Option String) (exitCode : ℤ) (summary : Option String)
  | taskProgress (v : UInt8) (taskId note : String)
  | moveIntent (v : UInt8) (targetRoom : String) (target : Tile)

section Read

variable (frame : Json) (key : String)

/-- A number in 64 bits without sign. -/
def readU64 : Option UInt64 :=
  match frame.get key with
  | some (.int n) => if 0 ≤ n ∧ n < 18446744073709551616 then some (UInt64.ofNat n.toNat) else none
  | _ => none

/-- A number in 64 bits with sign. -/
def readI64 : Option ℤ :=
  (frame.get key).bind Json.asI64

/-- A number in 32 bits with sign. -/
def readI32 : Option ℤ :=
  (readI64 frame key).filter fun n => -2147483648 ≤ n ∧ n < 2147483648

/-- A boolean. -/
def readBool : Option Bool :=
  (frame.get key).bind Json.asBool

/-- An optional number may be absent, or `null`. -/
def readOptionF64 : Option (Option ℚ) :=
  match frame.get key with
  | none | some .null => some none
  | some _ => (readF64 frame key).map some

end Read

/-- The fields of a variant, in the order of their declaration. Source: `ws_messages.rs` `WorkerInbound` -/
def fieldNames : String → List String
  | "hello" => ["v", "agent_id", "startup_id", "secret"]
  | "mcp_call" => ["v", "corr_id", "tool", "args"]
  | "report_budget" => ["v", "in_tokens", "out_tokens", "model_id", "task_id", "cost_usd"]
  | "report_fs_op" => ["v", "op", "path", "bytes", "ok", "error"]
  | "cli_session_started" => ["v", "task_id", "prompt_hash"]
  | "cli_session_ended" => ["v", "task_id", "exit_code", "summary"]
  | "task_progress" => ["v", "task_id", "note"]
  | "move_intent" => ["v", "target_room", "target_x", "target_y"]
  | _ => []

/-- How many fields of a variant may be missing at the end of a list of values. Source: `#[serde(default)]` -/
def defaults : String → ℕ
  | "report_budget" => 1
  | _ => 0

namespace WorkerInbound

/-- A message from the fields of its variant. -/
def ofFields (tag : String) (m : Json) : Option WorkerInbound :=
  match tag with
  | "hello" => do
      return .hello (← readU8 m "v") (← m.getStr "agent_id") (← m.getStr "startup_id") (← m.getStr "secret")
  | "mcp_call" => do
      return .mcpCall (← readU8 m "v") (← m.getStr "corr_id") (← m.getStr "tool") (← m.get "args")
  | "report_budget" => do
      return .reportBudget (← readU8 m "v")
        { inTokens := ← readU64 m "in_tokens", outTokens := ← readU64 m "out_tokens"
          modelId := ← m.getStr "model_id", taskId := ← readOption m "task_id"
          costUsd := ← readOptionF64 m "cost_usd" }
  | "report_fs_op" => do
      return .reportFsOp (← readU8 m "v") (← m.getStr "op") (← m.getStr "path") (← readI64 m "bytes")
        (← readBool m "ok") (← readOption m "error")
  | "cli_session_started" => do
      return .cliSessionStarted (← readU8 m "v") (← readOption m "task_id") (← m.getStr "prompt_hash")
  | "cli_session_ended" => do
      return .cliSessionEnded (← readU8 m "v") (← readOption m "task_id") (← readI32 m "exit_code")
        (← readOption m "summary")
  | "task_progress" => do return .taskProgress (← readU8 m "v") (← m.getStr "task_id") (← m.getStr "note")
  | "move_intent" => do
      return .moveIntent (← readU8 m "v") (← m.getStr "target_room")
        (← readI32 m "target_x", ← readI32 m "target_y")
  | _ => none

/-- An object holds the tag among its fields; a list starts with it, and the values of the fields follow.
Source: `serde_json::from_value`, for `tag = "type", rename_all = "snake_case"` -/
def ofJson (msg : Json) : Option WorkerInbound :=
  match msg with
  | .arr (.str tag :: values) =>
      let names := fieldNames tag
      if values.length ≤ names.length ∧ names.length ≤ values.length + defaults tag then
        ofFields tag (.obj (names.zip values))
      else none
  | _ => (msg.getStr "type").bind fun tag => ofFields tag msg

end WorkerInbound

/-! ### Dispatch -/

/-- A reply that names what has been done. -/
def okReply (kind : String) : Json :=
  .obj [("type", .str "ok"), ("kind", .str kind)]

/-- A message of an agent. `parseText` is the text of the error of a value that is no message. Source:
`cmd_worker.rs` `dispatch` -/
def dispatchWorker (cfg : Config) (parseText : Json → String) (env : Env) (st : BudgetState) (agentId : String)
    (msg : Json) : Json × BudgetState :=
  if msg.getStr "type" = some "mcp_call" then
    let (reply, s) := dispatchMcp cfg env st.loop agentId msg
    (reply, { st with loop := s })
  else
    match WorkerInbound.ofJson msg with
    | none => (.obj [("type", .str "error"), ("reason", .str "parse"), ("detail", .str (parseText msg))], st)
    | some (.hello ..) => (okReply "hello", st)
    | some (.reportBudget _ report) => reportBudget env st agentId report
    | some (.moveIntent _ targetRoom target) =>
        let (reply, s) := moveIntent cfg env st.loop agentId targetRoom target
        (reply, { st with loop := s })
    | some _ => (okReply "stub", st)

/-- What an agent can ask of the loop: a call of a tool, a report, or a move. -/
inductive LoopMessage.SentBy (agentId : String) : LoopMessage → Prop
  | call (env : Env) (msg : Json) : SentBy agentId (.request (.mcp env agentId msg))
  | report (env : Env) (r : Report) : SentBy agentId (.budget (.report ⟨env, agentId, r⟩))
  | move (env : Env) (targetRoom : String) (target : Tile) :
      SentBy agentId (.moveIntent env agentId targetRoom target)

/-- **A message changes nothing, or it is one thing that its sender asks of the loop.** -/
theorem dispatchWorker_cases (cfg : Config) (parseText : Json → String) (env : Env) (st : BudgetState)
    (agentId : String) (msg : Json) :
    (dispatchWorker cfg parseText env st agentId msg).2 = st ∨
      ∃ l, LoopMessage.SentBy agentId l ∧
        (dispatchWorker cfg parseText env st agentId msg).2 = l.apply cfg st := by
  unfold dispatchWorker
  split
  · exact .inr ⟨_, .call env msg, rfl⟩
  · split
    · exact .inl rfl
    · exact .inl rfl
    · exact .inr ⟨_, .report env _, rfl⟩
    · exact .inr ⟨_, .move env _ _, rfl⟩
    · exact .inl rfl

end Cliptown.Gate
