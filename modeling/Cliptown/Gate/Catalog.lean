import Cliptown.Task.Running

/-!
# The catalogue of tools

The tools that are announced over HTTP, with schemas that are written by hand beside the handlers.

* `Tool`, `toolCatalog`, `handleToolsList` — what is announced.
* `insistsOn` — the arguments without which a tool refuses; `callTool_insistsOn`.
* `catalog_agrees` — the names in the catalogue are those that the dispatcher knows, and a call without an argument that
  the catalogue requires is refused and changes nothing.
* `not_announced` — the arguments on which a tool insists although the catalogue does not require them.
-/

namespace Cliptown.Gate

open Cliptown.Lib Cliptown.Task Cliptown.World

/-! ### What is announced -/

/-- A tool with its schema, which may say nothing of properties. Source: `mcp_http.rs` `handle_tools_list`, `tool` -/
structure Tool where
  name : String
  description : String
  required : Option (List String)
  properties : Option (List (String × Json))

/-- The schema of a value of some type. -/
def ofType (type : String) : Json :=
  .obj [("type", .str type)]

/-- The schema of a value that may be `null`. -/
def nullable (type : String) : Json :=
  .obj [("type", .arr [.str type, .str "null"])]

/-- The schema of a number within bounds. -/
def bounded (type : String) (bounds : List (String × Json)) : Json :=
  .obj (("type", .str type) :: bounds)

/-- Source: `mcp_http.rs` `handle_tools_list` -/
def Tool.inputSchema (t : Tool) : Json :=
  .obj (("type", .str "object") :: ((t.required.map fun names => ("required", Json.arr (names.map .str))).toList ++
    (t.properties.map fun ps => ("properties", Json.obj ps)).toList))

/-- Source: `mcp_http.rs` `handle_tools_list` -/
def Tool.toJson (t : Tool) : Json :=
  .obj [("name", .str t.name), ("description", .str t.description), ("inputSchema", t.inputSchema)]

/-- Source: `mcp_http.rs` `handle_tools_list` -/
def toolCatalog : List Tool :=
  [⟨"move_intent", "Walk the caller toward a target room (and optional tile).",
    none, some [("target_room", ofType "string"), ("target_tile", ofType "object")]⟩,
   ⟨"speak", "Emit a chat or directive message visible to room peers.",
    some ["body"], some [("body", ofType "string"), ("kind", ofType "string")]⟩,
   ⟨"task_done", "Submit a completed task with the canonical artifact path.",
    some ["task_id", "artifact_path"], some [("task_id", ofType "string"), ("artifact_path", ofType "string")]⟩,
   ⟨"task_failed", "Report a task as failed with a reason.",
    some ["task_id", "reason"], some [("task_id", ofType "string"), ("reason", ofType "string")]⟩,
   ⟨"subtask_create", "Create a subtask under the caller's current task.",
    none,
    some [("title", ofType "string"), ("description", ofType "string"), ("assignee_agent_id", ofType "string")]⟩,
   ⟨"task_accept", "Manager accepts a completed task.",
    some ["task_id"], none⟩,
   ⟨"task_request_changes", "Manager requests changes on a submitted task.",
    some ["task_id"], some [("task_id", ofType "string"), ("reason", ofType "string")]⟩,
   ⟨"accept_proposal", "Accept a peer-proposed subtask.",
    some ["task_id"], none⟩,
   ⟨"reject_proposal", "Reject a peer-proposed subtask.",
    some ["task_id"], none⟩,
   ⟨"hypothesis_state", "Append an epistemic hypothesis to the task log.",
    none, none⟩,
   ⟨"test_record", "Append an epistemic test record to the task log.",
    none, none⟩,
   ⟨"hypothesis_resolve", "Resolve an open hypothesis in the task log.",
    none, none⟩,
   ⟨"verify", "Run a verifier (read_assert, lint_json, etc.) against an artifact.",
    none, none⟩,
   ⟨"ask_peer", "Ask a same-room peer a question (Phase 0 stub).",
    none, none⟩,
   ⟨"observe_world", "Snapshot the caller's room context.",
    none, none⟩,
   ⟨"read_artifact", "Read an artifact path inside the caller's sandbox.",
    none, none⟩,
   ⟨"skill_upsert", "Author or update a workspace-scoped markdown skill.",
    some ["name", "content_md"], some [("name", ofType "string"), ("content_md", ofType "string")]⟩,
   ⟨"skill_list", "List skills in the caller's startup (metadata only, no content).",
    none, some []⟩,
   ⟨"skill_attach", "Attach a skill to an agent in the caller's startup.",
    some ["agent_id", "skill_id"], some [("agent_id", ofType "string"), ("skill_id", ofType "string")]⟩,
   ⟨"skill_detach", "Detach a skill from an agent. Idempotent.",
    some ["agent_id", "skill_id"], some [("agent_id", ofType "string"), ("skill_id", ofType "string")]⟩,
   ⟨"skill_delete", "Delete a skill. Cascades to all attachments.",
    some ["skill_id"], some [("skill_id", ofType "string")]⟩,
   ⟨"skill_file_upsert",
    "Upsert a text file attached to a skill. Materializes at `<workdir>/skills/<skill-name>/<name>`.",
    some ["skill_id", "name", "content"],
    some [("skill_id", ofType "string"), ("name", ofType "string"), ("content", ofType "string")]⟩,
   ⟨"skill_file_delete", "Delete a single file attached to a skill (by file name). Idempotent.",
    some ["skill_id", "name"], some [("skill_id", ofType "string"), ("name", ofType "string")]⟩,
   ⟨"skill_list_revisions",
    "List historical revisions of a skill, newest first. Caller must own the skill's startup.",
    some ["skill_id"],
    some [("skill_id", ofType "string"), ("limit", bounded "integer" [("minimum", .int 1), ("maximum", .int 100)])]⟩,
   ⟨"task_set_blocking",
    "Set per-task blocking dependency + deadline. Manager-or-assignee only; null clears either field. " ++
      "Editing deadline clears the overdue dedup so the new boundary fires fresh.",
    some ["task_id"],
    some [("task_id", ofType "string"), ("blocked_on", nullable "string"), ("deadline_at", nullable "integer")]⟩,
   ⟨"skill_revert",
    "Revert a skill's content_md to a previous revision (by rev_seq). Appends a new revision pointing at " ++
      "the historical content; history stays linear.",
    some ["skill_id", "rev_seq"],
    some [("skill_id", ofType "string"), ("rev_seq", bounded "integer" [("minimum", .int 1)])]⟩,
   ⟨"task_set_preference",
    "Set per-task model routing override (preferred_backend / preferred_model). Manager-or-assignee only; " ++
      "null clears.",
    some ["task_id"],
    some [("task_id", ofType "string"), ("preferred_backend", nullable "string"),
      ("preferred_model", nullable "string")]⟩,
   ⟨"task_steal",
    "Claim a queued task currently assigned to an idle peer. Caller must be idle, in the same startup, " ++
      "share the assignee's role, and not be the current assignee.",
    some ["task_id"], some [("task_id", ofType "string")]⟩,
   ⟨"self_review",
    "Run the pre-submit self-review pipeline on this task's artifact. Returns \x7bok, " ++
      "must_fix:[\x7bcheck,severity,message\x7d]\x7d. Severity 'error' blocks task_done; 'warn' is " ++
      "informational.",
    some ["task_id", "artifact_path"], some [("task_id", ofType "string"), ("artifact_path", ofType "string")]⟩,
   ⟨"run_tests",
    "Run the task's test suite inside the per-task workdir. Optional `command` (e.g. 'pnpm test', 'cargo " ++
      "test --quiet') overrides auto-detect. Returns \x7bexit_code, stdout_tail, stderr_tail, timed_out, " ++
      "elapsed_ms\x7d.",
    some ["task_id"],
    some [("task_id", ofType "string"), ("command", ofType "string"),
      ("timeout_secs", bounded "integer" [("minimum", .int 1), ("maximum", .int 600)])]⟩,
   ⟨"lint_artifact",
    "Lint the task's artifact. Dispatches by extension: .ts/.tsx → tsc --noEmit, .rs → cargo check, .md → " ++
      "markdown lint (deferred stub), .json → JSON parse.",
    some ["task_id", "artifact_path"], some [("task_id", ofType "string"), ("artifact_path", ofType "string")]⟩,
   ⟨"read_artifact_diff",
    "Git diff of the artifact against a base ref (defaults to HEAD). Runs inside the per-task workdir. " ++
      "Returns the same \x7bexit_code, stdout_tail, …\x7d shape as run_tests.",
    some ["task_id", "artifact_path"],
    some [("task_id", ofType "string"), ("artifact_path", ofType "string"), ("base_ref", ofType "string")]⟩]

/-- Source: `mcp_http.rs` `handle_tools_list` -/
def handleToolsList : Json :=
  .obj [("tools", .arr (toolCatalog.map Tool.toJson))]

/-! ### What the handlers check -/

/-- The arguments without which a tool refuses, whoever calls it. -/
def insistsOn : String → List String
  | "speak" => ["body"]
  | "task_done" | "self_review" | "lint_artifact" | "read_artifact_diff" => ["task_id", "artifact_path"]
  | "subtask_create" => ["parent_id"]
  | "task_request_changes" => ["task_id", "feedback"]
  | "accept_proposal" => ["task_id", "assignee_agent_id"]
  | "task_failed" | "task_accept" | "reject_proposal" | "hypothesis_state" | "test_record" | "hypothesis_resolve"
  | "task_set_preference" | "task_set_blocking" | "task_steal" | "run_tests" => ["task_id"]
  | "skill_upsert" => ["name", "content_md"]
  | "skill_attach" | "skill_detach" => ["agent_id", "skill_id"]
  | "skill_delete" => ["skill_id"]
  | "skill_file_upsert" => ["skill_id", "name", "content"]
  | "skill_file_delete" => ["skill_id", "name"]
  | "skill_revert" => ["skill_id", "rev_seq"]
  | _ => []

/-- A handler refuses the arguments. -/
def BadArgs {α : Type} (r : Except McpError α) : Prop :=
  ∃ message, r = .error ("bad_args", message)

section Checks

variable {cfg : Config} {env : Env} {s : LoopState} {caller : AvatarView} {args : Json} {key : String} {α : Type}

/-- The argument is missing. -/
theorem badArgs_missing {f : String → Except McpError α} (h : args.get key = none) :
    BadArgs (requireStr args key >>= f) := by
  refine ⟨key ++ " required", ?_⟩
  unfold requireStr Json.getStr
  rw [h]
  rfl

/-- The argument is missing, or what follows refuses. -/
theorem badArgs_rest {f : String → Except McpError α} (h : ∀ v, BadArgs (f v)) :
    BadArgs (requireStr args key >>= f) := by
  cases hget : args.getStr key with
  | none =>
    refine ⟨key ++ " required", ?_⟩
    unfold requireStr
    rw [hget]
    rfl
  | some v =>
    obtain ⟨message, hv⟩ := h v
    refine ⟨message, ?_⟩
    unfold requireStr
    rw [hget]
    exact hv

/-- A refusal of a check is a refusal of what it begins. -/
theorem badArgs_bind {β : Type} {x : Except McpError β} {f : β → Except McpError α} (h : BadArgs x) :
    BadArgs (x >>= f) := by
  obtain ⟨message, rfl⟩ := h
  exact ⟨message, rfl⟩

/-- A handler that refuses leaves the state as it was. -/
theorem settle_badArgs {r : Except McpError (Json × LoopState)} (h : BadArgs r) :
    ∃ message, settle s r = (.error ("bad_args", message), s) := by
  obtain ⟨message, rfl⟩ := h
  exact ⟨message, rfl⟩

/-- One argument. -/
theorem badArgs_one {f : String → Except McpError α} {first : String} (h : key ∈ [first])
    (hmissing : args.get key = none) : BadArgs (requireStr args first >>= f) := by
  obtain rfl := List.mem_singleton.mp h
  exact badArgs_missing hmissing

/-- An argument and others after it. -/
theorem badArgs_cons {f : String → Except McpError α} {first : String} {rest : List String}
    (h : key ∈ first :: rest) (hmissing : args.get key = none)
    (hrest : ∀ v, key ∈ rest → BadArgs (f v)) : BadArgs (requireStr args first >>= f) := by
  rcases List.mem_cons.mp h with rfl | h
  · exact badArgs_missing hmissing
  · exact badArgs_rest fun v => hrest v h

/-- Two arguments. -/
theorem badArgs_two {f : String → String → Except McpError α} {first second : String}
    (h : key ∈ [first, second]) (hmissing : args.get key = none) :
    BadArgs (do let a ← requireStr args first; let b ← requireStr args second; f a b) :=
  badArgs_cons h hmissing fun _ h => badArgs_one h hmissing

/-- One of several arguments that are only looked for. -/
theorem badArgs_forM {keys : List String} (h : key ∈ keys) (hmissing : args.get key = none) :
    BadArgs (keys.forM fun key => do let _ ← requireStr args key) := by
  induction keys with
  | nil => exact absurd h List.not_mem_nil
  | cons first keys ih =>
    rw [List.forM]
    rcases List.mem_cons.mp h with rfl | h
    · exact badArgs_bind (badArgs_missing hmissing)
    · obtain ⟨message, hrest⟩ := ih h
      rw [bind_assoc]
      exact badArgs_rest fun v => ⟨message, hrest⟩

/-- A tool that runs a command. -/
theorem badArgs_handleCommand {tool : String} {keys : List String} (h : key ∈ "task_id" :: keys)
    (hmissing : args.get key = none) : BadArgs (handleCommand env s caller args tool keys) :=
  badArgs_cons h hmissing fun _ h => badArgs_bind (badArgs_forM h hmissing)

/-- The tool whose second argument is a number. -/
theorem badArgs_handleSkillRevert (h : key ∈ ["skill_id", "rev_seq"]) (hmissing : args.get key = none) :
    BadArgs (handleSkillRevert env s caller args) := by
  refine badArgs_cons h hmissing fun _ h => badArgs_bind ?_
  obtain rfl := List.mem_singleton.mp h
  rw [hmissing]
  exact ⟨_, rfl⟩

variable (cfg) in
/-- The tool that answers with its state. -/
theorem handleTaskDone_badArgs (h : key ∈ ["task_id", "artifact_path"]) (hmissing : args.get key = none) :
    ∃ message, handleTaskDone cfg env s caller args = (.error ("bad_args", message), s) := by
  have hchecks : BadArgs (taskDoneChecks env s caller args) := badArgs_two h hmissing
  obtain ⟨message, hmessage⟩ := hchecks
  refine ⟨message, ?_⟩
  unfold handleTaskDone
  rw [hmessage]

variable (cfg env s caller) in
/-- **A tool refuses without an argument on which it insists**, and nothing has changed then. -/
theorem callTool_insistsOn {tool : String} (h : key ∈ insistsOn tool) (hmissing : args.get key = none) :
    ∃ message, callTool cfg env s caller args tool = (.error ("bad_args", message), s) := by
  unfold insistsOn at h
  split at h
  · exact settle_badArgs (badArgs_one h hmissing)
  · exact handleTaskDone_badArgs cfg h hmissing
  · exact settle_badArgs (badArgs_two h hmissing)
  · exact settle_badArgs (badArgs_handleCommand h hmissing)
  · exact settle_badArgs (badArgs_handleCommand h hmissing)
  · exact settle_badArgs (badArgs_one h hmissing)
  · exact settle_badArgs (badArgs_two h hmissing)
  · exact settle_badArgs (badArgs_two h hmissing)
  · exact settle_badArgs (badArgs_one h hmissing)
  · exact settle_badArgs (badArgs_one h hmissing)
  · exact settle_badArgs (badArgs_one h hmissing)
  · exact settle_badArgs (badArgs_one h hmissing)
  · exact settle_badArgs (badArgs_one h hmissing)
  · exact settle_badArgs (badArgs_one h hmissing)
  · exact settle_badArgs (badArgs_one h hmissing)
  · exact settle_badArgs (badArgs_one h hmissing)
  · exact settle_badArgs (badArgs_one h hmissing)
  · exact settle_badArgs (badArgs_handleCommand h hmissing)
  · exact settle_badArgs (badArgs_two h hmissing)
  · exact settle_badArgs (badArgs_two h hmissing)
  · exact settle_badArgs (badArgs_two h hmissing)
  · exact settle_badArgs (badArgs_one h hmissing)
  · exact settle_badArgs (badArgs_cons h hmissing fun _ h => badArgs_two h hmissing)
  · exact settle_badArgs (badArgs_two h hmissing)
  · exact settle_badArgs (badArgs_handleSkillRevert h hmissing)
  · exact absurd h List.not_mem_nil

end Checks

/-! ### The catalogue and the handlers -/

/-- The dispatcher has no handler of this name. -/
def Unhandled (name : String) : Prop :=
  ∀ cfg env s caller args, callTool cfg env s caller args name =
    (.error ("unknown_tool", "no handler for tool: " ++ name), s)

/-- The arguments that a tool should be given, as it is announced. -/
def Tool.requiredKeys (t : Tool) : List String :=
  t.required.getD []

theorem mem_catalog_of_mem_otherTools : ∀ name ∈ otherTools, name ∈ toolCatalog.map Tool.name := by
  decide

/-- What is not in the catalogue has no handler. -/
theorem unhandled_of_notMem {name : String} (h : name ∉ toolCatalog.map Tool.name) : Unhandled name := by
  intro cfg env s caller args
  have hother : name ∉ otherTools := fun hmem => h (mem_catalog_of_mem_otherTools name hmem)
  unfold callTool
  split
  -- the names of handlers are all in the catalogue
  rotate_right
  · exact if_neg hother
  all_goals exact absurd (by decide) h

/-- An engineer in the lobby. -/
def sampleCaller : AvatarView :=
  ⟨"a-2", "s-1", "engineer", (0, 0), none, "lobby", .idle⟩

/-- What a call of the engineer without arguments comes to. -/
noncomputable def bareCall (name : String) : HandlerResult × LoopState :=
  callTool sampleConfig (sampleEnv 0 "m") sampleStartup.state sampleCaller .null name

theorem not_unhandled_of_bareCall {name : String} {r : HandlerResult} {s : LoopState} (h : bareCall name = (r, s))
    (hne : ∀ message, r ≠ .error ("unknown_tool", message)) : ¬ Unhandled name := by
  intro hun
  have hrefused := h.symm.trans (hun sampleConfig (sampleEnv 0 "m") sampleStartup.state sampleCaller .null)
  exact hne _ (Prod.mk.inj hrefused).1

/-- A tool that insists on an argument has a handler. -/
theorem not_unhandled_of_insistsOn {name key : String} (h : key ∈ insistsOn name) : ¬ Unhandled name := by
  have hmissing : Json.null.get key = none := rfl
  obtain ⟨message, hbad⟩ := callTool_insistsOn sampleConfig (sampleEnv 0 "m") sampleStartup.state
    sampleCaller h hmissing
  exact not_unhandled_of_bareCall hbad fun _ => by simp

/-- A tool that only reads has a handler. -/
theorem not_unhandled_of_otherTools {name : String} (h : name ∈ otherTools) : ¬ Unhandled name := by
  refine not_unhandled_of_bareCall (r := .ok .null) (s := sampleStartup.state) ?_ fun _ => by simp
  simp only [otherTools, List.mem_cons, List.not_mem_nil, or_false] at h
  rcases h with rfl | rfl | rfl | rfl | rfl
  all_goals rfl

/-- What is in the catalogue reads only, insists on an argument, or is one of two tools that do neither. -/
theorem catalog_cases : ∀ name ∈ toolCatalog.map Tool.name,
    name ∈ otherTools ∨ insistsOn name ≠ [] ∨ name = "move_intent" ∨ name = "ask_peer" := by
  decide

/-- What is in the catalogue has a handler. -/
theorem not_unhandled_of_mem {name : String} (h : name ∈ toolCatalog.map Tool.name) : ¬ Unhandled name := by
  rcases catalog_cases name h with hother | hinsists | rfl | rfl
  · exact not_unhandled_of_otherTools hother
  · obtain ⟨key, hkey⟩ := List.exists_mem_of_ne_nil _ hinsists
    exact not_unhandled_of_insistsOn hkey
  · refine not_unhandled_of_bareCall (r := .error ("bad_args", "must provide target_room or target_tile"))
      (s := sampleStartup.state) rfl fun _ => by simp
  · exact not_unhandled_of_bareCall (r := .ok (.obj [("response", .null)])) rfl fun _ => by simp

/-- What the catalogue requires is what the handlers insist on, with one exception. -/
theorem insistsOn_of_required : ∀ tool ∈ toolCatalog, tool.name ∉ otherTools → ∀ key ∈ tool.requiredKeys,
    (tool.name, key) ≠ ("task_failed", "reason") → key ∈ insistsOn tool.name := by
  decide

/-- **The catalogue and the dispatcher agree**: the names in the catalogue are those for which there is a handler; and
of a tool that does more than read, a call without an argument that the catalogue requires is refused and changes
nothing, except that a task may fail without a reason. -/
theorem catalog_agrees :
    (∀ name, name ∈ toolCatalog.map Tool.name ↔ ¬ Unhandled name) ∧
    ∀ tool ∈ toolCatalog, tool.name ∉ otherTools → ∀ key ∈ tool.requiredKeys,
      (tool.name, key) ≠ ("task_failed", "reason") → ∀ cfg env s caller args, args.get key = none →
        ∃ message, callTool cfg env s caller args tool.name = (.error ("bad_args", message), s) := by
  refine ⟨fun name => ⟨not_unhandled_of_mem, fun h => ?_⟩, ?_⟩
  · by_contra hnot
    exact h (unhandled_of_notMem hnot)
  · intro tool htool hother key hkey hne cfg env s caller args hmissing
    exact callTool_insistsOn cfg env s caller (insistsOn_of_required tool htool hother key hkey hne) hmissing

/-- A task may fail without a reason: it is as if the reason were empty. -/
theorem task_failed_without_reason {cfg : Config} {env : Env} {s : LoopState} {caller : AvatarView}
    {fields : List (String × Json)} (h : (Json.obj fields).get "reason" = none) :
    callTool cfg env s caller (.obj fields) "task_failed" =
      callTool cfg env s caller (.obj (fields ++ [("reason", .str "")])) "task_failed" := by
  have hfind : fields.find? (fun f => f.1 = "reason") = none := by
    simpa [Json.get] using h
  have htask : (Json.obj (fields ++ [("reason", .str "")])).getStr "task_id" =
      (Json.obj fields).getStr "task_id" := by
    simp [Json.getStr, Json.get]
  have hreason : ((Json.obj (fields ++ [("reason", .str "")])).getStr "reason").getD "" =
      ((Json.obj fields).getStr "reason").getD "" := by
    simp [Json.getStr, Json.get, List.find?_append, hfind, Json.asStr]
  change settle s (handleTaskFailed env s caller _) = settle s (handleTaskFailed env s caller _)
  unfold handleTaskFailed requireStr
  rw [htask, hreason]

/-- The arguments on which handlers insist although the catalogue does not require them. -/
theorem not_announced :
    (toolCatalog.flatMap fun tool => ((insistsOn tool.name).filter (· ∉ tool.requiredKeys)).map (tool.name, ·)) =
      [("subtask_create", "parent_id"), ("task_request_changes", "feedback"),
        ("accept_proposal", "assignee_agent_id"), ("hypothesis_state", "task_id"), ("test_record", "task_id"),
        ("hypothesis_resolve", "task_id")] := by
  decide

end Cliptown.Gate
