import Cliptown.Task.Caller
import Cliptown.Task.SkillSteps

/-!
# The tools around skills

The handlers of `mcp_dispatch.rs` that write skills. Each calls a function of `skills.rs` on behalf of
the caller's startup and has its own texts for what that function refuses.

* `handleSkillUpsert`, `handleSkillAttach`, … — the handlers.
* `SkillsOnly` — what they write: the tables of the skills, on behalf of the caller's startup.
-/

namespace Cliptown.Task

open Cliptown.Lib Cliptown.World

section Handlers

variable (cfg : Config) (env : Env) (s : LoopState) (caller : AvatarView) (args : Json)

/-- Source: `mcp_dispatch.rs` `handle_skill_upsert`, the errors -/
def skillUpsertError (name : String) : SkillError → McpError
  | .badName => ("bad_skill_name",
      "name must match [A-Za-z0-9_-]\x7b1,64\x7d; got " ++ name.quote)
  | .oversizeContent =>
      ("skill_content_too_long", "content_md exceeds " ++ toString maxContentLen ++ " bytes")
  | .notFound => ("not_found", "skill row vanished mid-upsert")
  | .crossStartup => ("cross_startup", "caller can't author skill in another startup")
  | .sql e => ("sql", e)

/-- Source: `mcp_dispatch.rs` `handle_skill_upsert` -/
def handleSkillUpsert : Except McpError (Json × LoopState) := do
  let name ← requireStr args "name"
  let contentMd ← requireStr args "content_md"
  let ((id, created), db) ← (upsertWithAuthor cfg env s.db caller.startupId name contentMd
    (.agent caller.agentId)).mapError (skillUpsertError name)
  return (.obj [("id", .str id), ("created", .bool created)], { s with db })

/-- Source: `mcp_dispatch.rs` `handle_skill_attach`, `handle_skill_detach`, the errors -/
def attachmentError : SkillError → McpError
  | .notFound => ("not_found", "agent or skill not found")
  | .crossStartup => ("cross_startup", "agent or skill belongs to another startup")
  | .sql e => ("sql", e)
  | _ => ("sql", "unexpected error")

/-- Source: `mcp_dispatch.rs` `handle_skill_attach` -/
def handleSkillAttach : Except McpError (Json × LoopState) := do
  let agentId ← requireStr args "agent_id"
  let skillId ← requireStr args "skill_id"
  let db ← (attachSkill cfg env s.db caller.startupId agentId skillId).mapError attachmentError
  return (.obj [("ok", .bool true)], { s with db })

/-- Source: `mcp_dispatch.rs` `handle_skill_detach` -/
def handleSkillDetach : Except McpError (Json × LoopState) := do
  let agentId ← requireStr args "agent_id"
  let skillId ← requireStr args "skill_id"
  let db ← (detachSkill s.db caller.startupId agentId skillId).mapError attachmentError
  return (.obj [("ok", .bool true)], { s with db })

/-- Source: `mcp_dispatch.rs` `handle_skill_delete` -/
def handleSkillDelete : Except McpError (Json × LoopState) := do
  let skillId ← requireStr args "skill_id"
  let db ← (deleteSkill s.db caller.startupId skillId).mapError fun
    | .notFound => ("not_found", "no skill: " ++ skillId)
    | .crossStartup => ("cross_startup", "skill belongs to another startup")
    | .sql e => ("sql", e)
    | _ => ("sql", "unexpected error")
  return (.obj [("ok", .bool true)], { s with db })

/-- Source: `mcp_dispatch.rs` `handle_skill_file_upsert` -/
def handleSkillFileUpsert : Except McpError (Json × LoopState) := do
  let skillId ← requireStr args "skill_id"
  let name ← requireStr args "name"
  let content ← requireStr args "content"
  let (id, db) ← (upsertFile cfg env s.db caller.startupId skillId name content).mapError fun
    | .notFound => ("not_found", "skill not found")
    | .crossStartup => ("cross_startup", "skill belongs to another startup")
    | .badName => ("bad_name", "file name contains invalid characters")
    | .oversizeContent => ("content_too_large", "file content exceeds limit")
    | e => ("sql", e.debug)
  return (.obj [("file_id", .str id), ("skill_id", .str skillId), ("name", .str name)], { s with db })

/-- Source: `mcp_dispatch.rs` `handle_skill_file_delete` -/
def handleSkillFileDelete : Except McpError (Json × LoopState) := do
  let skillId ← requireStr args "skill_id"
  let name ← requireStr args "name"
  let db ← (deleteFile s.db caller.startupId skillId name).mapError fun
    | .notFound => ("not_found", "skill or file not found")
    | .crossStartup => ("cross_startup", "skill belongs to another startup")
    | e => ("sql", e.debug)
  return (.obj [("ok", .bool true), ("skill_id", .str skillId), ("name", .str name)], { s with db })

/-- Source: `mcp_dispatch.rs` `handle_skill_revert` -/
def handleSkillRevert : Except McpError (Json × LoopState) := do
  let skillId ← requireStr args "skill_id"
  let revSeq ← require ((args.get "rev_seq").bind Json.asI64) ("bad_args", "rev_seq required")
  let (contentMd, db) ← (revertToRevision env s.db caller.startupId skillId revSeq
    (.agent caller.agentId)).mapError fun
    | .notFound => ("not_found", "skill or revision not found")
    | .crossStartup => ("cross_startup", "skill belongs to another startup")
    | e => ("sql", e.debug)
  return (.obj [("skill_id", .str skillId), ("rev_seq", .int revSeq),
    ("len", .int contentMd.utf8ByteSize)], { s with db })

end Handlers

/-! ### What they write -/

/-- Nothing but the tables of the skills changes. -/
def SkillsOnly (party : Party) (s s' : LoopState) : Prop :=
  ∃ db, SkillSteps party s.db db ∧ s' = { s with db := db }

section Steps

variable {cfg : Config} {env : Env} {s s' : LoopState} {caller : AvatarView} {args v : Json}

theorem handleSkillUpsert_steps
    (h : handleSkillUpsert cfg env s caller args = .ok (v, s')) :
    SkillsOnly (.agent caller.startupId) s s' := by
  unfold handleSkillUpsert at h
  simp only [bind_eq_ok, mapError_eq_ok, pure_eq_ok, Prod.mk.injEq] at h
  obtain ⟨_, -, _, -, ⟨⟨id, created⟩, db⟩, hdb, -, rfl⟩ := h
  exact ⟨db, upsertWithAuthor_steps rfl hdb, rfl⟩

theorem handleSkillAttach_steps
    (h : handleSkillAttach cfg env s caller args = .ok (v, s')) :
    SkillsOnly (.agent caller.startupId) s s' := by
  unfold handleSkillAttach at h
  simp only [bind_eq_ok, mapError_eq_ok, pure_eq_ok, Prod.mk.injEq] at h
  obtain ⟨_, -, _, -, db, hdb, -, rfl⟩ := h
  exact ⟨db, attachSkill_steps rfl hdb, rfl⟩

theorem handleSkillDetach_steps
    (h : handleSkillDetach s caller args = .ok (v, s')) : SkillsOnly (.agent caller.startupId) s s' := by
  unfold handleSkillDetach at h
  simp only [bind_eq_ok, mapError_eq_ok, pure_eq_ok, Prod.mk.injEq] at h
  obtain ⟨_, -, _, -, db, hdb, -, rfl⟩ := h
  exact ⟨db, detachSkill_steps rfl hdb, rfl⟩

theorem handleSkillDelete_steps
    (h : handleSkillDelete s caller args = .ok (v, s')) : SkillsOnly (.agent caller.startupId) s s' := by
  unfold handleSkillDelete at h
  simp only [bind_eq_ok, mapError_eq_ok, pure_eq_ok, Prod.mk.injEq] at h
  obtain ⟨_, -, db, hdb, -, rfl⟩ := h
  exact ⟨db, deleteSkill_steps rfl hdb, rfl⟩

theorem handleSkillFileUpsert_steps
    (h : handleSkillFileUpsert cfg env s caller args = .ok (v, s')) :
    SkillsOnly (.agent caller.startupId) s s' := by
  unfold handleSkillFileUpsert at h
  simp only [bind_eq_ok, mapError_eq_ok, pure_eq_ok, Prod.mk.injEq] at h
  obtain ⟨_, -, _, -, _, -, ⟨id, db⟩, hdb, -, rfl⟩ := h
  exact ⟨db, upsertFile_steps rfl hdb, rfl⟩

theorem handleSkillFileDelete_steps
    (h : handleSkillFileDelete s caller args = .ok (v, s')) : SkillsOnly (.agent caller.startupId) s s' := by
  unfold handleSkillFileDelete at h
  simp only [bind_eq_ok, mapError_eq_ok, pure_eq_ok, Prod.mk.injEq] at h
  obtain ⟨_, -, _, -, db, hdb, -, rfl⟩ := h
  exact ⟨db, deleteFile_steps rfl hdb, rfl⟩

theorem handleSkillRevert_steps
    (h : handleSkillRevert env s caller args = .ok (v, s')) :
    SkillsOnly (.agent caller.startupId) s s' := by
  unfold handleSkillRevert at h
  simp only [bind_eq_ok, mapError_eq_ok, pure_eq_ok, Prod.mk.injEq] at h
  obtain ⟨_, -, _, -, ⟨contentMd, db⟩, hdb, -, rfl⟩ := h
  exact ⟨db, revertToRevision_steps rfl hdb, rfl⟩

end Steps

end Cliptown.Task
