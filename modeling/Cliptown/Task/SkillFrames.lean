import Cliptown.Task.RevisionLog
import Mathlib.Data.List.Dedup
import Mathlib.Data.Finset.Dedup

/-!
# What a console is told about skills

A console gets a listing of all skills when it connects, and a frame for each change after that.

* `SkillWithAttachments`, `listWithAttachments`, `listAllWithAttachments` — the listing of the server.
* `SkillChanged`, `SkillOp.run` — the frame that each operation sends.
* `SkillVM`, `coerceSkill`, `SkillReplica` — what the console keeps, and how it takes the listing and the frames.
* `Shown` — what is compared of a skill; `shownIn`, `SkillReplica.shown`, `Db.shown` — for a listing, for a console,
  and for the tables, with `shownIn_listAllWithAttachments` to connect the first to the last.
-/

namespace Cliptown.Task

open Cliptown.Lib Cliptown.World

/-! ### The listing -/

/-- Source: `skills.rs` `SkillWithAttachments` -/
structure SkillWithAttachments where
  id : String
  name : String
  len : ℕ
  updatedAt : ℤ
  attachments : List String
  isGlobal : Bool
  deriving DecidableEq, Repr

/-- `length(…)` of a text: the characters before the first null character. -/
def sqlLength (text : String) : ℕ :=
  (text.toList.takeWhile fun c => c ≠ '\x00').length

/-- `SELECT agent_id FROM agent_skills WHERE skill_id = ? ORDER BY agent_id`. -/
def SkillTables.attachmentsOf (t : SkillTables) (skillId : String) : List String :=
  ((t.attachments.entries.filter fun e => e.1.2 = skillId).map fun e => e.1.1).mergeSort
    fun a b => decide (a ≤ b)

/-- The row of a skill in the listing. -/
def SkillTables.listRow (t : SkillTables) (id : String) (skill : Skill) : SkillWithAttachments where
  id := id
  name := skill.name
  len := sqlLength skill.contentMd
  updatedAt := skill.updatedAt
  attachments := t.attachmentsOf id
  isGlobal := skill.isGlobal

/-- Source: `skills.rs` `list_with_attachments` -/
def listWithAttachments (db : Db) (startupId : String) : List SkillWithAttachments :=
  ((db.skills.skills.entries.filter fun e => e.2.startupId = startupId).map fun e =>
    db.skills.listRow e.1 e.2).mergeSort fun a b => decide (a.name ≤ b.name)

/-- Source: `skills.rs` `list_all_with_attachments` -/
def listAllWithAttachments (db : Db) : List (String × List SkillWithAttachments) :=
  (db.skills.skills.entries.map fun e => e.2.startupId).dedup.map fun startupId =>
    (startupId, listWithAttachments db startupId)

/-- Source: `skills.rs` `skill_with_attachments_to_json` -/
def skillWithAttachmentsToJson (s : SkillWithAttachments) : Json :=
  .obj [("id", .str s.id), ("name", .str s.name), ("len", .int s.len), ("updated_at", .int s.updatedAt),
    ("attachments", .arr (s.attachments.map .str)), ("is_global", .bool s.isGlobal)]

/-- The `startups` of the first frame. Source: `http.rs` `handle_console`, the skills -/
def skillsSnapshot (db : Db) : Json :=
  .obj ((listAllWithAttachments db).map fun (startupId, rows) =>
    (startupId, .arr (rows.map skillWithAttachmentsToJson)))

/-! ### The frames -/

/-- Source: `ws_messages.rs` `ConsoleOutbound::SkillChanged` -/
structure SkillChanged where
  startupId : String
  kind : String
  skillId : String
  agentId : Option String
  skill : Option Json

/-- An operation on skills. -/
inductive SkillOp where
  | edit (e : SkillEdit)
  | delete (startupId skillId : String)
  | attach (env : Env) (startupId agentId skillId : String)
  | detach (startupId agentId skillId : String)
  | setGlobal (env : Env) (skillId : String) (isGlobal : Bool)
  | upsertFile (env : Env) (startupId skillId name content : String)
  | deleteFile (startupId skillId name : String)

/-- The frame after an edit: only that of an upsert by an agent has the row of the listing. -/
def SkillEdit.frame (db : Db) (skillId : String) : SkillEdit → SkillChanged
  | .upsert _ startupId _ _ (.agent _) =>
      { startupId, kind := "upsert", skillId, agentId := none
        skill := ((listWithAttachments db startupId).find? fun s => s.id = skillId).map
          skillWithAttachmentsToJson }
  | .upsert _ startupId _ _ (.operator _) =>
      { startupId, kind := "upsert", skillId, agentId := none, skill := none }
  | .revert _ startupId _ _ _ => { startupId, kind := "revert", skillId, agentId := none, skill := none }

/-- The database and the frame after an operation. Source: `mcp_dispatch.rs` `handle_skill_upsert`,
`handle_skill_attach`, …; `cmd_console.rs` `dispatch`, `SkillUpsertOperator`, `SkillAttach`, … -/
def SkillOp.run (cfg : Config) (db : Db) : SkillOp → Except SkillError (Db × SkillChanged)
  | edit e => do
      let (id, db) ← e.run cfg db
      return (db, e.frame db id)
  | delete startupId skillId => do
      let db ← deleteSkill db startupId skillId
      return (db, { startupId, kind := "delete", skillId, agentId := none, skill := none })
  | attach env startupId agentId skillId => do
      let db ← attachSkill cfg env db startupId agentId skillId
      return (db, { startupId, kind := "attach", skillId, agentId := some agentId, skill := none })
  | detach startupId agentId skillId => do
      let db ← detachSkill db startupId agentId skillId
      return (db, { startupId, kind := "detach", skillId, agentId := some agentId, skill := none })
  | setGlobal env skillId isGlobal => do
      let db ← Task.setGlobal env db skillId isGlobal
      return (db, { startupId := (db.skills.ownerOf skillId).getD ""
                    kind := if isGlobal then "set_global" else "clear_global"
                    skillId, agentId := none, skill := none })
  | upsertFile env startupId skillId name content => do
      let (_, db) ← Task.upsertFile cfg env db startupId skillId name content
      return (db, { startupId, kind := "file_upsert", skillId, agentId := none, skill := none })
  | deleteFile startupId skillId name => do
      let db ← Task.deleteFile db startupId skillId name
      return (db, { startupId, kind := "file_delete", skillId, agentId := none, skill := none })

/-! ### The console -/

/-- Source: `store.ts` `SkillVM` -/
structure SkillVM where
  id : String
  name : String
  len : ℚ
  updatedAt : ℚ
  attachments : List String
  isGlobal : Bool
  deriving DecidableEq

/-- Source: `store.ts` `SkillRevisionVM` -/
structure SkillRevisionVM where
  id : String
  skillId : String
  revSeq : ℚ
  contentMd : String
  createdAt : ℚ
  createdByAgentId : Option String
  createdByOperatorId : Option String
  deriving DecidableEq

/-- The value of a number. -/
def jsonNumber : Json → Option ℚ
  | .int n => some n
  | .float q => some q
  | _ => none

/-- The items of an array. -/
def jsonItems : Json → Option (List Json)
  | .arr items => some items
  | _ => none

/-- `typeof v === "object" && v !== null`. -/
def jsonIsObject : Json → Bool
  | .obj _ | .arr _ => true
  | _ => false

/-- Source: `store.ts` `coerceSkill` -/
def coerceSkill (a : Json) : SkillVM where
  id := (a.getStr "id").getD ""
  name := (a.getStr "name").getD ""
  len := ((a.get "len").bind jsonNumber).getD 0
  updatedAt := ((a.get "updated_at").bind jsonNumber).getD 0
  attachments := (((a.get "attachments").bind jsonItems).getD []).filterMap Json.asStr
  isGlobal := (a.get "is_global").bind Json.asBool = some true

/-- Source: `store.ts` `WorldState.skills`, `WorldState.skillRevisions` -/
structure SkillReplica where
  skills : Table String (Table String SkillVM)
  skillRevisions : Table String (List SkillRevisionVM)

/-- The skills of one startup in the first frame; the last row of an id wins. -/
def takeRows (rows : List Json) : Table String SkillVM :=
  Table.ofList (((rows.filter jsonIsObject).map coerceSkill).filterMap fun skill =>
    if skill.id ≠ "" then some (skill.id, skill) else none)

/-- Source: `store.ts` `reducer`, `skills_snapshot` -/
def SkillReplica.takeSnapshot (r : SkillReplica) (startups : Json) : SkillReplica where
  skills := match startups with
    | .obj fields => Table.ofList (fields.filterMap fun (startupId, v) =>
        (jsonItems v).map fun rows => (startupId, takeRows rows))
    | _ => ∅
  skillRevisions := r.skillRevisions

/-- What a frame asks for. -/
inductive SkillUpdate where
  | put (skill : SkillVM)
  | drop
  | attach (agentId : String)
  | detach (agentId : String)
  | nothing

/-- The branches of the reducer; a row that is no object and an empty agent id count as absent. -/
def SkillChanged.update (m : SkillChanged) : SkillUpdate :=
  match m.kind, m.skill.filter jsonIsObject, m.agentId.filter (· ≠ "") with
  | "upsert", some raw, _ => .put (coerceSkill raw)
  | "delete", _, _ => .drop
  | "attach", _, some agentId => .attach agentId
  | "detach", _, some agentId => .detach agentId
  | _, _, _ => .nothing

/-- The skills of one startup after an update; a skill that is not there has no attachments to change. -/
def changeSkills (skillId : String) (inner : Table String SkillVM) : SkillUpdate → Table String SkillVM
  | .put skill => inner.insert skillId skill
  | .drop => inner.erase skillId
  | .attach agentId => inner.modify skillId fun skill =>
      if agentId ∈ skill.attachments then skill
      else { skill with attachments := skill.attachments ++ [agentId] }
  | .detach agentId => inner.modify skillId fun skill =>
      { skill with attachments := skill.attachments.filter (· ≠ agentId) }
  | .nothing => inner

/-- Source: `store.ts` `reducer`, `skill_changed` -/
def SkillReplica.take (r : SkillReplica) (m : SkillChanged) : SkillReplica where
  skills := r.skills.insert m.startupId (changeSkills m.skillId ((r.skills.lookup m.startupId).getD ∅) m.update)
  skillRevisions :=
    if m.kind ∈ ["upsert", "revert", "delete"] ∧ m.skillId ≠ "" then r.skillRevisions.erase m.skillId
    else r.skillRevisions

/-! ### What is compared -/

/-- What is compared of a skill: all but the time of its last change. -/
structure Shown where
  id : String
  name : String
  len : ℚ
  isGlobal : Bool
  attachments : Finset String
  deriving DecidableEq

def SkillVM.shown (s : SkillVM) : Shown :=
  ⟨s.id, s.name, s.len, s.isGlobal, s.attachments.toFinset⟩

def SkillWithAttachments.shown (s : SkillWithAttachments) : Shown :=
  ⟨s.id, s.name, s.len, s.isGlobal, s.attachments.toFinset⟩

/-- A skill of a startup at a console. -/
def SkillReplica.shown (r : SkillReplica) (startupId id : String) : Option Shown :=
  ((r.skills.lookup startupId).bind fun inner => inner.lookup id).map SkillVM.shown

/-- A skill of a startup in a listing. -/
def shownIn (listing : List (String × List SkillWithAttachments)) (startupId id : String) : Option Shown :=
  ((listing.find? fun e => e.1 = startupId).bind fun e => e.2.find? fun s => s.id = id).map
    SkillWithAttachments.shown

/-- A skill of a startup in the tables. -/
def Db.shown (db : Db) (startupId id : String) : Option Shown :=
  ((db.skills.skills.lookup id).filter fun skill => skill.startupId = startupId).map fun skill =>
    (db.skills.listRow id skill).shown

section Listing

variable {db : Db} {startupId id agentId : String}

/-- The agents that have a skill. -/
theorem mem_attachmentsOf (t : SkillTables) :
    agentId ∈ t.attachmentsOf id ↔ (t.attachments.lookup (agentId, id)).isSome := by
  unfold SkillTables.attachmentsOf
  simp only [List.mem_mergeSort, List.mem_map, List.mem_filter, decide_eq_true_eq]
  constructor
  · rintro ⟨e, ⟨he, rfl⟩, rfl⟩
    exact Option.isSome_of_mem (AList.mem_lookup_iff.mpr he)
  · intro h
    obtain ⟨at', hat⟩ := Option.isSome_iff_exists.mp h
    exact ⟨⟨(agentId, id), at'⟩, ⟨AList.mem_lookup_iff.mp hat, rfl⟩, rfl⟩

/-- The rows of the listing of a startup. -/
theorem mem_listWithAttachments {s : SkillWithAttachments} :
    s ∈ listWithAttachments db startupId ↔
      ∃ id skill, db.skills.skills.lookup id = some skill ∧ skill.startupId = startupId ∧
        s = db.skills.listRow id skill := by
  unfold listWithAttachments
  simp only [List.mem_mergeSort, List.mem_map, List.mem_filter, decide_eq_true_eq]
  constructor
  · rintro ⟨e, ⟨he, hstartup⟩, rfl⟩
    exact ⟨e.1, e.2, AList.mem_lookup_iff.mpr he, hstartup, rfl⟩
  · rintro ⟨id, skill, hskill, hstartup, rfl⟩
    exact ⟨⟨id, skill⟩, ⟨AList.mem_lookup_iff.mp hskill, hstartup⟩, rfl⟩

/-- A skill in the listing of its startup. -/
theorem find_listWithAttachments :
    (listWithAttachments db startupId).find? (fun s => s.id = id) =
      ((db.skills.skills.lookup id).filter fun skill => skill.startupId = startupId).map
        (db.skills.listRow id) := by
  rcases hfind : (listWithAttachments db startupId).find? (fun s => s.id = id) with _ | s
  · refine hfind.trans (Eq.symm (Option.map_eq_none_iff.mpr (Option.filter_eq_none_iff.mpr ?_)))
    intro skill hskill hstartup
    have hrow := mem_listWithAttachments.mpr ⟨id, skill, hskill, of_decide_eq_true hstartup, rfl⟩
    exact List.find?_eq_none.mp hfind _ hrow (decide_eq_true rfl)
  · obtain ⟨id', skill, hskill, hstartup, rfl⟩ := mem_listWithAttachments.mp (List.mem_of_find?_eq_some hfind)
    obtain rfl : id' = id := of_decide_eq_true (List.find?_some hfind :)
    rw [hfind, hskill, Option.filter_some, if_pos (decide_eq_true hstartup), Option.map_some]

/-- An entry of the whole listing. -/
theorem mem_listAllWithAttachments {e : String × List SkillWithAttachments} :
    e ∈ listAllWithAttachments db ↔ e.2 = listWithAttachments db e.1 ∧
      ∃ id skill, db.skills.skills.lookup id = some skill ∧ skill.startupId = e.1 := by
  unfold listAllWithAttachments
  simp only [List.mem_map, List.mem_dedup, exists_exists_and_eq_and]
  constructor
  · rintro ⟨row, hrow, rfl⟩
    exact ⟨rfl, row.1, row.2, AList.mem_lookup_iff.mpr hrow, rfl⟩
  · rintro ⟨hrows, id, skill, hskill, hstartup⟩
    refine ⟨⟨id, skill⟩, AList.mem_lookup_iff.mp hskill, ?_⟩
    rw [hstartup, ← hrows]

/-- **The listing** shows what the tables show. -/
theorem shownIn_listAllWithAttachments : shownIn (listAllWithAttachments db) startupId id = db.shown startupId id := by
  unfold shownIn Db.shown
  rcases hfind : (listAllWithAttachments db).find? (fun e => e.1 = startupId) with _ | e
  · -- the startup has no skills
    have hnone : (db.skills.skills.lookup id).filter (fun skill => skill.startupId = startupId) = none := by
      refine Option.filter_eq_none_iff.mpr fun skill hskill hstartup => ?_
      have hentry : (startupId, listWithAttachments db startupId) ∈ listAllWithAttachments db :=
        mem_listAllWithAttachments.mpr ⟨rfl, id, skill, hskill, of_decide_eq_true hstartup⟩
      exact List.find?_eq_none.mp hfind _ hentry (decide_eq_true rfl)
    rw [hfind, hnone]
    rfl
  · obtain rfl : e.1 = startupId := of_decide_eq_true (List.find?_some hfind :)
    obtain ⟨hrows, -⟩ := mem_listAllWithAttachments.mp (List.mem_of_find?_eq_some hfind)
    rw [hfind, Option.bind_some, hrows, find_listWithAttachments, Option.map_map]
    rfl

end Listing

/-! ### Where the operations come from -/

section Handlers

variable {cfg : Config} {env : Env} {s s' : LoopState} {caller : AvatarView} {args v : Json}

theorem handleSkillUpsert_op (h : handleSkillUpsert cfg env s caller args = .ok (v, s')) :
    ∃ name contentMd m, (SkillOp.edit (.upsert env caller.startupId name contentMd (.agent caller.agentId))).run cfg
      s.db = .ok (s'.db, m) := by
  unfold handleSkillUpsert at h
  simp only [bind_eq_ok, mapError_eq_ok, pure_eq_ok, Prod.mk.injEq] at h
  obtain ⟨name, -, contentMd, -, ⟨⟨id, created⟩, db⟩, hdb, -, rfl⟩ := h
  exact ⟨name, contentMd, _, bind_eq_ok.mpr ⟨_, bind_eq_ok.mpr ⟨_, hdb, rfl⟩, rfl⟩⟩

theorem handleSkillRevert_op (h : handleSkillRevert env s caller args = .ok (v, s')) :
    ∃ skillId revSeq m, (SkillOp.edit (.revert env caller.startupId skillId revSeq (.agent caller.agentId))).run cfg
      s.db = .ok (s'.db, m) := by
  unfold handleSkillRevert at h
  simp only [bind_eq_ok, mapError_eq_ok, pure_eq_ok, Prod.mk.injEq] at h
  obtain ⟨skillId, -, revSeq, -, ⟨contentMd, db⟩, hdb, -, rfl⟩ := h
  exact ⟨skillId, revSeq, _, bind_eq_ok.mpr ⟨_, bind_eq_ok.mpr ⟨_, hdb, rfl⟩, rfl⟩⟩

theorem handleSkillAttach_op (h : handleSkillAttach cfg env s caller args = .ok (v, s')) :
    ∃ agentId skillId m, (SkillOp.attach env caller.startupId agentId skillId).run cfg s.db =
      .ok (s'.db, m) := by
  unfold handleSkillAttach at h
  simp only [bind_eq_ok, mapError_eq_ok, pure_eq_ok, Prod.mk.injEq] at h
  obtain ⟨agentId, -, skillId, -, db, hdb, -, rfl⟩ := h
  exact ⟨agentId, skillId, _, bind_eq_ok.mpr ⟨_, hdb, rfl⟩⟩

theorem handleSkillDetach_op (h : handleSkillDetach s caller args = .ok (v, s')) :
    ∃ agentId skillId m, (SkillOp.detach caller.startupId agentId skillId).run cfg s.db =
      .ok (s'.db, m) := by
  unfold handleSkillDetach at h
  simp only [bind_eq_ok, mapError_eq_ok, pure_eq_ok, Prod.mk.injEq] at h
  obtain ⟨agentId, -, skillId, -, db, hdb, -, rfl⟩ := h
  exact ⟨agentId, skillId, _, bind_eq_ok.mpr ⟨_, hdb, rfl⟩⟩

theorem handleSkillDelete_op (h : handleSkillDelete s caller args = .ok (v, s')) :
    ∃ skillId m, (SkillOp.delete caller.startupId skillId).run cfg s.db =
      .ok (s'.db, m) := by
  unfold handleSkillDelete at h
  simp only [bind_eq_ok, mapError_eq_ok, pure_eq_ok, Prod.mk.injEq] at h
  obtain ⟨skillId, -, db, hdb, -, rfl⟩ := h
  exact ⟨skillId, _, bind_eq_ok.mpr ⟨_, hdb, rfl⟩⟩

theorem handleSkillFileUpsert_op (h : handleSkillFileUpsert cfg env s caller args = .ok (v, s')) :
    ∃ skillId name content m, (SkillOp.upsertFile env caller.startupId skillId name content).run cfg s.db =
      .ok (s'.db, m) := by
  unfold handleSkillFileUpsert at h
  simp only [bind_eq_ok, mapError_eq_ok, pure_eq_ok, Prod.mk.injEq] at h
  obtain ⟨skillId, -, name, -, content, -, ⟨id, db⟩, hdb, -, rfl⟩ := h
  exact ⟨skillId, name, content, _, bind_eq_ok.mpr ⟨_, hdb, rfl⟩⟩

theorem handleSkillFileDelete_op (h : handleSkillFileDelete s caller args = .ok (v, s')) :
    ∃ skillId name m, (SkillOp.deleteFile caller.startupId skillId name).run cfg s.db =
      .ok (s'.db, m) := by
  unfold handleSkillFileDelete at h
  simp only [bind_eq_ok, mapError_eq_ok, pure_eq_ok, Prod.mk.injEq] at h
  obtain ⟨skillId, -, name, -, db, hdb, -, rfl⟩ := h
  exact ⟨skillId, name, _, bind_eq_ok.mpr ⟨_, hdb, rfl⟩⟩

variable {identity : OperatorIdentity} {startupId skillId agentId name contentMd : String}

theorem skillAttach_op (h : skillAttach cfg env s identity startupId agentId skillId = .ok (v, s')) :
    ∃ m, (SkillOp.attach env startupId agentId skillId).run cfg s.db = .ok (s'.db, m) := by
  unfold skillAttach at h
  simp only [bind_eq_ok, mapError_eq_ok, pure_eq_ok, Prod.mk.injEq] at h
  obtain ⟨_, -, db, hdb, -, rfl⟩ := h
  exact ⟨_, bind_eq_ok.mpr ⟨_, hdb, rfl⟩⟩

theorem skillDetach_op (h : skillDetach s identity startupId agentId skillId = .ok (v, s')) :
    ∃ m, (SkillOp.detach startupId agentId skillId).run cfg s.db = .ok (s'.db, m) := by
  unfold skillDetach at h
  simp only [bind_eq_ok, mapError_eq_ok, pure_eq_ok, Prod.mk.injEq] at h
  obtain ⟨_, -, db, hdb, -, rfl⟩ := h
  exact ⟨_, bind_eq_ok.mpr ⟨_, hdb, rfl⟩⟩

theorem skillUpsertOperator_op (h : skillUpsertOperator cfg env s identity startupId name contentMd = .ok (v, s')) :
    ∃ m, (SkillOp.edit (.upsert env startupId name contentMd (.operator identity.id))).run cfg s.db =
      .ok (s'.db, m) := by
  unfold skillUpsertOperator at h
  simp only [bind_eq_ok, mapError_eq_ok, pure_eq_ok, Prod.mk.injEq] at h
  obtain ⟨_, -, ⟨⟨id, created⟩, db⟩, hdb, -, rfl⟩ := h
  exact ⟨_, bind_eq_ok.mpr ⟨_, bind_eq_ok.mpr ⟨_, hdb, rfl⟩, rfl⟩⟩

theorem skillDeleteOperator_op (h : skillDeleteOperator s identity startupId skillId = .ok (v, s')) :
    ∃ m, (SkillOp.delete startupId skillId).run cfg s.db = .ok (s'.db, m) := by
  unfold skillDeleteOperator at h
  simp only [bind_eq_ok, mapError_eq_ok, pure_eq_ok, Prod.mk.injEq] at h
  obtain ⟨_, -, db, hdb, -, rfl⟩ := h
  exact ⟨_, bind_eq_ok.mpr ⟨_, hdb, rfl⟩⟩

theorem skillSetGlobal_op {isGlobal : Bool} (h : skillSetGlobal env s identity skillId isGlobal = .ok (v, s')) :
    ∃ m, (SkillOp.setGlobal env skillId isGlobal).run cfg s.db = .ok (s'.db, m) := by
  unfold skillSetGlobal at h
  simp only [bind_eq_ok, mapError_eq_ok, pure_eq_ok, Prod.mk.injEq] at h
  obtain ⟨_, -, db, hdb, -, rfl⟩ := h
  exact ⟨_, bind_eq_ok.mpr ⟨_, hdb, rfl⟩⟩

theorem skillRevertOperator_op {revSeq : ℤ}
    (h : skillRevertOperator env s identity startupId skillId revSeq = .ok (v, s')) :
    ∃ m, (SkillOp.edit (.revert env startupId skillId revSeq (.operator identity.id))).run cfg s.db =
      .ok (s'.db, m) := by
  unfold skillRevertOperator at h
  simp only [bind_eq_ok, mapError_eq_ok, pure_eq_ok, Prod.mk.injEq] at h
  obtain ⟨_, -, ⟨contentMd, db⟩, hdb, -, rfl⟩ := h
  exact ⟨_, bind_eq_ok.mpr ⟨_, bind_eq_ok.mpr ⟨_, hdb, rfl⟩, rfl⟩⟩

end Handlers

end Cliptown.Task
