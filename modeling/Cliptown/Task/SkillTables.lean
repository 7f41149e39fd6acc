import Cliptown.Lib.Table
import Mathlib.Data.Int.Order.Basic

/-!
# The tables of the skills

* `Skill`, `SkillFile`, `SkillRevision` — the rows.
* `SkillTables` — the four tables, with the foreign keys between them.
* `updateSkill`, `insertSkill`, `deleteSkill`, `insertRevision`, … — the statements on them.
-/

namespace Cliptown.Task

open Cliptown.Lib

/-- A row of `skills`; its id is the key. Source: `migrations/0002_skills.sql`, `0008` -/
structure Skill where
  startupId : String
  name : String
  contentMd : String
  isGlobal : Bool
  createdAt : ℤ
  updatedAt : ℤ
  deriving DecidableEq, Repr

/-- A row of `skill_files`. Source: `migrations/0006_skill_files.sql` -/
structure SkillFile where
  skillId : String
  name : String
  content : String
  createdAt : ℤ
  updatedAt : ℤ
  deriving DecidableEq, Repr

/-- A row of `skill_revisions`. Source: `migrations/0007_skill_revisions.sql` -/
structure SkillRevision where
  skillId : String
  revSeq : ℤ
  contentMd : String
  createdAt : ℤ
  createdByAgentId : Option String
  createdByOperatorId : Option String
  deriving DecidableEq, Repr

/-- The tables; `attachments` is `agent_skills`, from an agent and a skill to the time of attachment. -/
structure SkillTables where
  skills : Table String Skill
  files : Table String SkillFile
  revisions : Table String SkillRevision
  attachments : Table (String × String) ℤ
  fileRefs : ∀ id f, files.lookup id = some f → (skills.lookup f.skillId).isSome
  revisionRefs : ∀ id r, revisions.lookup id = some r → (skills.lookup r.skillId).isSome
  attachmentRefs : ∀ key at', attachments.lookup key = some at' → (skills.lookup key.2).isSome

namespace SkillTables

variable (t : SkillTables) {id : String}

/-- No skills. -/
def empty : SkillTables where
  skills := ∅
  files := ∅
  revisions := ∅
  attachments := ∅
  fileRefs := by simp
  revisionRefs := by simp
  attachmentRefs := by simp

/-- The startup that a skill belongs to. -/
def ownerOf (skillId : String) : Option String :=
  (t.skills.lookup skillId).map Skill.startupId

theorem ownerOf_eq_some_iff {skillId startupId : String} :
    t.ownerOf skillId = some startupId ↔
      ∃ skill, t.skills.lookup skillId = some skill ∧ skill.startupId = startupId :=
  Option.map_eq_some_iff

/-! ### Skills -/

/-- `UPDATE skills SET … WHERE id = ?`. -/
def updateSkill (id : String) (f : Skill → Skill) : SkillTables :=
  have hkeep : ∀ k, (t.skills.lookup k).isSome → ((t.skills.modify id f).lookup k).isSome := by
    intro k hk
    rw [Table.lookup_modify]
    split <;> simpa using hk
  { t with
    skills := t.skills.modify id f
    fileRefs := fun i x h => hkeep _ (t.fileRefs i x h)
    revisionRefs := fun i x h => hkeep _ (t.revisionRefs i x h)
    attachmentRefs := fun i x h => hkeep _ (t.attachmentRefs i x h) }

/-- `INSERT INTO skills`: fails on a key that is taken, or a name that is taken in the startup. -/
def insertSkill (id : String) (skill : Skill) : Option SkillTables :=
  if t.skills.lookup id = none ∧ ∀ e ∈ t.skills.entries, e.2.startupId = skill.startupId →
      e.2.name ≠ skill.name then
    have hkeep : ∀ k, (t.skills.lookup k).isSome →
        (AList.lookup k (t.skills.insert id skill)).isSome := by
      intro k hk
      rw [Table.lookup_insert_eq]
      split
      · rfl
      · exact hk
    some { t with
      skills := t.skills.insert id skill
      fileRefs := fun i x h => hkeep _ (t.fileRefs i x h)
      revisionRefs := fun i x h => hkeep _ (t.revisionRefs i x h)
      attachmentRefs := fun i x h => hkeep _ (t.attachmentRefs i x h) }
  else none

/-- `DELETE FROM skills WHERE id = ?`: the rows that refer to the skill go with it. -/
def deleteSkill (id : String) : SkillTables :=
  have hkeep : ∀ k, k ≠ id → (t.skills.lookup k).isSome →
      (AList.lookup k (t.skills.erase id)).isSome := by
    intro k hk h
    rwa [Table.lookup_erase_eq, if_neg hk]
  { skills := t.skills.erase id
    files := t.files.deleteWhere fun _ f => decide (f.skillId = id)
    revisions := t.revisions.deleteWhere fun _ r => decide (r.skillId = id)
    attachments := t.attachments.deleteWhere fun key _ => decide (key.2 = id)
    fileRefs := by
      intro i x h
      obtain ⟨hx, hne⟩ := Table.of_lookup_deleteWhere h
      exact hkeep _ (by simpa using hne) (t.fileRefs i x hx)
    revisionRefs := by
      intro i x h
      obtain ⟨hx, hne⟩ := Table.of_lookup_deleteWhere h
      exact hkeep _ (by simpa using hne) (t.revisionRefs i x hx)
    attachmentRefs := by
      intro i x h
      obtain ⟨hx, hne⟩ := Table.of_lookup_deleteWhere h
      exact hkeep _ (by simpa using hne) (t.attachmentRefs i x hx) }

/-! ### Revisions -/

/-- `SELECT COALESCE(MAX(rev_seq), 0) + 1 FROM skill_revisions WHERE skill_id = ?`. -/
def nextSeq (skillId : String) : ℤ :=
  ((t.revisions.entries.filter fun e => e.2.skillId = skillId).foldl
    (fun m e => max m e.2.revSeq) 0) + 1

/-- `INSERT INTO skill_revisions`: fails on a key or a number that is taken, or an unknown skill. -/
def insertRevision (id : String) (r : SkillRevision) : Option SkillTables :=
  if h : t.revisions.lookup id = none ∧ (t.skills.lookup r.skillId).isSome ∧
      ∀ e ∈ t.revisions.entries, e.2.skillId = r.skillId → e.2.revSeq ≠ r.revSeq then
    some { t with
      revisions := t.revisions.insert id r
      revisionRefs := by
        intro i x hx
        rw [Table.lookup_insert_eq] at hx
        split at hx
        · exact Option.some.inj hx ▸ h.2.1
        · exact t.revisionRefs i x hx }
  else none

/-- An operator is deleted: `ON DELETE SET NULL`. -/
def disown (operatorId : String) : SkillTables :=
  { t with
    revisions := t.revisions.update (fun _ r => decide (r.createdByOperatorId = some operatorId))
      fun r => { r with createdByOperatorId := none }
    revisionRefs := by
      intro i x hx
      rw [Table.lookup_update] at hx
      obtain ⟨r, hr, rfl⟩ := Option.map_eq_some_iff.mp hx
      have hsame : (if decide (r.createdByOperatorId = some operatorId) then
          { r with createdByOperatorId := none } else r).skillId = r.skillId := by
        split <;> rfl
      rw [hsame]
      exact t.revisionRefs i r hr }

/-! ### Files -/

/-- The file of a skill with a name. -/
def findFile (skillId name : String) : Option String :=
  (t.files.entries.find? fun e => e.2.skillId = skillId ∧ e.2.name = name).map Sigma.fst

/-- `UPDATE skill_files SET content = ?, … WHERE id = ?`. -/
def updateFile (id content : String) (now : ℤ) : SkillTables :=
  { t with
    files := t.files.modify id fun f => { f with content := content, updatedAt := now }
    fileRefs := by
      intro i x hx
      rw [Table.lookup_modify] at hx
      split at hx
      · obtain ⟨f, hf, rfl⟩ := Option.map_eq_some_iff.mp hx
        exact t.fileRefs i f hf
      · exact t.fileRefs i x hx }

/-- `INSERT INTO skill_files`: fails on a key or a name that is taken, or an unknown skill. -/
def insertFile (id : String) (f : SkillFile) : Option SkillTables :=
  if h : t.files.lookup id = none ∧ (t.skills.lookup f.skillId).isSome ∧
      t.findFile f.skillId f.name = none then
    some { t with
      files := t.files.insert id f
      fileRefs := by
        intro i x hx
        rw [Table.lookup_insert_eq] at hx
        split at hx
        · exact Option.some.inj hx ▸ h.2.1
        · exact t.fileRefs i x hx }
  else none

/-- `DELETE FROM skill_files WHERE skill_id = ? AND name = ?`. -/
def deleteFile (skillId name : String) : SkillTables :=
  { t with
    files := t.files.deleteWhere fun _ f => decide (f.skillId = skillId ∧ f.name = name)
    fileRefs := fun i x h => t.fileRefs i x (Table.of_lookup_deleteWhere h).1 }

/-! ### Attachments -/

/-- `INSERT INTO agent_skills … ON CONFLICT DO NOTHING`: fails on an unknown skill. -/
def attach (agentId skillId : String) (now : ℤ) : Option SkillTables :=
  if h : (t.skills.lookup skillId).isSome then
    if (t.attachments.lookup (agentId, skillId)).isSome then some t
    else
      some { t with
        attachments := t.attachments.insert (agentId, skillId) now
        attachmentRefs := by
          intro i x hx
          rw [Table.lookup_insert_eq] at hx
          split at hx
          · rename_i heq
            rwa [heq]
          · exact t.attachmentRefs i x hx }
  else none

/-- `DELETE FROM agent_skills WHERE agent_id = ? AND skill_id = ?`. -/
def detach (agentId skillId : String) : SkillTables :=
  { t with
    attachments := t.attachments.erase (agentId, skillId)
    attachmentRefs := by
      intro i x hx
      rw [Table.lookup_erase_eq] at hx
      split at hx
      · exact absurd hx (by simp)
      · exact t.attachmentRefs i x hx }

/-! ### What granted inserts do -/

section Inserts

variable {t} {t' : SkillTables}

theorem insertSkill_eq_some {skill : Skill} (h : t.insertSkill id skill = some t') :
    t.skills.lookup id = none ∧ t'.skills = t.skills.insert id skill ∧ t'.files = t.files ∧
      t'.revisions = t.revisions ∧ t'.attachments = t.attachments := by
  unfold insertSkill at h
  split at h
  · rename_i hnew
    obtain rfl := Option.some.inj h
    exact ⟨hnew.1, rfl, rfl, rfl, rfl⟩
  · exact absurd h (by simp)

theorem insertRevision_eq_some {r : SkillRevision} (h : t.insertRevision id r = some t') :
    t.revisions.lookup id = none ∧ t'.revisions = t.revisions.insert id r ∧ t'.skills = t.skills ∧
      t'.files = t.files ∧ t'.attachments = t.attachments := by
  unfold insertRevision at h
  split at h
  · rename_i hnew
    obtain rfl := Option.some.inj h
    exact ⟨hnew.1, rfl, rfl, rfl, rfl⟩
  · exact absurd h (by simp)

theorem insertFile_eq_some {f : SkillFile} (h : t.insertFile id f = some t') :
    t.files.lookup id = none ∧ t'.files = t.files.insert id f ∧ t'.skills = t.skills ∧
      t'.revisions = t.revisions ∧ t'.attachments = t.attachments := by
  unfold insertFile at h
  split at h
  · rename_i hnew
    obtain rfl := Option.some.inj h
    exact ⟨hnew.1, rfl, rfl, rfl, rfl⟩
  · exact absurd h (by simp)

theorem attach_eq_some {agentId skillId : String} {now : ℤ}
    (h : t.attach agentId skillId now = some t') :
    t'.skills = t.skills ∧ t'.files = t.files ∧ t'.revisions = t.revisions ∧
      (t'.attachments = t.attachments ∨ (t.attachments.lookup (agentId, skillId) = none ∧
        t'.attachments = t.attachments.insert (agentId, skillId) now)) := by
  unfold attach at h
  split at h
  · split at h
    · obtain rfl := Option.some.inj h
      exact ⟨rfl, rfl, rfl, .inl rfl⟩
    · rename_i hnone
      obtain rfl := Option.some.inj h
      exact ⟨rfl, rfl, rfl, .inr ⟨by simpa using hnone, rfl⟩⟩
  · exact absurd h (by simp)

/-- Who has which skill after an attachment. -/
theorem isSome_attach {agentId skillId : String} {now : ℤ} (h : t.attach agentId skillId now = some t')
    (key : String × String) :
    (t'.attachments.lookup key).isSome ↔ key = (agentId, skillId) ∨ (t.attachments.lookup key).isSome := by
  unfold attach at h
  split at h
  · split at h
    · rename_i hsome
      obtain rfl := Option.some.inj h
      exact ⟨.inr, fun hkey => hkey.elim (fun heq => heq ▸ hsome) id⟩
    · obtain rfl := Option.some.inj h
      rw [Table.lookup_insert_eq]
      split <;> simp_all
  · exact absurd h (by simp)

/-- Who has which skill after a detachment. -/
theorem isSome_detach {agentId skillId : String} (key : String × String) :
    ((t.detach agentId skillId).attachments.lookup key).isSome ↔
      key ≠ (agentId, skillId) ∧ (t.attachments.lookup key).isSome := by
  change (AList.lookup key (t.attachments.erase (agentId, skillId))).isSome ↔ _
  rw [Table.lookup_erase_eq]
  split <;> simp_all

end Inserts

end SkillTables

end Cliptown.Task
