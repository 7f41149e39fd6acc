import Cliptown.Task.State

/-!
# Skills

The functions on the tables of the skills. Each takes the startup on whose behalf it is called, and
refuses a skill or an agent of another one.

* `nameIsValid`, `fileNameIsValid` — the names that are taken.
* `upsertWithAuthor`, `revertToRevision` — the text of a skill, with its revisions.
* `attachSkill`, `detachSkill`, `deleteSkill`, `setGlobal` — which agents have which skills.
* `upsertFile`, `deleteFile` — the files of a skill.
-/

namespace Cliptown.Task

open Cliptown.Lib

/-- Source: `skills.rs` `MAX_CONTENT_LEN` -/
def maxContentLen : ℕ := 64 * 1024

/-- Source: `skills.rs` `MAX_NAME_LEN` -/
def maxNameLen : ℕ := 64

/-- Source: `skills.rs` `name_is_valid` -/
def nameIsValid (name : String) : Bool :=
  name ≠ "" ∧ name.utf8ByteSize ≤ maxNameLen ∧
    name.toList.all fun c => c.isAlphanum ∨ c = '_' ∨ c = '-'

/-- Source: `skills.rs` `file_name_is_valid` -/
def fileNameIsValid (name : String) : Bool :=
  name ≠ "" ∧ name.utf8ByteSize ≤ 128 ∧ name ≠ "." ∧ ¬ ['.', '.'] <:+: name.toList ∧
    name.toList.all fun c => c.isAlphanum ∨ c = '-' ∨ c = '_' ∨ c = '.'

/-- Source: `skills.rs` `SkillError` -/
inductive SkillError where
  | badName
  | oversizeContent
  | notFound
  | crossStartup
  | sql (detail : String)
  deriving DecidableEq, Repr

/-- The derived `Debug` text. -/
def SkillError.debug : SkillError → String
  | badName => "BadName"
  | oversizeContent => "OversizeContent"
  | notFound => "NotFound"
  | crossStartup => "CrossStartup"
  | sql detail => "Sql(" ++ detail.quote ++ ")"

/-- Who writes a revision. Source: `skills.rs` `Author` -/
inductive Author where
  | agent (id : String)
  | operator (id : String)
  deriving DecidableEq, Repr

section Operations

variable (cfg : Config) (env : Env) (db : Db) (startupId : String)

/-- The skill is there and belongs to the startup. -/
def checkSkill (skillId : String) : Except SkillError Unit := do
  let skill ← require (db.skills.skills.lookup skillId) .notFound
  ensure (skill.startupId = startupId) .crossStartup

/-- The agent is there and belongs to the startup. -/
def checkSkillAgent (agentId : String) : Except SkillError Unit := do
  let agent ← require (db.agents.lookup agentId) .notFound
  ensure (agent.startupId = startupId) .crossStartup

/-- Other tables of the skills. -/
def setSkills (skills : SkillTables) : Db :=
  { db with skills }

/-- The author of a revision exists. -/
def authorExists : Author → Bool
  | .agent id => (db.agents.lookup id).isSome
  | .operator id => (db.operators.lookup id).isSome

/-- The row of a new revision. -/
def revisionRow (skillId contentMd : String) (author : Author) : SkillRevision where
  skillId := skillId
  revSeq := db.skills.nextSeq skillId
  contentMd := contentMd
  createdAt := env.now
  createdByAgentId := match author with | .agent id => some id | .operator _ => none
  createdByOperatorId := match author with | .agent _ => none | .operator id => some id

/-- Number the new text of a skill. The callers keep the text when this fails, as it does for an author
that is in no table. Source: `skills.rs` `append_revision` -/
def appendRevision (skillId contentMd : String) (author : Author) : Db :=
  if authorExists db author then
    match db.skills.insertRevision env.newId (revisionRow env db skillId contentMd author) with
    | some skills => setSkills db skills
    | none => db
  else db

/-- The skill of the startup with a name. -/
def findSkill (name : String) : Option String :=
  (db.skills.skills.entries.find? fun e => e.2.startupId = startupId ∧ e.2.name = name).map Sigma.fst

/-- The new text of a skill. -/
def writeContent (skillId contentMd : String) : Db :=
  setSkills db (db.skills.updateSkill skillId fun skill => { skill with
    contentMd, updatedAt := env.now })

/-- `INSERT INTO skills`, which also fails on an unknown startup. -/
def insertSkill (name contentMd : String) : Option Db :=
  if (db.startups.lookup startupId).isSome then
    (db.skills.insertSkill env.newId { startupId, name, contentMd, isGlobal := false
                                       createdAt := env.now, updatedAt := env.now }).map (setSkills db)
  else none

/-- The id of the skill, and whether it is new. Source: `skills.rs` `upsert_with_author` -/
def upsertWithAuthor (name contentMd : String) (author : Author) :
    Except SkillError ((String × Bool) × Db) := do
  ensure (nameIsValid name) .badName
  ensure (contentMd.utf8ByteSize ≤ maxContentLen) .oversizeContent
  match findSkill db startupId name with
  | some id => return ((id, false), appendRevision env (writeContent env db id contentMd) id contentMd author)
  | none => do
      let db ← require (insertSkill env db startupId name contentMd) (.sql cfg.sqlText)
      return ((env.newId, true), appendRevision env db env.newId contentMd author)

/-- The text of a revision. -/
def revisionContent (skillId : String) (revSeq : ℤ) : Option String :=
  (db.skills.revisions.entries.find? fun e => e.2.skillId = skillId ∧ e.2.revSeq = revSeq).map
    fun e => e.2.contentMd

/-- Source: `skills.rs` `revert_to_revision` -/
def revertToRevision (skillId : String) (revSeq : ℤ) (author : Author) :
    Except SkillError (String × Db) := do
  checkSkill db startupId skillId
  let contentMd ← require (revisionContent db skillId revSeq) .notFound
  return (contentMd, appendRevision env (writeContent env db skillId contentMd) skillId contentMd author)

/-- Source: `skills.rs` `attach` -/
def attachSkill (agentId skillId : String) : Except SkillError Db := do
  checkSkill db startupId skillId
  checkSkillAgent db startupId agentId
  let skills ← require (db.skills.attach agentId skillId env.now) (.sql cfg.sqlText)
  return setSkills db skills

/-- Source: `skills.rs` `detach` -/
def detachSkill (agentId skillId : String) : Except SkillError Db := do
  checkSkill db startupId skillId
  checkSkillAgent db startupId agentId
  return setSkills db (db.skills.detach agentId skillId)

/-- Source: `skills.rs` `delete` -/
def deleteSkill (skillId : String) : Except SkillError Db := do
  checkSkill db startupId skillId
  return setSkills db (db.skills.deleteSkill skillId)

/-- Source: `skills.rs` `set_global` -/
def setGlobal (skillId : String) (isGlobal : Bool) : Except SkillError Db := do
  let _ ← require (db.skills.skills.lookup skillId) .notFound
  return setSkills db (db.skills.updateSkill skillId fun skill => { skill with
    isGlobal, updatedAt := env.now })

/-- The id of the file. Source: `skills.rs` `upsert_file` -/
def upsertFile (skillId name content : String) : Except SkillError (String × Db) := do
  ensure (fileNameIsValid name) .badName
  ensure (content.utf8ByteSize ≤ maxContentLen) .oversizeContent
  checkSkill db startupId skillId
  match db.skills.findFile skillId name with
  | some id => return (id, setSkills db (db.skills.updateFile id content env.now))
  | none => do
      let skills ← require (db.skills.insertFile env.newId
        { skillId, name, content, createdAt := env.now, updatedAt := env.now }) (.sql cfg.sqlText)
      return (env.newId, setSkills db skills)

/-- Source: `skills.rs` `delete_file` -/
def deleteFile (skillId fileName : String) : Except SkillError Db := do
  checkSkill db startupId skillId
  let _ ← require (db.skills.findFile skillId fileName) .notFound
  return setSkills db (db.skills.deleteFile skillId fileName)

end Operations

end Cliptown.Task
