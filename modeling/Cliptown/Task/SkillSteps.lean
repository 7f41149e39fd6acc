import Cliptown.Task.Skills
import Mathlib.Logic.Relation

/-!
# What the functions on skills write

* `Party`, `AtHome` — on whose behalf something is done, and what it may touch.
* `SkillStep` — one statement on the tables of the skills, with what has been checked before it.
* `SkillsWrite`, `AttachmentsWrite` — what is left of the skills, and of the attachments.
* `…_steps` — each function of `skills.rs` that succeeds is a run of such statements.
-/

namespace Cliptown.Task

open Cliptown.Lib Relation

/-- On whose behalf something is done: an agent of a startup, an operator at the console, the admin
endpoint and the registry of the workers, or the scheduler. -/
inductive Party where
  | agent (startupId : String)
  | operator
  | endpoint
  | scheduler

/-- What belongs to a startup may be touched: an agent keeps to its own. -/
def AtHome : Party → String → Prop
  | .agent home, startupId => startupId = home
  | _, _ => True

/-- The skill, if it is there, may be touched. -/
def SkillTables.OwnedBy (t : SkillTables) (party : Party) (skillId : String) : Prop :=
  ∀ skill, t.skills.lookup skillId = some skill → AtHome party skill.startupId

/-- The agent and the skill belong to one startup, which may be touched. -/
def Attachable (party : Party) (db : Db) (agentId skillId : String) : Prop :=
  ∃ agent skill, db.agents.lookup agentId = some agent ∧
    db.skills.skills.lookup skillId = some skill ∧ agent.startupId = skill.startupId ∧
    AtHome party skill.startupId

/-- One statement on the tables of the skills. -/
inductive SkillStep (party : Party) (db : Db) : Db → Prop
  | update {id : String} {f : Skill → Skill} : db.skills.OwnedBy party id →
      (∀ skill, (f skill).startupId = skill.startupId) →
      SkillStep party db (setSkills db (db.skills.updateSkill id f))
  | insert {id : String} {skill : Skill} {t : SkillTables} : AtHome party skill.startupId →
      db.skills.insertSkill id skill = some t → SkillStep party db (setSkills db t)
  | delete {id : String} : db.skills.OwnedBy party id →
      SkillStep party db (setSkills db (db.skills.deleteSkill id))
  | revision {id : String} {r : SkillRevision} {t : SkillTables} :
      db.skills.OwnedBy party r.skillId → db.skills.insertRevision id r = some t →
      SkillStep party db (setSkills db t)
  | updateFile {id content : String} {now : ℤ} :
      (∀ f, db.skills.files.lookup id = some f → db.skills.OwnedBy party f.skillId) →
      SkillStep party db (setSkills db (db.skills.updateFile id content now))
  | insertFile {id : String} {f : SkillFile} {t : SkillTables} : db.skills.OwnedBy party f.skillId →
      db.skills.insertFile id f = some t → SkillStep party db (setSkills db t)
  | deleteFile {skillId name : String} : db.skills.OwnedBy party skillId →
      SkillStep party db (setSkills db (db.skills.deleteFile skillId name))
  | attach {agentId skillId : String} {now : ℤ} {t : SkillTables} :
      Attachable party db agentId skillId → db.skills.attach agentId skillId now = some t →
      SkillStep party db (setSkills db t)
  | detach {agentId skillId : String} : Attachable party db agentId skillId →
      SkillStep party db (setSkills db (db.skills.detach agentId skillId))

/-- Statements one after the other. -/
abbrev SkillSteps (party : Party) : Db → Db → Prop :=
  ReflTransGen (SkillStep party)

/-- Only the tables of the skills change. -/
theorem SkillSteps.eq {party : Party} {db db' : Db} (h : SkillSteps party db db') :
    ∃ t, db' = setSkills db t := by
  induction h with
  | refl => exact ⟨db.skills, rfl⟩
  | tail _ hstep ih =>
      obtain ⟨t, rfl⟩ := ih
      cases hstep <;> exact ⟨_, rfl⟩

/-! ### The tables that a statement writes -/

/-- What a statement leaves of the skills. -/
inductive SkillsWrite (party : Party) (db db' : Db) : Prop
  | kept : db'.skills.skills = db.skills.skills → SkillsWrite party db db'
  | update {id : String} {f : Skill → Skill} : db.skills.OwnedBy party id →
      (∀ skill, (f skill).startupId = skill.startupId) →
      db'.skills.skills = db.skills.skills.modify id f → SkillsWrite party db db'
  | insert {id : String} {skill : Skill} : AtHome party skill.startupId →
      db.skills.skills.lookup id = none → db'.skills.skills = db.skills.skills.insert id skill →
      SkillsWrite party db db'
  | delete {id : String} : db.skills.OwnedBy party id →
      db'.skills.skills = db.skills.skills.erase id → SkillsWrite party db db'

/-- What a statement leaves of the attachments. -/
inductive AttachmentsWrite (party : Party) (db db' : Db) : Prop
  | kept : db'.skills.attachments = db.skills.attachments → AttachmentsWrite party db db'
  | delete {id : String} : db.skills.OwnedBy party id →
      db'.skills.attachments = db.skills.attachments.deleteWhere (fun key _ => decide (key.2 = id)) →
      AttachmentsWrite party db db'
  | attach {agentId skillId : String} {now : ℤ} : Attachable party db agentId skillId →
      db.skills.attachments.lookup (agentId, skillId) = none →
      db'.skills.attachments = db.skills.attachments.insert (agentId, skillId) now →
      AttachmentsWrite party db db'
  | detach {agentId skillId : String} : Attachable party db agentId skillId →
      db'.skills.attachments = db.skills.attachments.erase (agentId, skillId) →
      AttachmentsWrite party db db'

theorem SkillStep.skillsWrite {party : Party} {db db' : Db} (h : SkillStep party db db') :
    SkillsWrite party db db' := by
  cases h with
  | update howned hstartup => exact .update howned hstartup rfl
  | insert hhome ht =>
      obtain ⟨hnone, hskills, -, -, -⟩ := SkillTables.insertSkill_eq_some ht
      exact .insert hhome hnone hskills
  | delete howned => exact .delete howned rfl
  | revision _ ht =>
      obtain ⟨-, -, hskills, -, -⟩ := SkillTables.insertRevision_eq_some ht
      exact .kept hskills
  | insertFile _ ht =>
      obtain ⟨-, -, hskills, -, -⟩ := SkillTables.insertFile_eq_some ht
      exact .kept hskills
  | attach _ ht =>
      obtain ⟨hskills, -, -, -⟩ := SkillTables.attach_eq_some ht
      exact .kept hskills
  | updateFile _ => exact .kept rfl
  | deleteFile _ => exact .kept rfl
  | detach _ => exact .kept rfl

theorem SkillStep.attachmentsWrite {party : Party} {db db' : Db} (h : SkillStep party db db') :
    AttachmentsWrite party db db' := by
  cases h with
  | insert _ ht =>
      obtain ⟨-, -, -, -, hattachments⟩ := SkillTables.insertSkill_eq_some ht
      exact .kept hattachments
  | delete howned => exact .delete howned rfl
  | revision _ ht =>
      obtain ⟨-, -, -, -, hattachments⟩ := SkillTables.insertRevision_eq_some ht
      exact .kept hattachments
  | insertFile _ ht =>
      obtain ⟨-, -, -, -, hattachments⟩ := SkillTables.insertFile_eq_some ht
      exact .kept hattachments
  | attach hattachable ht =>
      obtain ⟨-, -, -, hsame | ⟨hnone, hnew⟩⟩ := SkillTables.attach_eq_some ht
      · exact .kept hsame
      · exact .attach hattachable hnone hnew
  | detach hattachable => exact .detach hattachable rfl
  | update _ _ => exact .kept rfl
  | updateFile _ => exact .kept rfl
  | deleteFile _ => exact .kept rfl

section Operations

variable {cfg : Config} {env : Env} {db db' : Db} {startupId : String} {party : Party}

/-! ### Checks -/

/-- What a checked skill is. -/
theorem checkSkill_eq_ok {skillId : String} {u : Unit} :
    checkSkill db startupId skillId = .ok u ↔
      ∃ skill, db.skills.skills.lookup skillId = some skill ∧ skill.startupId = startupId := by
  unfold checkSkill
  simp only [bind_eq_ok, require_eq_ok, ensure_eq_ok]

/-- What a checked agent is. -/
theorem checkSkillAgent_eq_ok {agentId : String} {u : Unit} :
    checkSkillAgent db startupId agentId = .ok u ↔
      ∃ agent, db.agents.lookup agentId = some agent ∧ agent.startupId = startupId := by
  unfold checkSkillAgent
  simp only [bind_eq_ok, require_eq_ok, ensure_eq_ok]

/-- A checked skill may be touched. -/
theorem ownedBy_of_checkSkill {skillId : String} {u : Unit} (hparty : AtHome party startupId)
    (h : checkSkill db startupId skillId = .ok u) : db.skills.OwnedBy party skillId := by
  obtain ⟨skill, hskill, rfl⟩ := checkSkill_eq_ok.mp h
  intro skill' hskill'
  obtain rfl := Option.some.inj (hskill.symm.trans hskill')
  exact hparty

/-- A checked agent and a checked skill may be attached to each other. -/
theorem attachable_of_checks {agentId skillId : String} {u v : Unit}
    (hparty : AtHome party startupId) (hskill : checkSkill db startupId skillId = .ok u)
    (hagent : checkSkillAgent db startupId agentId = .ok v) :
    Attachable party db agentId skillId := by
  obtain ⟨skill, hskill, hstartup⟩ := checkSkill_eq_ok.mp hskill
  obtain ⟨agent, hagent, hstartup'⟩ := checkSkillAgent_eq_ok.mp hagent
  exact ⟨agent, skill, hagent, hskill, hstartup'.trans hstartup.symm, hstartup ▸ hparty⟩

/-! ### Texts and revisions -/

theorem appendRevision_steps {skillId contentMd : String} {author : Author}
    (h : db.skills.OwnedBy party skillId) :
    SkillSteps party db (appendRevision env db skillId contentMd author) := by
  unfold appendRevision
  split
  · split
    · rename_i t ht
      exact .single (.revision (r := revisionRow env db skillId contentMd author) h ht)
    · exact .refl
  · exact .refl

/-- A new text leaves the skill with its startup. -/
theorem ownedBy_writeContent {skillId contentMd : String} (h : db.skills.OwnedBy party skillId) :
    (writeContent env db skillId contentMd).skills.OwnedBy party skillId := by
  intro skill hskill
  change (db.skills.skills.modify skillId _).lookup skillId = some skill at hskill
  rw [Table.lookup_modify_self] at hskill
  obtain ⟨skill₀, hskill₀, rfl⟩ := Option.map_eq_some_iff.mp hskill
  exact h skill₀ hskill₀

/-- A new text and its revision. -/
theorem writeContent_steps {skillId contentMd : String} {author : Author}
    (h : db.skills.OwnedBy party skillId) :
    SkillSteps party db
      (appendRevision env (writeContent env db skillId contentMd) skillId contentMd author) := by
  have hwrite : SkillStep party db (writeContent env db skillId contentMd) := .update h fun _ => rfl
  exact ReflTransGen.head hwrite (appendRevision_steps (ownedBy_writeContent h))

/-- The skill that is found belongs to the startup. -/
theorem ownedBy_findSkill {name id : String} (hparty : AtHome party startupId)
    (h : findSkill db startupId name = some id) : db.skills.OwnedBy party id := by
  obtain ⟨e, he, rfl⟩ := Option.map_eq_some_iff.mp h
  intro skill hskill
  have hmem : e.2 = skill :=
    Option.some.inj ((AList.mem_lookup_iff.mpr (List.mem_of_find?_eq_some he)).symm.trans hskill)
  have hstartup := List.find?_some he
  simp only [decide_eq_true_eq] at hstartup
  rw [← hmem, hstartup.1]
  exact hparty

/-- A granted insert is one statement, after which the skill is there. -/
theorem insertSkill_step {name contentMd : String} (hparty : AtHome party startupId)
    (h : insertSkill env db startupId name contentMd = some db') :
    SkillStep party db db' ∧ db'.skills.OwnedBy party env.newId := by
  unfold insertSkill at h
  split at h
  · obtain ⟨t, ht, rfl⟩ := Option.map_eq_some_iff.mp h
    refine ⟨.insert hparty ht, ?_⟩
    unfold SkillTables.insertSkill at ht
    split at ht
    · obtain rfl := Option.some.inj ht
      intro skill hskill
      change AList.lookup env.newId (AList.insert env.newId _ db.skills.skills) = some skill at hskill
      rw [AList.lookup_insert] at hskill
      obtain rfl := Option.some.inj hskill
      exact hparty
    · exact absurd ht (by simp)
  · exact absurd h (by simp)

theorem upsertWithAuthor_steps {name contentMd : String} {author : Author} {r : String × Bool}
    (hparty : AtHome party startupId)
    (h : upsertWithAuthor cfg env db startupId name contentMd author = .ok (r, db')) :
    SkillSteps party db db' := by
  unfold upsertWithAuthor at h
  simp only [bind_eq_ok] at h
  obtain ⟨_, -, _, -, h⟩ := h
  split at h
  · rename_i id hid
    obtain ⟨-, rfl⟩ := Prod.mk.inj (pure_eq_ok.mp h)
    exact writeContent_steps (ownedBy_findSkill hparty hid)
  · simp only [bind_eq_ok, require_eq_ok, pure_eq_ok, Prod.mk.injEq] at h
    obtain ⟨db₁, hinsert, -, rfl⟩ := h
    obtain ⟨hstep, howned⟩ := insertSkill_step hparty hinsert
    exact ReflTransGen.head hstep (appendRevision_steps howned)

theorem revertToRevision_steps {skillId contentMd : String} {revSeq : ℤ} {author : Author}
    (hparty : AtHome party startupId)
    (h : revertToRevision env db startupId skillId revSeq author = .ok (contentMd, db')) :
    SkillSteps party db db' := by
  unfold revertToRevision at h
  simp only [bind_eq_ok, pure_eq_ok, Prod.mk.injEq] at h
  obtain ⟨_, hskill, _, -, -, rfl⟩ := h
  exact writeContent_steps (ownedBy_of_checkSkill hparty hskill)

/-! ### Attachments and files -/

theorem attachSkill_steps {agentId skillId : String} (hparty : AtHome party startupId)
    (h : attachSkill cfg env db startupId agentId skillId = .ok db') : SkillSteps party db db' := by
  unfold attachSkill at h
  simp only [bind_eq_ok, require_eq_ok, pure_eq_ok] at h
  obtain ⟨_, hskill, _, hagent, t, ht, rfl⟩ := h
  exact .single (.attach (attachable_of_checks hparty hskill hagent) ht)

theorem detachSkill_steps {agentId skillId : String} (hparty : AtHome party startupId)
    (h : detachSkill db startupId agentId skillId = .ok db') : SkillSteps party db db' := by
  unfold detachSkill at h
  simp only [bind_eq_ok, pure_eq_ok] at h
  obtain ⟨_, hskill, _, hagent, rfl⟩ := h
  exact .single (.detach (attachable_of_checks hparty hskill hagent))

theorem deleteSkill_steps {skillId : String} (hparty : AtHome party startupId)
    (h : deleteSkill db startupId skillId = .ok db') : SkillSteps party db db' := by
  unfold deleteSkill at h
  simp only [bind_eq_ok, pure_eq_ok] at h
  obtain ⟨_, hskill, rfl⟩ := h
  exact .single (.delete (ownedBy_of_checkSkill hparty hskill))

/-- Admins may touch the skills of all startups. -/
theorem setGlobal_steps {skillId : String} {isGlobal : Bool}
    (h : setGlobal env db skillId isGlobal = .ok db') : SkillSteps .operator db db' := by
  unfold setGlobal at h
  simp only [bind_eq_ok, pure_eq_ok] at h
  obtain ⟨_, -, rfl⟩ := h
  exact .single (.update (fun _ _ => trivial) fun _ => rfl)

/-- The file that is found is a file of the skill. -/
theorem skillId_of_findFile {t : SkillTables} {skillId name id : String} {f : SkillFile}
    (h : t.findFile skillId name = some id) (hf : t.files.lookup id = some f) :
    f.skillId = skillId := by
  obtain ⟨e, he, rfl⟩ := Option.map_eq_some_iff.mp h
  have hmem : e.2 = f :=
    Option.some.inj ((AList.mem_lookup_iff.mpr (List.mem_of_find?_eq_some he)).symm.trans hf)
  have hskill := List.find?_some he
  simp only [decide_eq_true_eq] at hskill
  rw [← hmem, hskill.1]

theorem upsertFile_steps {skillId name content id : String} (hparty : AtHome party startupId)
    (h : upsertFile cfg env db startupId skillId name content = .ok (id, db')) :
    SkillSteps party db db' := by
  unfold upsertFile at h
  simp only [bind_eq_ok] at h
  obtain ⟨_, -, _, -, _, hskill, h⟩ := h
  have howned := ownedBy_of_checkSkill hparty hskill
  split at h
  · rename_i fileId hfile
    obtain ⟨-, rfl⟩ := Prod.mk.inj (pure_eq_ok.mp h)
    refine .single (.updateFile fun f hf => ?_)
    rw [skillId_of_findFile hfile hf]
    exact howned
  · simp only [bind_eq_ok, require_eq_ok, pure_eq_ok, Prod.mk.injEq] at h
    obtain ⟨t, ht, -, rfl⟩ := h
    exact .single (.insertFile (f := _) howned ht)

theorem deleteFile_steps {skillId fileName : String} (hparty : AtHome party startupId)
    (h : deleteFile db startupId skillId fileName = .ok db') : SkillSteps party db db' := by
  unfold deleteFile at h
  simp only [bind_eq_ok, pure_eq_ok] at h
  obtain ⟨_, hskill, _, -, rfl⟩ := h
  exact .single (.deleteFile (ownedBy_of_checkSkill hparty hskill))

end Operations

end Cliptown.Task
