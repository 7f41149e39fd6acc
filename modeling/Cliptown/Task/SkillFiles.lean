import Cliptown.Task.SkillReplica
import Cliptown.Task.Tenancy
import Cliptown.Worker.Execenv

/-!
# The skills in a work directory

An agent's skills are those that are attached to it and those that are global, of whichever startup. The worker writes
them into the work directory of a task, each under its name.

* `forAgent` — the skills of an agent, with their files.
* `CompleteFor`, `Complete` — whichever empty directory they are written to, all of them are there.
* `Named` — what the checks make of the names; `completeFor_iff` — then the skills of an agent are complete exactly if
  they have different names.
* `skillSystem` — any sequence of operations on skills, in any startups.
* `NoClash` — the condition on an operation: a skill becomes global, or is attached, only where no other skill of the
  agent has its name.
* `skills_complete_iff` — the operations of a run keep the skills complete exactly if each meets the condition.
-/

namespace Cliptown.Task

open Cliptown.Lib Cliptown.Lib.PosixPath Cliptown.Worker

/-! ### The skills of an agent -/

/-- Source: `skills.rs` `list_files` -/
def SkillTables.listFiles (t : SkillTables) (skillId : String) : List (String × String) :=
  ((t.files.entries.filter fun e => e.2.skillId = skillId).map fun e => (e.2.name, e.2.content)).mergeSort
    fun a b => decide (a.1 ≤ b.1)

/-- The rows that are selected for an agent: `WHERE ags.agent_id IS NOT NULL OR s.is_global = 1 … ORDER BY name`. -/
def SkillTables.rowsFor (t : SkillTables) (agentId : String) : List (Σ _ : String, Skill) :=
  (t.skills.entries.filter fun e => (t.attachments.lookup (agentId, e.1)).isSome || e.2.isGlobal).mergeSort
    fun a b => decide (a.2.name ≤ b.2.name)

/-- A row with the files of the skill. Source: `skills.rs` `AttachedSkill` -/
def SkillTables.content (t : SkillTables) (e : Σ _ : String, Skill) : SkillContent :=
  ⟨e.2.name, e.2.contentMd, t.listFiles e.1⟩

/-- Source: `skills.rs` `for_agent` -/
def forAgent (db : Db) (agentId : String) : List SkillContent :=
  (db.skills.rowsFor agentId).map db.skills.content

/-- In an empty work directory all skills of the agent are whole, and no two overwrite each other. -/
def CompleteFor (db : Db) (agentId : String) : Prop :=
  (∀ (workspacesRoot : AbsPath) (startupId taskId : String) (disk : Disk), MintedId startupId → MintedId taskId →
    EmptyDir disk (prepareWorkdir workspacesRoot startupId taskId) →
      ∃ disk', writeWorkdir workspacesRoot startupId taskId agentId (forAgent db agentId) disk = some disk' ∧
        ∀ s ∈ forAgent db agentId,
          Materialised disk' (join (prepareWorkdir workspacesRoot startupId taskId) ["skills"]) s) ∧
    NoOverwrite (forAgent db agentId)

/-- The skills of every agent are complete. -/
def Complete (db : Db) : Prop :=
  ∀ agentId, (db.agents.lookup agentId).isSome → CompleteFor db agentId

/-- The agent has a skill of this name. -/
def SkillTables.Listed (t : SkillTables) (agentId id name : String) : Prop :=
  ∃ skill, t.skills.lookup id = some skill ∧ skill.name = name ∧
    ((t.attachments.lookup (agentId, id)).isSome ∨ skill.isGlobal)

/-- No two skills of the agent have one name. -/
def SkillTables.Distinct (t : SkillTables) (agentId : String) : Prop :=
  ∀ id id' name, t.Listed agentId id name → t.Listed agentId id' name → id = id'

/-- The names of skills and files have been checked, and no skill has two files of one name. -/
structure Named (t : SkillTables) : Prop where
  names : ∀ id skill, t.skills.lookup id = some skill → nameIsValid skill.name
  fileNames : ∀ id f, t.files.lookup id = some f → fileNameIsValid f.name
  files : ∀ id id' f f', t.files.lookup id = some f → t.files.lookup id' = some f' →
    f.skillId = f'.skillId → f.name = f'.name → id = id'

section Names

variable {t : SkillTables} {db : Db} {agentId id name : String}

/-- A name that is valid is minted like an id. -/
theorem mintedId_of_nameIsValid (h : nameIsValid name) : MintedId name := by
  simp only [nameIsValid, decide_eq_true_eq, List.all_eq_true] at h
  obtain ⟨hne, -, hall⟩ := h
  refine ⟨fun hnil => hne (String.toList_eq_nil_iff.mp hnil), fun c hc => ?_⟩
  rcases hall c hc with h | h | h
  · exact .inl h
  · exact .inr (.inr h)
  · exact .inr (.inl h)

/-- A file name that is valid is a component of a path. -/
theorem plain_of_fileNameIsValid (h : fileNameIsValid name) : Plain name.toList := by
  simp only [fileNameIsValid, decide_eq_true_eq, List.all_eq_true] at h
  obtain ⟨hne, -, hdot, hdots, hall⟩ := h
  refine ⟨fun hnil => hne (String.toList_eq_nil_iff.mp hnil), fun heq => hdot ?_, fun heq => hdots ?_, fun hslash => ?_⟩
  · exact String.toList_inj.mp heq
  · exact heq ▸ List.infix_refl _
  · exact absurd (hall '/' hslash) (by decide)

theorem mem_rowsFor {e : Σ _ : String, Skill} : e ∈ t.rowsFor agentId ↔
    t.skills.lookup e.1 = some e.2 ∧ ((t.attachments.lookup (agentId, e.1)).isSome ∨ e.2.isGlobal) := by
  rw [SkillTables.rowsFor, List.mem_mergeSort, List.mem_filter, Bool.or_eq_true, AList.mem_lookup_iff.symm]
  rfl

theorem listed_iff_mem : t.Listed agentId id name ↔
    ∃ skill, (⟨id, skill⟩ : Σ _ : String, Skill) ∈ t.rowsFor agentId ∧ skill.name = name := by
  constructor
  · rintro ⟨skill, hskill, hname, hfor⟩
    exact ⟨skill, mem_rowsFor.mpr ⟨hskill, hfor⟩, hname⟩
  · rintro ⟨skill, hmem, hname⟩
    obtain ⟨hskill, hfor⟩ := mem_rowsFor.mp hmem
    exact ⟨skill, hskill, hname, hfor⟩

/-- The files of a skill have different names. -/
theorem Named.nodup_listFiles (h : Named t) (skillId : String) :
    ((t.listFiles skillId).map Prod.fst).Nodup := by
  rw [SkillTables.listFiles, ((List.mergeSort_perm _ _).map Prod.fst).nodup_iff, List.map_map]
  refine (t.files.nodupKeys.nodup.filter _).map_on fun e he e' he' hname => ?_
  obtain ⟨hmem, hskill⟩ := List.mem_filter.mp he
  obtain ⟨hmem', hskill'⟩ := List.mem_filter.mp he'
  have hsame : e.2.skillId = e'.2.skillId := (of_decide_eq_true hskill).trans (of_decide_eq_true hskill').symm
  have hid : e.1 = e'.1 :=
    h.files e.1 e'.1 e.2 e'.2 (AList.mem_lookup_iff.mpr hmem) (AList.mem_lookup_iff.mpr hmem') hsame hname
  exact List.NodupKeys.eq_of_fst_eq t.files.nodupKeys hmem hmem' hid

theorem Named.wellNamed (h : Named t) {e : Σ _ : String, Skill} (he : t.skills.lookup e.1 = some e.2) :
    WellNamed (t.content e) where
  plain := (mintedId_of_nameIsValid (h.names _ _ he)).plain
  noDot := (mintedId_of_nameIsValid (h.names _ _ he)).dot_notMem
  files f hf := by
    obtain ⟨r, hr, rfl⟩ := List.mem_map.mp (List.mem_mergeSort.mp hf)
    exact plain_of_fileNameIsValid (h.fileNames _ _ (AList.mem_lookup_iff.mpr (List.mem_filter.mp hr).1))
  nodup := h.nodup_listFiles e.1

/-- The names of an agent's skills are different if and only if its skills are. -/
theorem nodup_names_iff :
    ((forAgent db agentId).map SkillContent.name).Nodup ↔ db.skills.Distinct agentId := by
  have hrows : (db.skills.rowsFor agentId).Nodup :=
    (List.mergeSort_perm _ _).nodup_iff.mpr (db.skills.skills.nodupKeys.nodup.filter _)
  rw [forAgent, List.map_map, List.nodup_map_iff_inj_on hrows]
  constructor
  · intro hinj id id' name hlisted hlisted'
    obtain ⟨skill, hmem, hname⟩ := listed_iff_mem.mp hlisted
    obtain ⟨skill', hmem', hname'⟩ := listed_iff_mem.mp hlisted'
    exact congrArg Sigma.fst (hinj _ hmem _ hmem' (hname.trans hname'.symm))
  · intro hdistinct e he e' he' hname
    have hid : e.1 = e'.1 :=
      hdistinct e.1 e'.1 e.2.name (listed_iff_mem.mpr ⟨e.2, he, rfl⟩) (listed_iff_mem.mpr ⟨e'.2, he', hname.symm⟩)
    exact List.NodupKeys.eq_of_fst_eq db.skills.skills.nodupKeys (AList.mem_lookup_iff.mp (mem_rowsFor.mp he).1)
      (AList.mem_lookup_iff.mp (mem_rowsFor.mp he').1) hid

/-- The skills of an agent are complete exactly if they have different names. -/
theorem completeFor_iff (h : Named db.skills) : CompleteFor db agentId ↔ db.skills.Distinct agentId := by
  have hnamed : ∀ s ∈ forAgent db agentId, WellNamed s := by
    intro s hs
    obtain ⟨e, he, rfl⟩ := List.mem_map.mp hs
    exact h.wellNamed (mem_rowsFor.mp he).1
  rw [CompleteFor, noOverwrite_iff hnamed, nodup_names_iff, and_iff_right_iff_imp]
  intro hdistinct workspacesRoot startupId taskId disk hstartup htask hempty
  exact writeWorkdir_spec hstartup.plain htask.plain hempty hnamed (nodup_names_iff.mpr hdistinct)

end Names

/-! ### What an operation lists -/

/-- An operation keeps the names checked and the agents, and lists no more than before. -/
structure Tame (db db' : Db) : Prop where
  agents : db'.agents = db.agents
  named : Named db.skills → Named db'.skills
  listed : ∀ agentId id name, db'.skills.Listed agentId id name → db.skills.Listed agentId id name

section Operations

variable {cfg : Config} {env : Env} {db db' db₁ : Db} {startupId skillId agentId id name content : String}
  {author : Author}

theorem Tame.refl (db : Db) : Tame db db := ⟨rfl, id, fun _ _ _ h => h⟩

theorem Tame.trans (h : Tame db db₁) (h' : Tame db₁ db') : Tame db db' :=
  ⟨h'.agents.trans h.agents, fun hs => h'.named (h.named hs), fun a i n hl => h.listed a i n (h'.listed a i n hl)⟩

/-- The skills and files are those of before. -/
theorem tame_of_eq (hagents : db'.agents = db.agents) (hskills : db'.skills.skills = db.skills.skills)
    (hfiles : db'.skills.files = db.skills.files)
    (hattachments : ∀ key, (db'.skills.attachments.lookup key).isSome → (db.skills.attachments.lookup key).isSome) :
    Tame db db' := by
  refine ⟨hagents, fun h => ⟨?_, ?_, ?_⟩, ?_⟩
  · rw [hskills]
    exact h.names
  · rw [hfiles]
    exact h.fileNames
  · rw [hfiles]
    exact h.files
  · rintro agentId id name ⟨skill, hskill, hname, hfor⟩
    rw [hskills] at hskill
    exact ⟨skill, hskill, hname, hfor.imp_left (hattachments _)⟩

theorem tame_appendRevision : Tame db (appendRevision env db skillId content author) := by
  unfold appendRevision
  split
  · split
    · rename_i t ht
      obtain ⟨-, -, hskills, hfiles, hattachments⟩ := SkillTables.insertRevision_eq_some ht
      refine tame_of_eq rfl hskills hfiles fun key hkey => ?_
      rwa [← hattachments]
    · exact .refl db
  · exact .refl db

/-- A change of a skill that keeps its name, and makes it global only if it is. -/
theorem tame_updateSkill {f : Skill → Skill} (hname : ∀ s, (f s).name = s.name)
    (hglobal : ∀ s, (f s).isGlobal → s.isGlobal) : Tame db (setSkills db (db.skills.updateSkill skillId f)) := by
  have hrow : ∀ id skill', (db.skills.skills.modify skillId f).lookup id = some skill' →
      ∃ skill, db.skills.skills.lookup id = some skill ∧ skill.name = skill'.name ∧
        (skill'.isGlobal → skill.isGlobal) := by
    intro id skill' h
    rw [Table.lookup_modify] at h
    split at h
    · obtain ⟨skill, hskill, rfl⟩ := Option.map_eq_some_iff.mp h
      exact ⟨skill, hskill, (hname skill).symm, hglobal skill⟩
    · exact ⟨skill', h, rfl, fun hg => hg⟩
  refine ⟨rfl, fun h => ⟨fun id skill' hskill' => ?_, h.fileNames, h.files⟩, ?_⟩
  · obtain ⟨skill, hskill, hsame, -⟩ := hrow id skill' hskill'
    exact hsame ▸ h.names id skill hskill
  · rintro agentId id name ⟨skill', hskill', rfl, hfor⟩
    obtain ⟨skill, hskill, hsame, hg⟩ := hrow id skill' hskill'
    exact ⟨skill, hskill, hsame, hfor.imp_right hg⟩

/-- A new skill is attached to nobody, and is not global. -/
theorem tame_insertSkill (hvalid : nameIsValid name) (h : insertSkill env db startupId name content = some db') :
    Tame db db' := by
  unfold insertSkill at h
  split at h
  · obtain ⟨t, ht, rfl⟩ := Option.map_eq_some_iff.mp h
    obtain ⟨hnone, hskills, hfiles, -, hattachments⟩ := SkillTables.insertSkill_eq_some ht
    refine ⟨rfl, fun h => ⟨fun id skill hskill => ?_, ?_, ?_⟩, ?_⟩
    · change t.skills.lookup id = some skill at hskill
      rw [hskills, Table.lookup_insert_eq] at hskill
      split at hskill
      · rw [← Option.some.inj hskill]
        exact hvalid
      · exact h.names id skill hskill
    · exact hfiles ▸ h.fileNames
    · exact hfiles ▸ h.files
    · rintro agentId id name' ⟨skill, hskill, hname, hfor⟩
      change t.skills.lookup id = some skill at hskill
      change (t.attachments.lookup (agentId, id)).isSome ∨ _ at hfor
      rw [hattachments] at hfor
      rw [hskills, Table.lookup_insert_eq] at hskill
      split at hskill
      · rename_i hid
        rw [← Option.some.inj hskill] at hfor
        obtain ⟨at', hat'⟩ := Option.isSome_iff_exists.mp (hfor.resolve_right (by simp))
        have hsome := db.skills.attachmentRefs _ at' hat'
        rw [hid, hnone] at hsome
        exact absurd hsome (by simp)
      · exact ⟨skill, hskill, hname, hfor⟩
  · exact absurd h (by simp)

theorem tame_writeContent : Tame db (writeContent env db skillId content) :=
  tame_updateSkill (fun _ => rfl) fun _ hg => hg

theorem tame_edit {e : SkillEdit} (h : e.run cfg db = .ok (id, db')) : Tame db db' := by
  cases e with
  | upsert env startupId name contentMd author =>
      simp only [SkillEdit.run, upsertWithAuthor, bind_eq_ok, ensure_eq_ok, pure_eq_ok, Prod.mk.injEq] at h
      obtain ⟨⟨⟨id', isNew⟩, db₁⟩, ⟨_, hvalid, _, -, hrun⟩, -, rfl⟩ := h
      split at hrun
      · obtain ⟨-, rfl⟩ := Prod.mk.inj (pure_eq_ok.mp hrun)
        exact tame_writeContent.trans tame_appendRevision
      · simp only [bind_eq_ok, require_eq_ok, pure_eq_ok, Prod.mk.injEq] at hrun
        obtain ⟨db₂, hinsert, -, rfl⟩ := hrun
        exact (tame_insertSkill hvalid hinsert).trans tame_appendRevision
  | revert env startupId skillId revSeq author =>
      simp only [SkillEdit.run, revertToRevision, bind_eq_ok, pure_eq_ok, Prod.mk.injEq] at h
      obtain ⟨⟨text, db₁⟩, ⟨_, -, _, -, -, rfl⟩, -, rfl⟩ := h
      exact tame_writeContent.trans tame_appendRevision

/-- Files that keep their skills and names, or go. -/
theorem Named.of_files {t t' : SkillTables} (h : Named t)
    (hnames : ∀ id skill, t'.skills.lookup id = some skill → nameIsValid skill.name)
    (hfiles : ∀ id f', t'.files.lookup id = some f' →
      ∃ f, t.files.lookup id = some f ∧ f.skillId = f'.skillId ∧ f.name = f'.name) : Named t' where
  names := hnames
  fileNames id f' hf' := by
    obtain ⟨f, hf, -, hname⟩ := hfiles id f' hf'
    exact hname ▸ h.fileNames id f hf
  files id id' f f' hf hf' hskill hname := by
    obtain ⟨g, hg, hgskill, hgname⟩ := hfiles id f hf
    obtain ⟨g', hg', hgskill', hgname'⟩ := hfiles id' f' hf'
    exact h.files id id' g g' hg hg' (hgskill.trans (hskill.trans hgskill'.symm))
      (hgname.trans (hname.trans hgname'.symm))

theorem tame_deleteSkill (h : deleteSkill db startupId skillId = .ok db') : Tame db db' := by
  simp only [deleteSkill, bind_eq_ok, pure_eq_ok] at h
  obtain ⟨_, -, rfl⟩ := h
  have hrow : ∀ id skill, (db.skills.deleteSkill skillId).skills.lookup id = some skill →
      db.skills.skills.lookup id = some skill := by
    intro id skill hskill
    change (db.skills.skills.erase skillId).lookup id = some skill at hskill
    rw [Table.lookup_erase_eq] at hskill
    split at hskill
    · exact absurd hskill (by simp)
    · exact hskill
  refine ⟨rfl, fun h => h.of_files (fun id skill hskill => h.names id skill (hrow id skill hskill)) ?_, ?_⟩
  · exact fun id f hf => ⟨f, (Table.of_lookup_deleteWhere hf).1, rfl, rfl⟩
  · rintro agentId id name ⟨skill, hskill, hname, hfor⟩
    refine ⟨skill, hrow id skill hskill, hname, hfor.imp_left fun hattached => ?_⟩
    obtain ⟨at', hat'⟩ := Option.isSome_iff_exists.mp hattached
    exact Option.isSome_of_mem (Table.of_lookup_deleteWhere hat').1

theorem tame_detach (h : detachSkill db startupId agentId skillId = .ok db') : Tame db db' := by
  simp only [detachSkill, bind_eq_ok, pure_eq_ok] at h
  obtain ⟨_, -, _, -, rfl⟩ := h
  exact tame_of_eq rfl rfl rfl fun key hkey => ((SkillTables.isSome_detach key).mp hkey).2

theorem tame_deleteFile (h : deleteFile db startupId skillId name = .ok db') : Tame db db' := by
  simp only [deleteFile, bind_eq_ok, pure_eq_ok] at h
  obtain ⟨_, -, _, -, rfl⟩ := h
  refine ⟨rfl, fun h => h.of_files h.names fun id f hf => ?_, fun _ _ _ hl => hl⟩
  exact ⟨f, (Table.of_lookup_deleteWhere hf).1, rfl, rfl⟩

/-- No file of the skill has the name. -/
theorem of_findFile_eq_none {t : SkillTables} (h : t.findFile skillId name = none) {f : SkillFile}
    (hf : t.files.lookup id = some f) (hskill : f.skillId = skillId) : f.name ≠ name := by
  intro hname
  have hfind := List.find?_eq_none.mp (Option.map_eq_none_iff.mp h) _ (AList.mem_lookup_iff.mp hf)
  exact hfind (decide_eq_true ⟨hskill, hname⟩)

/-- A new file has a name of its own. -/
theorem Named.insertFile {t t' : SkillTables} {f : SkillFile} (h : Named t) (hvalid : fileNameIsValid f.name)
    (hnone : t.findFile f.skillId f.name = none) (hinsert : t.insertFile id f = some t') : Named t' := by
  obtain ⟨-, hfiles, hskills, -, -⟩ := SkillTables.insertFile_eq_some hinsert
  have hrow : ∀ i g, t'.files.lookup i = some g → (i = id ∧ g = f) ∨ (i ≠ id ∧ t.files.lookup i = some g) := by
    intro i g hg
    rw [hfiles, Table.lookup_insert_eq] at hg
    split at hg
    · rename_i hi
      exact .inl ⟨hi, (Option.some.inj hg).symm⟩
    · rename_i hi
      exact .inr ⟨hi, hg⟩
  refine ⟨hskills ▸ h.names, fun i g hg => ?_, fun i i' g g' hg hg' hskill hname => ?_⟩
  · rcases hrow i g hg with ⟨-, rfl⟩ | ⟨-, hg⟩
    · exact hvalid
    · exact h.fileNames i g hg
  · rcases hrow i g hg with ⟨rfl, rfl⟩ | ⟨-, hold⟩
    · rcases hrow i' g' hg' with ⟨rfl, -⟩ | ⟨-, hold'⟩
      · rfl
      · exact absurd hname.symm (of_findFile_eq_none hnone hold' hskill.symm)
    · rcases hrow i' g' hg' with ⟨rfl, rfl⟩ | ⟨-, hold'⟩
      · exact absurd hname (of_findFile_eq_none hnone hold hskill)
      · exact h.files i i' g g' hold hold' hskill hname

theorem tame_upsertFile (h : upsertFile cfg env db startupId skillId name content = .ok (id, db')) :
    Tame db db' := by
  unfold upsertFile at h
  simp only [bind_eq_ok, ensure_eq_ok] at h
  obtain ⟨_, hvalid, _, -, _, -, h⟩ := h
  split at h
  · obtain ⟨-, rfl⟩ := Prod.mk.inj (pure_eq_ok.mp h)
    refine ⟨rfl, fun hs => hs.of_files hs.names fun i f' hf' => ?_, fun _ _ _ hl => hl⟩
    change (db.skills.files.modify _ _).lookup i = some f' at hf'
    rw [Table.lookup_modify] at hf'
    split at hf'
    · obtain ⟨f, hf, rfl⟩ := Option.map_eq_some_iff.mp hf'
      exact ⟨f, hf, rfl, rfl⟩
    · exact ⟨f', hf', rfl, rfl⟩
  · rename_i hnone
    simp only [bind_eq_ok, require_eq_ok, pure_eq_ok, Prod.mk.injEq] at h
    obtain ⟨t, ht, -, rfl⟩ := h
    obtain ⟨-, -, hskills, -, hattachments⟩ := SkillTables.insertFile_eq_some ht
    refine ⟨rfl, fun hs => hs.insertFile hvalid hnone ht, ?_⟩
    rintro agentId id name ⟨skill, hskill, hname, hfor⟩
    change t.skills.lookup id = some skill at hskill
    change (t.attachments.lookup (agentId, id)).isSome ∨ _ at hfor
    exact ⟨skill, hskills ▸ hskill, hname, hattachments ▸ hfor⟩

/-- Clearing the flag. -/
theorem tame_clearGlobal (h : setGlobal env db skillId false = .ok db') : Tame db db' := by
  simp only [setGlobal, bind_eq_ok, require_eq_ok, pure_eq_ok] at h
  obtain ⟨skill, -, rfl⟩ := h
  exact tame_updateSkill (fun _ => rfl) fun _ hg => absurd hg (by simp)

/-- An operation that lists one more skill for some agents. -/
structure Adds (db db' : Db) (who : String → Prop) (skillId name : String) : Prop where
  agents : db'.agents = db.agents
  named : Named db.skills → Named db'.skills
  listed : ∀ agentId id n, db'.skills.Listed agentId id n ↔
    db.skills.Listed agentId id n ∨ (who agentId ∧ id = skillId ∧ n = name)

/-- Setting the flag lists the skill for everyone. -/
theorem adds_setGlobal {skill : Skill} (hskill : db.skills.skills.lookup skillId = some skill)
    (h : setGlobal env db skillId true = .ok db') : Adds db db' (fun _ => True) skillId skill.name := by
  simp only [setGlobal, bind_eq_ok, require_eq_ok, pure_eq_ok] at h
  obtain ⟨skill', hskill', rfl⟩ := h
  obtain rfl := Option.some.inj (hskill.symm.trans hskill')
  let global (s : Skill) : Skill := { s with isGlobal := true, updatedAt := env.now }
  have hrow : ∀ id, (setSkills db (db.skills.updateSkill skillId global)).skills.skills.lookup id =
      if id = skillId then (db.skills.skills.lookup id).map global else db.skills.skills.lookup id :=
    fun id => Table.lookup_modify _ _ _ _
  refine ⟨rfl, fun hs => ⟨fun id s hs' => ?_, hs.fileNames, hs.files⟩, fun agentId id n => ?_⟩
  · change (setSkills db (db.skills.updateSkill skillId global)).skills.skills.lookup id = some s at hs'
    rw [hrow] at hs'
    split at hs'
    · obtain ⟨s₀, hs₀, rfl⟩ := Option.map_eq_some_iff.mp hs'
      exact hs.names id s₀ hs₀
    · exact hs.names id s hs'
  · by_cases hid : id = skillId
    · subst hid
      have hself := (hrow id).trans (by rw [if_pos rfl, hskill, Option.map_some])
      constructor
      · rintro ⟨s, hs, rfl, -⟩
        obtain rfl := Option.some.inj (hself.symm.trans hs)
        exact .inr ⟨trivial, rfl, rfl⟩
      · rintro (⟨s, hs, rfl, -⟩ | ⟨-, -, rfl⟩)
        · obtain rfl := Option.some.inj (hskill.symm.trans hs)
          exact ⟨_, hself, rfl, .inr rfl⟩
        · exact ⟨_, hself, rfl, .inr rfl⟩
    · have hother := (hrow id).trans (if_neg hid)
      rw [or_iff_left fun hadded => hid hadded.2.1]
      constructor
      · rintro ⟨s, hs, hname, hfor⟩
        exact ⟨s, hother.symm.trans hs, hname, hfor⟩
      · rintro ⟨s, hs, hname, hfor⟩
        exact ⟨s, hother.trans hs, hname, hfor⟩

/-- An attachment lists the skill for one agent. -/
theorem adds_attach {skill : Skill} (hskill : db.skills.skills.lookup skillId = some skill)
    (h : attachSkill cfg env db startupId agentId skillId = .ok db') :
    Adds db db' (· = agentId) skillId skill.name := by
  simp only [attachSkill, bind_eq_ok, require_eq_ok, pure_eq_ok] at h
  obtain ⟨_, -, _, -, t, ht, rfl⟩ := h
  obtain ⟨hskills, hfiles, -, -⟩ := SkillTables.attach_eq_some ht
  refine ⟨rfl, fun hs => ⟨hskills ▸ hs.names, hfiles ▸ hs.fileNames, hfiles ▸ hs.files⟩, fun a id n => ?_⟩
  unfold SkillTables.Listed
  change (∃ s, t.skills.lookup id = some s ∧ s.name = n ∧ ((t.attachments.lookup (a, id)).isSome ∨ _)) ↔ _
  rw [hskills]
  simp only [SkillTables.isSome_attach ht, Prod.mk.injEq]
  constructor
  · rintro ⟨s, hs, hname, (⟨ha, rfl⟩ | hattached) | hglobal⟩
    · obtain rfl := Option.some.inj (hskill.symm.trans hs)
      exact .inr ⟨ha, rfl, hname.symm⟩
    · exact .inl ⟨s, hs, hname, .inl hattached⟩
    · exact .inl ⟨s, hs, hname, .inr hglobal⟩
  · rintro (⟨s, hs, hname, hfor⟩ | ⟨ha, rfl, rfl⟩)
    · exact ⟨s, hs, hname, hfor.imp_left .inr⟩
    · exact ⟨skill, hskill, rfl, .inl (.inl ⟨ha, rfl⟩)⟩

end Operations

/-! ### One operation -/

/-- The agents' skills have different names. -/
def AllDistinct (db : Db) : Prop :=
  ∀ agentId, (db.agents.lookup agentId).isSome → db.skills.Distinct agentId

/-- The condition on an operation: where a skill becomes global, no agent has another skill of its name; where it is
attached, the agent has none. -/
def NoClash (db : Db) : SkillOp → Prop
  | .setGlobal _ skillId true => ∀ skill, db.skills.skills.lookup skillId = some skill →
      ∀ agentId, (db.agents.lookup agentId).isSome → ∀ id, db.skills.Listed agentId id skill.name → id = skillId
  | .attach _ startupId agentId skillId => ∀ skill agent, db.skills.skills.lookup skillId = some skill →
      skill.startupId = startupId → db.agents.lookup agentId = some agent → agent.startupId = startupId →
        ∀ id, db.skills.Listed agentId id skill.name → id = skillId
  | _ => True

/-- The database after an operation; one that is refused changes nothing. -/
def SkillOp.apply (cfg : Config) (db : Db) (op : SkillOp) : Db :=
  match op.run cfg db with
  | .ok (db, _) => db
  | .error _ => db

section Step

variable {cfg : Config} {db db' : Db} {who : String → Prop} {skillId name : String}

theorem Tame.allDistinct (h : Tame db db') (hs : AllDistinct db) : AllDistinct db' := by
  intro agentId hagent id id' n hid hid'
  rw [h.agents] at hagent
  exact hs agentId hagent id id' n (h.listed _ _ _ hid) (h.listed _ _ _ hid')

/-- One more skill has a name of its own exactly if no agent that gets it has another skill of that name. -/
theorem Adds.allDistinct_iff (h : Adds db db' who skillId name) (hs : AllDistinct db) :
    AllDistinct db' ↔ ∀ agentId, (db.agents.lookup agentId).isSome → who agentId →
      ∀ id, db.skills.Listed agentId id name → id = skillId := by
  constructor
  · intro hall agentId hagent hwho id hlisted
    have hagent' : (db'.agents.lookup agentId).isSome := by rwa [h.agents]
    exact hall agentId hagent' id skillId name ((h.listed _ _ _).mpr (.inl hlisted))
      ((h.listed _ _ _).mpr (.inr ⟨hwho, rfl, rfl⟩))
  · intro hclear agentId hagent id id' n hid hid'
    rw [h.agents] at hagent
    rcases (h.listed _ _ _).mp hid with hold | ⟨hwho, rfl, rfl⟩
    · rcases (h.listed _ _ _).mp hid' with hold' | ⟨hwho, rfl, rfl⟩
      · exact hs agentId hagent id id' n hold hold'
      · exact hclear agentId hagent hwho id hold
    · rcases (h.listed _ _ _).mp hid' with hold' | ⟨-, rfl, -⟩
      · exact (hclear agentId hagent hwho id' hold').symm
      · rfl

/-- What becomes of the lists. -/
inductive Outcome (db : Db) (op : SkillOp) (db' : Db) : Prop
  | tame : Tame db db' → NoClash db op → Outcome db op db'
  | adds {who : String → Prop} {skillId name : String} : Adds db db' who skillId name →
      (NoClash db op ↔ ∀ agentId, (db.agents.lookup agentId).isSome → who agentId →
        ∀ id, db.skills.Listed agentId id name → id = skillId) → Outcome db op db'

/-- An operation that is refused meets the condition. -/
theorem noClash_of_error {op : SkillOp} {err : SkillError} (h : op.run cfg db = .error err) : NoClash db op := by
  cases op with
  | setGlobal env skillId isGlobal =>
      cases isGlobal with
      | false => trivial
      | true =>
          intro skill hskill
          simp only [SkillOp.run, setGlobal, hskill] at h
          exact absurd h (by simp [require, bind, Except.bind, pure, Except.pure])
  | attach env startupId agentId skillId =>
      intro skill agent hskill hstartup hagent hstartup'
      have hcheck : checkSkill db startupId skillId = .ok () := checkSkill_eq_ok.mpr ⟨skill, hskill, hstartup⟩
      have hcheck' : checkSkillAgent db startupId agentId = .ok () :=
        checkSkillAgent_eq_ok.mpr ⟨agent, hagent, hstartup'⟩
      obtain ⟨t, ht⟩ : ∃ t, db.skills.attach agentId skillId env.now = some t := by
        unfold SkillTables.attach
        rw [dif_pos (Option.isSome_of_mem hskill)]
        split <;> exact ⟨_, rfl⟩
      simp only [SkillOp.run, attachSkill, hcheck, hcheck', ht] at h
      exact absurd h (by simp [require, bind, Except.bind, pure, Except.pure])
  | edit | delete | detach | upsertFile | deleteFile => trivial

theorem outcome (cfg : Config) (db : Db) (op : SkillOp) : Outcome db op (op.apply cfg db) := by
  unfold SkillOp.apply
  split
  · rename_i db' m hrun
    cases op with
    | edit e =>
        simp only [SkillOp.run, bind_eq_ok, pure_eq_ok, Prod.mk.injEq] at hrun
        obtain ⟨⟨id, db'⟩, hedit, rfl, -⟩ := hrun
        exact .tame (tame_edit hedit) trivial
    | delete startupId skillId =>
        simp only [SkillOp.run, bind_eq_ok, pure_eq_ok, Prod.mk.injEq] at hrun
        obtain ⟨db', hdelete, rfl, -⟩ := hrun
        exact .tame (tame_deleteSkill hdelete) trivial
    | attach env startupId agentId skillId =>
        simp only [SkillOp.run, bind_eq_ok, pure_eq_ok, Prod.mk.injEq] at hrun
        obtain ⟨db', hattach, rfl, -⟩ := hrun
        have hchecks := hattach
        simp only [attachSkill, bind_eq_ok] at hchecks
        obtain ⟨_, hcheck, _, hcheck', -⟩ := hchecks
        obtain ⟨skill, hskill, hstartup⟩ := checkSkill_eq_ok.mp hcheck
        obtain ⟨agent, hagent, hstartup'⟩ := checkSkillAgent_eq_ok.mp hcheck'
        refine .adds (adds_attach hskill hattach) ⟨fun hclear agentId' _ heq => ?_, fun hclear => ?_⟩
        · exact heq ▸ hclear skill agent hskill hstartup hagent hstartup'
        · intro skill' _ hskill' _ _ _
          obtain rfl := Option.some.inj (hskill.symm.trans hskill')
          exact hclear agentId (Option.isSome_of_mem hagent) rfl
    | detach startupId agentId skillId =>
        simp only [SkillOp.run, bind_eq_ok, pure_eq_ok, Prod.mk.injEq] at hrun
        obtain ⟨db', hdetach, rfl, -⟩ := hrun
        exact .tame (tame_detach hdetach) trivial
    | setGlobal env skillId isGlobal =>
        simp only [SkillOp.run, bind_eq_ok, pure_eq_ok, Prod.mk.injEq] at hrun
        obtain ⟨db', hset, rfl, -⟩ := hrun
        cases isGlobal with
        | false => exact .tame (tame_clearGlobal hset) trivial
        | true =>
            have hfound := hset
            simp only [setGlobal, bind_eq_ok, require_eq_ok] at hfound
            obtain ⟨skill, hskill, -⟩ := hfound
            refine .adds (adds_setGlobal hskill hset) ⟨fun hclear agentId hagent _ => ?_, fun hclear => ?_⟩
            · exact hclear skill hskill agentId hagent
            · intro skill' hskill' agentId hagent
              obtain rfl := Option.some.inj (hskill.symm.trans hskill')
              exact hclear agentId hagent trivial
    | upsertFile env startupId skillId name content =>
        simp only [SkillOp.run, bind_eq_ok, pure_eq_ok, Prod.mk.injEq] at hrun
        obtain ⟨⟨id, db'⟩, hupsert, rfl, -⟩ := hrun
        exact .tame (tame_upsertFile hupsert) trivial
    | deleteFile startupId skillId name =>
        simp only [SkillOp.run, bind_eq_ok, pure_eq_ok, Prod.mk.injEq] at hrun
        obtain ⟨db', hdelete, rfl, -⟩ := hrun
        exact .tame (tame_deleteFile hdelete) trivial
  · rename_i err hrun
    exact .tame (.refl db) (noClash_of_error hrun)

/-- **One operation** keeps the skills complete exactly if it meets the condition. -/
theorem allDistinct_apply_iff (cfg : Config) (op : SkillOp) (hs : AllDistinct db) :
    AllDistinct (op.apply cfg db) ↔ NoClash db op := by
  rcases outcome cfg db op with ⟨htame, hclear⟩ | ⟨hadds, hiff⟩
  · exact iff_of_true (htame.allDistinct hs) hclear
  · rw [hadds.allDistinct_iff hs, hiff]

theorem Named.apply (h : Named db.skills) (cfg : Config) (op : SkillOp) : Named (op.apply cfg db).skills := by
  rcases outcome cfg db op with ⟨htame, -⟩ | ⟨hadds, -⟩
  · exact htame.named h
  · exact hadds.named h

theorem Named.foldl (h : Named db.skills) (cfg : Config) (ops : List SkillOp) :
    Named (ops.foldl (SkillOp.apply cfg) db).skills := by
  induction ops generalizing db with
  | nil => exact h
  | cons op ops ih => exact ih (h.apply cfg op)

theorem complete_iff (h : Named db.skills) : Complete db ↔ AllDistinct db :=
  forall_congr' fun _ => imp_congr_right fun _ => completeFor_iff h

end Step

/-! ### Runs -/

/-- Any operations on skills, in any startups; at first there are no skills. -/
def skillSystem (cfg : Config) : System Db SkillOp where
  init db := db.skills = .empty
  step db op db' := db' = op.apply cfg db

/-- Nothing is named at first. -/
theorem named_empty : Named .empty := by
  constructor <;> simp [SkillTables.empty]

theorem complete_of_empty {db : Db} (h : db.skills = .empty) : Complete db := by
  rw [complete_iff (h ▸ named_empty)]
  rintro agentId - id id' name ⟨skill, hskill, -⟩
  rw [h] at hskill
  exact absurd hskill (by simp [SkillTables.empty])

/-- **The skills in the work directories**: from no skills on, the operations of a run keep the skills of every agent
complete exactly if each of them meets the condition. -/
theorem skills_complete_iff (cfg : Config) {s t : Db} {ops : List SkillOp} (hs : (skillSystem cfg).init s) :
    Run ((skillSystem cfg).restrict NoClash).step s ops t ↔ Run ((skillSystem cfg).within Complete).step s ops t := by
  refine System.run_restrict_iff_keeping (I := fun db => Complete db ∧ Named db.skills)
    (K := fun _ _ t => Complete t) ?_ ?_ ⟨complete_of_empty hs, hs ▸ named_empty⟩
  · rintro s op _ rfl ⟨hcomplete, hnamed⟩
    rw [complete_iff (hnamed.apply cfg op)]
    exact allDistinct_apply_iff cfg op ((complete_iff hnamed).mp hcomplete)
  · rintro s op _ rfl ⟨-, hnamed⟩ hkept
    exact ⟨hkept, hnamed.apply cfg op⟩

/-! ### Two skills of one name -/

/-- The engineer's skill is the only one. -/
theorem skills_complete_sample :
    Run ((skillSystem sampleConfig).within Complete).step sampleTown.db sampleOps
      (sampleOps.foldl (SkillOp.apply sampleConfig) sampleTown.db) := by
  have hinit : (skillSystem sampleConfig).init sampleTown.db := rfl
  refine (skills_complete_iff sampleConfig hinit).mp (.cons ⟨trivial, rfl⟩ (.cons ⟨?_, rfl⟩ (.nil _)))
  rintro skill agent - - - - id ⟨other, hother, -⟩
  have honly : ∀ e ∈ (SkillOp.apply sampleConfig sampleTown.db
      (.edit (.upsert (sampleEnv 1 "1") "s-1" "notes" "first" (.agent "a-2")))).skills.skills.entries, e.1 = "1" := by
    decide +kernel
  exact honly _ (AList.mem_lookup_iff.mp hother)

/-- Two startups have a skill of one name; one is attached to the founder of its startup, and the other one is made
global. -/
def clashingOps : List SkillOp :=
  sampleOps ++
    [.edit (.upsert (sampleEnv 3 "2") "s-2" "notes" "second" (.agent "b-2")), .setGlobal (sampleEnv 4 "4") "2" true]

/-- **Not after every sequence**: the founder has two skills of one name, and the worker writes both to one place. -/
theorem not_skills_complete :
    ¬ ∀ (cfg : Config) (s t : Db) (ops : List SkillOp), (skillSystem cfg).init s →
      Run (skillSystem cfg).step s ops t → Complete t := by
  intro h
  let t := clashingOps.foldl (SkillOp.apply sampleConfig) sampleTown.db
  have hrun : Run (skillSystem sampleConfig).step sampleTown.db clashingOps t :=
    .cons rfl (.cons rfl (.cons rfl (.cons rfl (.nil _))))
  have hempty : Named sampleTown.db.skills := named_empty
  have hnamed : Named t.skills := hempty.foldl sampleConfig clashingOps
  have hcomplete := h sampleConfig sampleTown.db t clashingOps rfl hrun "a-1" (by decide +kernel)
  have hfirst : (t.skills.skills.lookup "1").map Skill.name = some "notes" ∧
      (t.skills.attachments.lookup ("a-1", "1")).isSome := by decide +kernel
  have hsecond : (t.skills.skills.lookup "2").map (fun s => (s.name, s.isGlobal)) = some ("notes", true) := by
    decide +kernel
  obtain ⟨first, hlookup, hname⟩ := Option.map_eq_some_iff.mp hfirst.1
  obtain ⟨second, hlookup', heq⟩ := Option.map_eq_some_iff.mp hsecond
  obtain ⟨hname', hglobal⟩ := Prod.mk.inj heq
  have hsame := (completeFor_iff hnamed).mp hcomplete "1" "2" "notes" ⟨first, hlookup, hname, .inl hfirst.2⟩
    ⟨second, hlookup', hname', .inr hglobal⟩
  exact absurd hsame (by decide)

end Cliptown.Task
