import Cliptown.Lib.Disk
import Cliptown.Worker.Workdir
import Mathlib.Data.List.Nodup

/-!
# What a worker writes into the work directory of its task

* `SkillContent` — a skill with its files, as the worker gets it.
* `writeSkill`, `writeSkills`, `writeWorkdir` — the directory of a task, with its skills.
* `Writes` — what one skill is to leave below `skills/`; `Materialised` — that it is there, and nothing else is in the
  directory of the skill.
* `WellNamed` — the names are components of paths, and a skill's files have different names.
* `NoOverwrite` — no two skills leave anything in the same place; `noOverwrite_iff` — they have different names.
* `writeWorkdir_spec` — skills with different names are all written, each in its place.
-/

namespace Cliptown.Worker

open Cliptown.Lib Cliptown.Lib.PosixPath Cliptown.Lib.Disk

/-- A skill, and its files by name. Source: `skills_client.ts` `SkillContent` -/
structure SkillContent where
  name : String
  contentMd : String
  files : List (String × String)
  deriving DecidableEq, Repr

/-- Source: `execenv.ts` `buildClaudeMd` -/
def buildClaudeMd (startupId taskId agentId : String) (skills : List SkillContent) : String :=
  let canonical := canonicalArtifactPath startupId taskId
  let lines := ["# Task context", "",
    "You are agent `" ++ agentId ++ "` running task `" ++ taskId ++ "` for startup `" ++ startupId ++ "`.", "",
    "## Working directory layout", "",
    "- `./workspaces/` — symlink to the shared workspaces tree. The canonical artifact path for this task is `" ++
      canonical ++ "` (relative to this workdir).",
    "- Anything else you create directly in this workdir is per-task scratch and survives the session until GC.",
    "", "## When you're done", "",
    "Call the MCP tool `task_done` with `task_id = \"" ++ taskId ++ "\"` and `artifact_path = \"" ++ canonical ++
      "\"`. The world enforces this exact path.", ""]
  let listed := if skills = [] then [] else
    ["## Available skills", "", "You have these reusable skills attached. Read them when relevant:", ""] ++
      skills.map (fun s => "- `" ++ s.name ++ "` → `./skills/" ++ s.name ++ ".md`") ++ [""]
  String.intercalate "\n" (lines ++ listed)

/-- One skill: its text, and its files if it has any. Source: `execenv.ts` `prepareWorkdir`, the loop -/
def writeSkill (skillsDir : AbsPath) (disk : Disk) (s : SkillContent) : Option Disk := do
  let disk ← disk.writeFile (join skillsDir [s.name ++ ".md"]) s.contentMd
  if s.files = [] then some disk
  else do
    let skillSubdir := join skillsDir [s.name]
    let disk ← disk.mkdirAll skillSubdir
    writeFiles skillSubdir s.files disk

/-- The skills of a task, if there are any. Source: `execenv.ts` `prepareWorkdir`, `skills` -/
def writeSkills (skillsDir : AbsPath) (skills : List SkillContent) (disk : Disk) : Option Disk :=
  if skills = [] then some disk
  else do
    let disk ← disk.mkdirAll skillsDir
    skills.foldlM (writeSkill skillsDir) disk

/-- The directory of a task; `none` where a step fails. Source: `execenv.ts` `prepareWorkdir` -/
def writeWorkdir (workspacesRoot : AbsPath) (startupId taskId agentId : String) (skills : List SkillContent)
    (disk : Disk) : Option Disk := do
  let workspacesDir := join workspacesRoot ["workspaces"]
  let workdir := prepareWorkdir workspacesRoot startupId taskId
  let disk ← disk.mkdirAll workdir
  let disk ← disk.mkdirAll workspacesDir
  let disk ← disk.symlink (join workdir ["workspaces"]) workspacesDir
  let disk ← writeSkills (join workdir ["skills"]) skills disk
  disk.writeFile (join workdir ["CLAUDE.md"]) (buildClaudeMd startupId taskId agentId skills)

/-! ### What a skill leaves -/

/-- The text of a skill, relative to `skills/`. -/
def mdName (s : SkillContent) : List Char := (s.name ++ ".md").toList

/-- What a skill is to leave below `skills/`. -/
inductive Writes (s : SkillContent) : AbsPath → Entry → Prop
  | md : Writes s [mdName s] (.file s.contentMd)
  | subdir : s.files ≠ [] → Writes s [s.name.toList] .dir
  | file {f : String × String} : f ∈ s.files → Writes s [s.name.toList, f.1.toList] (.file f.2)

/-- The skill is there: its text, and in its directory its files and nothing else. -/
structure Materialised (disk : Disk) (skillsDir : AbsPath) (s : SkillContent) : Prop where
  md : disk (skillsDir ++ [mdName s]) = some (.file s.contentMd)
  files : ∀ rest e, rest ≠ [] → (disk (skillsDir ++ s.name.toList :: rest) = some e ↔
    ∃ f ∈ s.files, rest = [f.1.toList] ∧ e = .file f.2)

/-- The names of a skill and of its files are components of paths. -/
structure WellNamed (s : SkillContent) : Prop where
  plain : Plain s.name.toList
  noDot : '.' ∉ s.name.toList
  files : ∀ f ∈ s.files, Plain f.1.toList
  nodup : (s.files.map Prod.fst).Nodup

section Names

variable {s s' : SkillContent} {rest : AbsPath} {e : Entry}

theorem dot_mem_mdName (s : SkillContent) : '.' ∈ mdName s := by simp [mdName]

theorem mdName_inj : mdName s = mdName s' ↔ s.name = s'.name := by
  simp [mdName, String.toList_append, ← String.toList_inj]

theorem WellNamed.plain_mdName (h : WellNamed s) : Plain (mdName s) := by
  have hmd : mdName s = s.name.toList ++ ['.', 'm', 'd'] := by simp [mdName]
  rw [hmd]
  constructor
  · simp
  · intro heq
    simpa using congrArg List.length heq
  · intro heq
    simpa using congrArg List.length heq
  · simpa using h.plain.no_slash

theorem WellNamed.ne_mdName (h : WellNamed s) (s' : SkillContent) : s.name.toList ≠ mdName s' :=
  fun heq => h.noDot (heq ▸ dot_mem_mdName s')

/-- Skills with different names leave nothing in the same place. -/
theorem Writes.name_eq {e' : Entry} (h : Writes s rest e) (h' : Writes s' rest e') (hs : WellNamed s)
    (hs' : WellNamed s') : s.name = s'.name := by
  cases h with
  | md =>
      generalize hrest : [mdName s] = rest at h'
      cases h' with
      | md => exact mdName_inj.mp (List.singleton_inj.mp hrest)
      | subdir => exact absurd (List.singleton_inj.mp hrest).symm (hs'.ne_mdName s)
      | file => simp at hrest
  | subdir =>
      generalize hrest : [s.name.toList] = rest at h'
      cases h' with
      | md => exact absurd (List.singleton_inj.mp hrest) (hs.ne_mdName s')
      | subdir => exact String.toList_inj.mp (List.singleton_inj.mp hrest)
      | file => simp at hrest
  | @file f =>
      generalize hrest : [s.name.toList, f.1.toList] = rest at h'
      cases h' with
      | md => simp at hrest
      | subdir => simp at hrest
      | file => exact String.toList_inj.mp (List.cons_eq_cons.mp hrest).1

end Names

/-- No two skills leave anything in the same place. -/
def NoOverwrite (skills : List SkillContent) : Prop :=
  skills.Pairwise fun s s' => ∀ rest e e', Writes s rest e → ¬ Writes s' rest e'

/-- Skills overwrite each other exactly if two have one name. -/
theorem noOverwrite_iff {skills : List SkillContent} (h : ∀ s ∈ skills, WellNamed s) :
    NoOverwrite skills ↔ (skills.map SkillContent.name).Nodup := by
  rw [NoOverwrite, List.Nodup, List.pairwise_map]
  constructor
  · refine fun hpair => hpair.imp fun {s s'} hfree hname => ?_
    have hplace : Writes s' [mdName s] (.file s'.contentMd) := by
      rw [mdName_inj.mpr hname]
      exact .md
    exact hfree _ _ _ .md hplace
  · refine fun hnames => hnames.imp_of_mem fun {s s'} hs hs' hne rest e e' hw hw' => ?_
    exact hne (hw.name_eq hw' (h s hs) (h s' hs'))

/-! ### One skill -/

section One

variable {base : AbsPath} {disk : Disk} {s : SkillContent}

/-- A skill whose places are free is written there, and nothing else changes. -/
theorem writeSkill_places (hdirs : disk.Dirs base) (hs : WellNamed s)
    (hfree : ∀ rest e, Writes s rest e → disk (base ++ rest) = none) :
    ∃ disk', writeSkill base disk s = some disk' ∧
      (∀ rest e, Writes s rest e → disk' (base ++ rest) = some e) ∧
        ∀ p, (∀ rest e, Writes s rest e → p ≠ base ++ rest) → disk' p = disk p := by
  have hmd : join base [s.name ++ ".md"] = base ++ [mdName s] :=
    join_plain (List.forall_mem_singleton.mpr hs.plain_mdName)
  have hsub : join base [s.name] = base ++ [s.name.toList] := join_plain (by simpa using hs.plain)
  have hne : base ++ [s.name.toList] ≠ base ++ [mdName s] := by simpa using hs.ne_mdName s
  let written := disk.set (base ++ [mdName s]) (.file s.contentMd)
  have hwrite : disk.writeFile (base ++ [mdName s]) s.contentMd = some written :=
    writeFile_eq hdirs.isDir (hfree _ _ .md)
  by_cases hfiles : s.files = []
  · refine ⟨written, ?_, ?_, fun p hp => set_of_ne (hp _ _ .md)⟩
    · simp only [writeSkill, hmd, hwrite, hfiles, if_true]
      rfl
    · rintro rest e (- | hsome | hmem)
      · exact set_self
      · exact absurd hfiles hsome
      · exact absurd (hfiles ▸ hmem) List.not_mem_nil
  · have hwritten : written.Dirs base := hdirs.set_below
    have hnone : written (base ++ [s.name.toList]) = none :=
      (set_of_ne hne).trans (hfree _ _ (.subdir hfiles))
    let made := written.set (base ++ [s.name.toList]) .dir
    have hmkdir : written.mkdirAll (base ++ [s.name.toList]) = some made := mkdirAll_concat hwritten hnone
    obtain ⟨disk', hrun, hcontents, hframe⟩ := writeFiles_spec (d := made) (.inr set_self) hs.files hs.nodup (by
      intro f hf
      have hlong : ∀ w : List Char, base ++ [s.name.toList] ++ [f.1.toList] ≠ base ++ [w] := by simp
      refine (set_of_ne (hlong _)).trans ((set_of_ne (hlong _)).trans ?_)
      rw [List.append_assoc]
      exact hfree _ _ (.file hf))
    have hshort : ∀ w : List Char, disk' (base ++ [w]) = made (base ++ [w]) := by
      intro w
      exact hframe _ fun f _ => by simp
    refine ⟨disk', ?_, ?_, fun p hp => ?_⟩
    · simp only [writeSkill, hmd, hsub, hwrite, Option.bind_eq_bind, Option.bind_some, if_neg hfiles, hmkdir]
      exact hrun
    · rintro rest e (- | - | hmem)
      · exact (hshort _).trans ((set_of_ne hne.symm).trans set_self)
      · exact (hshort _).trans set_self
      · simpa using hcontents _ hmem
    · have hfile : ∀ f ∈ s.files, p ≠ base ++ [s.name.toList] ++ [f.1.toList] := by
        intro f hf
        rw [List.append_assoc]
        exact hp _ _ (.file hf)
      exact (hframe p hfile).trans ((set_of_ne (hp _ _ (.subdir hfiles))).trans (set_of_ne (hp _ _ .md)))

end One

/-! ### All of them -/

/-- Below `skills/` there is what the skills leave, and elsewhere nothing has changed. -/
structure Wrote (base : AbsPath) (before : Disk) (done : List SkillContent) (disk : Disk) : Prop where
  under : ∀ rest e, rest ≠ [] → (disk (base ++ rest) = some e ↔ ∃ s ∈ done, Writes s rest e)
  frame : ∀ p, (∀ rest, rest ≠ [] → p ≠ base ++ rest) → disk p = before p

section All

variable {base : AbsPath} {before disk : Disk} {s : SkillContent} {done skills : List SkillContent}

theorem Writes.ne_nil {rest : AbsPath} {e : Entry} (h : Writes s rest e) : rest ≠ [] := by
  cases h <;> simp

/-- A place below `skills/` is not above it. -/
theorem Wrote.dirs (h : Wrote base before done disk) (hdirs : before.Dirs base) : disk.Dirs base := by
  refine hdirs.congr fun q hq => h.frame q fun rest hrest heq => ?_
  have hlength := hq.length_le
  rw [heq, List.length_append] at hlength
  exact hrest (List.length_eq_zero_iff.mp (by omega))

/-- One more skill, of another name. -/
theorem Wrote.step (h : Wrote base before done disk) (hdirs : before.Dirs base) (hs : WellNamed s)
    (hdone : ∀ s' ∈ done, WellNamed s' ∧ s'.name ≠ s.name) :
    ∃ disk', writeSkill base disk s = some disk' ∧ Wrote base before (done ++ [s]) disk' := by
  have hother : ∀ s' ∈ done, ∀ rest e e', Writes s' rest e → ¬ Writes s rest e' := fun s' hs' rest e e' hw' hw =>
    (hdone s' hs').2 (hw'.name_eq hw (hdone s' hs').1 hs)
  have hfree : ∀ rest e, Writes s rest e → disk (base ++ rest) = none := by
    intro rest e hw
    by_contra hsome
    obtain ⟨e', he'⟩ := Option.ne_none_iff_exists'.mp hsome
    obtain ⟨s', hs', hw'⟩ := (h.under rest e' hw.ne_nil).mp he'
    exact hother s' hs' rest e' e hw' hw
  obtain ⟨disk', hrun, hplaces, hframe⟩ := writeSkill_places (h.dirs hdirs) hs hfree
  refine ⟨disk', hrun, fun rest e hrest => ?_, fun p hp => ?_⟩
  · by_cases hw : ∃ e', Writes s rest e'
    · obtain ⟨e', hw⟩ := hw
      have hat := hplaces rest e' hw
      constructor
      · intro he
        obtain rfl := Option.some.inj (hat.symm.trans he)
        exact ⟨s, by simp, hw⟩
      · rintro ⟨s', hs', hw'⟩
        rcases List.mem_append.mp hs' with hs' | hs'
        · exact absurd hw (hother s' hs' rest e e' hw')
        · obtain rfl := List.mem_singleton.mp hs'
          exact hplaces rest e hw'
    · have hsame : disk' (base ++ rest) = disk (base ++ rest) :=
        hframe _ fun rest' e' hw' heq => hw ⟨e', List.append_cancel_left heq ▸ hw'⟩
      rw [hsame, h.under rest e hrest]
      constructor
      · rintro ⟨s', hs', hw'⟩
        exact ⟨s', List.mem_append_left _ hs', hw'⟩
      · rintro ⟨s', hs', hw'⟩
        rcases List.mem_append.mp hs' with hs' | hs'
        · exact ⟨s', hs', hw'⟩
        · obtain rfl := List.mem_singleton.mp hs'
          exact absurd ⟨e, hw'⟩ hw
  · rw [hframe p fun rest e hw => hp rest hw.ne_nil, h.frame p hp]

/-- Skills of different names are all written. -/
theorem foldlM_writeSkill (hdirs : before.Dirs base) (h : Wrote base before done disk)
    (hnamed : ∀ s ∈ done ++ skills, WellNamed s) (hnodup : ((done ++ skills).map SkillContent.name).Nodup) :
    ∃ disk', skills.foldlM (writeSkill base) disk = some disk' ∧ Wrote base before (done ++ skills) disk' := by
  induction skills generalizing done disk with
  | nil => exact ⟨disk, rfl, by rwa [List.append_nil]⟩
  | cons s skills ih =>
      have hsplit : done ++ s :: skills = (done ++ [s]) ++ skills := by simp
      rw [hsplit] at hnamed hnodup
      have hnew : ((done ++ [s]).map SkillContent.name).Nodup :=
        hnodup.sublist ((List.sublist_append_left _ _).map _)
      have hdone : ∀ s' ∈ done, WellNamed s' ∧ s'.name ≠ s.name := by
        intro s' hs'
        refine ⟨hnamed s' (by simp [hs']), ?_⟩
        rw [List.map_append, List.nodup_append] at hnew
        exact hnew.2.2 s'.name (List.mem_map_of_mem hs') s.name (by simp)
      obtain ⟨disk₁, hrun, hwrote⟩ := h.step hdirs (hnamed s (by simp)) hdone
      obtain ⟨disk', hrest, hall⟩ := ih hwrote hnamed hnodup
      refine ⟨disk', ?_, hsplit ▸ hall⟩
      rw [List.foldlM_cons, hrun]
      exact hrest

/-- In its place a skill is whole. -/
theorem Wrote.materialised (h : Wrote base before skills disk) (hnodup : (skills.map SkillContent.name).Nodup)
    (hs : s ∈ skills) : Materialised disk base s where
  md := (h.under _ _ (by simp)).mpr ⟨s, hs, .md⟩
  files rest e hrest := by
    rw [h.under _ _ (by simp)]
    constructor
    · rintro ⟨s', hs', hw⟩
      generalize hplace : s.name.toList :: rest = place at hw
      cases hw with
      | md => exact absurd (List.cons_eq_cons.mp hplace).2 hrest
      | subdir => exact absurd (List.cons_eq_cons.mp hplace).2 hrest
      | @file f hf =>
          obtain ⟨hname, rfl⟩ := List.cons_eq_cons.mp hplace
          obtain rfl := List.inj_on_of_nodup_map hnodup hs hs' (String.toList_inj.mp hname)
          exact ⟨f, hf, rfl, rfl⟩
    · rintro ⟨f, hf, rfl, rfl⟩
      exact ⟨s, hs, .file hf⟩

end All

/-! ### The directory -/

section Workdir

variable {root : AbsPath} {startupId taskId agentId : String} {skills : List SkillContent} {disk : Disk}

/-- The directory is there, and nothing is in it. -/
structure EmptyDir (disk : Disk) (p : AbsPath) : Prop where
  dirs : disk.Dirs p
  empty : ∀ rest, rest ≠ [] → disk (p ++ rest) = none

/-- A place in another entry of the directory. -/
theorem append_ne {p rest : AbsPath} {v w : List Char} (h : v ≠ w) : p ++ [v] ≠ p ++ [w] ++ rest := by
  simp [h]

/-- The directory of the skills, and the skills in it. -/
theorem exists_skillsDir {dir : AbsPath} {w : List Char} (hdirs : disk.Dirs dir)
    (hfree : ∀ rest, disk (dir ++ [w] ++ rest) = none) (hnamed : ∀ s ∈ skills, WellNamed s)
    (hnodup : (skills.map SkillContent.name).Nodup) :
    ∃ made disk', disk.mkdirAll (dir ++ [w]) = some made ∧
      skills.foldlM (writeSkill (dir ++ [w])) made = some disk' ∧
      (∀ s ∈ skills, Materialised disk' (dir ++ [w]) s) ∧
        ∀ p, (∀ rest, p ≠ dir ++ [w] ++ rest) → disk' p = disk p := by
  have hnone : disk (dir ++ [w]) = none := by simpa using hfree []
  have hmade : (disk.set (dir ++ [w]) .dir).Dirs (dir ++ [w]) := hdirs.set_dir
  have hwrote : Wrote (dir ++ [w]) (disk.set (dir ++ [w]) .dir) [] (disk.set (dir ++ [w]) .dir) := by
    refine ⟨fun rest e hrest => ?_, fun _ _ => rfl⟩
    have hself : dir ++ [w] ++ rest ≠ dir ++ [w] := by simpa using hrest
    have hat : disk.set (dir ++ [w]) .dir (dir ++ [w] ++ rest) = none := (set_of_ne hself).trans (hfree rest)
    rw [hat]
    simp
  obtain ⟨disk', hrun, hall⟩ := foldlM_writeSkill hmade hwrote hnamed hnodup
  refine ⟨_, disk', mkdirAll_concat hdirs hnone, hrun, fun s hs => hall.materialised hnodup hs, fun p hp => ?_⟩
  exact (hall.frame p fun rest _ => hp rest).trans (set_of_ne (by simpa using hp []))

/-- The skills of a task, if there are any. -/
theorem exists_skills {dir : AbsPath} {w : List Char} (hdirs : disk.Dirs dir)
    (hfree : ∀ rest, disk (dir ++ [w] ++ rest) = none) (hnamed : ∀ s ∈ skills, WellNamed s)
    (hnodup : (skills.map SkillContent.name).Nodup) :
    ∃ disk', writeSkills (dir ++ [w]) skills disk = some disk' ∧
      (∀ s ∈ skills, Materialised disk' (dir ++ [w]) s) ∧
        ∀ p, (∀ rest, p ≠ dir ++ [w] ++ rest) → disk' p = disk p := by
  by_cases hskills : skills = []
  · exact ⟨disk, if_pos hskills, by simp [hskills], fun _ _ => rfl⟩
  · obtain ⟨made, disk', hmkdir, hrun, hall⟩ := exists_skillsDir hdirs hfree hnamed hnodup
    refine ⟨disk', ?_, hall⟩
    rw [writeSkills, if_neg hskills, hmkdir]
    exact hrun

/-- Skills with different names are all written into an empty directory. -/
theorem writeWorkdir_spec (hstartup : Plain startupId.toList) (htask : Plain taskId.toList)
    (hempty : EmptyDir disk (prepareWorkdir root startupId taskId)) (hnamed : ∀ s ∈ skills, WellNamed s)
    (hnodup : (skills.map SkillContent.name).Nodup) :
    ∃ disk', writeWorkdir root startupId taskId agentId skills disk = some disk' ∧
      ∀ s ∈ skills, Materialised disk' (join (prepareWorkdir root startupId taskId) ["skills"]) s := by
  have hjoin : ∀ (base : AbsPath) (name : String), Plain name.toList → join base [name] = base ++ [name.toList] :=
    fun base _ h => join_plain (List.forall_mem_singleton.mpr h)
  have hplain : ∀ s ∈ [startupId, taskId, "workdir"], Plain s.toList := by
    simp only [List.forall_mem_cons]
    exact ⟨hstartup, htask, by decide, by simp⟩
  have habove : join root ["workspaces"] <+: prepareWorkdir root startupId taskId :=
    ⟨_, (join_plain hplain).symm⟩
  generalize hworkdir : prepareWorkdir root startupId taskId = workdir at hempty habove
  -- the link to the shared tree
  let linked := disk.set (workdir ++ ["workspaces".toList]) (.link (join root ["workspaces"]))
  have hlink : disk.symlink (workdir ++ ["workspaces".toList]) (join root ["workspaces"]) = some linked :=
    symlink_eq hempty.dirs.isDir (hempty.empty _ (by simp))
  have hdirs : linked.Dirs workdir := hempty.dirs.set_below
  have hfree : ∀ w, w ≠ "workspaces".toList → ∀ rest, linked (workdir ++ [w] ++ rest) = none := by
    intro w hw rest
    refine (set_of_ne (append_ne hw.symm).symm).trans ?_
    rw [List.append_assoc]
    exact hempty.empty _ (by simp)
  obtain ⟨disk', hrun, hall, hframe⟩ := exists_skills hdirs (hfree "skills".toList (by decide)) hnamed hnodup
  -- the text for the agent is in no skill's place
  have hmdDir : disk'.Dirs workdir := by
    refine hdirs.congr fun q hq => hframe q fun rest => ?_
    rw [List.append_assoc]
    exact ne_below_of_above hq
  have hmdFree : disk' (workdir ++ ["CLAUDE.md".toList]) = none := by
    refine (hframe _ fun rest => append_ne (by decide)).trans ?_
    simpa using hfree "CLAUDE.md".toList (by decide) []
  let content := buildClaudeMd startupId taskId agentId skills
  refine ⟨disk'.set (workdir ++ ["CLAUDE.md".toList]) (.file content), ?_, fun s hs => ?_⟩
  · simp only [writeWorkdir, hworkdir, mkdirAll_of_dirs hempty.dirs, mkdirAll_of_dirs (hempty.dirs.of_prefix habove),
      Option.bind_eq_bind, Option.bind_some, hjoin workdir "workspaces" (by decide),
      hjoin workdir "skills" (by decide), hjoin workdir "CLAUDE.md" (by decide), hlink, hrun]
    exact writeFile_eq hmdDir.isDir hmdFree
  · have hsame : ∀ rest, disk'.set (workdir ++ ["CLAUDE.md".toList]) (.file content)
        (workdir ++ ["skills".toList] ++ rest) = disk' (workdir ++ ["skills".toList] ++ rest) :=
      fun rest => set_of_ne (append_ne (by decide)).symm
    rw [hjoin _ "skills" (by decide)]
    exact ⟨(hsame _).trans (hall s hs).md, fun rest e hrest => by rw [hsame, (hall s hs).files rest e hrest]⟩

end Workdir

end Cliptown.Worker
