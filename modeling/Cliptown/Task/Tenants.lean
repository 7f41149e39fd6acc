import Cliptown.Task.Tenancy

/-!
# What a call of an agent does not touch

* `TenantRows`, `Db.rowsOf` — the rows that belong to a startup.
* `AttachedAtHome` — skills are attached to agents of their own startup, in every run.
* `SkillStep.rowsOf`, `Statement.rowsOf` — a statement on behalf of a startup leaves the rows of the others.
* `tenant_isolation` — so does a call, whatever it names.
-/

namespace Cliptown.Task

open Cliptown.Lib Cliptown.Town Cliptown.World

/-- The rows that belong to a startup, by their keys. -/
@[ext]
structure TenantRows where
  startup : Option Startup
  agents : String → Option Agent
  tasks : String → Option TaskRow
  messages : String → Option Message
  skills : String → Option Skill
  skillFiles : String → Option SkillFile
  skillRevisions : String → Option SkillRevision
  agentSkills : String × String → Option ℤ

/-- The startup of an agent. -/
def Db.startupOf (db : Db) (agentId : String) : Option String :=
  (db.agents.lookup agentId).map Agent.startupId

/-- The rows of a startup. Files and revisions belong to the startup of their skill, an attachment to that
of its agent and to that of its skill. -/
def Db.rowsOf (db : Db) (startupId : String) : TenantRows where
  startup := db.startups.lookup startupId
  agents := db.agents.select fun _ agent => agent.startupId = startupId
  tasks := db.tasks.select fun _ task => task.startupId = startupId
  messages := db.messages.select fun _ message => message.startupId = startupId
  skills := db.skills.skills.select fun _ skill => skill.startupId = startupId
  skillFiles := db.skills.files.select fun _ f => db.skills.ownerOf f.skillId = some startupId
  skillRevisions := db.skills.revisions.select fun _ r => db.skills.ownerOf r.skillId = some startupId
  agentSkills := db.skills.attachments.select fun key _ =>
    db.startupOf key.1 = some startupId ∨ db.skills.ownerOf key.2 = some startupId

/-- Skills are attached to agents of their own startup. -/
def AttachedAtHome (db : Db) : Prop :=
  ∀ key at' agent skill, db.skills.attachments.lookup key = some at' →
    db.agents.lookup key.1 = some agent → db.skills.skills.lookup key.2 = some skill →
      agent.startupId = skill.startupId

section Skills

variable {db db' : Db} {party : Party} {home other : String}

/-! ### Attachments -/

/-- A skill that was there stays in its startup. -/
theorem SkillStep.skill_of (h : SkillStep party db db') {id : String} {skill' : Skill}
    (hold : (db.skills.skills.lookup id).isSome) (hskill : db'.skills.skills.lookup id = some skill') :
    ∃ skill, db.skills.skills.lookup id = some skill ∧ skill.startupId = skill'.startupId := by
  cases h.skillsWrite with
  | kept heq => exact ⟨skill', heq ▸ hskill, rfl⟩
  | update _ hstartup heq =>
      rw [heq, Table.lookup_modify] at hskill
      split at hskill
      · obtain ⟨skill, hskill₀, rfl⟩ := Option.map_eq_some_iff.mp hskill
        exact ⟨skill, hskill₀, (hstartup skill).symm⟩
      · exact ⟨skill', hskill, rfl⟩
  | insert _ hnone heq =>
      rw [heq, Table.lookup_insert_eq] at hskill
      split at hskill
      · rename_i hid
        rw [hid, hnone] at hold
        exact absurd hold (by simp)
      · exact ⟨skill', hskill, rfl⟩
  | delete _ heq =>
      rw [heq, Table.lookup_erase_eq] at hskill
      split at hskill
      · exact absurd hskill (by simp)
      · exact ⟨skill', hskill, rfl⟩

/-- An attachment was there before, or its agent and its skill have been checked. -/
theorem SkillStep.attachment_of (h : SkillStep party db db') {key : String × String} {at' : ℤ}
    (hkey : db'.skills.attachments.lookup key = some at') :
    db.skills.attachments.lookup key = some at' ∨ Attachable party db key.1 key.2 := by
  cases h.attachmentsWrite with
  | kept heq => exact .inl (heq ▸ hkey)
  | delete _ heq =>
      rw [heq] at hkey
      exact .inl (Table.of_lookup_deleteWhere hkey).1
  | attach hattachable _ heq =>
      rw [heq, Table.lookup_insert_eq] at hkey
      split at hkey
      · rename_i hid
        rw [hid]
        exact .inr hattachable
      · exact .inl hkey
  | detach _ heq =>
      rw [heq, Table.lookup_erase_eq] at hkey
      split at hkey
      · exact absurd hkey (by simp)
      · exact .inl hkey

/-- Statements on skills attach within a startup. -/
theorem SkillStep.attachedAtHome (h : SkillStep party db db') (hs : AttachedAtHome db) :
    AttachedAtHome db' := by
  obtain ⟨tables, rfl⟩ := SkillSteps.eq (.single h)
  intro key at' agent skill' hkey hagent hskill
  rcases h.attachment_of hkey with hold | ⟨agent', skill, hagent', hskill', hsame, -⟩
  · obtain ⟨skill, hskill, hstartup⟩ := h.skill_of (db.skills.attachmentRefs key at' hold) hskill
    exact (hs key at' agent skill hold hagent hskill).trans hstartup
  · obtain ⟨skill₀, hskill₀, hstartup⟩ := h.skill_of (by simp [hskill']) hskill
    obtain rfl := Option.some.inj (hskill'.symm.trans hskill₀)
    obtain rfl := Option.some.inj (hagent'.symm.trans hagent)
    exact hsame.trans hstartup

/-! ### The rows of another startup -/

/-- What may be touched does not belong to another startup. -/
theorem ownerOf_ne (hne : other ≠ home) {skillId : String}
    (howned : db.skills.OwnedBy (.agent home) skillId) : db.skills.ownerOf skillId ≠ some other := by
  intro howner
  obtain ⟨skill, hskill, hstartup⟩ := (SkillTables.ownerOf_eq_some_iff _).mp howner
  exact hne (hstartup.symm.trans (howned skill hskill))

/-- Which skills belong to another startup does not change. -/
theorem SkillStep.ownerOf_iff (h : SkillStep (.agent home) db db') (hne : other ≠ home)
    (skillId : String) :
    db'.skills.ownerOf skillId = some other ↔ db.skills.ownerOf skillId = some other := by
  unfold SkillTables.ownerOf
  cases h.skillsWrite with
  | kept heq => rw [heq]
  | @update id f _ hstartup heq =>
      rw [heq, Table.lookup_modify]
      split
      · have hsame : Skill.startupId ∘ f = Skill.startupId := funext hstartup
        rw [Option.map_map, hsame]
      · rfl
  | @insert id skill hhome hnone heq =>
      rw [heq, Table.lookup_insert_eq]
      split
      · rename_i hid
        rw [hid, hnone]
        have hstartup : skill.startupId ≠ other := fun h => hne (h.symm.trans hhome)
        simpa using hstartup
      · rfl
  | @delete id howned heq =>
      rw [heq]
      by_cases hid : skillId = id
      · subst hid
        exact iff_of_false (by simp) (ownerOf_ne hne howned)
      · rw [Table.lookup_erase_eq, if_neg hid]

/-- Skills of another startup are left alone. -/
theorem SkillStep.select_skills (h : SkillStep (.agent home) db db') (hne : other ≠ home) :
    (db'.skills.skills.select fun _ skill => skill.startupId = other) =
      db.skills.skills.select fun _ skill => skill.startupId = other := by
  cases h.skillsWrite with
  | kept heq => rw [heq]
  | update howned hstartup heq =>
      rw [heq]
      refine Table.select_modify fun skill hskill => ?_
      have hstartup' : skill.startupId ≠ other := fun h => hne (h.symm.trans (howned skill hskill))
      exact ⟨by simpa using hstartup', by simpa [hstartup skill] using hstartup'⟩
  | @insert id skill hhome hnone heq =>
      rw [heq]
      refine Table.select_insert hnone ?_
      have hstartup : skill.startupId ≠ other := fun h => hne (h.symm.trans hhome)
      simpa using hstartup
  | delete howned heq =>
      rw [heq]
      refine Table.select_erase fun skill hskill => ?_
      have hstartup : skill.startupId ≠ other := fun h => hne (h.symm.trans (howned skill hskill))
      simpa using hstartup

/-- So are their files. -/
theorem SkillStep.select_files (h : SkillStep (.agent home) db db') (hne : other ≠ home) :
    (db'.skills.files.select fun _ f => db.skills.ownerOf f.skillId = some other) =
      db.skills.files.select fun _ f => db.skills.ownerOf f.skillId = some other := by
  cases h with
  | @insert k skill t _ ht =>
      obtain ⟨-, -, hfiles, -, -⟩ := SkillTables.insertSkill_eq_some ht
      change t.files.select _ = _
      rw [hfiles]
  | @delete k howned =>
      refine Table.select_deleteWhere fun id f _ hid => ?_
      obtain rfl : f.skillId = k := by simpa using hid
      simpa using ownerOf_ne hne howned
  | @revision k r t _ ht =>
      obtain ⟨-, -, -, hfiles, -⟩ := SkillTables.insertRevision_eq_some ht
      change t.files.select _ = _
      rw [hfiles]
  | @updateFile k content now howned =>
      refine Table.select_modify fun f hf => ?_
      have hno := ownerOf_ne hne (howned f hf)
      exact ⟨by simpa using hno, by simpa using hno⟩
  | @insertFile k f t howned ht =>
      obtain ⟨hnone, hfiles, -, -, -⟩ := SkillTables.insertFile_eq_some ht
      change t.files.select _ = _
      rw [hfiles]
      exact Table.select_insert hnone (by simpa using ownerOf_ne hne howned)
  | @deleteFile k name howned =>
      refine Table.select_deleteWhere fun id f _ hid => ?_
      obtain ⟨rfl, -⟩ : f.skillId = k ∧ f.name = name := by simpa using hid
      simpa using ownerOf_ne hne howned
  | @attach agentId k now t _ ht =>
      obtain ⟨-, hfiles, -, -⟩ := SkillTables.attach_eq_some ht
      change t.files.select _ = _
      rw [hfiles]
  | update _ _ => rfl
  | detach _ => rfl

/-- So are their revisions. -/
theorem SkillStep.select_revisions (h : SkillStep (.agent home) db db') (hne : other ≠ home) :
    (db'.skills.revisions.select fun _ r => db.skills.ownerOf r.skillId = some other) =
      db.skills.revisions.select fun _ r => db.skills.ownerOf r.skillId = some other := by
  cases h with
  | @insert k skill t _ ht =>
      obtain ⟨-, -, -, hrevisions, -⟩ := SkillTables.insertSkill_eq_some ht
      change t.revisions.select _ = _
      rw [hrevisions]
  | @delete k howned =>
      refine Table.select_deleteWhere fun id r _ hid => ?_
      obtain rfl : r.skillId = k := by simpa using hid
      simpa using ownerOf_ne hne howned
  | @revision k r t howned ht =>
      obtain ⟨hnone, hrevisions, -, -, -⟩ := SkillTables.insertRevision_eq_some ht
      change t.revisions.select _ = _
      rw [hrevisions]
      exact Table.select_insert hnone (by simpa using ownerOf_ne hne howned)
  | @insertFile k f t _ ht =>
      obtain ⟨-, -, -, hrevisions, -⟩ := SkillTables.insertFile_eq_some ht
      change t.revisions.select _ = _
      rw [hrevisions]
  | @attach agentId k now t _ ht =>
      obtain ⟨-, -, hrevisions, -⟩ := SkillTables.attach_eq_some ht
      change t.revisions.select _ = _
      rw [hrevisions]
  | update _ _ => rfl
  | updateFile _ => rfl
  | deleteFile _ => rfl
  | detach _ => rfl

/-- An attachment within the caller's startup. -/
theorem attachment_ne (hne : other ≠ home) {agentId skillId : String}
    (h : Attachable (.agent home) db agentId skillId) :
    ¬ (db.startupOf agentId = some other ∨ db.skills.ownerOf skillId = some other) := by
  obtain ⟨agent, skill, hagent, hskill, hsame, hhome⟩ := h
  have hskill' : db.skills.ownerOf skillId = some home :=
    (SkillTables.ownerOf_eq_some_iff _).mpr ⟨skill, hskill, hhome⟩
  have hagent' : db.startupOf agentId = some home :=
    Option.map_eq_some_iff.mpr ⟨agent, hagent, hsame.trans hhome⟩
  rw [hagent', hskill', or_self]
  exact fun h => hne (Option.some.inj h).symm

/-- So are the attachments of their agents and of their skills. -/
theorem SkillStep.select_attachments (h : SkillStep (.agent home) db db') (hne : other ≠ home)
    (hattached : AttachedAtHome db) :
    (db'.skills.attachments.select fun key _ =>
        db.startupOf key.1 = some other ∨ db.skills.ownerOf key.2 = some other) =
      db.skills.attachments.select fun key _ =>
        db.startupOf key.1 = some other ∨ db.skills.ownerOf key.2 = some other := by
  cases h.attachmentsWrite with
  | kept heq => rw [heq]
  | @delete id howned heq =>
      rw [heq]
      refine Table.select_deleteWhere fun key at' hkey hid => ?_
      obtain rfl : key.2 = id := by simpa using hid
      -- the agents that the skill is attached to are of its startup
      have hno : ¬ (db.startupOf key.1 = some other ∨ db.skills.ownerOf key.2 = some other) := by
        rintro (hagent | hskill)
        · obtain ⟨agent, hagent, hstartup⟩ := Option.map_eq_some_iff.mp hagent
          obtain ⟨skill, hskill⟩ :=
            Option.isSome_iff_exists.mp (db.skills.attachmentRefs key at' hkey)
          have hsame := hattached key at' agent skill hkey hagent hskill
          exact hne (hstartup.symm.trans (hsame.trans (howned skill hskill)))
        · exact ownerOf_ne hne howned hskill
      simpa using hno
  | attach hattachable hnone heq =>
      rw [heq]
      exact Table.select_insert hnone (by simpa using attachment_ne hne hattachable)
  | detach hattachable heq =>
      rw [heq]
      exact Table.select_erase fun _ _ => by simpa using attachment_ne hne hattachable

/-- **A statement on skills** leaves the rows of the other startups. -/
theorem SkillStep.rowsOf (h : SkillStep (.agent home) db db') (hne : other ≠ home)
    (hattached : AttachedAtHome db) : db'.rowsOf other = db.rowsOf other := by
  have howner := h.ownerOf_iff hne
  have hskills := h.select_skills hne
  have hfiles := h.select_files hne
  have hrevisions := h.select_revisions hne
  have hattachments := h.select_attachments hne hattached
  obtain ⟨tables, rfl⟩ := SkillSteps.eq (.single h)
  simp only [Db.rowsOf, howner]
  exact TenantRows.ext rfl rfl rfl rfl hskills hfiles hrevisions hattachments

end Skills

section Statements

variable {cfg : Config} {party : Party} {astray : Prop} {s s' : LoopState} {home other : String}

/-- Nothing is attached where the skills and the attachments stay as they are. -/
theorem Statement.attachedAtHome_of_same (h : Statement party astray s s')
    (hskills : s'.db.skills.skills = s.db.skills.skills)
    (hattachments : s'.db.skills.attachments = s.db.skills.attachments)
    (hs : AttachedAtHome s.db) : AttachedAtHome s'.db := by
  intro key at' agent' skill hkey hagent' hskill
  rw [hattachments] at hkey
  rw [hskills] at hskill
  obtain ⟨agent, hagent, hmember⟩ := h.agent_of hagent'
  exact (congrArg Prod.fst hmember).symm.trans (hs key at' agent skill hkey hagent hskill)

/-- Statements attach skills within a startup. -/
theorem Statement.attachedAtHome (h : Statement party astray s s') (hs : AttachedAtHome s.db) :
    AttachedAtHome s'.db := by
  have hsame := h.attachedAtHome_of_same
  cases h with
  | skills hstep => exact hstep.attachedAtHome hs
  | relink hdb _ =>
      have hskills := (onlyTasks_relinkTask hdb).skills
      exact hsame (congrArg _ hskills) (congrArg _ hskills) hs
  | insert hdb _ =>
      have hskills := (onlyTasks_insertTask hdb).skills
      exact hsame (congrArg _ hskills) (congrArg _ hskills) hs
  | message hdb _ =>
      have hskills := congrArg Db.skills (insertMessage_eq hdb).2
      exact hsame (congrArg _ hskills) (congrArg _ hskills) hs
  | _ => exact hsame rfl rfl hs

/-- The rows of the other startups, among those of `tasks`. -/
theorem Statement.select_tasks (h : Statement (.agent home) astray s s') (hne : other ≠ home) :
    (s'.db.tasks.select fun _ task => task.startupId = other) =
      s.db.tasks.select fun _ task => task.startupId = other := by
  apply Table.select_congr
  intro id task
  simp only [decide_eq_true_eq]
  constructor
  · rintro ⟨htask, hstartup⟩
    rcases h.row_of htask with ⟨task₀, htask₀, hkept⟩ | ⟨-, hcreated⟩
    · rcases hkept.owned with rfl | hhome
      · exact ⟨htask₀, hstartup⟩
      · exact absurd (hstartup.symm.trans (hkept.startup.trans hhome)) hne
    · exact absurd (hstartup.symm.trans hcreated.owned) hne
  · rintro ⟨htask, hstartup⟩
    obtain ⟨task', htask', hkept⟩ := h.row_kept htask
    rcases hkept.owned with rfl | hhome
    · exact ⟨htask', hstartup⟩
    · exact absurd (hstartup.symm.trans hhome) hne

theorem OnlyTasks.rowsOf {db db' : Db} (h : OnlyTasks db db')
    (htasks : (db'.tasks.select fun _ task => task.startupId = other) =
      db.tasks.select fun _ task => task.startupId = other) : db'.rowsOf other = db.rowsOf other := by
  unfold Db.rowsOf Db.startupOf
  rw [h.startups, h.agents, h.messages, h.skills, htasks]

/-- **A statement on behalf of a startup** leaves the rows of the others. -/
theorem Statement.rowsOf (h : Statement (.agent home) astray s s') (hne : other ≠ home)
    (hattached : AttachedAtHome s.db) : s'.db.rowsOf other = s.db.rowsOf other := by
  have htasks := h.select_tasks hne
  cases h with
  | touch => exact TenantRows.ext rfl rfl htasks rfl rfl rfl rfl rfl
  | relink hdb _ => exact (onlyTasks_relinkTask hdb).rowsOf htasks
  | insert hdb _ => exact (onlyTasks_insertTask hdb).rowsOf htasks
  | @message id m db hdb hhome =>
      obtain ⟨hnone, rfl⟩ := insertMessage_eq hdb
      have hmessage : m.startupId ≠ other := fun h => hne (h.symm.trans hhome)
      exact TenantRows.ext rfl rfl rfl (Table.select_insert hnone (by simpa using hmessage))
        rfl rfl rfl rfl
  | skills hstep => exact hstep.rowsOf hne hattached
  | possess hparty => exact absurd hparty (by simp)
  | unpossess hparty => exact absurd hparty (by simp)
  | peerReviewer hparty => exact absurd hparty (by simp)
  | startup hparty => exact absurd hparty (by simp)
  | operators hparty => exact absurd hparty (by simp)
  | disown hparty => exact absurd hparty (by simp)
  | _ => rfl

/-- So does a run of them. -/
theorem Statements.rowsOf (h : Statements (.agent home) astray s s') (hne : other ≠ home)
    (hattached : AttachedAtHome s.db) : s'.db.rowsOf other = s.db.rowsOf other := by
  have hboth : AttachedAtHome s'.db ∧ s'.db.rowsOf other = s.db.rowsOf other := by
    induction h with
    | refl => exact ⟨hattached, rfl⟩
    | tail _ hstep ih =>
        obtain ⟨hattached, hrows⟩ := ih
        exact ⟨hstep.attachedAtHome hattached, (hstep.rowsOf hne hattached).trans hrows⟩
  exact hboth.2

variable (cfg) in
/-- **A call of an agent leaves the rows of the other startups**, in every state that is reached from one
in which skills are attached within startups, whatever tool it names with whatever arguments, and
whether it is granted or refused. -/
theorem tenant_isolation {s₀ : LoopState} {ls : List LoopEvent}
    (h : Run (loopSystem cfg).step s₀ ls s) (hattached : AttachedAtHome s₀.db) (env : Env)
    (agentId : String) (msg : Json) (other : String)
    (hother : ∀ caller, s.world.avatars.lookup agentId = some caller → caller.startupId ≠ other) :
    (dispatchMcp cfg env s agentId msg).2.db.rowsOf other = s.db.rowsOf other := by
  have hrun := System.run_restrict (S := loopSystem cfg) (C := fun _ _ => True) h fun _ _ _ => trivial
  have hs : AttachedAtHome s.db :=
    run_statements (I := fun s => AttachedAtHome s.db)
      (fun _ _ _ _ _ _ _ _ hs hstatement => hstatement.attachedAtHome hs) hrun hattached
  cases hcaller : s.world.avatars.lookup agentId with
  | none =>
      have hsame : (dispatchMcp cfg env s agentId msg).2 = s := by
        simp only [dispatchMcp, hcaller]
      rw [hsame]
  | some caller =>
      exact (dispatchMcp_statements cfg env msg hcaller).rowsOf (hother caller hcaller).symm hs

end Statements

/-- Where nothing is attached, nothing is attached across startups. -/
theorem attachedAtHome_of_empty {db : Db} (h : db.skills.attachments = ∅) : AttachedAtHome db := by
  intro key at' agent skill hkey
  rw [h, AList.lookup_empty] at hkey
  exact absurd hkey (by simp)

/-- The engineer blocks its task on one of the neighbour's founder: that one stays as it is. -/
theorem tenant_isolation_neighbour :
    (dispatchMcp sampleConfig (sampleEnv 4 "m") (runEvents sampleConfig sampleTown foreignParentEvents)
        "a-2" (.obj [("tool", .str "task_set_blocking"), ("args", .obj [("task_id", .str "T_2"),
          ("blocked_on", .str "T_1")])])).2.db.rowsOf "s-2" =
      (runEvents sampleConfig sampleTown foreignParentEvents).db.rowsOf "s-2" ∧
    (((runEvents sampleConfig sampleTown foreignParentEvents).db.rowsOf "s-2").tasks "T_1").isSome := by
  refine ⟨tenant_isolation sampleConfig (run_runEvents _ sampleTown foreignParentEvents)
    (attachedAtHome_of_empty rfl) _ _ _ _ fun caller hcaller => ?_, by decide +kernel⟩
  have hhome : ∀ caller ∈ (runEvents sampleConfig sampleTown
      foreignParentEvents).world.avatars.lookup "a-2", caller.startupId = "s-1" := by
    decide +kernel
  rw [hhome caller hcaller]
  decide

end Cliptown.Task
