import Cliptown.Task.SkillSteps
import Cliptown.Task.Caller

/-!
# What requests are made of

A request is a run of statements on the tables, changes of avatars and frames to workers. What each of
them may do, and on whose behalf, is said once; the properties of requests are then properties of a
statement.

* `Kept`, `Created` — what may happen to a row of `tasks`.
* `Statement`, `Statements` — one statement, and a run of them.
* `Statement.row_of`, `Statement.row_kept` — the rows after a statement and the rows before it.
* `Statements.touch`, `Statements.push`, … — runs are put together from these.
-/

namespace Cliptown.Task

open Cliptown.Lib Cliptown.Town Cliptown.World Cliptown.Console Relation

/-- An agent of a startup. -/
def AgentOf (db : Db) (agentId startupId : String) : Prop :=
  ∃ agent, db.agents.lookup agentId = some agent ∧ agent.startupId = startupId

/-- An agent with an avatar of a startup. -/
def AvatarOf (w : WorldView) (agentId startupId : String) : Prop :=
  ∃ key avatar, w.avatars.lookup key = some avatar ∧ (agentId = key ∨ agentId = avatar.agentId) ∧
    avatar.startupId = startupId

/-- A task of a startup. -/
def TaskIn (db : Db) (taskId startupId : String) : Prop :=
  ∃ t, db.tasks.lookup taskId = some t ∧ t.startupId = startupId

/-- A task of another startup. -/
def TaskAbroad (db : Db) (taskId startupId : String) : Prop :=
  ∃ t, db.tasks.lookup taskId = some t ∧ t.startupId ≠ startupId

/-- How often the audit trail says that the task was assigned. -/
def TaskRow.assignments (t : TaskRow) : ℕ :=
  t.auditTrail.countP fun entry => entry.getStr "kind" = some "task_assigned"

/-- The task, if it is there, may be touched. -/
def LoopState.OwnedBy (s : LoopState) (party : Party) (taskId : String) : Prop :=
  ∀ t, s.db.tasks.lookup taskId = some t → AtHome party t.startupId

/-- What may become of a row: it stays in its startup and under its parent, and a new assignee or a new
blocker is of the same startup. Where `astray` holds, the blocker may be of another one. -/
structure Kept (party : Party) (astray : Prop) (s : LoopState) (t t' : TaskRow) : Prop where
  startup : t'.startupId = t.startupId
  parent : t'.parentId = t.parentId
  assignee : ∀ a, t'.assigneeAgentId = some a → t.assigneeAgentId = some a ∨
    AgentOf s.db a t.startupId ∨ AvatarOf s.world a t.startupId
  blocker : ∀ u, t'.blockedOn = some u → t.blockedOn = some u ∨ TaskIn s.db u t.startupId ∨ astray
  owned : t' = t ∨ AtHome party t.startupId
  assignments : t'.assignments = t.assignments ∨ party = .scheduler

/-- What a new row may look like. -/
structure Created (party : Party) (astray : Prop) (s : LoopState) (t : TaskRow) : Prop where
  owned : AtHome party t.startupId
  assignee : ∀ a, t.assigneeAgentId = some a → AgentOf s.db a t.startupId
  parent : ∀ u, t.parentId = some u → TaskIn s.db u t.startupId ∨ astray
  blocker : ∀ u, t.blockedOn = some u → TaskIn s.db u t.startupId ∨ astray
  assignments : t.assignments = 0

theorem Kept.refl (party : Party) (astray : Prop) (s : LoopState) (t : TaskRow) :
    Kept party astray s t t where
  startup := rfl
  parent := rfl
  assignee _ h := .inl h
  blocker _ h := .inl h
  owned := .inl rfl
  assignments := .inl rfl

/-- An update that leaves the references alone. -/
theorem Kept.of_refs {party : Party} {astray : Prop} {s : LoopState} {t t' : TaskRow}
    (h : t'.refs = t.refs) (howned : AtHome party t.startupId)
    (haudit : t'.assignments = t.assignments ∨ party = .scheduler) : Kept party astray s t t' := by
  simp only [TaskRow.refs, Prod.mk.injEq] at h
  obtain ⟨hstartup, hparent, hassignee, hblocker⟩ := h
  refine ⟨hstartup, hparent, fun a ha => ?_, fun u hu => ?_, .inr howned, haudit⟩
  · exact .inl (hassignee ▸ ha)
  · exact .inl (hblocker ▸ hu)

/-- A note to the assignee of a parent. -/
def isNotice (frame : Json) : Bool :=
  frame.getStr "type" = some "subtask_done" ∨ frame.getStr "type" = some "subtask_proposed"

/-- The parent of a task of a startup. -/
def ParentIn (db : Db) (parentId startupId : String) : Prop :=
  ∃ id t, db.tasks.lookup id = some t ∧ t.parentId = some parentId ∧ t.startupId = startupId

/-- One statement. -/
inductive Statement (party : Party) (astray : Prop) (s : LoopState) : LoopState → Prop
  | touch {id : String} {f : TaskRow → TaskRow} (hf : ∀ t, (f t).refs = t.refs) :
      s.OwnedBy party id → (∀ t, (f t).assignments = t.assignments) ∨ party = .scheduler →
      Statement party astray s (s.updateTask id f hf)
  | relink {id : String} {f : TaskRow → TaskRow} {db : Db} : s.db.relinkTask id f = some db →
      (∀ t, s.db.tasks.lookup id = some t → Kept party astray s t (f t)) →
      Statement party astray s { s with db := db }
  | insert {id : String} {t : TaskRow} {db : Db} : s.db.insertTask id t = some db →
      Created party astray s t → Statement party astray s { s with db := db }
  | message {id : String} {m : Message} {db : Db} : s.db.insertMessage id m = some db →
      AtHome party m.startupId → Statement party astray s { s with db := db }
  | event {events : List SystemEvent} :
      Statement party astray s { s with db := { s.db with systemEvents := events } }
  | locks {locks : LockTable} :
      Statement party astray s { s with db := { s.db with actionLocks := locks } }
  | skills {db : Db} : SkillStep party s.db db → Statement party astray s { s with db := db }
  | notify {home agentId parentId : String} {frame : Json} : party = .agent home →
      assigneeOf s.db parentId = some agentId → ParentIn s.db parentId home →
      Statement party astray s { s with frames := s.frames ++ [(agentId, frame)] }
  | frame {agentId : String} {frame : Json} : isNotice frame = false →
      Statement party astray s { s with frames := s.frames ++ [(agentId, frame)] }
  | move {world : WorldView} {paths : PathStore} : s.world.SameAvatars world →
      Statement party astray s { s with world := world, paths := paths }
  | workers {outBus : List String} : Statement party astray s { s with outBus := outBus }
  /-- The operator's avatar appears, or goes. -/
  | possess {avatar : AvatarView} : party = .operator → avatar.agentId = operatorAvatarId →
      Statement party astray s
        { s with world := ⟨s.world.avatars.insert operatorAvatarId avatar⟩ }
  | unpossess : party = .operator →
      Statement party astray s { s with world := ⟨s.world.avatars.erase operatorAvatarId⟩ }
  | peerReviewer {agentId : String} {v : Bool} : party = .operator →
      Statement party astray s { s with db := s.db.setPeerReviewer agentId v }
  | startup {id : String} {f : Startup → Startup} : party = .operator →
      Statement party astray s { s with db := s.db.updateStartup id f }
  | operators {operators : Table String Operator} : party = .operator →
      Statement party astray s { s with db := { s.db with operators := operators } }
  | disown {operatorId : String} : party = .operator →
      Statement party astray s
        { s with db := { s.db with skills := s.db.skills.disown operatorId } }

/-- Statements one after the other. -/
abbrev Statements (party : Party) (astray : Prop) : LoopState → LoopState → Prop :=
  ReflTransGen (Statement party astray)

section Rows

variable {party : Party} {astray : Prop} {s s' : LoopState} {id : String} {t t' : TaskRow}

/-! ### Rows -/

/-- What a granted update of references does to the rows. -/
theorem lookup_relinkTask {db db' : Db} {f : TaskRow → TaskRow} (h : db.relinkTask id f = some db') :
    db'.tasks = db.tasks.modify id f ∧
      ∀ t, db.tasks.lookup id = some t → (f t).RefsIn db.startups db.agents db.tasks := by
  unfold Db.relinkTask at h
  split at h
  · rename_i hrefs
    obtain rfl := Option.some.inj h
    exact ⟨rfl, hrefs⟩
  · exact absurd h (by simp)

/-- What a granted insert does to the rows. -/
theorem lookup_insertTask {db db' : Db} (h : db.insertTask id t = some db') :
    db.tasks.lookup id = none ∧ db'.tasks = db.tasks.insert id t ∧
      t.RefsIn db.startups db.agents db.tasks := by
  unfold Db.insertTask at h
  split at h
  · rename_i hnew
    obtain rfl := Option.some.inj h
    exact ⟨hnew.1, rfl, hnew.2⟩
  · exact absurd h (by simp)

/-- Nothing but `tasks` changes. -/
structure OnlyTasks (db db' : Db) : Prop where
  startups : db'.startups = db.startups
  agents : db'.agents = db.agents
  messages : db'.messages = db.messages
  operators : db'.operators = db.operators
  skills : db'.skills = db.skills

theorem onlyTasks_relinkTask {db db' : Db} {f : TaskRow → TaskRow}
    (h : db.relinkTask id f = some db') : OnlyTasks db db' := by
  unfold Db.relinkTask at h
  split at h
  · obtain rfl := Option.some.inj h
    exact ⟨rfl, rfl, rfl, rfl, rfl⟩
  · exact absurd h (by simp)

theorem onlyTasks_insertTask {db db' : Db} (h : db.insertTask id t = some db') :
    OnlyTasks db db' := by
  unfold Db.insertTask at h
  split at h
  · obtain rfl := Option.some.inj h
    exact ⟨rfl, rfl, rfl, rfl, rfl⟩
  · exact absurd h (by simp)

/-- The new row is there. -/
theorem lookup_new_insertTask {db db' : Db} (h : db.insertTask id t = some db') :
    db'.tasks.lookup id = some t := by
  rw [(lookup_insertTask h).2.1, Table.lookup_insert_eq, if_pos rfl]

/-- A task that exists is of the startup or of another one. -/
theorem taskIn_or_abroad {db : Db} (startupId : String) (h : (db.tasks.lookup id).isSome) :
    TaskIn db id startupId ∨ TaskAbroad db id startupId := by
  obtain ⟨t, ht⟩ := Option.isSome_iff_exists.mp h
  exact (em (t.startupId = startupId)).imp (fun h => ⟨t, ht, h⟩) fun h => ⟨t, ht, h⟩

/-- A granted message leaves the other tables alone. -/
theorem insertMessage_eq {db db' : Db} {m : Message} (h : db.insertMessage id m = some db') :
    db.messages.lookup id = none ∧ db' = { db with messages := db.messages.insert id m } := by
  unfold Db.insertMessage at h
  split at h
  · rename_i hnew
    exact ⟨hnew.1, (Option.some.inj h).symm⟩
  · exact absurd h (by simp)

/-- Statements that leave `tasks` alone, and those that change it. -/
theorem Statement.tasks_cases (h : Statement party astray s s') :
    s'.db.tasks = s.db.tasks ∨
      (∃ id f, s'.db.tasks = s.db.tasks.modify id f ∧
        ∀ t, s.db.tasks.lookup id = some t → Kept party astray s t (f t)) ∨
      ∃ id t, s.db.tasks.lookup id = none ∧ s'.db.tasks = s.db.tasks.insert id t ∧
        Created party astray s t := by
  cases h with
  | @touch id f hf howned haudit =>
      refine .inr (.inl ⟨id, f, rfl, fun t ht => ?_⟩)
      exact .of_refs (hf t) (howned t ht) (haudit.imp_left fun h => h t)
  | @relink id f db hdb hkept => exact .inr (.inl ⟨id, f, (lookup_relinkTask hdb).1, hkept⟩)
  | @insert id t db hdb hcreated =>
      obtain ⟨hnone, htasks, -⟩ := lookup_insertTask hdb
      exact .inr (.inr ⟨id, t, hnone, htasks, hcreated⟩)
  | message hdb =>
      rw [(insertMessage_eq hdb).2]
      exact .inl rfl
  | skills hstep =>
      obtain ⟨tables, rfl⟩ := SkillSteps.eq (.single hstep)
      exact .inl rfl
  | _ => exact .inl rfl

/-- **A row after a statement** comes from the row before it, or is new. -/
theorem Statement.row_of (h : Statement party astray s s') (ht : s'.db.tasks.lookup id = some t') :
    (∃ t, s.db.tasks.lookup id = some t ∧ Kept party astray s t t') ∨
      (s.db.tasks.lookup id = none ∧ Created party astray s t') := by
  rcases h.tasks_cases with htasks | ⟨x, f, htasks, hkept⟩ | ⟨x, u, hnone, htasks, hcreated⟩
  · rw [htasks] at ht
    exact .inl ⟨t', ht, .refl _ _ _ _⟩
  · rw [htasks, Table.lookup_modify] at ht
    split at ht
    · rename_i heq
      obtain ⟨t, ht₀, rfl⟩ := Option.map_eq_some_iff.mp ht
      exact .inl ⟨t, ht₀, hkept t (heq ▸ ht₀)⟩
    · exact .inl ⟨t', ht, .refl _ _ _ _⟩
  · rw [htasks, Table.lookup_insert_eq] at ht
    split at ht
    · rename_i heq
      obtain rfl := Option.some.inj ht
      exact .inr ⟨heq ▸ hnone, hcreated⟩
    · exact .inl ⟨t', ht, .refl _ _ _ _⟩

/-- **A row before a statement** is still there after it. -/
theorem Statement.row_kept (h : Statement party astray s s') (ht : s.db.tasks.lookup id = some t) :
    ∃ t', s'.db.tasks.lookup id = some t' ∧ Kept party astray s t t' := by
  have hsome : (s'.db.tasks.lookup id).isSome := by
    rcases h.tasks_cases with htasks | ⟨x, f, htasks, -⟩ | ⟨x, u, -, htasks, -⟩
    · simp [htasks, ht]
    · rw [htasks, Table.lookup_modify]
      split <;> simp [ht]
    · rw [htasks, Table.lookup_insert_eq]
      split <;> simp [ht]
  obtain ⟨t', ht'⟩ := Option.isSome_iff_exists.mp hsome
  rcases h.row_of ht' with ⟨t₀, ht₀, hkept⟩ | ⟨hnone, -⟩
  · obtain rfl := Option.some.inj (ht.symm.trans ht₀)
    exact ⟨t', ht', hkept⟩
  · exact absurd (hnone.symm.trans ht) (by simp)

/-- What may be touched, may be touched afterwards. -/
theorem Statement.ownedBy (h : Statement party astray s s') (howned : s.OwnedBy party id) :
    s'.OwnedBy party id := by
  intro t' ht'
  rcases h.row_of ht' with ⟨t, ht, hkept⟩ | ⟨-, hcreated⟩
  · rw [hkept.startup]
    exact howned t ht
  · exact hcreated.owned

theorem Statements.ownedBy (h : Statements party astray s s') (howned : s.OwnedBy party id) :
    s'.OwnedBy party id := by
  induction h with
  | refl => exact howned
  | tail _ hstep ih => exact hstep.ownedBy ih

/-- A task stays in its startup. -/
theorem Statement.taskIn {startupId : String} (h : Statement party astray s s')
    (hin : TaskIn s.db id startupId) : TaskIn s'.db id startupId := by
  obtain ⟨t, ht, hstartup⟩ := hin
  obtain ⟨t', ht', hkept⟩ := h.row_kept ht
  exact ⟨t', ht', hkept.startup.trans hstartup⟩

theorem Statements.taskIn {startupId : String} (h : Statements party astray s s')
    (hin : TaskIn s.db id startupId) : TaskIn s'.db id startupId := by
  induction h with
  | refl => exact hin
  | tail _ hstep ih => exact hstep.taskIn ih

/-- So does its parent. -/
theorem Statements.parentIn {parentId home : String} (h : Statements party astray s s')
    (hparent : ParentIn s.db parentId home) : ParentIn s'.db parentId home := by
  induction h with
  | refl => exact hparent
  | tail _ hstep ih =>
      obtain ⟨id, t, ht, hparent, hhome⟩ := ih
      obtain ⟨t', ht', hkept⟩ := hstep.row_kept ht
      exact ⟨id, t', ht', hkept.parent.trans hparent, hkept.startup.trans hhome⟩

end Rows

section Chains

variable {party : Party} {astray : Prop} {s s' : LoopState} {env : Env} {id agentId : String}
  {frame : Json}

/-! ### Runs of statements -/

namespace Statements

theorem refl : Statements party astray s s :=
  ReflTransGen.refl

theorem touch {f : TaskRow → TaskRow} {hf : ∀ t, (f t).refs = t.refs}
    (h : Statements party astray s s') (howned : s.OwnedBy party id)
    (haudit : (∀ t, (f t).assignments = t.assignments) ∨ party = .scheduler) :
    Statements party astray s (s'.updateTask id f hf) :=
  h.tail (.touch hf (h.ownedBy howned) haudit)

/-- An entry counts as an assignment by its kind. -/
theorem appendAudit {entry : Json} (h : Statements party astray s s') (howned : s.OwnedBy party id)
    (hentry : entry.getStr "kind" ≠ some "task_assigned" ∨ party = .scheduler) :
    Statements party astray s (s'.appendAudit env id entry) := by
  refine h.touch howned (hentry.imp_left fun hkind t => ?_)
  simp [TaskRow.assignments, List.countP_append, hkind]

theorem appendEpistemic {entry : Json} (h : Statements party astray s s')
    (howned : s.OwnedBy party id) :
    Statements party astray s (s'.appendEpistemic env id entry) :=
  h.touch howned (.inl fun _ => rfl)

theorem setStatus {status : TaskStatus} (h : Statements party astray s s')
    (howned : s.OwnedBy party id) : Statements party astray s (s'.setStatus env id status) :=
  h.touch howned (.inl fun _ => rfl)

theorem setAvatarStatus {status : AvatarStatus} (h : Statements party astray s s') :
    Statements party astray s (s'.setAvatarStatus agentId status) :=
  h.tail (.move (WorldView.sameAvatars_setAvatar fun _ => rfl))

theorem emitSystemEvent {startupId : Option String} {kind severity : String} {payload : Json}
    (h : Statements party astray s s') :
    Statements party astray s (s'.emitSystemEvent env startupId kind payload severity) :=
  h.tail .event

/-- A frame that is not a note to the assignee of a parent. -/
theorem push (h : Statements party astray s s') (hframe : isNotice frame = false) :
    Statements party astray s (s'.push env agentId frame) := by
  unfold LoopState.push
  split
  · exact h.tail (.frame hframe)
  · exact h

/-- A note to the assignee of a parent. -/
theorem notify {home parentId : String} (h : Statements (.agent home) astray s s')
    (hassignee : assigneeOf s'.db parentId = some agentId) (hparent : ParentIn s.db parentId home) :
    Statements (.agent home) astray s (s'.push env agentId frame) := by
  unfold LoopState.push
  split
  · exact h.tail (.notify rfl hassignee (h.parentIn hparent))
  · exact h

/-- A loop over runs of statements. -/
theorem foldl {ι : Type*} {f : LoopState → ι → LoopState}
    (hf : ∀ s i, Statements party astray s (f s i)) (l : List ι) :
    ∀ s : LoopState, Statements party astray s (l.foldl f s) := by
  induction l with
  | nil =>
      intro s
      exact .refl
  | cons i l ih =>
      intro s
      exact (hf s i).trans (ih (f s i))

end Statements

/-- A task that was looked up. -/
theorem ownedBy_of_lookup {t : TaskRow} (ht : s.db.tasks.lookup id = some t)
    (hhome : AtHome party t.startupId) : s.OwnedBy party id := by
  intro t' ht'
  obtain rfl := Option.some.inj (ht.symm.trans ht')
  exact hhome

@[simp]
theorem getStr_auditEntry (actor kind agentId : String) (rest : List (String × Json)) :
    (auditEntry actor kind agentId rest).getStr "kind" = some kind :=
  rfl

end Chains

end Cliptown.Task
