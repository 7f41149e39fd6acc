import Cliptown.Task.Assignments

/-!
# Parents, assignees and rounds

Who reviews a task is read from its parent and its assignee, and how often it was sent back from its round.
A request changes these columns of one task at most, and each tool changes them in its own way.

* `Face`, `LoopState.face` — the columns, and those of each task.
* `face_appendAudit`, `face_relinkTask`, … — the building blocks of requests.
* `Turns`, `callTool_face` — what a tool does to them.
-/

namespace Cliptown.Task

open Cliptown.Lib Cliptown.Town Cliptown.World Cliptown.Console Cliptown.Worker

/-- The columns of a task that its reviews depend on. -/
structure Face where
  parent : Option String
  assignee : Option String
  reviewRound : ℕ

/-- The columns of a row. -/
def TaskRow.face (t : TaskRow) : Face where
  parent := t.parentId
  assignee := t.assigneeAgentId
  reviewRound := t.reviewRound

/-- The columns of each task. -/
def LoopState.face (s : LoopState) (id : String) : Option Face :=
  (s.db.tasks.lookup id).map TaskRow.face

/-- A task that has just been created is in its first round. -/
def Face.new (parent assignee : Option String) : Face where
  parent := parent
  assignee := assignee
  reviewRound := 0

section Blocks

variable {env : Env} {s s' : LoopState} {id agentId : String} {t : TaskRow} {f : TaskRow → TaskRow}

/-! ### Building blocks -/

theorem face_eq_some_iff {c : Face} :
    s.face id = some c ↔ ∃ t, s.db.tasks.lookup id = some t ∧ t.face = c :=
  Option.map_eq_some_iff

theorem face_of_lookup (h : s.db.tasks.lookup id = some t) : s.face id = some t.face :=
  face_eq_some_iff.mpr ⟨t, h, rfl⟩

/-- Changing one row changes the columns of one task. -/
theorem face_modify (htasks : s'.db.tasks = s.db.tasks.modify id f)
    (h : s.db.tasks.lookup id = some t) :
    s'.face = Function.update s.face id (some (f t).face) := by
  funext u
  unfold LoopState.face
  rw [htasks, Table.lookup_modify, Function.update_apply]
  split
  · rename_i heq
    rw [heq, h]
    rfl
  · rfl

/-- An update of other columns. -/
theorem face_updateTask (hf : ∀ t, (f t).refs = t.refs) (hface : ∀ t, (f t).face = t.face) :
    (s.updateTask id f hf).face = s.face := by
  funext u
  unfold LoopState.face
  rw [lookup_updateTask]
  split
  · rw [Option.map_map, show TaskRow.face ∘ f = TaskRow.face from funext hface]
  · rfl

/-- A granted update that touches references. -/
theorem face_relinkTask {db : Db} (h : s.db.tasks.lookup id = some t)
    (hdb : s.db.relinkTask id f = some db) :
    ({ s with db := db } : LoopState).face = Function.update s.face id (some (f t).face) := by
  unfold Db.relinkTask at hdb
  split at hdb
  · obtain rfl := Option.some.inj hdb
    exact face_modify rfl h
  · exact absurd hdb (by simp)

/-- A granted insert: the id is new, and the parent exists. -/
theorem face_insertTask {db : Db} (hdb : s.db.insertTask id t = some db) :
    s.face id = none ∧ (∀ p ∈ t.parentId, (s.face p).isSome) ∧
      ({ s with db := db } : LoopState).face = Function.update s.face id (some t.face) := by
  unfold Db.insertTask at hdb
  split at hdb
  · rename_i hnew
    obtain rfl := Option.some.inj hdb
    refine ⟨?_, fun p hp => ?_, ?_⟩
    · simp [LoopState.face, hnew.1]
    · simpa [LoopState.face] using hnew.2.parent p hp
    · funext u
      unfold LoopState.face
      simp only [Table.lookup_insert_eq, Function.update_apply]
      split <;> rfl
  · exact absurd hdb (by simp)

theorem face_insertMessage {db : Db} {m : Message} (hdb : s.db.insertMessage id m = some db) :
    ({ s with db := db } : LoopState).face = s.face := by
  unfold Db.insertMessage at hdb
  split at hdb
  · obtain rfl := Option.some.inj hdb
    rfl
  · exact absurd hdb (by simp)

@[simp]
theorem face_push (agentId : String) (frame : Json) :
    (s.push env agentId frame).face = s.face := by
  unfold LoopState.push
  split <;> rfl

/-- A loop that leaves the columns alone. -/
theorem face_foldl {ι : Type*} {f : LoopState → ι → LoopState} (hf : ∀ s i, (f s i).face = s.face)
    (l : List ι) : ∀ s : LoopState, (l.foldl f s).face = s.face := by
  induction l with
  | nil =>
      intro s
      rfl
  | cons i l ih =>
      intro s
      exact (ih (f s i)).trans (hf s i)

@[simp]
theorem face_appendAudit (id : String) (entry : Json) :
    (s.appendAudit env id entry).face = s.face :=
  face_updateTask _ fun _ => rfl

@[simp]
theorem face_appendEpistemic (id : String) (entry : Json) :
    (s.appendEpistemic env id entry).face = s.face :=
  face_updateTask _ fun _ => rfl

@[simp]
theorem face_setStatus (id : String) (status : TaskStatus) :
    (s.setStatus env id status).face = s.face :=
  face_updateTask _ fun _ => rfl

@[simp]
theorem face_emitSystemEvent (startupId : Option String) (kind : String) (payload : Json)
    (severity : String) : (s.emitSystemEvent env startupId kind payload severity).face = s.face :=
  rfl

@[simp]
theorem face_setAvatarStatus (agentId : String) (status : AvatarStatus) :
    (s.setAvatarStatus agentId status).face = s.face :=
  rfl

@[simp]
theorem face_selfReviewRecord (taskId agentId : String) (outcome : SelfReviewOutcome) :
    (selfReviewRecord env s taskId agentId outcome).face = s.face := by
  unfold selfReviewRecord
  rw [face_appendAudit]
  split
  · exact face_updateTask _ fun _ => rfl
  · rfl

@[simp]
theorem face_pushSubtaskDone (parentId : Option String) (taskId artifactPath : String)
    (reviewRound : ℕ) :
    (pushSubtaskDone env s parentId taskId artifactPath reviewRound).face = s.face := by
  unfold pushSubtaskDone
  split
  · split
    · exact face_push _ _
    · rfl
  · rfl

/-- The tables of the skills are other tables. -/
theorem face_of_skillsOnly {party : Party} (h : SkillsOnly party s s') : s'.face = s.face := by
  obtain ⟨db, hsteps, rfl⟩ := h
  obtain ⟨t, rfl⟩ := hsteps.eq
  rfl

end Blocks

section Calls

variable {cfg : Config} {env : Env} {s s' : LoopState} {caller : AvatarView} {args v : Json}

/-! ### Tools -/

variable (cfg env s caller args) in
/-- What a tool does to the columns: most leave them alone. -/
inductive Turns : String → (String → Option Face) → Prop
  | same {tool : String} : Turns tool s.face
  | subtask {parentId : String} {parent : TaskRow} : args.getStr "parent_id" = some parentId →
      s.db.tasks.lookup parentId = some parent → s.face env.newId = none →
      (handleSubtaskCreate cfg env s caller args).isOk →
      Turns "subtask_create" (Function.update s.face env.newId (some (.new (some parentId)
        (if parent.assigneeAgentId = some caller.agentId then args.getStr "assignee_agent_id"
          else none))))
  | accept {taskId assignee : String} {task : TaskRow} : args.getStr "task_id" = some taskId →
      args.getStr "assignee_agent_id" = some assignee → s.db.tasks.lookup taskId = some task →
      (handleAcceptProposal cfg env s caller args).isOk →
      Turns "accept_proposal" (Function.update s.face taskId
        (some { task.face with assignee := some assignee }))
  | steal {taskId : String} {task : TaskRow} : args.getStr "task_id" = some taskId →
      s.db.tasks.lookup taskId = some task → (handleTaskSteal cfg env s caller args).isOk →
      Turns "task_steal" (Function.update s.face taskId
        (some { task.face with assignee := some caller.agentId }))
  | nextRound {taskId : String} {task : TaskRow} {s' : LoopState} :
      args.getStr "task_id" = some taskId → s.db.tasks.lookup taskId = some task →
      task.reviewRound < maxReviewRounds →
      handleTaskRequestChanges cfg env s caller args =
        .ok (statusReply taskId .changesRequested, s') →
      Turns "task_request_changes" (Function.update s.face taskId
        (some { task.face with reviewRound := task.reviewRound + 1 }))

theorem isOk_of_eq {ε ρ : Type} {r : Except ε ρ} {a : ρ} (h : r = .ok a) : r.isOk = true := by
  rw [h]
  rfl

/-- A tool that leaves the columns alone. -/
theorem Turns.of_eq {tool : String} (h : s'.face = s.face) :
    Turns cfg env s caller args tool s'.face := by
  rw [h]
  exact .same

theorem handleTaskDone_face : (handleTaskDone cfg env s caller args).2.face = s.face := by
  unfold handleTaskDone
  split
  · rfl
  · rename_i taskId artifactPath task hchecks
    have hreview : (recordReview env s caller args taskId
        (taskDoneReview env caller args taskId artifactPath)).face = s.face := by
      unfold recordReview
      split
      · exact face_selfReviewRecord _ _ _
      · rfl
    simp only
    split
    · split
      · exact hreview
      · unfold submitTask
        rw [face_pushSubtaskDone, face_setAvatarStatus, face_appendAudit]
        refine Eq.trans ?_ hreview
        exact face_updateTask _ fun _ => rfl
    · exact hreview

theorem handleTaskFailed_face (h : handleTaskFailed env s caller args = .ok (v, s')) :
    s'.face = s.face := by
  obtain ⟨taskId, task, newStatus, rest, -, -, -, rfl⟩ := handleTaskFailed_eq_ok h
  simp

theorem handleSubtaskCreate_face (h : handleSubtaskCreate cfg env s caller args = .ok (v, s')) :
    Turns cfg env s caller args "subtask_create" s'.face := by
  have hgranted := isOk_of_eq h
  unfold handleSubtaskCreate requireStr at h
  simp only [bind_eq_ok, require_eq_ok, ensure_eq_ok, illegal_eq_ok, pure_eq_ok, Prod.mk.injEq] at h
  obtain ⟨parentId, hparentId, parent, hparent, _, -, newStatus, -, _, -, db, hinsert, -, rfl⟩ := h
  obtain ⟨hnone, -, hface⟩ := face_insertTask hinsert
  have hmessage : ∀ s' : LoopState, s'.face = ({ s with db := db } : LoopState).face →
      Turns cfg env s caller args "subtask_create" s'.face := by
    intro s' hs'
    rw [hs', hface]
    have hturns := @Turns.subtask cfg _ _ caller _ _ _ hparentId hparent hnone hgranted
    simpa [TaskRow.face, newTask, Face.new] using hturns
  apply hmessage
  split
  · rfl
  · split
    · exact face_push _ _
    · rfl

theorem handleAcceptProposal_face (h : handleAcceptProposal cfg env s caller args = .ok (v, s')) :
    Turns cfg env s caller args "accept_proposal" s'.face := by
  have hgranted := isOk_of_eq h
  unfold handleAcceptProposal at h
  simp only [bind_eq_ok, requireStr_eq_ok, loadTask_eq_ok, require_eq_ok, pure_eq_ok,
    Prod.mk.injEq] at h
  obtain ⟨taskId, hid, assignee, hassignee, task, htask, _, -, _, -, _, -, _, -, newStatus, -, db, hdb,
    -, rfl⟩ := h
  rw [face_appendAudit, face_relinkTask htask hdb]
  exact .accept hid hassignee htask hgranted

theorem handleRejectProposal_face (h : handleRejectProposal env s caller args = .ok (v, s')) :
    s'.face = s.face := by
  obtain ⟨taskId, task, newStatus, rest, -, -, rfl⟩ := handleRejectProposal_eq_ok h
  simp

theorem handleTaskAccept_face (h : handleTaskAccept env s caller args = .ok (v, s')) :
    s'.face = s.face := by
  obtain ⟨taskId, task, newStatus, -, -, rfl⟩ := handleTaskAccept_eq_ok h
  simp

theorem face_writeRound {taskId : String} {task : TaskRow}
    (h : s.db.tasks.lookup taskId = some task) (newStatus : TaskStatus) :
    (writeRound env s taskId newStatus).face = Function.update s.face taskId
      (some { task.face with reviewRound := task.reviewRound + 1 }) := by
  have hrow : (writeRound env s taskId newStatus).db.tasks = s.db.tasks.modify taskId fun t =>
      { t with status := newStatus, reviewRound := t.reviewRound + 1, selfReviewedAt := none
               updatedAt := env.now } := rfl
  exact face_modify hrow h

/-- **A request for changes** that is granted escalates and says so, or starts another round. -/
theorem handleTaskRequestChanges_face
    (h : handleTaskRequestChanges cfg env s caller args = .ok (v, s')) :
    ∃ taskId task, args.getStr "task_id" = some taskId ∧ s.db.tasks.lookup taskId = some task ∧
      (v.getStr "new_status" = some "escalated" ∧ s'.face = s.face ∨
        v = statusReply taskId .changesRequested ∧ task.reviewRound < maxReviewRounds ∧
          s'.face = Function.update s.face taskId
            (some { task.face with reviewRound := task.reviewRound + 1 })) := by
  obtain ⟨taskId, task, feedback, assignee, hown, -, -, -, -, h⟩ := handleTaskRequestChanges_eq_ok.mp h
  refine ⟨taskId, task, hown.hasId, hown.row, ?_⟩
  split at h
  · unfold escalateTask at h
    simp only [bind_eq_ok, illegal_eq_ok, pure_eq_ok, Prod.mk.injEq] at h
    obtain ⟨newStatus, hnext, rfl, rfl⟩ := h
    obtain ⟨-, -, rfl⟩ := next_eq_ok_iff.mp hnext
    exact .inl ⟨rfl, by simp⟩
  · rename_i hround
    unfold nextRound at h
    simp only [bind_eq_ok, require_eq_ok, illegal_eq_ok, pure_eq_ok, Prod.mk.injEq] at h
    obtain ⟨newStatus, hnext, db, hdb, rfl, rfl⟩ := h
    obtain ⟨-, rfl⟩ := next_eq_ok_iff.mp hnext
    refine .inr ⟨rfl, Nat.lt_of_not_le hround, ?_⟩
    rw [face_push, face_appendAudit, face_insertMessage hdb]
    exact face_writeRound hown.row _

theorem handleTaskRequestChanges_turns
    (h : handleTaskRequestChanges cfg env s caller args = .ok (v, s')) :
    Turns cfg env s caller args "task_request_changes" s'.face := by
  obtain ⟨taskId, task, hid, htask, ⟨-, hface⟩ | ⟨rfl, hround, hface⟩⟩ :=
    handleTaskRequestChanges_face h
  · exact .of_eq hface
  · rw [hface]
    exact .nextRound hid htask hround h

theorem handleEpistemicAppend_face {kind : String}
    (h : handleEpistemicAppend env s caller args kind = .ok (v, s')) : s'.face = s.face := by
  obtain ⟨taskId, task, entry, -, rfl⟩ := handleEpistemicAppend_eq_ok h
  simp

theorem handleTaskSetPreference_face
    (h : handleTaskSetPreference env s caller args = .ok (v, s')) : s'.face = s.face := by
  obtain ⟨taskId, task, backend, model, rest, payload, -, rfl⟩ := handleTaskSetPreference_eq_ok h
  rw [face_emitSystemEvent, face_appendAudit]
  exact face_updateTask _ fun _ => rfl

theorem handleTaskSetBlocking_face
    (h : handleTaskSetBlocking cfg env s caller args = .ok (v, s')) : s'.face = s.face := by
  obtain ⟨taskId, task, db, rest, payload, hown, -, -, hdb, rfl⟩ := handleTaskSetBlocking_eq_ok h
  have hblocker : ({ s with db := db } : LoopState).face = s.face := by
    unfold writeBlocker at hdb
    split at hdb
    · rw [face_relinkTask hown.row hdb]
      exact Function.update_eq_self_iff.mpr (face_of_lookup hown.row).symm
    · obtain rfl := Option.some.inj hdb
      rfl
  rw [face_emitSystemEvent, face_appendAudit]
  unfold writeDeadline
  split
  · refine Eq.trans ?_ hblocker
    exact face_updateTask (s := { s with db := db }) _ fun _ => rfl
  · exact hblocker

theorem handleTaskSteal_face (h : handleTaskSteal cfg env s caller args = .ok (v, s')) :
    Turns cfg env s caller args "task_steal" s'.face := by
  obtain ⟨taskId, task, db, rest, payload, hown, -, hdb, rfl⟩ := handleTaskSteal_eq_ok h
  rw [face_emitSystemEvent, face_appendAudit, face_relinkTask hown.row hdb]
  exact .steal hown.hasId hown.row (isOk_of_eq h)

theorem handleSelfReview_face (h : handleSelfReview env s caller args = .ok (v, s')) :
    s'.face = s.face := by
  obtain ⟨taskId, task, outcome, -, rfl⟩ := handleSelfReview_eq_ok h
  simp

theorem handleCommand_face {tool : String} {keys : List String}
    (h : handleCommand env s caller args tool keys = .ok (v, s')) : s'.face = s.face := by
  obtain ⟨taskId, task, -, rfl | ⟨results, rfl⟩⟩ := handleCommand_eq_ok h
  · rfl
  · simp

theorem handleMoveIntent_face : (handleMoveIntent cfg env s caller args).2.face = s.face := by
  unfold handleMoveIntent
  split
  · rfl
  · simp only
    split <;> rfl

theorem handleSpeak_face (h : handleSpeak cfg env s caller args = .ok (v, s')) :
    s'.face = s.face := by
  obtain ⟨db, message, kind, toAgentId, body, hdb, -, rfl⟩ := handleSpeak_eq_ok h
  refine Eq.trans ?_ (face_insertMessage hdb)
  unfold pushSpeech
  split
  · exact face_foldl (fun s peerId => face_push peerId _) _ _
  · split
    · exact face_push _ _
    · rfl

/-- A handler that is settled. -/
theorem Turns.settle {tool : String} {r : Except McpError (Json × LoopState)}
    (h : ∀ v s', r = .ok (v, s') → Turns cfg env s caller args tool s'.face) :
    Turns cfg env s caller args tool (Lib.settle s r).2.face := by
  rcases settle_cases s r with hs | ⟨v, s', hr, hs⟩
  · rw [hs]
    exact .same
  · rw [hs]
    exact h v s' hr

/-- **Any tool** turns the columns in its own way. -/
theorem callTool_face (tool : String) :
    Turns cfg env s caller args tool (callTool cfg env s caller args tool).2.face := by
  unfold callTool
  split
  · exact .of_eq handleMoveIntent_face
  · exact .settle fun _ _ h => .of_eq (handleSpeak_face h)
  · exact .of_eq handleTaskDone_face
  · exact .settle fun _ _ h => .of_eq (handleTaskFailed_face h)
  · exact .settle fun _ _ => handleSubtaskCreate_face
  · exact .settle fun _ _ h => .of_eq (handleTaskAccept_face h)
  · exact .settle fun _ _ => handleTaskRequestChanges_turns
  · exact .settle fun _ _ => handleAcceptProposal_face
  · exact .settle fun _ _ h => .of_eq (handleRejectProposal_face h)
  · exact .settle fun _ _ h => .of_eq (handleEpistemicAppend_face h)
  · exact .settle fun _ _ h => .of_eq (handleEpistemicAppend_face h)
  · exact .settle fun _ _ h => .of_eq (handleEpistemicAppend_face h)
  · exact .same
  · exact .settle fun _ _ h => .of_eq (handleTaskSetPreference_face h)
  · exact .settle fun _ _ h => .of_eq (handleTaskSetBlocking_face h)
  · exact .settle fun _ _ => handleTaskSteal_face
  · exact .settle fun _ _ h => .of_eq (handleSelfReview_face h)
  · exact .settle fun _ _ h => .of_eq (handleCommand_face h)
  · exact .settle fun _ _ h => .of_eq (handleCommand_face h)
  · exact .settle fun _ _ h => .of_eq (handleCommand_face h)
  · exact .settle fun _ _ h => .of_eq (face_of_skillsOnly (handleSkillUpsert_steps h))
  · exact .settle fun _ _ h => .of_eq (face_of_skillsOnly (handleSkillAttach_steps h))
  · exact .settle fun _ _ h => .of_eq (face_of_skillsOnly (handleSkillDetach_steps h))
  · exact .settle fun _ _ h => .of_eq (face_of_skillsOnly (handleSkillDelete_steps h))
  · exact .settle fun _ _ h => .of_eq (face_of_skillsOnly (handleSkillFileUpsert_steps h))
  · exact .settle fun _ _ h => .of_eq (face_of_skillsOnly (handleSkillFileDelete_steps h))
  · exact .settle fun _ _ h => .of_eq (face_of_skillsOnly (handleSkillRevert_steps h))
  · split
    · exact .same
    · exact .same

end Calls

end Cliptown.Task
