import Cliptown.Task.Effects
import Cliptown.Task.McpStatements

/-!
# What the tools leave behind

* `CallFrame` — what a call of an agent sends, and to whom.
* `handleSpeak_ok_iff` — which calls of `speak` are granted.
* `handle…_effects` — a handler that succeeds sends such frames, records no notice of the scheduler, and keeps
  the columns that the notices go by; `task_set_blocking` alone may change those of its task.
* `dispatchMcp_effects` — any message, whether it is refused or not.
-/

namespace Cliptown.Task

open Cliptown.Lib Cliptown.Town Cliptown.World Cliptown.Worker

/-- What a call of an agent sends, and to whom. -/
inductive CallFrame (env : Env) (s : LoopState) (caller : AvatarView) : String → Json → Prop
  | chat {peerId body : String} : peerId ∈ listeners env s caller →
      CallFrame env s caller peerId (.obj [("type", .str "chat_received"), ("v", .int 1),
        ("from_agent_id", .str caller.agentId), ("body", .str body), ("room_id", .str caller.roomId)])
  | directive {recipient body : String} : checkDirective s.db caller recipient = .ok () →
      CallFrame env s caller recipient (.obj [("type", .str "directive"), ("v", .int 1),
        ("from_agent_id", .str caller.agentId), ("body", .str body)])
  | sendBack {taskId assignee feedback : String} {task : TaskRow} :
      s.db.tasks.lookup taskId = some task → task.startupId = caller.startupId →
      task.assigneeAgentId = some assignee →
      CallFrame env s caller assignee (.obj [("type", .str "directive"), ("v", .int 1),
        ("from_agent_id", .str caller.agentId), ("body", .str feedback),
        ("in_response_to_task", .str taskId)])
  | subtaskDone {taskId parentId manager artifactPath : String} {task : TaskRow} :
      s.db.tasks.lookup taskId = some task →
      CallFrame env s caller manager (.obj [("type", .str "subtask_done"), ("v", .int 1),
        ("parent_id", .str parentId), ("child_id", .str taskId), ("artifact_path", .str artifactPath),
        ("review_round", .int task.reviewRound)])
  | subtaskProposed {parentId manager title description : String} :
      CallFrame env s caller manager (.obj [("type", .str "subtask_proposed"), ("v", .int 1),
        ("parent_id", .str parentId), ("proposed_task_id", .str env.newId),
        ("proposer_agent_id", .str caller.agentId), ("title", .str title),
        ("description", .str description)])

/-- An event that is not a notice of the scheduler. -/
def Unannounced (e : SystemEvent) : Prop :=
  e.kind ≠ "task_overdue" ∧ e.kind ≠ "task_unblocked"

/-- Every task. -/
def Everywhere (_id : String) : Prop :=
  True

section Calls

variable {cfg : Config} {env : Env} {s s' s'' : LoopState} {caller : AvatarView} {args v : Json}
  {F : String → Json → Prop}

/-! ### What the handlers share -/

/-- The tables of the skills. -/
theorem Effects.of_skills {party : Party} {E : SystemEvent → Prop} {K : String → Prop}
    (h : SkillsOnly party s s') : Effects F E K s s' := by
  obtain ⟨db, hsteps, rfl⟩ := h
  obtain ⟨tables, rfl⟩ := SkillSteps.eq hsteps
  exact .of_eq rfl rfl rfl

theorem Effects.selfReviewRecord {taskId agentId : String} {outcome : SelfReviewOutcome}
    (h : Effects F Unannounced Everywhere s s') :
    Effects F Unannounced Everywhere s (Task.selfReviewRecord env s' taskId agentId outcome) := by
  unfold Task.selfReviewRecord
  refine Effects.appendAudit ?_
  split
  · exact h.touch fun _ _ => rfl
  · exact h

/-- The assignee of a parent is told about a task that is there. -/
theorem Effects.pushSubtaskDone {parentId : Option String} {taskId artifactPath : String}
    {task : TaskRow} (h : Effects (CallFrame env s caller) Unannounced Everywhere s s')
    (htask : s.db.tasks.lookup taskId = some task) :
    Effects (CallFrame env s caller) Unannounced Everywhere s
      (Task.pushSubtaskDone env s' parentId taskId artifactPath task.reviewRound) := by
  unfold Task.pushSubtaskDone
  split
  · split
    · exact h.push (.subtaskDone htask)
    · exact h
  · exact h

/-! ### Reports of the assignee -/

theorem handleTaskDone_effects :
    Effects (CallFrame env s caller) Unannounced Everywhere s (handleTaskDone cfg env s caller args).2 := by
  unfold handleTaskDone
  split
  · exact .refl
  · rename_i taskId artifactPath task hchecks
    obtain ⟨-, -, htask, -⟩ := taskDoneChecks_eq_ok.mp hchecks
    have hreview : Effects (CallFrame env s caller) Unannounced Everywhere s
        (recordReview env s caller args taskId
          (taskDoneReview env caller args taskId artifactPath)) := by
      unfold recordReview
      split
      · exact Effects.refl.selfReviewRecord
      · exact .refl
    simp only
    split
    · split
      · exact hreview
      · unfold submitTask
        exact Effects.pushSubtaskDone (Effects.setAvatarStatus
          (Effects.appendAudit (hreview.touch fun _ _ => rfl))) htask
    · exact hreview

theorem handleTaskFailed_effects (h : handleTaskFailed env s caller args = .ok (v, s')) :
    Effects F Unannounced Everywhere s s' := by
  obtain ⟨taskId, task, newStatus, rest, -, -, -, rfl⟩ := handleTaskFailed_eq_ok h
  exact Effects.refl.setStatus.appendAudit.setAvatarStatus

/-! ### Subtasks -/

theorem handleSubtaskCreate_effects (h : handleSubtaskCreate cfg env s caller args = .ok (v, s')) :
    Effects (CallFrame env s caller) Unannounced Everywhere s s' := by
  unfold handleSubtaskCreate at h
  simp only [bind_eq_ok, require_eq_ok, pure_eq_ok, Prod.mk.injEq] at h
  obtain ⟨parentId, -, parent, -, _, -, newStatus, -, _, -, db, hdb, -, rfl⟩ := h
  have hinsert : Effects (CallFrame env s caller) Unannounced Everywhere s { s with db := db } :=
    Effects.refl.insert hdb rfl
  split
  · exact hinsert
  · split
    · exact hinsert.push .subtaskProposed
    · exact hinsert

theorem handleAcceptProposal_effects (h : handleAcceptProposal cfg env s caller args = .ok (v, s')) :
    Effects F Unannounced Everywhere s s' := by
  obtain ⟨taskId, task, assignee, newStatus, db, -, -, -, hdb, rfl⟩ := handleAcceptProposal_eq_ok h
  exact (Effects.refl.relink hdb fun _ _ => rfl).appendAudit

theorem handleRejectProposal_effects (h : handleRejectProposal env s caller args = .ok (v, s')) :
    Effects F Unannounced Everywhere s s' := by
  obtain ⟨taskId, task, newStatus, rest, -, -, rfl⟩ := handleRejectProposal_eq_ok h
  exact Effects.refl.setStatus.appendAudit

/-! ### Reviews -/

theorem handleTaskAccept_effects (h : handleTaskAccept env s caller args = .ok (v, s')) :
    Effects (CallFrame env s caller) Unannounced Everywhere s s' := by
  obtain ⟨taskId, task, newStatus, hown, -, rfl⟩ := handleTaskAccept_eq_ok h
  exact Effects.refl.setStatus.appendAudit.pushSubtaskDone hown.row

theorem escalateTask_effects {taskId feedback : String} {task : TaskRow}
    (h : escalateTask env s caller taskId feedback task = .ok (v, s')) :
    Effects F Unannounced Everywhere s s' := by
  obtain ⟨newStatus, entry, payload, -, -, rfl⟩ := escalateTask_eq_ok h
  exact Effects.refl.setStatus.appendAudit.emitSystemEvent (by simp [Unannounced])

theorem nextRound_effects {taskId feedback actorKind assignee : String} {task : TaskRow}
    (htask : s.db.tasks.lookup taskId = some task) (hhome : task.startupId = caller.startupId)
    (hassignee : task.assigneeAgentId = some assignee)
    (h : nextRound cfg env s caller taskId feedback actorKind assignee task = .ok (v, s')) :
    Effects (CallFrame env s caller) Unannounced Everywhere s s' := by
  unfold nextRound at h
  simp only [bind_eq_ok, require_eq_ok, pure_eq_ok, Prod.mk.injEq] at h
  obtain ⟨newStatus, -, db, hdb, -, rfl⟩ := h
  have hround : Effects (CallFrame env s caller) Unannounced Everywhere s
      (writeRound env s taskId newStatus) := Effects.refl.touch fun _ _ => rfl
  exact (Effects.appendAudit (hround.message hdb)).push (.sendBack htask hhome hassignee)

theorem handleTaskRequestChanges_effects
    (h : handleTaskRequestChanges cfg env s caller args = .ok (v, s')) :
    Effects (CallFrame env s caller) Unannounced Everywhere s s' := by
  obtain ⟨taskId, task, feedback, assignee, hown, -, -, -, hassignee, h⟩ :=
    handleTaskRequestChanges_eq_ok.mp h
  split at h
  · exact escalateTask_effects h
  · exact nextRound_effects hown.row hown.startup hassignee h

/-! ### Settings and work-stealing -/

theorem handleEpistemicAppend_effects {kind : String}
    (h : handleEpistemicAppend env s caller args kind = .ok (v, s')) :
    Effects F Unannounced Everywhere s s' := by
  obtain ⟨taskId, task, entry, -, rfl⟩ := handleEpistemicAppend_eq_ok h
  exact Effects.refl.appendEpistemic

theorem handleTaskSetPreference_effects
    (h : handleTaskSetPreference env s caller args = .ok (v, s')) :
    Effects F Unannounced Everywhere s s' := by
  obtain ⟨taskId, task, backend, model, rest, payload, -, rfl⟩ := handleTaskSetPreference_eq_ok h
  refine Effects.emitSystemEvent (Effects.appendAudit ?_) (by simp [Unannounced])
  exact Effects.refl.touch fun _ _ => rfl

/-- The other tasks keep their deadlines and blockers. -/
theorem handleTaskSetBlocking_effects
    (h : handleTaskSetBlocking cfg env s caller args = .ok (v, s')) :
    Effects F Unannounced (fun id => args.getStr "task_id" ≠ some id) s s' := by
  obtain ⟨taskId, task, db, rest, payload, hown, -, -, hdb, rfl⟩ := handleTaskSetBlocking_eq_ok h
  have hother : ¬ args.getStr "task_id" ≠ some taskId := not_not_intro hown.hasId
  have hblocker : Effects F Unannounced (fun id => args.getStr "task_id" ≠ some id) s
      { s with db := db } := by
    unfold writeBlocker at hdb
    split at hdb
    · exact Effects.refl.relink hdb fun hid => absurd hid hother
    · obtain rfl := Option.some.inj hdb
      exact .refl
  refine Effects.emitSystemEvent (Effects.appendAudit ?_) (by simp [Unannounced])
  unfold writeDeadline
  split
  · exact hblocker.touch fun hid => absurd hid hother
  · exact hblocker

theorem handleTaskSteal_effects (h : handleTaskSteal cfg env s caller args = .ok (v, s')) :
    Effects F Unannounced Everywhere s s' := by
  obtain ⟨taskId, task, db, rest, payload, -, -, hrelink, rfl⟩ := handleTaskSteal_eq_ok h
  exact (Effects.appendAudit (Effects.refl.relink hrelink fun _ _ => rfl)).emitSystemEvent (by simp [Unannounced])

/-! ### Tools around the artifact -/

theorem handleSelfReview_effects (h : handleSelfReview env s caller args = .ok (v, s')) :
    Effects F Unannounced Everywhere s s' := by
  obtain ⟨taskId, task, outcome, -, rfl⟩ := handleSelfReview_eq_ok h
  exact Effects.refl.selfReviewRecord

theorem handleCommand_effects {tool : String} {keys : List String}
    (h : handleCommand env s caller args tool keys = .ok (v, s')) :
    Effects F Unannounced Everywhere s s' := by
  obtain ⟨taskId, task, -, rfl | ⟨results, rfl⟩⟩ := handleCommand_eq_ok h
  · exact .refl
  · exact Effects.refl.appendAudit

/-! ### Movement and speech -/

theorem handleMoveIntent_effects :
    Effects F Unannounced Everywhere s (handleMoveIntent cfg env s caller args).2 := by
  unfold handleMoveIntent
  split
  · exact .refl
  · rename_i room target htarget
    generalize startMove cfg.astar s.world s.paths cfg.layout (graphFromLayout cfg.layout)
      caller.agentId room target = r
    obtain ⟨result, world, paths⟩ := r
    have hmove : Effects F Unannounced Everywhere s { s with world := world, paths := paths } :=
      .of_eq rfl rfl rfl
    cases result with
    | permissionDenied => exact hmove.emitSystemEvent (by simp [Unannounced])
    | _ => exact hmove

/-- The kind of a call of `speak`: a chat, unless it says otherwise. -/
def speechKind (args : Json) : String :=
  (args.getStr "kind").getD "chat"

/-- The message of a call of `speak`. -/
def speechMessage (env : Env) (caller : AvatarView) (args : Json) (body : String) : Message where
  startupId := caller.startupId
  roomId := if speechKind args = "chat" then some caller.roomId else none
  authorId := caller.agentId
  body := body
  kind := speechKind args
  ts := env.now

/-- **Which calls of `speak` are granted.** -/
theorem handleSpeak_ok_iff :
    handleSpeak cfg env s caller args = .ok (v, s') ↔
      ∃ body db, args.getStr "body" = some body ∧ body.length ≤ maxBodyLength ∧
        (speechKind args = "chat" ∨ speechKind args = "directive") ∧
        checkSpeech s.db caller (speechKind args) (args.getStr "to_agent_id") = .ok () ∧
        s.db.insertMessage env.newId (speechMessage env caller args body) = some db ∧
        v = .obj [("message_id", .str env.newId)] ∧
        s' = pushSpeech env { s with db := db } caller (speechKind args) (args.getStr "to_agent_id") body := by
  unfold handleSpeak
  simp only [bind_eq_ok, requireStr_eq_ok, checkBodyLength_eq_ok, ensure_eq_ok, require_eq_ok,
    pure_eq_ok, Prod.mk.injEq]
  constructor
  · rintro ⟨body, hbody, _, hlength, _, hkind, _, hspeech, db, hdb, rfl, rfl⟩
    exact ⟨body, db, hbody, hlength, hkind, hspeech, hdb, rfl, rfl⟩
  · rintro ⟨body, db, hbody, hlength, hkind, hspeech, hdb, rfl, rfl⟩
    exact ⟨body, hbody, (), hlength, (), hkind, (), hspeech, db, hdb, rfl, rfl⟩

/-- A directive is checked for the recipient that it names. -/
theorem checkSpeech_directive_iff {db : Db} {toAgentId : Option String} :
    checkSpeech db caller "directive" toAgentId = .ok () ↔
      ∃ recipient, toAgentId = some recipient ∧ checkDirective db caller recipient = .ok () := by
  unfold checkSpeech
  simp only [if_true, bind_eq_ok, require_eq_ok]

theorem handleSpeak_effects (h : handleSpeak cfg env s caller args = .ok (v, s')) :
    Effects (CallFrame env s caller) Unannounced Everywhere s s' := by
  obtain ⟨body, db, -, -, hkind, hspeech, hdb, -, rfl⟩ := handleSpeak_ok_iff.mp h
  have hmessage : Effects (CallFrame env s caller) Unannounced Everywhere s { s with db := db } :=
    Effects.refl.message hdb
  unfold pushSpeech
  split
  · exact hmessage.trans (Effects.foldl _ (fun peerId hpeer _ => Effects.refl.push (.chat hpeer)) _)
  · rename_i hchat
    rw [hkind.resolve_left hchat] at hspeech
    obtain ⟨recipient, hto, hcheck⟩ := checkSpeech_directive_iff.mp hspeech
    rw [hto]
    exact hmessage.push (.directive hcheck)

/-! ### One call -/

/-- The task whose blocker or deadline a call may change. -/
def Retimes (args : Json) (tool : String) (id : String) : Prop :=
  tool = "task_set_blocking" ∧ args.getStr "task_id" = some id

variable (cfg env s caller args) in
/-- **Any tool.** -/
theorem callTool_effects (tool : String) :
    Effects (CallFrame env s caller) Unannounced (fun id => ¬ Retimes args tool id) s
      (callTool cfg env s caller args tool).2 := by
  have hall : ∀ {s'}, Effects (CallFrame env s caller) Unannounced Everywhere s s' →
      Effects (CallFrame env s caller) Unannounced (fun id => ¬ Retimes args tool id) s s' :=
    fun h => h.mono (fun _ _ => id) (fun _ => id) fun _ _ => trivial
  unfold callTool
  split
  · exact hall handleMoveIntent_effects
  · exact hall (.settle fun _ _ => handleSpeak_effects)
  · exact hall handleTaskDone_effects
  · exact hall (.settle fun _ _ => handleTaskFailed_effects)
  · exact hall (.settle fun _ _ => handleSubtaskCreate_effects)
  · exact hall (.settle fun _ _ => handleTaskAccept_effects)
  · exact hall (.settle fun _ _ => handleTaskRequestChanges_effects)
  · exact hall (.settle fun _ _ => handleAcceptProposal_effects)
  · exact hall (.settle fun _ _ => handleRejectProposal_effects)
  · exact hall (.settle fun _ _ => handleEpistemicAppend_effects)
  · exact hall (.settle fun _ _ => handleEpistemicAppend_effects)
  · exact hall (.settle fun _ _ => handleEpistemicAppend_effects)
  · exact .refl
  · exact hall (.settle fun _ _ => handleTaskSetPreference_effects)
  · refine .settle fun _ _ h => (handleTaskSetBlocking_effects h).mono (fun _ _ => id) (fun _ => id) ?_
    exact fun id hid hsame => hid ⟨rfl, hsame⟩
  · exact hall (.settle fun _ _ => handleTaskSteal_effects)
  · exact hall (.settle fun _ _ => handleSelfReview_effects)
  · exact hall (.settle fun _ _ => handleCommand_effects)
  · exact hall (.settle fun _ _ => handleCommand_effects)
  · exact hall (.settle fun _ _ => handleCommand_effects)
  · exact .settle fun _ _ h => .of_skills (handleSkillUpsert_steps h)
  · exact .settle fun _ _ h => .of_skills (handleSkillAttach_steps h)
  · exact .settle fun _ _ h => .of_skills (handleSkillDetach_steps h)
  · exact .settle fun _ _ h => .of_skills (handleSkillDelete_steps h)
  · exact .settle fun _ _ h => .of_skills (handleSkillFileUpsert_steps h)
  · exact .settle fun _ _ h => .of_skills (handleSkillFileDelete_steps h)
  · exact .settle fun _ _ h => .of_skills (handleSkillRevert_steps h)
  · split
    · exact .refl
    · exact .refl

end Calls

end Cliptown.Task
