import Cliptown.Task.McpBoard
import Cliptown.Task.Statements

/-!
# The tools as statements

* `handle…_statements` — a handler that succeeds is a run of statements on behalf of the caller's
  startup. `task_set_blocking` alone takes a blocker that it does not check.
* `callTool_statements` — any call, whether it is refused or not.
-/

namespace Cliptown.Task

open Cliptown.Lib Cliptown.Town Cliptown.World Cliptown.Worker

section Calls

variable {cfg : Config} {env : Env} {s s' s'' : LoopState} {caller : AvatarView} {args v : Json}
  {party : Party} {astray : Prop}

/-! ### What the handlers share -/

/-- The tables of the skills. -/
theorem Statements.of_skills (h : SkillsOnly party s s') : Statements party astray s s' := by
  obtain ⟨db, hsteps, rfl⟩ := h
  induction hsteps with
  | refl => exact .refl
  | tail _ hstep ih => exact ih.tail (.skills (s := { s with db := _ }) hstep)

/-- What a passed check of the startup means. -/
theorem atHome_caller {startupId : String} (h : startupId = caller.startupId) :
    AtHome (.agent caller.startupId) startupId :=
  h

/-- The caller may touch the task that its call names. -/
theorem OwnTask.ownedBy {taskId : String} {task : TaskRow} (h : OwnTask s.db caller args taskId task) :
    s.OwnedBy (.agent caller.startupId) taskId :=
  ownedBy_of_lookup h.row (atHome_caller h.startup)

/-- A checked assignee is an agent of the caller's startup. -/
theorem checkAssignee_eq_ok {db : Db} {assignee : String} {u : Unit} :
    checkAssignee db caller assignee = .ok u ↔ AgentOf db assignee caller.startupId := by
  unfold checkAssignee AgentOf
  simp only [bind_eq_ok, require_eq_ok, ensure_eq_ok]

/-- So is an assignee that need not be picked, if it is. -/
theorem agentOf_of_checkRequested {db : Db} {assignee : Option String} {u : Unit} {a : String}
    (h : checkRequested db caller assignee = .ok u) (ha : assignee = some a) :
    AgentOf db a caller.startupId := by
  subst ha
  exact checkAssignee_eq_ok.mp h

theorem Statements.selfReviewRecord {taskId agentId : String} {outcome : SelfReviewOutcome}
    (h : Statements party astray s s') (howned : s.OwnedBy party taskId) :
    Statements party astray s (Task.selfReviewRecord env s' taskId agentId outcome) := by
  unfold Task.selfReviewRecord
  refine Statements.appendAudit ?_ howned (.inl (by simp [Json.getStr, Json.get, Json.asStr]))
  split
  · exact h.touch howned (.inl fun _ => rfl)
  · exact h

theorem Statements.pushSubtaskDone {home : String} {parentId : Option String}
    {taskId artifactPath : String} {reviewRound : ℕ} (h : Statements (.agent home) astray s s')
    (hparent : ∀ p, parentId = some p → ParentIn s.db p home) :
    Statements (.agent home) astray s
      (Task.pushSubtaskDone env s' parentId taskId artifactPath reviewRound) := by
  unfold Task.pushSubtaskDone
  split
  · split
    · rename_i p _ manager hmanager
      exact h.notify hmanager (hparent p rfl)
    · exact h
  · exact h

/-! ### Reports of the assignee -/

theorem Statements.submitTask {home taskId artifactPath : String} {task : TaskRow}
    {newStatus : TaskStatus} (h : Statements (.agent home) astray s s')
    (htask : s.db.tasks.lookup taskId = some task) (hhome : task.startupId = home) :
    Statements (.agent home) astray s
      (Task.submitTask env s' caller taskId artifactPath task newStatus) := by
  have howned : s.OwnedBy (.agent home) taskId := ownedBy_of_lookup htask hhome
  unfold Task.submitTask
  refine Statements.pushSubtaskDone (Statements.setAvatarStatus ?_) fun p hp => ?_
  · refine Statements.appendAudit ?_ howned (.inl (by simp))
    exact h.touch howned (.inl fun _ => rfl)
  · exact ⟨taskId, task, htask, hp, hhome⟩

theorem handleTaskDone_statements :
    Statements (.agent caller.startupId) astray s (handleTaskDone cfg env s caller args).2 := by
  unfold handleTaskDone
  split
  · exact .refl
  · rename_i taskId artifactPath task hchecks
    obtain ⟨-, -, htask, hstartup, -, -, -⟩ := taskDoneChecks_eq_ok.mp hchecks
    have howned := ownedBy_of_lookup htask (atHome_caller hstartup)
    have hreview : Statements (.agent caller.startupId) astray s
        (recordReview env s caller args taskId
          (taskDoneReview env caller args taskId artifactPath)) := by
      unfold recordReview
      split
      · exact Statements.refl.selfReviewRecord howned
      · exact .refl
    simp only
    split
    · split
      · exact hreview
      · exact hreview.submitTask htask hstartup
    · exact hreview

theorem handleTaskFailed_statements (h : handleTaskFailed env s caller args = .ok (v, s')) :
    Statements (.agent caller.startupId) astray s s' := by
  obtain ⟨taskId, task, newStatus, rest, hown, -, -, rfl⟩ := handleTaskFailed_eq_ok h
  have howned := hown.ownedBy
  exact ((Statements.refl.setStatus howned).appendAudit howned (.inl (by simp))).setAvatarStatus

/-! ### Subtasks -/

theorem handleSubtaskCreate_statements (h : handleSubtaskCreate cfg env s caller args = .ok (v, s')) :
    Statements (.agent caller.startupId) astray s s' := by
  unfold handleSubtaskCreate at h
  simp only [bind_eq_ok, require_eq_ok, ensure_eq_ok, pure_eq_ok, Prod.mk.injEq] at h
  obtain ⟨parentId, -, parent, hparent, _, hstartup, newStatus, -, _, hrequested, db, hdb, -, rfl⟩ := h
  have hinsert : Statements (.agent caller.startupId) astray s { s with db := db } := by
    refine .single (.insert hdb ⟨rfl, fun a ha => ?_, fun u hu => ?_, fun u hu => ?_, rfl⟩)
    · exact agentOf_of_checkRequested hrequested ha
    · obtain rfl := Option.some.inj hu
      exact .inl ⟨parent, hparent, hstartup⟩
    · exact absurd hu (by simp [newTask])
  split
  · exact hinsert
  · split
    · rename_i manager hmanager
      obtain ⟨hnone, htasks, -⟩ := lookup_insertTask hdb
      -- the parent is another row than the new one
      have hne : parentId ≠ env.newId := by
        rintro rfl
        exact absurd (hnone.symm.trans hparent) (by simp)
      have hassignee : assigneeOf db parentId = some manager := by
        unfold assigneeOf
        rw [htasks, Table.lookup_insert_eq, if_neg hne, hparent]
        exact hmanager
      exact hinsert.trans (Statements.refl.notify hassignee
        ⟨env.newId, _, lookup_new_insertTask hdb, rfl, rfl⟩)
    · exact hinsert

/-- A proposal that is accepted gets an assignee of its startup. -/
theorem kept_accepted {t : TaskRow} {status : TaskStatus} {assignee : String}
    {room : Option String} {now : ℤ} (hhome : AtHome party t.startupId)
    (hassignee : AgentOf s.db assignee t.startupId) :
    Kept party astray s t { t with
      status := status, assigneeAgentId := some assignee, requiredRoom := room, updatedAt := now } where
  startup := rfl
  parent := rfl
  assignee a ha := by
    obtain rfl := Option.some.inj ha
    exact .inr (.inl hassignee)
  blocker _ h := .inl h
  owned := .inr hhome
  assignments := .inl rfl

theorem handleAcceptProposal_statements
    (h : handleAcceptProposal cfg env s caller args = .ok (v, s')) :
    Statements (.agent caller.startupId) astray s s' := by
  obtain ⟨taskId, task, assignee, newStatus, db, hown, hassignee, -, hdb, rfl⟩ :=
    handleAcceptProposal_eq_ok h
  have howned := hown.ownedBy
  have hrelink : Statements (.agent caller.startupId) astray s { s with db := db } := by
    refine .single (.relink hdb fun t ht => ?_)
    obtain rfl := Option.some.inj (hown.row.symm.trans ht)
    exact kept_accepted (howned task ht) (hown.startup ▸ checkAssignee_eq_ok.mp hassignee)
  exact hrelink.appendAudit howned (.inl (by simp))

theorem handleRejectProposal_statements
    (h : handleRejectProposal env s caller args = .ok (v, s')) :
    Statements (.agent caller.startupId) astray s s' := by
  obtain ⟨taskId, task, newStatus, rest, hown, -, rfl⟩ := handleRejectProposal_eq_ok h
  have howned := hown.ownedBy
  exact (Statements.refl.setStatus howned).appendAudit howned (.inl (by simp))

/-! ### Reviews -/

theorem handleTaskAccept_statements (h : handleTaskAccept env s caller args = .ok (v, s')) :
    Statements (.agent caller.startupId) astray s s' := by
  obtain ⟨taskId, task, newStatus, hown, -, rfl⟩ := handleTaskAccept_eq_ok h
  have howned := hown.ownedBy
  refine Statements.pushSubtaskDone ?_ fun p hp => ⟨taskId, task, hown.row, hp, hown.startup⟩
  exact (Statements.refl.setStatus howned).appendAudit howned (.inl (by simp))

theorem escalateTask_statements {taskId feedback : String} {task : TaskRow}
    (howned : s.OwnedBy party taskId)
    (h : escalateTask env s caller taskId feedback task = .ok (v, s')) :
    Statements party astray s s' := by
  obtain ⟨newStatus, entry, payload, -, hentry, rfl⟩ := escalateTask_eq_ok h
  refine Statements.emitSystemEvent (Statements.appendAudit ?_ howned (.inl ?_))
  · exact Statements.refl.setStatus howned
  · rw [hentry]
    simp

theorem nextRound_statements {taskId feedback actorKind assignee : String} {task : TaskRow}
    (howned : s.OwnedBy (.agent caller.startupId) taskId)
    (h : nextRound cfg env s caller taskId feedback actorKind assignee task = .ok (v, s')) :
    Statements (.agent caller.startupId) astray s s' := by
  obtain ⟨newStatus, db, message, frame, -, hdb, hhome, htype, rfl⟩ := nextRound_eq_ok h
  have hround : Statements (.agent caller.startupId) astray s (writeRound env s taskId newStatus) :=
    Statements.refl.touch howned (.inl fun _ => rfl)
  have hmessage := hround.tail (.message hdb hhome)
  refine (Statements.appendAudit hmessage howned (.inl (by simp))).push ?_
  simp [isNotice, htype]

theorem handleTaskRequestChanges_statements
    (h : handleTaskRequestChanges cfg env s caller args = .ok (v, s')) :
    Statements (.agent caller.startupId) astray s s' := by
  obtain ⟨taskId, task, feedback, assignee, hown, -, -, -, -, h⟩ := handleTaskRequestChanges_eq_ok.mp h
  split at h
  · exact escalateTask_statements hown.ownedBy h
  · exact nextRound_statements hown.ownedBy h

/-! ### Settings and work-stealing -/

theorem handleEpistemicAppend_statements {kind : String}
    (h : handleEpistemicAppend env s caller args kind = .ok (v, s')) :
    Statements (.agent caller.startupId) astray s s' := by
  obtain ⟨taskId, task, entry, hown, rfl⟩ := handleEpistemicAppend_eq_ok h
  exact Statements.refl.appendEpistemic hown.ownedBy

theorem handleTaskSetPreference_statements
    (h : handleTaskSetPreference env s caller args = .ok (v, s')) :
    Statements (.agent caller.startupId) astray s s' := by
  obtain ⟨taskId, task, backend, model, rest, payload, hown, rfl⟩ := handleTaskSetPreference_eq_ok h
  have howned := hown.ownedBy
  refine Statements.emitSystemEvent (Statements.appendAudit ?_ howned (.inl (by simp)))
  exact Statements.refl.touch howned (.inl fun _ => rfl)

/-- The caller may configure the task that the call names, and the blocker is of another startup. -/
def BlockerAstray (db : Db) (caller : AvatarView) (args : Json) : Prop :=
  ∃ taskId task u, args.getStr "task_id" = some taskId ∧ db.tasks.lookup taskId = some task ∧
    task.startupId = caller.startupId ∧ mayConfigure db caller task ∧
    args.getStr "blocked_on" = some u ∧ TaskAbroad db u caller.startupId

/-- A new blocker is the one that the call names, and nothing is checked about it. -/
theorem kept_blocked {t : TaskRow} {b : Option String} {now : ℤ}
    (hhome : t.startupId = caller.startupId)
    (hblocker : ∀ u, b = some u → TaskIn s.db u t.startupId ∨ astray) :
    Kept (.agent caller.startupId) astray s t { t with blockedOn := b, updatedAt := now } where
  startup := rfl
  parent := rfl
  assignee _ h := .inl h
  blocker u hu := .inr (hblocker u hu)
  owned := .inr hhome
  assignments := .inl rfl

theorem handleTaskSetBlocking_statements
    (h : handleTaskSetBlocking cfg env s caller args = .ok (v, s')) :
    Statements (.agent caller.startupId) (BlockerAstray s.db caller args) s s' := by
  obtain ⟨taskId, task, db, rest, payload, hown, hmay, -, hdb, rfl⟩ := handleTaskSetBlocking_eq_ok h
  have howned := hown.ownedBy
  have hblocker : Statements (.agent caller.startupId) (BlockerAstray s.db caller args) s
      { s with db := db } := by
    unfold writeBlocker at hdb
    split at hdb
    · rename_i b hblocked
      refine .single (.relink hdb fun t ht => kept_blocked (howned t ht) fun u hu => ?_)
      subst hu
      -- the blocker exists, because the update was granted
      have hsome := ((lookup_relinkTask hdb).2 t ht).blocker u rfl
      refine (taskIn_or_abroad t.startupId hsome).imp_right fun habroad => ?_
      exact ⟨taskId, task, u, hown.hasId, hown.row, hown.startup, hmay, change_asStr_eq_some hblocked,
        (howned t ht : t.startupId = caller.startupId) ▸ habroad⟩
    · obtain rfl := Option.some.inj hdb
      exact .refl
  refine Statements.emitSystemEvent (Statements.appendAudit ?_ howned (.inl (by simp)))
  unfold writeDeadline
  split
  · exact hblocker.touch howned (.inl fun _ => rfl)
  · exact hblocker

/-- A stolen task goes to the caller, whose avatar is of its startup. -/
theorem kept_stolen {t : TaskRow} {now : ℤ} {key : String}
    (hcaller : s.world.avatars.lookup key = some caller) (hhome : t.startupId = caller.startupId) :
    Kept (.agent caller.startupId) astray s t
      { t with assigneeAgentId := some caller.agentId, updatedAt := now } where
  startup := rfl
  parent := rfl
  assignee a ha := by
    obtain rfl := Option.some.inj ha
    exact .inr (.inr ⟨key, caller, hcaller, .inr rfl, hhome.symm⟩)
  blocker _ h := .inl h
  owned := .inr hhome
  assignments := .inl rfl

theorem handleTaskSteal_statements {key : String}
    (hcaller : s.world.avatars.lookup key = some caller)
    (h : handleTaskSteal cfg env s caller args = .ok (v, s')) :
    Statements (.agent caller.startupId) astray s s' := by
  obtain ⟨taskId, task, db, rest, payload, hown, -, hrelink, rfl⟩ := handleTaskSteal_eq_ok h
  have howned := hown.ownedBy
  have hsteal : Statements (.agent caller.startupId) astray s { s with db := db } :=
    .single (.relink hrelink fun t ht => kept_stolen hcaller (howned t ht))
  exact (Statements.appendAudit hsteal howned (.inl (by simp))).emitSystemEvent

/-! ### Tools around the artifact -/

theorem handleSelfReview_statements (h : handleSelfReview env s caller args = .ok (v, s')) :
    Statements (.agent caller.startupId) astray s s' := by
  obtain ⟨taskId, task, outcome, hown, rfl⟩ := handleSelfReview_eq_ok h
  exact Statements.refl.selfReviewRecord hown.ownedBy

theorem handleCommand_statements {tool : String} {keys : List String}
    (htool : tool ≠ "task_assigned")
    (h : handleCommand env s caller args tool keys = .ok (v, s')) :
    Statements (.agent caller.startupId) astray s s' := by
  obtain ⟨taskId, task, hown, rfl | ⟨results, rfl⟩⟩ := handleCommand_eq_ok h
  · exact .refl
  · exact Statements.refl.appendAudit hown.ownedBy (.inl (by simpa using htool))

/-! ### Movement and speech -/

theorem handleMoveIntent_statements :
    Statements party astray s (handleMoveIntent cfg env s caller args).2 := by
  unfold handleMoveIntent
  split
  · exact .refl
  · rename_i room target htarget
    have hsame := sameAvatars_startMove cfg.astar s.world s.paths cfg.layout
      (graphFromLayout cfg.layout) caller.agentId room target
    generalize startMove cfg.astar s.world s.paths cfg.layout (graphFromLayout cfg.layout)
      caller.agentId room target = r at hsame
    obtain ⟨result, world, paths⟩ := r
    have hmove : Statements party astray s { s with world := world, paths := paths } :=
      .single (.move hsame)
    cases result with
    | permissionDenied => exact hmove.emitSystemEvent
    | _ => exact hmove

theorem Statements.pushSpeech {kind body : String} {toAgentId : Option String}
    (h : Statements party astray s s') :
    Statements party astray s (Task.pushSpeech env s' caller kind toAgentId body) := by
  unfold Task.pushSpeech
  split
  · exact h.trans (Statements.foldl (fun s peerId => Statements.refl.push rfl) _ s')
  · split
    · exact h.push rfl
    · exact h

theorem handleSpeak_statements (h : handleSpeak cfg env s caller args = .ok (v, s')) :
    Statements (.agent caller.startupId) astray s s' := by
  obtain ⟨db, message, kind, toAgentId, body, hdb, hhome, rfl⟩ := handleSpeak_eq_ok h
  exact Statements.pushSpeech (.single (.message hdb hhome))

/-! ### One call -/

/-- A handler that is settled. -/
theorem Statements.settle {ε ρ : Type} {r : Except ε (ρ × LoopState)}
    (h : ∀ v s', r = .ok (v, s') → Statements party astray s s') :
    Statements party astray s (Lib.settle s r).2 := by
  rcases settle_cases s r with hs | ⟨v, s', hr, hs⟩
  · rw [hs]
  · rw [hs]
    exact h v s' hr

variable (cfg env args) in
/-- **Any tool** is a run of statements on behalf of the caller's startup. -/
theorem callTool_statements {key : String} (hcaller : s.world.avatars.lookup key = some caller)
    (tool : String) :
    Statements (.agent caller.startupId) (tool = "task_set_blocking" ∧ BlockerAstray s.db caller args) s
      (callTool cfg env s caller args tool).2 := by
  unfold callTool
  split
  · exact handleMoveIntent_statements
  · exact .settle fun _ _ => handleSpeak_statements
  · exact handleTaskDone_statements
  · exact .settle fun _ _ => handleTaskFailed_statements
  · exact .settle fun _ _ => handleSubtaskCreate_statements
  · exact .settle fun _ _ => handleTaskAccept_statements
  · exact .settle fun _ _ => handleTaskRequestChanges_statements
  · exact .settle fun _ _ => handleAcceptProposal_statements
  · exact .settle fun _ _ => handleRejectProposal_statements
  · exact .settle fun _ _ => handleEpistemicAppend_statements
  · exact .settle fun _ _ => handleEpistemicAppend_statements
  · exact .settle fun _ _ => handleEpistemicAppend_statements
  · exact .refl
  · exact .settle fun _ _ => handleTaskSetPreference_statements
  · exact .settle fun _ _ h => by simpa using handleTaskSetBlocking_statements h
  · exact .settle fun _ _ => handleTaskSteal_statements hcaller
  · exact .settle fun _ _ => handleSelfReview_statements
  · exact .settle fun _ _ => handleCommand_statements (by simp)
  · exact .settle fun _ _ => handleCommand_statements (by simp)
  · exact .settle fun _ _ => handleCommand_statements (by simp)
  · exact .settle fun _ _ h => .of_skills (handleSkillUpsert_steps h)
  · exact .settle fun _ _ h => .of_skills (handleSkillAttach_steps h)
  · exact .settle fun _ _ h => .of_skills (handleSkillDetach_steps h)
  · exact .settle fun _ _ h => .of_skills (handleSkillDelete_steps h)
  · exact .settle fun _ _ h => .of_skills (handleSkillFileUpsert_steps h)
  · exact .settle fun _ _ h => .of_skills (handleSkillFileDelete_steps h)
  · exact .settle fun _ _ h => .of_skills (handleSkillRevert_steps h)
  · split
    · exact .refl
    · exact .refl

end Calls

/-- **Any message of an agent**, likewise. -/
theorem dispatchMcp_statements (cfg : Config) (env : Env) {s : LoopState} {agentId : String}
    {caller : AvatarView} (msg : Json) (hcaller : s.world.avatars.lookup agentId = some caller) :
    Statements (.agent caller.startupId)
      ((McpCall.ofJson msg).tool = "task_set_blocking" ∧
        BlockerAstray s.db caller (McpCall.ofJson msg).args) s
      (dispatchMcp cfg env s agentId msg).2 := by
  rw [state_dispatchMcp msg hcaller]
  exact callTool_statements cfg env (McpCall.ofJson msg).args hcaller (McpCall.ofJson msg).tool

end Cliptown.Task
