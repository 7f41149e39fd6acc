import Cliptown.Task.McpSpecs

/-!
# The tools on the board

A call of a tool leaves the board as it is, or is one event of it.

* `Issues` — which event a call stands for, with what the handler has checked about it.
* `handle…_board` — one lemma for each handler that changes a card or an avatar.
* `callTool_board`, `dispatchMcp_board` — any call.
-/

namespace Cliptown.Task

open Cliptown.Lib Cliptown.Town Cliptown.World Cliptown.Worker

section Calls

variable {cfg : Config} {env : Env} {s s' : LoopState} {caller : AvatarView} {args v : Json}

variable (env s caller args) in
/-- The event that a call stands for. -/
inductive Issues : String → BoardEvent String String → Prop
  | plain {tool : String} {e : BoardEvent String String} : e.Plain → ¬ e.Scheduled → Issues tool e
  | submit {taskId artifactPath : String} {task : TaskRow} :
      taskDoneChecks env s caller args = .ok (taskId, artifactPath, task) →
      (taskDoneReview env caller args taskId artifactPath).ok →
      Issues "task_done" (.submit taskId caller.agentId)
  | fail {taskId : String} {task : TaskRow} : args.getStr "task_id" = some taskId →
      s.db.tasks.lookup taskId = some task → task.startupId = caller.startupId →
      task.assigneeAgentId = some caller.agentId → Issues "task_failed" (.fail taskId caller.agentId)
  | create {parentId id : String} {parent : TaskRow} {c : Card String String} :
      args.getStr "parent_id" = some parentId → s.db.tasks.lookup parentId = some parent →
      parent.startupId = caller.startupId →
      (c.status = .queued → parent.assigneeAgentId = some caller.agentId ∧
        c.assignee = args.getStr "assignee_agent_id") →
      Issues "subtask_create" (.create id c)
  | block {taskId u : String} {task : TaskRow} : args.getStr "task_id" = some taskId →
      s.db.tasks.lookup taskId = some task → task.startupId = caller.startupId →
      mayConfigure s.db caller task → args.getStr "blocked_on" = some u → u ≠ taskId →
      Issues "task_set_blocking" (.block taskId (some u))

/-- A call leaves the board as it is, or is one event that it issues. -/
def Moves (env : Env) (s : LoopState) (caller : AvatarView) (args : Json) (tool : String)
    (s' : LoopState) : Prop :=
  s'.board = s.board ∨ ∃ e, Board.Step s.board e s'.board ∧ Issues env s caller args tool e

theorem handleTaskFailed_board (h : handleTaskFailed env s caller args = .ok (v, s')) :
    Moves env s caller args "task_failed" s' := by
  obtain ⟨taskId, task, newStatus, rest, hown, hassignee, hnext, rfl⟩ := handleTaskFailed_eq_ok h
  obtain ⟨hdone, hfailed, rfl⟩ := next_eq_ok_iff.mp hnext
  refine .inr ⟨.fail taskId caller.agentId, ?_, .fail hown.hasId hown.row hown.startup hassignee⟩
  have hcard := card_of_lookup hown.row
  rw [board_setAvatarStatus, board_appendAudit, board_setStatus hcard]
  exact .fail hcard hdone hfailed hassignee

/-- An event without a condition. -/
theorem Moves.of_plain {tool : String} {e : BoardEvent String String}
    (h : Board.Step s.board e s'.board) (he : e.Plain) (hscheduled : ¬ e.Scheduled) :
    Moves env s caller args tool s' :=
  .inr ⟨e, h, .plain he hscheduled⟩

/-- What passing the checks of `task_done` means. -/
theorem taskDoneChecks_eq_ok {taskId artifactPath : String} {task : TaskRow} :
    taskDoneChecks env s caller args = .ok (taskId, artifactPath, task) ↔
      args.getStr "task_id" = some taskId ∧ args.getStr "artifact_path" = some artifactPath ∧
        s.db.tasks.lookup taskId = some task ∧ task.startupId = caller.startupId ∧
        task.assigneeAgentId = some caller.agentId ∧
        artifactPath = canonicalArtifactPath caller.startupId taskId ∧
        ∃ resolved, env.files.resolve ("workspaces/" ++ caller.startupId)
          ("artifacts/" ++ taskId ++ ".md") = .ok resolved := by
  unfold taskDoneChecks requireStr loadTask ensureSameStartup
  simp only [bind_eq_ok, require_eq_ok, ensure_eq_ok]
  constructor
  · rintro ⟨id, hid, path, hpath, t, ht, _, hstartup, _, hassignee, _, hcanonical, h⟩
    split at h
    · rename_i resolved hresolve
      obtain ⟨rfl, rfl, rfl⟩ := by simpa [pure_eq_ok] using h
      exact ⟨hid, hpath, ht, hstartup, hassignee, hcanonical, resolved, hresolve⟩
    · simp at h
  · rintro ⟨hid, hpath, ht, hstartup, hassignee, hcanonical, resolved, hresolve⟩
    refine ⟨taskId, hid, artifactPath, hpath, task, ht, (), hstartup, (), hassignee, (), hcanonical,
      ?_⟩
    rw [hresolve]
    rfl

@[simp]
theorem board_pushSubtaskDone (parentId : Option String) (taskId artifactPath : String)
    (reviewRound : ℕ) :
    (pushSubtaskDone env s parentId taskId artifactPath reviewRound).board = s.board := by
  unfold pushSubtaskDone
  split
  · split
    · exact board_push _ _
    · rfl
  · rfl

variable (env s caller args) in
theorem board_recordReview (taskId : String) (outcome : SelfReviewOutcome) :
    (recordReview env s caller args taskId outcome).board = s.board := by
  unfold recordReview
  split
  · exact board_selfReviewRecord _ _ _
  · rfl

theorem board_submitTask {taskId artifactPath : String} {task : TaskRow} {c : Card String String}
    (h : s.board.card taskId = some c) (newStatus : TaskStatus) :
    (submitTask env s caller taskId artifactPath task newStatus).board =
      (s.board.put taskId { c with status := newStatus }).mark caller.agentId .idle := by
  unfold submitTask
  rw [board_pushSubtaskDone, board_setAvatarStatus, board_appendAudit]
  congr 1
  exact board_updateTask (g := fun c => { c with status := newStatus }) h _ fun _ => rfl

theorem handleTaskDone_board :
    Moves env s caller args "task_done" (handleTaskDone cfg env s caller args).2 := by
  unfold handleTaskDone
  split
  · exact .inl rfl
  · rename_i taskId artifactPath task hchecks
    obtain ⟨-, -, htask, -, hassignee, -, -⟩ := taskDoneChecks_eq_ok.mp hchecks
    -- the self-review comes first, and leaves its trace even when the call is refused
    have hreview := board_recordReview env s caller args taskId
      (taskDoneReview env caller args taskId artifactPath)
    simp only
    split
    · rename_i hok
      split
      · exact .inl hreview
      · rename_i newStatus hnext
        obtain ⟨hstatus, rfl⟩ := next_eq_ok_iff.mp (illegal_eq_ok.mp hnext)
        have hcard := card_of_lookup htask
        refine .inr ⟨.submit taskId caller.agentId, ?_, .submit hchecks hok⟩
        rw [board_submitTask (hreview ▸ hcard), hreview]
        exact .submit hcard hstatus hassignee
    · exact .inl hreview

/-! ### Subtasks -/

theorem handleSubtaskCreate_board (h : handleSubtaskCreate cfg env s caller args = .ok (v, s')) :
    Moves env s caller args "subtask_create" s' := by
  unfold handleSubtaskCreate requireStr at h
  simp only [bind_eq_ok, require_eq_ok, ensure_eq_ok, illegal_eq_ok, pure_eq_ok, Prod.mk.injEq] at h
  obtain ⟨parentId, hparentId, parent, hparent, _, hstartup, newStatus, hnext, _, -, db, hinsert, -,
    rfl⟩ := h
  obtain ⟨hnone, hlinked, hboard⟩ := board_insertTask hinsert
  set card := (newTask caller.startupId (some parentId) ((args.getStr "title").getD "")
    ((args.getStr "description").getD "") newStatus
    (if decide (parent.assigneeAgentId = some caller.agentId) then args.getStr "assignee_agent_id"
      else none) (args.getStr "required_room") env.now).card with hcard
  have hpush : ∀ s' : LoopState, s'.board = s.board.put env.newId card →
      newStatus = .proposed ∨ newStatus = .queued → (newStatus = .queued →
        parent.assigneeAgentId = some caller.agentId ∧
          card.assignee = args.getStr "assignee_agent_id") →
      Moves env s caller args "subtask_create" s' := by
    intro s' hs' hstatus howner
    refine .inr ⟨.create env.newId card, ?_, .create hparentId hparent hstartup howner⟩
    rw [hs']
    exact .create hnone hstatus rfl hlinked
  by_cases hmanager : parent.assigneeAgentId = some caller.agentId
  · have hqueued : newStatus = .queued := by
      simp only [hmanager, decide_true, if_true] at hnext
      exact next_eq_ok_iff.mp hnext
    refine hpush _ (by simpa [hmanager] using hboard) (.inr hqueued) fun _ => ⟨hmanager, ?_⟩
    simp [hcard, TaskRow.card, newTask, hmanager]
  · have hproposed : newStatus = .proposed := by
      simp only [hmanager, decide_false, Bool.false_eq_true, if_false] at hnext
      exact next_eq_ok_iff.mp hnext
    refine hpush _ ?_ (.inl hproposed) fun hqueued => absurd (hqueued.symm.trans hproposed) (by simp)
    simp only [hmanager, decide_false, Bool.false_eq_true, if_false]
    split
    · exact (board_push _ _).trans hboard
    · exact hboard

theorem handleAcceptProposal_board (h : handleAcceptProposal cfg env s caller args = .ok (v, s')) :
    Moves env s caller args "accept_proposal" s' := by
  obtain ⟨taskId, task, assignee, newStatus, db, hown, -, hnext, hdb, rfl⟩ :=
    handleAcceptProposal_eq_ok h
  obtain ⟨hstatus, rfl⟩ := next_eq_ok_iff.mp hnext
  refine .of_plain (e := .accept taskId assignee) ?_ trivial id
  rw [board_appendAudit, board_relinkTask hown.row hdb]
  exact .accept (card_of_lookup hown.row) hstatus

theorem handleRejectProposal_board (h : handleRejectProposal env s caller args = .ok (v, s')) :
    Moves env s caller args "reject_proposal" s' := by
  obtain ⟨taskId, task, newStatus, rest, hown, hnext, rfl⟩ := handleRejectProposal_eq_ok h
  obtain ⟨hstatus, rfl⟩ := next_eq_ok_iff.mp hnext
  have hcard := card_of_lookup hown.row
  refine .of_plain (e := .reject taskId) ?_ trivial id
  rw [board_appendAudit, board_setStatus hcard]
  exact .reject hcard hstatus

/-! ### Reviews -/

theorem handleTaskAccept_board (h : handleTaskAccept env s caller args = .ok (v, s')) :
    Moves env s caller args "task_accept" s' := by
  obtain ⟨taskId, task, newStatus, hown, hnext, rfl⟩ := handleTaskAccept_eq_ok h
  obtain ⟨hstatus, rfl⟩ := next_eq_ok_iff.mp hnext
  have hcard := card_of_lookup hown.row
  refine .of_plain (e := .approve taskId) ?_ trivial id
  rw [board_pushSubtaskDone, board_appendAudit, board_setStatus hcard]
  exact .approve hcard hstatus

theorem escalateTask_step {taskId feedback : String} {task : TaskRow}
    (htask : s.db.tasks.lookup taskId = some task) (hround : maxReviewRounds ≤ task.reviewRound)
    (h : escalateTask env s caller taskId feedback task = .ok (v, s')) :
    Board.Step s.board (.escalate taskId) s'.board := by
  obtain ⟨newStatus, entry, payload, hnext, -, rfl⟩ := escalateTask_eq_ok h
  obtain ⟨hdone, hfailed, rfl⟩ := next_eq_ok_iff.mp hnext
  have hcard := card_of_lookup htask
  rw [board_emitSystemEvent, board_appendAudit, board_setStatus hcard]
  exact .escalate hcard hdone hfailed hround

theorem board_writeRound {taskId : String} {c : Card String String}
    (h : s.board.card taskId = some c) (newStatus : TaskStatus) :
    (writeRound env s taskId newStatus).board =
      s.board.put taskId { c with status := newStatus, reviewRound := c.reviewRound + 1 } :=
  board_updateTask (g := fun c => { c with status := newStatus, reviewRound := c.reviewRound + 1 })
    h _ fun _ => rfl

theorem nextRound_step {taskId feedback actorKind assignee : String} {task : TaskRow}
    (htask : s.db.tasks.lookup taskId = some task)
    (h : nextRound cfg env s caller taskId feedback actorKind assignee task = .ok (v, s')) :
    Board.Step s.board (.requestChanges taskId) s'.board := by
  obtain ⟨newStatus, db, message, frame, hnext, hdb, -, -, rfl⟩ := nextRound_eq_ok h
  obtain ⟨hstatus, rfl⟩ := next_eq_ok_iff.mp hnext
  have hcard := card_of_lookup htask
  rw [board_push, board_appendAudit, board_insertMessage hdb, board_writeRound hcard]
  exact .requestChanges hcard hstatus

theorem handleTaskRequestChanges_board
    (h : handleTaskRequestChanges cfg env s caller args = .ok (v, s')) :
    Moves env s caller args "task_request_changes" s' := by
  obtain ⟨taskId, task, feedback, assignee, hown, -, -, -, -, h⟩ := handleTaskRequestChanges_eq_ok.mp h
  split at h
  · exact .of_plain (escalateTask_step hown.row ‹_› h) trivial id
  · exact .of_plain (nextRound_step hown.row h) trivial id

/-! ### Settings and work-stealing -/

theorem handleEpistemicAppend_board {kind tool : String}
    (h : handleEpistemicAppend env s caller args kind = .ok (v, s')) :
    Moves env s caller args tool s' := by
  obtain ⟨taskId, task, entry, -, rfl⟩ := handleEpistemicAppend_eq_ok h
  exact .inl (board_appendEpistemic _ _)

theorem handleTaskSetPreference_board
    (h : handleTaskSetPreference env s caller args = .ok (v, s')) :
    Moves env s caller args "task_set_preference" s' := by
  obtain ⟨taskId, task, backend, model, rest, payload, -, rfl⟩ := handleTaskSetPreference_eq_ok h
  refine .inl ?_
  rw [board_emitSystemEvent, board_appendAudit]
  exact board_updateTask_of_card _ fun _ => rfl

/-- A deadline does not show. -/
theorem board_writeDeadline (db : Db) (taskId : String) (deadline : Option (Option ℤ)) (now : ℤ) :
    ({ s with db := writeDeadline db taskId deadline now } : LoopState).board =
      ({ s with db := db } : LoopState).board := by
  unfold writeDeadline
  split
  · exact board_updateTask_of_card (s := { s with db := db }) _ fun _ => rfl
  · rfl

/-- A new blocker exists. -/
theorem board_writeBlocker {taskId : String} {task : TaskRow} {b : Option String} {now : ℤ} {db : Db}
    (htask : s.db.tasks.lookup taskId = some task)
    (h : writeBlocker s.db taskId (some b) now = some db) :
    ({ s with db := db } : LoopState).board =
        s.board.put taskId { task.card with blockedOn := b } ∧
      ∀ u ∈ b, (s.board.card u).isSome := by
  change s.db.relinkTask taskId (fun t => { t with blockedOn := b, updatedAt := now }) = some db at h
  refine ⟨board_relinkTask htask h, fun u hu => ?_⟩
  unfold Db.relinkTask at h
  split at h
  · rename_i hrefs
    simpa [LoopState.board, Db.card] using (hrefs task htask).blocker u hu
  · exact absurd h (by simp)

theorem change_asStr_eq_some {key u : String} (h : change args key Json.asStr = some (some u)) :
    args.getStr key = some u := by
  unfold change at h
  obtain ⟨w, hw, hread⟩ := Option.map_eq_some_iff.mp h
  split at hread
  · exact absurd hread (by simp)
  · simpa [Json.getStr, hw] using hread

theorem handleTaskSetBlocking_board
    (h : handleTaskSetBlocking cfg env s caller args = .ok (v, s')) :
    Moves env s caller args "task_set_blocking" s' := by
  obtain ⟨taskId, task, db, rest, payload, hown, hmay, hself, hdb, rfl⟩ := handleTaskSetBlocking_eq_ok h
  have hboard : ∀ s'' : LoopState, s''.board = ({ s with db := db } : LoopState).board →
      Moves env s caller args "task_set_blocking" s'' := by
    intro s'' hs''
    cases hblocked : change args "blocked_on" Json.asStr with
    | none =>
        rw [hblocked] at hdb
        obtain rfl := Option.some.inj hdb
        exact .inl hs''
    | some b =>
        rw [hblocked] at hdb hself
        have hne : ∀ u ∈ b, u ≠ taskId := by
          rintro u hu rfl
          exact hself (by rw [hu])
        obtain ⟨hput, hlinked⟩ := board_writeBlocker hown.row hdb
        refine .inr ⟨.block taskId b, ?_, ?_⟩
        · rw [hs'', hput]
          exact .block (card_of_lookup hown.row) fun u hu => ⟨hne u hu, hlinked u hu⟩
        · cases b with
          | none => exact .plain trivial id
          | some u =>
              exact .block hown.hasId hown.row hown.startup hmay (change_asStr_eq_some hblocked)
                (hne u rfl)
  apply hboard
  rw [board_emitSystemEvent, board_appendAudit, board_writeDeadline]

theorem handleTaskSteal_board (h : handleTaskSteal cfg env s caller args = .ok (v, s')) :
    Moves env s caller args "task_steal" s' := by
  obtain ⟨taskId, task, db, rest, payload, hown, hstatus, hdb, rfl⟩ := handleTaskSteal_eq_ok h
  refine .of_plain (e := .steal taskId caller.agentId) ?_ trivial id
  rw [board_emitSystemEvent, board_appendAudit, board_relinkTask hown.row hdb]
  exact .steal (card_of_lookup hown.row) hstatus

/-! ### Tools that only leave a trace -/

theorem handleSelfReview_board (h : handleSelfReview env s caller args = .ok (v, s')) :
    Moves env s caller args "self_review" s' := by
  obtain ⟨taskId, task, outcome, -, rfl⟩ := handleSelfReview_eq_ok h
  exact .inl (board_selfReviewRecord _ _ _)

theorem handleCommand_board {tool : String} {keys : List String}
    (h : handleCommand env s caller args tool keys = .ok (v, s')) :
    Moves env s caller args tool s' := by
  obtain ⟨taskId, task, -, rfl | ⟨results, rfl⟩⟩ := handleCommand_eq_ok h
  · exact .inl rfl
  · exact .inl (board_appendAudit _ _)

/-! ### Movement and speech -/

theorem handleMoveIntent_board :
    Moves env s caller args "move_intent" (handleMoveIntent cfg env s caller args).2 := by
  unfold handleMoveIntent
  split
  · exact .inl rfl
  · rename_i room target htarget
    have hmove := statusOf_startMove cfg.astar s.world s.paths cfg.layout
      (graphFromLayout cfg.layout) caller.agentId room target
    generalize startMove cfg.astar s.world s.paths cfg.layout (graphFromLayout cfg.layout)
      caller.agentId room target = r at hmove
    obtain ⟨result, world, paths⟩ := r
    have hboard : ({ s with world := world, paths := paths } : LoopState).board = s.board := by
      unfold LoopState.board
      rw [hmove]
    cases result with
    | permissionDenied => exact .inl ((board_emitSystemEvent _ _ _ _).trans hboard)
    | _ => exact .inl hboard

@[simp]
theorem board_pushSpeech (kind : String) (toAgentId : Option String) (body : String) :
    (pushSpeech env s caller kind toAgentId body).board = s.board := by
  unfold pushSpeech
  split
  · exact board_foldl (fun s peerId => board_push peerId _) _ s
  · split
    · exact board_push _ _
    · rfl

theorem handleSpeak_board (h : handleSpeak cfg env s caller args = .ok (v, s')) :
    Moves env s caller args "speak" s' := by
  obtain ⟨db, message, kind, toAgentId, body, hdb, -, rfl⟩ := handleSpeak_eq_ok h
  exact .inl ((board_pushSpeech _ _ _).trans (board_insertMessage hdb))

/-! ### Skills -/

/-- The tables of the skills do not show. -/
theorem board_of_skillsOnly {party : Party} (h : SkillsOnly party s s') :
    s'.board = s.board := by
  obtain ⟨db, hsteps, rfl⟩ := h
  obtain ⟨t, rfl⟩ := hsteps.eq
  rfl

/-- A tool around skills. -/
theorem Moves.of_skills {tool : String} {party : Party} (h : SkillsOnly party s s') :
    Moves env s caller args tool s' :=
  .inl (board_of_skillsOnly h)

/-! ### One call -/

/-- A handler that is settled. -/
theorem Moves.settle {tool : String} {r : Except McpError (Json × LoopState)}
    (h : ∀ v s', r = .ok (v, s') → Moves env s caller args tool s') :
    Moves env s caller args tool (Lib.settle s r).2 := by
  rcases settle_cases s r with hs | ⟨v, s', hr, hs⟩
  · exact .inl (by rw [hs])
  · rw [hs]
    exact h v s' hr

/-- **Any tool** leaves the board as it is or is one event that the call issues. -/
theorem callTool_board (tool : String) :
    Moves env s caller args tool (callTool cfg env s caller args tool).2 := by
  unfold callTool
  split
  · exact handleMoveIntent_board
  · exact .settle fun _ _ => handleSpeak_board
  · exact handleTaskDone_board
  · exact .settle fun _ _ => handleTaskFailed_board
  · exact .settle fun _ _ => handleSubtaskCreate_board
  · exact .settle fun _ _ => handleTaskAccept_board
  · exact .settle fun _ _ => handleTaskRequestChanges_board
  · exact .settle fun _ _ => handleAcceptProposal_board
  · exact .settle fun _ _ => handleRejectProposal_board
  · exact .settle fun _ _ => handleEpistemicAppend_board
  · exact .settle fun _ _ => handleEpistemicAppend_board
  · exact .settle fun _ _ => handleEpistemicAppend_board
  · exact .inl rfl
  · exact .settle fun _ _ => handleTaskSetPreference_board
  · exact .settle fun _ _ => handleTaskSetBlocking_board
  · exact .settle fun _ _ => handleTaskSteal_board
  · exact .settle fun _ _ => handleSelfReview_board
  · exact .settle fun _ _ => handleCommand_board
  · exact .settle fun _ _ => handleCommand_board
  · exact .settle fun _ _ => handleCommand_board
  · exact .settle fun _ _ h => .of_skills (handleSkillUpsert_steps h)
  · exact .settle fun _ _ h => .of_skills (handleSkillAttach_steps h)
  · exact .settle fun _ _ h => .of_skills (handleSkillDetach_steps h)
  · exact .settle fun _ _ h => .of_skills (handleSkillDelete_steps h)
  · exact .settle fun _ _ h => .of_skills (handleSkillFileUpsert_steps h)
  · exact .settle fun _ _ h => .of_skills (handleSkillFileDelete_steps h)
  · exact .settle fun _ _ h => .of_skills (handleSkillRevert_steps h)
  · split
    · exact .inl rfl
    · exact .inl rfl

end Calls

/-- **Any message of an agent** leaves the board as it is or is one event that the call issues. -/
theorem dispatchMcp_board (cfg : Config) (env : Env) (s : LoopState) (agentId : String) (msg : Json) :
    (dispatchMcp cfg env s agentId msg).2.board = s.board ∨
      ∃ caller e, s.world.avatars.lookup agentId = some caller ∧
        Issues env s caller (McpCall.ofJson msg).args (McpCall.ofJson msg).tool e ∧
        Board.Step s.board e (dispatchMcp cfg env s agentId msg).2.board := by
  cases hcaller : s.world.avatars.lookup agentId with
  | none => exact .inl (by rw [state_dispatchMcp_unknown msg hcaller])
  | some caller =>
      rw [state_dispatchMcp msg hcaller]
      have hcall : Moves env s caller (McpCall.ofJson msg).args (McpCall.ofJson msg).tool
          (callTool cfg env s caller (McpCall.ofJson msg).args (McpCall.ofJson msg).tool).2 :=
        callTool_board _
      rcases hcall with hboard | ⟨e, hstep, hissues⟩
      · exact .inl hboard
      · exact .inr ⟨caller, e, rfl, hissues, hstep⟩

end Cliptown.Task
