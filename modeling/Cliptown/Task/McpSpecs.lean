import Cliptown.Task.Mcp

/-!
# What the tools come to

One lemma for each handler: what a call that is granted has checked, and which state it leads to. The
properties of calls are proved from these, without looking at the handlers again.

* `OwnTask` — the task that a call names, which belongs to the caller's startup.
* `handleTaskFailed_eq_ok`, … — the handlers.
-/

namespace Cliptown.Task

open Cliptown.Lib Cliptown.Town Cliptown.World Cliptown.Worker

/-- The call names a task of the caller's startup. -/
structure OwnTask (db : Db) (caller : AvatarView) (args : Json) (taskId : String) (task : TaskRow) :
    Prop where
  hasId : args.getStr "task_id" = some taskId
  row : db.tasks.lookup taskId = some task
  startup : task.startupId = caller.startupId

section Specs

variable {cfg : Config} {env : Env} {s s' : LoopState} {caller : AvatarView} {args v : Json}

/-! ### Shared checks -/

theorem requireStr_eq_ok {key value : String} :
    requireStr args key = .ok value ↔ args.getStr key = some value :=
  require_eq_ok

theorem loadTask_eq_ok {db : Db} {taskId : String} {task : TaskRow} :
    loadTask db taskId = .ok task ↔ db.tasks.lookup taskId = some task :=
  require_eq_ok

theorem ensureSameStartup_eq_ok {startupId : String} {u : Unit} :
    ensureSameStartup caller startupId = .ok u ↔ startupId = caller.startupId :=
  ensure_eq_ok

theorem checkBodyLength_eq_ok {field body : String} {u : Unit} :
    checkBodyLength field body = .ok u ↔ body.length ≤ maxBodyLength :=
  ensure_eq_ok

/-! ### Reports of the assignee -/

theorem handleTaskFailed_eq_ok (h : handleTaskFailed env s caller args = .ok (v, s')) :
    ∃ taskId task newStatus rest, OwnTask s.db caller args taskId task ∧
      task.assigneeAgentId = some caller.agentId ∧ next task.status .fail = .ok newStatus ∧
      s' = ((s.setStatus env taskId newStatus).appendAudit env taskId
        (auditEntry "agent" "task_failed" caller.agentId rest)).setAvatarStatus caller.agentId .idle := by
  unfold handleTaskFailed at h
  simp only [bind_eq_ok, requireStr_eq_ok, loadTask_eq_ok, ensureSameStartup_eq_ok, ensure_eq_ok,
    illegal_eq_ok, pure_eq_ok, Prod.mk.injEq] at h
  obtain ⟨taskId, hid, task, htask, _, hstartup, _, hassignee, newStatus, hnext, -, rfl⟩ := h
  exact ⟨taskId, task, newStatus, _, ⟨hid, htask, hstartup⟩, hassignee, hnext, rfl⟩

/-! ### Proposals -/

theorem handleAcceptProposal_eq_ok (h : handleAcceptProposal cfg env s caller args = .ok (v, s')) :
    ∃ taskId task assignee newStatus db, OwnTask s.db caller args taskId task ∧
      checkAssignee s.db caller assignee = .ok () ∧
      next task.status (.acceptProposal .manager) = .ok newStatus ∧
      s.db.relinkTask taskId (fun t => { t with
        status := newStatus, assigneeAgentId := some assignee
        requiredRoom := args.getStr "required_room", updatedAt := env.now }) = some db ∧
      s' = LoopState.appendAudit env { s with db := db } taskId
        (auditEntry "manager" "accept_proposal" caller.agentId []) := by
  unfold handleAcceptProposal at h
  simp only [bind_eq_ok, requireStr_eq_ok, loadTask_eq_ok, ensureSameStartup_eq_ok, require_eq_ok,
    illegal_eq_ok, pure_eq_ok, Prod.mk.injEq] at h
  obtain ⟨taskId, hid, assignee, -, task, htask, _, hstartup, _, -, _, -, _, hassignee, newStatus,
    hnext, db, hdb, -, rfl⟩ := h
  exact ⟨taskId, task, assignee, newStatus, db, ⟨hid, htask, hstartup⟩, hassignee, hnext, hdb, rfl⟩

theorem handleRejectProposal_eq_ok (h : handleRejectProposal env s caller args = .ok (v, s')) :
    ∃ taskId task newStatus rest, OwnTask s.db caller args taskId task ∧
      next task.status (.rejectProposal .manager) = .ok newStatus ∧
      s' = (s.setStatus env taskId newStatus).appendAudit env taskId
        (auditEntry "manager" "reject_proposal" caller.agentId rest) := by
  unfold handleRejectProposal at h
  simp only [bind_eq_ok, requireStr_eq_ok, loadTask_eq_ok, ensureSameStartup_eq_ok, illegal_eq_ok,
    pure_eq_ok, Prod.mk.injEq] at h
  obtain ⟨taskId, hid, task, htask, _, hstartup, _, -, _, -, newStatus, hnext, -, rfl⟩ := h
  exact ⟨taskId, task, newStatus, _, ⟨hid, htask, hstartup⟩, hnext, rfl⟩

/-! ### Reviews -/

theorem handleTaskAccept_eq_ok (h : handleTaskAccept env s caller args = .ok (v, s')) :
    ∃ taskId task newStatus, OwnTask s.db caller args taskId task ∧
      next task.status .taskAccept = .ok newStatus ∧
      s' = pushSubtaskDone env ((s.setStatus env taskId newStatus).appendAudit env taskId
        (auditEntry "manager" "task_accept" caller.agentId [])) task.parentId taskId
        (task.artifactPath.getD "") task.reviewRound := by
  unfold handleTaskAccept at h
  simp only [bind_eq_ok, requireStr_eq_ok, loadTask_eq_ok, ensureSameStartup_eq_ok, illegal_eq_ok,
    pure_eq_ok, Prod.mk.injEq] at h
  obtain ⟨taskId, hid, task, htask, _, hstartup, _, -, newStatus, hnext, -, rfl⟩ := h
  exact ⟨taskId, task, newStatus, ⟨hid, htask, hstartup⟩, hnext, rfl⟩

theorem escalateTask_eq_ok {taskId feedback : String} {task : TaskRow}
    (h : escalateTask env s caller taskId feedback task = .ok (v, s')) :
    ∃ newStatus entry payload, next task.status .escalate = .ok newStatus ∧
      entry.getStr "kind" = some "escalated" ∧
      s' = ((s.setStatus env taskId newStatus).appendAudit env taskId entry).emitSystemEvent env
        (some caller.startupId) "task_escalated" payload "alert" := by
  unfold escalateTask at h
  simp only [bind_eq_ok, illegal_eq_ok, pure_eq_ok, Prod.mk.injEq] at h
  obtain ⟨newStatus, hnext, -, rfl⟩ := h
  exact ⟨newStatus, _, _, hnext, rfl, rfl⟩

theorem nextRound_eq_ok {taskId feedback actorKind assignee : String} {task : TaskRow}
    (h : nextRound cfg env s caller taskId feedback actorKind assignee task = .ok (v, s')) :
    ∃ newStatus db message frame, next task.status .requestChanges = .ok newStatus ∧
      (writeRound env s taskId newStatus).db.insertMessage env.newId message = some db ∧
      message.startupId = caller.startupId ∧ frame.getStr "type" = some "directive" ∧
      s' = (LoopState.appendAudit env { writeRound env s taskId newStatus with db := db } taskId
        (auditEntry actorKind "task_request_changes" caller.agentId [])).push env assignee frame := by
  unfold nextRound at h
  simp only [bind_eq_ok, require_eq_ok, illegal_eq_ok, pure_eq_ok, Prod.mk.injEq] at h
  obtain ⟨newStatus, hnext, db, hdb, -, rfl⟩ := h
  exact ⟨newStatus, db, _, _, hnext, hdb, rfl, rfl, rfl⟩

/-- A request for changes is granted when it passes its checks and its branch does. -/
theorem handleTaskRequestChanges_eq_ok {r : Json × LoopState} :
    handleTaskRequestChanges cfg env s caller args = .ok r ↔
      ∃ taskId task feedback assignee, OwnTask s.db caller args taskId task ∧
        args.getStr "feedback" = some feedback ∧ feedback.length ≤ maxBodyLength ∧
        (callerIsManagerOfTask s.db caller task || isPeerReview s.db caller task) = true ∧
        task.assigneeAgentId = some assignee ∧
        (if maxReviewRounds ≤ task.reviewRound then escalateTask env s caller taskId feedback task
          else nextRound cfg env s caller taskId feedback
            (if callerIsManagerOfTask s.db caller task then "manager" else "peer") assignee task) =
          .ok r := by
  unfold handleTaskRequestChanges
  simp only [bind_eq_ok, requireStr_eq_ok, loadTask_eq_ok, ensureSameStartup_eq_ok, ensure_eq_ok,
    checkBodyLength_eq_ok, require_eq_ok]
  constructor
  · rintro ⟨taskId, hid, feedback, hfeedback, _, hlength, task, htask, _, hstartup, _, hreviewer,
      assignee, hassignee, h⟩
    exact ⟨taskId, task, feedback, assignee, ⟨hid, htask, hstartup⟩, hfeedback, hlength, hreviewer,
      hassignee, h⟩
  · rintro ⟨taskId, task, feedback, assignee, ⟨hid, htask, hstartup⟩, hfeedback, hlength, hreviewer,
      hassignee, h⟩
    exact ⟨taskId, hid, feedback, hfeedback, (), hlength, task, htask, (), hstartup, (), hreviewer,
      assignee, hassignee, h⟩

/-! ### Settings and work-stealing -/

theorem handleEpistemicAppend_eq_ok {kind : String}
    (h : handleEpistemicAppend env s caller args kind = .ok (v, s')) :
    ∃ taskId task entry, OwnTask s.db caller args taskId task ∧
      s' = s.appendEpistemic env taskId entry := by
  unfold handleEpistemicAppend at h
  simp only [bind_eq_ok, requireStr_eq_ok, loadTask_eq_ok, ensureSameStartup_eq_ok] at h
  obtain ⟨taskId, hid, task, htask, _, hstartup, _, -, h⟩ := h
  split at h
  · obtain ⟨-, rfl⟩ := Prod.mk.inj (pure_eq_ok.mp h)
    exact ⟨taskId, task, _, ⟨hid, htask, hstartup⟩, rfl⟩
  · exact absurd h (by simp)

theorem handleTaskSetPreference_eq_ok (h : handleTaskSetPreference env s caller args = .ok (v, s')) :
    ∃ taskId task backend model rest payload, OwnTask s.db caller args taskId task ∧
      s' = ((s.updateTask taskId (fun t => { t with
          preferredBackend := Option.getD backend t.preferredBackend
          preferredModel := Option.getD model t.preferredModel, updatedAt := env.now })
            fun _ => rfl).appendAudit env taskId
          (auditEntry "agent" "task_set_preference" caller.agentId rest)).emitSystemEvent env
        (some caller.startupId) "task_routing_changed" payload "info" := by
  unfold handleTaskSetPreference at h
  simp only [bind_eq_ok, requireStr_eq_ok, loadTask_eq_ok, ensureSameStartup_eq_ok, pure_eq_ok,
    Prod.mk.injEq] at h
  obtain ⟨taskId, hid, _, -, task, htask, _, hstartup, _, -, -, rfl⟩ := h
  exact ⟨taskId, task, _, _, _, _, ⟨hid, htask, hstartup⟩, rfl⟩

theorem handleTaskSetBlocking_eq_ok (h : handleTaskSetBlocking cfg env s caller args = .ok (v, s')) :
    ∃ taskId task db rest payload, OwnTask s.db caller args taskId task ∧
      mayConfigure s.db caller task ∧ change args "blocked_on" Json.asStr ≠ some (some taskId) ∧
      writeBlocker s.db taskId (change args "blocked_on" Json.asStr) env.now = some db ∧
      s' = (LoopState.appendAudit env { s with
          db := writeDeadline db taskId (change args "deadline_at" Json.asI64) env.now } taskId
          (auditEntry "agent" "task_set_blocking" caller.agentId rest)).emitSystemEvent env
        (some caller.startupId) "task_blocking_changed" payload "info" := by
  unfold handleTaskSetBlocking at h
  simp only [bind_eq_ok, requireStr_eq_ok, loadTask_eq_ok, ensureSameStartup_eq_ok, ensure_eq_ok,
    require_eq_ok, pure_eq_ok, Prod.mk.injEq] at h
  obtain ⟨taskId, hid, _, -, task, htask, _, hstartup, _, hmay, _, hself, db, hdb, -, rfl⟩ := h
  obtain ⟨db', hdb', rfl⟩ := Option.map_eq_some_iff.mp hdb
  exact ⟨taskId, task, db', _, _, ⟨hid, htask, hstartup⟩, hmay, hself, hdb', rfl⟩

theorem handleTaskSteal_eq_ok (h : handleTaskSteal cfg env s caller args = .ok (v, s')) :
    ∃ taskId task db rest payload, OwnTask s.db caller args taskId task ∧ task.status = .queued ∧
      s.db.relinkTask taskId (fun t => { t with
        assigneeAgentId := some caller.agentId, updatedAt := env.now }) = some db ∧
      s' = (LoopState.appendAudit env { s with db := db } taskId
          (auditEntry "stealer" "task_steal" caller.agentId rest)).emitSystemEvent env
        (some caller.startupId) "task_stolen" payload "info" := by
  unfold handleTaskSteal at h
  simp only [bind_eq_ok, requireStr_eq_ok, loadTask_eq_ok, ensureSameStartup_eq_ok, ensure_eq_ok,
    require_eq_ok, pure_eq_ok, Prod.mk.injEq] at h
  obtain ⟨taskId, hid, _, -, task, htask, _, hstartup, _, hstatus, current, -, _, -, _, -, _, -,
    ⟨db, rows⟩, hdb, _, hrows, -, rfl⟩ := h
  obtain ⟨-, -, -, -, hrelink⟩ := Db.reassignTask_eq_some hrows hdb
  exact ⟨taskId, task, db, _, _, ⟨hid, htask, hstartup⟩, hstatus, hrelink, rfl⟩

/-! ### Tools around the artifact, and speech -/

theorem handleSelfReview_eq_ok (h : handleSelfReview env s caller args = .ok (v, s')) :
    ∃ taskId task outcome, OwnTask s.db caller args taskId task ∧
      s' = selfReviewRecord env s taskId caller.agentId outcome := by
  unfold handleSelfReview at h
  simp only [bind_eq_ok, requireStr_eq_ok, loadTask_eq_ok, ensureSameStartup_eq_ok, pure_eq_ok,
    Prod.mk.injEq] at h
  obtain ⟨taskId, hid, _, -, task, htask, _, hstartup, _, -, -, rfl⟩ := h
  exact ⟨taskId, task, _, ⟨hid, htask, hstartup⟩, rfl⟩

theorem handleCommand_eq_ok {tool : String} {keys : List String}
    (h : handleCommand env s caller args tool keys = .ok (v, s')) :
    ∃ taskId task, OwnTask s.db caller args taskId task ∧ (s' = s ∨ ∃ results,
      s' = s.appendAudit env taskId (auditEntry "engineer" tool caller.agentId results)) := by
  unfold handleCommand requireTaskWorkdir at h
  simp only [bind_eq_ok, requireStr_eq_ok, loadTask_eq_ok, ensureSameStartup_eq_ok] at h
  obtain ⟨taskId, hid, _, -, workdir, ⟨task, htask, _, hstartup, _, -, -⟩, ⟨results, reply⟩, -, h⟩ := h
  refine ⟨taskId, task, ⟨hid, htask, hstartup⟩, ?_⟩
  cases results with
  | none =>
      obtain ⟨-, rfl⟩ := Prod.mk.inj (pure_eq_ok.mp h)
      exact .inl rfl
  | some results =>
      obtain ⟨-, rfl⟩ := Prod.mk.inj (pure_eq_ok.mp h)
      exact .inr ⟨results, rfl⟩

theorem handleSpeak_eq_ok (h : handleSpeak cfg env s caller args = .ok (v, s')) :
    ∃ db message kind toAgentId body, s.db.insertMessage env.newId message = some db ∧
      message.startupId = caller.startupId ∧
      s' = pushSpeech env { s with db := db } caller kind toAgentId body := by
  unfold handleSpeak at h
  simp only [bind_eq_ok, require_eq_ok, pure_eq_ok, Prod.mk.injEq] at h
  obtain ⟨body, -, _, -, _, -, _, -, db, hdb, -, rfl⟩ := h
  exact ⟨db, _, _, _, _, hdb, rfl, rfl⟩

/-! ### Any message -/

theorem state_dispatchMcp {agentId : String} (msg : Json)
    (hcaller : s.world.avatars.lookup agentId = some caller) :
    (dispatchMcp cfg env s agentId msg).2 =
      (callTool cfg env s caller (McpCall.ofJson msg).args (McpCall.ofJson msg).tool).2 := by
  unfold dispatchMcp
  rw [hcaller]
  simp only
  rcases callTool cfg env s caller (McpCall.ofJson msg).args (McpCall.ofJson msg).tool with ⟨_ | _, s'⟩
  · rfl
  · rfl

theorem state_dispatchMcp_unknown {agentId : String} (msg : Json)
    (hcaller : s.world.avatars.lookup agentId = none) :
    (dispatchMcp cfg env s agentId msg).2 = s := by
  unfold dispatchMcp
  rw [hcaller]

end Specs

end Cliptown.Task
