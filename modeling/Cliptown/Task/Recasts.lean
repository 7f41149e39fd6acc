import Cliptown.Task.Faces

/-!
# Parents, assignees and rounds, request by request

Beside the tools of the agents, the commands of the console and the endpoint for tasks give tasks to agents, and so do
the passes of the scheduler.

* `Recasts`, `request_face` — what any request other than the scheduler's does.
* `autoSteal_face`, `autoRecover_face` — what the passes of the scheduler do.
-/

namespace Cliptown.Task

open Cliptown.Lib Cliptown.Town Cliptown.World Cliptown.Console Cliptown.Worker

section Requests

variable {cfg : Config} {env : Env} {s s' : LoopState} {identity : OperatorIdentity} {v : Json}

/-! ### Commands and the endpoint -/

theorem auditedTransition_face {taskId auditKind entryKind : String} {transition : Transition}
    {rest : List (String × Json)}
    (h : auditedTransition cfg env s identity taskId transition auditKind entryKind rest =
      .ok (v, s')) : s'.face = s.face := by
  obtain ⟨task, newStatus, entry, -, -, -, rfl⟩ := auditedTransition_eq_ok h
  simp

/-- A command under a lock. -/
theorem withLock_face {lockKey : String} {act : LoopState → Except Json (Json × LoopState)}
    (hact : ∀ s v s', act s = .ok (v, s') → s'.face = s.face) :
    (withLock cfg env s identity lockKey act).2.face = s.face := by
  rcases withLock_view cfg env s identity LoopState.face (fun _ _ => rfl) lockKey act with
    hs | ⟨lock, s₀, v, s₁, -, hs₀, hok, hs₁⟩
  · exact hs
  · rw [hs₁, hact s₀ v s₁ hok, hs₀]

theorem operatorAcceptProposal_face {taskId assignee : String} {room : Option String}
    (h : operatorAcceptProposal cfg env s identity taskId assignee room = .ok (v, s')) :
    ∃ task, s.db.tasks.lookup taskId = some task ∧
      s'.face = Function.update s.face taskId (some { task.face with assignee := some assignee }) := by
  obtain ⟨task, newStatus, agent, db, htask, -, -, -, hdb, rfl⟩ := operatorAcceptProposal_eq_ok h
  refine ⟨task, htask, ?_⟩
  rw [face_appendAudit, face_relinkTask htask hdb]
  rfl

theorem operatorForceAccept_face {taskId : String} :
    (operatorForceAccept cfg env s identity taskId).2.face = s.face := by
  unfold operatorForceAccept
  split
  · exact withLock_face fun _ _ _ => auditedTransition_face
  · rfl

theorem operatorForceFail_face {taskId note : String} :
    (operatorForceFail cfg env s identity taskId note).2.face = s.face := by
  unfold operatorForceFail
  split
  · exact withLock_face fun _ _ _ => auditedTransition_face
  · rfl

theorem operatorRevoke_face {operatorId : String} :
    (operatorRevoke cfg env s identity operatorId).2.face = s.face := by
  unfold operatorRevoke
  split
  · split
    · rfl
    · refine withLock_face fun s v s' h => ?_
      obtain ⟨-, rfl⟩ := deleteOperator_eq_ok h
      rfl
  · rfl

/-- A command that leaves the columns alone when it is granted. -/
theorem face_settle {ε ρ : Type} {r : Except ε (ρ × LoopState)}
    (h : ∀ v s', r = .ok (v, s') → s'.face = s.face) : (Lib.settle s r).2.face = s.face := by
  rcases settle_cases s r with hs | ⟨v, s', hr, hs⟩
  · rw [hs]
  · rw [hs]
    exact h v s' hr

/-- What a request does to the columns of the tasks. -/
inductive Recasts (cfg : Config) (s : LoopState) : LoopEvent → (String → Option Face) → Prop
  | same {l : LoopEvent} : Recasts cfg s l s.face
  | tool {env : Env} {agentId : String} {msg : Json} {caller : AvatarView}
      {face : String → Option Face} : s.world.avatars.lookup agentId = some caller →
      Turns cfg env s caller (McpCall.ofJson msg).args (McpCall.ofJson msg).tool face →
      Recasts cfg s (.mcp env agentId msg) face
  | accept {env : Env} {identity : OperatorIdentity} {taskId assignee : String}
      {room : Option String} {task : TaskRow} : s.db.tasks.lookup taskId = some task →
      (operatorAcceptProposal cfg env s identity taskId assignee room).isOk →
      Recasts cfg s (.console env identity (.operatorAcceptProposal taskId assignee room))
        (Function.update s.face taskId (some { task.face with assignee := some assignee }))
  | create {env : Env} {identity : Option OperatorIdentity} {body : CreateTaskBody} :
      s.face ("T_" ++ env.newId) = none → (∀ p ∈ body.parentId, (s.face p).isSome) →
      (createTask cfg env s identity body).isOk →
      Recasts cfg s (.createTask env identity body) (Function.update s.face ("T_" ++ env.newId)
        (some (.new body.parentId body.assigneeAgentId)))

theorem Recasts.of_eq {l : LoopEvent} (h : s'.face = s.face) : Recasts cfg s l s'.face := by
  rw [h]
  exact .same

theorem consoleCommand_face (cmd : ConsoleInbound) :
    Recasts cfg s (.console env identity cmd) (consoleCommand cfg env s identity cmd).2.face := by
  have hboard : ∀ {r : Except Json (Json × LoopState)},
      (∀ v s', r = .ok (v, s') → s'.face = s.face) →
        Recasts cfg s (.console env identity cmd) (Lib.settle s r).2.face :=
    fun h => .of_eq (face_settle h)
  unfold consoleCommand
  cases cmd with
  | operatorMove x y =>
      refine hboard fun v s' h => ?_
      obtain rfl := operatorMove_eq_ok h
      rfl
  | operatorPossess startupId =>
      refine hboard fun v s' h => ?_
      obtain ⟨-, rfl⟩ := Prod.mk.inj (pure_eq_ok.mp h)
      rfl
  | operatorUnpossess =>
      refine hboard fun v s' h => ?_
      obtain ⟨-, rfl⟩ := Prod.mk.inj (pure_eq_ok.mp h)
      rfl
  | operatorDirective toAgentId body =>
      refine hboard fun v s' h => ?_
      obtain ⟨db, message, frame, hdb, -, rfl⟩ := operatorDirective_eq_ok h
      rw [face_push, face_insertMessage hdb]
  | operatorAcceptProposal taskId assignee room =>
      rcases settle_cases s (operatorAcceptProposal cfg env s identity taskId assignee room) with
        hs | ⟨v, s', hr, hs⟩
      · exact .of_eq (by rw [hs])
      · obtain ⟨task, htask, hface⟩ := operatorAcceptProposal_face hr
        simp only
        rw [hs]
        rw [hface]
        exact .accept htask (isOk_of_eq hr)
  | operatorRejectProposal taskId reason =>
      exact hboard fun v s' h => auditedTransition_face (operatorRejectProposal_eq_ok h)
  | operatorForceAccept taskId => exact .of_eq operatorForceAccept_face
  | operatorForceFail taskId note => exact .of_eq operatorForceFail_face
  | operatorCreate name role =>
      refine hboard fun v s' h => ?_
      obtain ⟨row, -, rfl⟩ := operatorCreate_eq_ok h
      rfl
  | operatorRevoke operatorId => exact .of_eq operatorRevoke_face
  | operatorSetRole operatorId role =>
      refine hboard fun v s' h => ?_
      obtain ⟨parsed, -, -, -, -, rfl⟩ := operatorSetRole_eq_ok h
      rfl
  | agentSetPeerReviewer agentId flag =>
      refine hboard fun v s' h => ?_
      obtain rfl := agentSetPeerReviewer_eq_ok h
      rfl
  | startupSetAutoSteal startupId enabled after =>
      refine hboard fun v s' h => ?_
      obtain ⟨f, rfl⟩ := startupSetAutoSteal_eq_ok h
      rfl
  | startupSetAutoRecovery startupId enabled attempts =>
      refine hboard fun v s' h => ?_
      obtain ⟨f, rfl⟩ := startupSetAutoRecovery_eq_ok h
      rfl
  | skillAttach => exact hboard fun _ _ h => face_of_skillsOnly (skillAttach_steps h)
  | skillDetach => exact hboard fun _ _ h => face_of_skillsOnly (skillDetach_steps h)
  | skillUpsertOperator => exact hboard fun _ _ h => face_of_skillsOnly (skillUpsertOperator_steps h)
  | skillDeleteOperator => exact hboard fun _ _ h => face_of_skillsOnly (skillDeleteOperator_steps h)
  | skillSetGlobal => exact hboard fun _ _ h => face_of_skillsOnly (skillSetGlobal_steps h)
  | skillRevertOperator => exact hboard fun _ _ h => face_of_skillsOnly (skillRevertOperator_steps h)
  | hello | operatorRecheckBackends | presenceHeartbeat | other => exact .same

theorem createTask_face {identity : Option OperatorIdentity} {body : CreateTaskBody} {r : Response}
    (h : createTask cfg env s identity body = .ok (r, s')) :
    s.face ("T_" ++ env.newId) = none ∧ (∀ p ∈ body.parentId, (s.face p).isSome) ∧
      s'.face = Function.update s.face ("T_" ++ env.newId)
        (some (.new body.parentId body.assigneeAgentId)) := by
  unfold createTask at h
  simp only [bind_eq_ok, require_eq_ok, pure_eq_ok, Prod.mk.injEq] at h
  obtain ⟨_, -, _, -, _, -, _, -, _, -, _, -, db, hdb, -, rfl⟩ := h
  obtain ⟨hnone, hparent, hface⟩ := face_insertTask hdb
  refine ⟨hnone, hparent, ?_⟩
  rw [face_appendAudit, hface]
  rfl

variable (cfg s) in
/-- **Any request** other than the scheduler's turns the columns in its own way. -/
theorem request_face (l : LoopEvent) (h : ¬ l.Scheduler) : Recasts cfg s l (l.apply cfg s).face := by
  cases l with
  | tick env | autoSteal env | autoRecovery env => exact absurd trivial h
  | mcp env agentId msg =>
      simp only [LoopEvent.apply]
      cases hcaller : s.world.avatars.lookup agentId with
      | none =>
          rw [state_dispatchMcp_unknown msg hcaller]
          exact .same
      | some caller =>
          rw [state_dispatchMcp msg hcaller]
          exact .tool hcaller (callTool_face _)
  | console env identity cmd =>
      simp only [LoopEvent.apply]
      rw [state_dispatchConsole]
      exact consoleCommand_face cmd
  | createTask env identity body =>
      simp only [LoopEvent.apply]
      rcases settle_cases s (createTask cfg env s identity body) with hs | ⟨r, s', hr, hs⟩
      · rw [hs]
        exact .same
      · obtain ⟨hnone, hparent, hface⟩ := createTask_face hr
        rw [hs]
        rw [hface]
        exact .create hnone hparent (isOk_of_eq hr)
  | registerWorker agentId => exact .same
  | unregisterWorker agentId => exact .same

end Requests

section Scheduler

variable {cfg : Config} {env : Env} {s : LoopState} {task : QueuedTask}

/-! ### The scheduler -/

theorem face_afterMoves : (afterMoves env s).face = s.face := by
  unfold afterMoves
  exact face_foldl (fun s e => face_push _ _) _ _

theorem face_clearBlocker : (clearBlocker env s task).face = s.face := by
  unfold clearBlocker
  split
  · rw [face_emitSystemEvent]
    cases hdb : s.db.relinkTask task.id fun t => { t with blockedOn := none } with
    | none => rfl
    | some db =>
        have htasks := (lookup_relinkTask hdb).1
        funext u
        unfold LoopState.face
        simp only [Option.getD_some, htasks, Table.lookup_modify]
        split
        · rw [Option.map_map]
          rfl
        · rfl
  · rfl

theorem face_assign : (assign cfg env s task).face = s.face := by
  have hstart : (startWork env s task).face = s.face := by
    unfold startWork
    simp
  have hover : (handOver cfg env (startWork env s task) task).2.face = s.face := by
    unfold handOver
    simp only
    split
    · exact hstart
    · exact (face_push _ _).trans hstart
  rw [assign_eq]
  split
  · exact hover
  · unfold rollBack
    rw [face_setAvatarStatus, face_setStatus]
    exact hover

variable (cfg env s) in
/-- Handing tasks out moves none of them between agents. -/
theorem face_dispatchLoop : (dispatchLoop cfg env s).face = s.face := by
  unfold dispatchLoop
  refine face_foldl (fun s task => ?_) _ s
  unfold dispatchOne
  split
  · rfl
  · split
    · simp only
      split
      · unfold approach
        split <;> exact face_clearBlocker
      · split
        · exact face_assign.trans face_clearBlocker
        · exact face_clearBlocker
    · rfl

variable (env s) in
theorem face_deadlineScan : (deadlineScan env s).face = s.face := by
  unfold deadlineScan
  refine face_foldl (fun s row => ?_) _ s
  exact face_updateTask (s := s.emitSystemEvent env _ _ _ _) _ fun _ => rfl

/-- A granted reassignment. -/
theorem face_reassignTask {taskId current : String} {status : TaskStatus} {f : TaskRow → TaskRow}
    {db : Db} {rows : ℕ} (hrows : rows ≠ 0)
    (h : s.db.reassignTask taskId status current f = some (db, rows)) :
    ∃ row, s.db.tasks.lookup taskId = some row ∧
      ({ s with db := db } : LoopState).face = Function.update s.face taskId (some (f row).face) := by
  obtain ⟨row, hrow, -, -, hdb⟩ := Db.reassignTask_eq_some hrows h
  exact ⟨row, hrow, face_relinkTask hrow hdb⟩

/-- **A steal of a pass** gives the task to the peer that takes over, if it does anything. -/
theorem autoSteal_face (startupId taskId current : String) :
    (autoSteal env s startupId taskId current).face = s.face ∨
      ∃ peer row, statusOf s.world current ≠ some .idle ∧
        replacement env s startupId current = some peer ∧ s.db.tasks.lookup taskId = some row ∧
        (autoSteal env s startupId taskId current).face =
          Function.update s.face taskId (some { row.face with assignee := some peer }) := by
  unfold autoSteal
  split
  · exact .inl rfl
  · rename_i hidle
    split
    · exact .inl rfl
    · rename_i peer hpeer
      split
      · rename_i db hdb
        obtain ⟨row, hrow, hface⟩ := face_reassignTask (by simp) hdb
        refine .inr ⟨peer, row, hidle, hpeer, hrow, ?_⟩
        simp only [face_emitSystemEvent, face_appendAudit]
        exact hface
      · exact .inl rfl

/-- **A recovery** does, and counts the rounds of the task from the start. -/
theorem autoRecover_face (startupId taskId current : String) (reviewRound : ℕ) :
    (autoRecover env s startupId taskId current reviewRound).face = s.face ∨
      ∃ peer row, replacement env s startupId current = some peer ∧
        s.db.tasks.lookup taskId = some row ∧
        (autoRecover env s startupId taskId current reviewRound).face =
          Function.update s.face taskId (some (.new row.parentId (some peer))) := by
  unfold autoRecover
  split
  · exact .inl rfl
  · rename_i peer hpeer
    split
    · rename_i db hdb
      obtain ⟨row, hrow, hface⟩ := face_reassignTask (by simp) hdb
      refine .inr ⟨peer, row, hpeer, hrow, ?_⟩
      simp only [face_emitSystemEvent, face_appendAudit]
      exact hface
    · exact .inl rfl

end Scheduler

end Cliptown.Task
