import Cliptown.Task.ConsoleStatements
import Cliptown.Task.McpEffects
import Cliptown.Task.SchedulerStatements
import Cliptown.Task.System

/-!
# What the requests leave behind

* `ConsoleFrame`, `TickFrame`, `LoopEvent.Sends` — what commands of an operator, ticks and requests at large
  send.
* `consoleCommand_effects` — a command.
* `assign_effects`, `autoStealPass_effects`, `autoRecoveryPass_effects`, `loopTick_effects` — the parts of a
  tick, and a tick.
* `apply_effects` — any request.
-/

namespace Cliptown.Task

open Cliptown.Lib Cliptown.Town Cliptown.World Cliptown.Console Cliptown.Worker

/-- What a command of an operator sends, and to whom. -/
inductive ConsoleFrame : String → Json → Prop
  | directive {toAgentId body messageId : String} :
      ConsoleFrame toAgentId (.obj [("type", .str "directive"), ("v", .int 1),
        ("from_agent_id", .str "operator"), ("body", .str body), ("message_id", .str messageId)])

/-- What a tick sends, and to whom. -/
inductive TickFrame : String → Json → Prop
  | moveComplete {agentId roomId : String} :
      TickFrame agentId (.obj [("type", .str "move_complete"), ("v", .int 1), ("room_id", .str roomId)])
  | taskAssigned {task : QueuedTask} : TickFrame task.assigneeAgentId (taskAssigned task)

/-- Nothing in particular is said about the events. -/
def AnyEvent (_e : SystemEvent) : Prop :=
  True

/-- No task. -/
def Nowhere (_id : String) : Prop :=
  False

/-- An event that is no notice of the scheduler, unless it says that the task waits no longer. -/
def Unblocks (id : String) (e : SystemEvent) : Prop :=
  Unannounced e ∨ e.kind = "task_unblocked" ∧ e.payload.getStr "task_id" = some id

section Commands

variable {cfg : Config} {env : Env} {s s' : LoopState} {identity : OperatorIdentity} {v : Json}

/-! ### Commands of an operator -/

theorem operatorDirective_effects {toAgentId body : String}
    (h : operatorDirective cfg env s identity toAgentId body = .ok (v, s')) :
    Effects ConsoleFrame Unannounced Everywhere s s' := by
  unfold operatorDirective at h
  simp only [bind_eq_ok, require_eq_ok, pure_eq_ok, Prod.mk.injEq] at h
  obtain ⟨_, -, _, -, recipient, -, db, hdb, -, rfl⟩ := h
  exact (Effects.refl.message hdb).push .directive

theorem operatorAcceptProposal_effects {taskId assignee : String} {room : Option String}
    (h : operatorAcceptProposal cfg env s identity taskId assignee room = .ok (v, s')) :
    Effects ConsoleFrame Unannounced Everywhere s s' := by
  obtain ⟨task, newStatus, agent, db, -, -, -, -, hdb, rfl⟩ := operatorAcceptProposal_eq_ok h
  exact (Effects.refl.relink hdb fun _ _ => rfl).appendAudit

theorem auditedTransition_effects {taskId auditKind entryKind : String} {transition : Transition}
    {rest : List (String × Json)}
    (h : auditedTransition cfg env s identity taskId transition auditKind entryKind rest =
      .ok (v, s')) : Effects ConsoleFrame Unannounced Everywhere s s' := by
  obtain ⟨task, newStatus, entry, -, -, -, rfl⟩ := auditedTransition_eq_ok h
  exact Effects.refl.setStatus.appendAudit

/-- Between the lock and its release there are the effects of the command. -/
theorem withLock_effects {lockKey : String} {act : LoopState → Except Json (Json × LoopState)}
    (hact : ∀ s v s', act s = .ok (v, s') → Effects ConsoleFrame Unannounced Everywhere s s') :
    Effects ConsoleFrame Unannounced Everywhere s (withLock cfg env s identity lockKey act).2 := by
  unfold withLock
  simp only
  have hlock : Effects ConsoleFrame Unannounced Everywhere s (setLocks s
      (tryAcquire s.db.operatorNames s.db.actionLocks lockKey identity.id defaultTtlSecs env.now).1) :=
    .of_eq rfl rfl rfl
  split
  · exact hlock
  · exact hlock
  · have hsettled := hlock.trans (Effects.settle fun v s' => hact _ v s')
    exact hsettled.trans (.of_eq rfl rfl rfl)

theorem deleteOperator_effects {operatorId : String} (h : deleteOperator s operatorId = .ok (v, s')) :
    Effects ConsoleFrame Unannounced Everywhere s s' := by
  obtain ⟨-, rfl⟩ := deleteOperator_eq_ok h
  exact .of_eq rfl rfl rfl

theorem operatorRevoke_effects {operatorId : String} :
    Effects ConsoleFrame Unannounced Everywhere s (operatorRevoke cfg env s identity operatorId).2 := by
  unfold operatorRevoke
  split
  · split
    · exact .refl
    · exact withLock_effects fun _ _ _ => deleteOperator_effects
  · exact .refl

theorem operatorForceAccept_effects {taskId : String} :
    Effects ConsoleFrame Unannounced Everywhere s (operatorForceAccept cfg env s identity taskId).2 := by
  unfold operatorForceAccept
  split
  · exact withLock_effects fun _ _ _ => auditedTransition_effects
  · exact .refl

theorem operatorForceFail_effects {taskId note : String} :
    Effects ConsoleFrame Unannounced Everywhere s
      (operatorForceFail cfg env s identity taskId note).2 := by
  unfold operatorForceFail
  split
  · exact withLock_effects fun _ _ _ => auditedTransition_effects
  · exact .refl

/-- Commands that touch neither the tasks nor the frames nor the events. -/
theorem apart_effects {F : String → Json → Prop} {E : SystemEvent → Prop} {K : String → Prop}
    (h : s'.db.tasks = s.db.tasks ∧ s'.frames = s.frames ∧ s'.systemEvents = s.systemEvents) :
    Effects F E K s s' :=
  .of_eq h.1 h.2.1 h.2.2

variable (cfg env s identity) in
/-- **Any command.** -/
theorem consoleCommand_effects (cmd : ConsoleInbound) :
    Effects ConsoleFrame Unannounced Everywhere s (consoleCommand cfg env s identity cmd).2 := by
  unfold consoleCommand
  cases cmd with
  | hello => exact .refl
  | operatorMove =>
      refine .settle fun _ _ h => apart_effects ?_
      obtain rfl := operatorMove_eq_ok h
      exact ⟨rfl, rfl, rfl⟩
  | operatorPossess =>
      refine .settle fun _ _ h => apart_effects ?_
      obtain ⟨-, rfl⟩ := Prod.mk.inj (pure_eq_ok.mp h)
      exact ⟨rfl, rfl, rfl⟩
  | operatorUnpossess =>
      refine .settle fun _ _ h => apart_effects ?_
      obtain ⟨-, rfl⟩ := Prod.mk.inj (pure_eq_ok.mp h)
      exact ⟨rfl, rfl, rfl⟩
  | operatorDirective => exact .settle fun _ _ => operatorDirective_effects
  | operatorAcceptProposal => exact .settle fun _ _ => operatorAcceptProposal_effects
  | operatorRejectProposal =>
      exact .settle fun _ _ h => auditedTransition_effects (operatorRejectProposal_eq_ok h)
  | operatorForceAccept => exact operatorForceAccept_effects
  | operatorForceFail => exact operatorForceFail_effects
  | operatorRecheckBackends => exact .refl
  | operatorCreate =>
      refine .settle fun _ _ h => apart_effects ?_
      obtain ⟨row, -, rfl⟩ := operatorCreate_eq_ok h
      exact ⟨rfl, rfl, rfl⟩
  | operatorRevoke => exact operatorRevoke_effects
  | operatorSetRole =>
      refine .settle fun _ _ h => apart_effects ?_
      obtain ⟨parsed, -, -, -, -, rfl⟩ := operatorSetRole_eq_ok h
      exact ⟨rfl, rfl, rfl⟩
  | agentSetPeerReviewer =>
      refine .settle fun _ _ h => apart_effects ?_
      obtain rfl := agentSetPeerReviewer_eq_ok h
      exact ⟨rfl, rfl, rfl⟩
  | startupSetAutoSteal =>
      refine .settle fun _ _ h => apart_effects ?_
      obtain ⟨f, rfl⟩ := startupSetAutoSteal_eq_ok h
      exact ⟨rfl, rfl, rfl⟩
  | startupSetAutoRecovery =>
      refine .settle fun _ _ h => apart_effects ?_
      obtain ⟨f, rfl⟩ := startupSetAutoRecovery_eq_ok h
      exact ⟨rfl, rfl, rfl⟩
  | presenceHeartbeat => exact .refl
  | skillAttach => exact .settle fun _ _ h => .of_skills (skillAttach_steps h)
  | skillDetach => exact .settle fun _ _ h => .of_skills (skillDetach_steps h)
  | skillUpsertOperator => exact .settle fun _ _ h => .of_skills (skillUpsertOperator_steps h)
  | skillDeleteOperator => exact .settle fun _ _ h => .of_skills (skillDeleteOperator_steps h)
  | skillSetGlobal => exact .settle fun _ _ h => .of_skills (skillSetGlobal_steps h)
  | skillRevertOperator => exact .settle fun _ _ h => .of_skills (skillRevertOperator_steps h)
  | other => exact .refl

/-! ### The admin endpoint -/

theorem createTask_effects {F : String → Json → Prop} {identity : Option OperatorIdentity}
    {body : CreateTaskBody} {r : Response} (h : createTask cfg env s identity body = .ok (r, s')) :
    Effects F Unannounced Everywhere s s' := by
  unfold createTask at h
  simp only [bind_eq_ok, require_eq_ok, pure_eq_ok, Prod.mk.injEq] at h
  obtain ⟨_, -, _, -, _, -, _, -, _, -, _, -, db, hdb, -, rfl⟩ := h
  exact (Effects.refl.insert hdb rfl).appendAudit

end Commands

section Tick

variable {cfg : Config} {env : Env} {s s' : LoopState} {F : String → Json → Prop}

/-! ### Rows of the dispatch query -/

theorem approach_effects (task : QueuedTask) (room : String) :
    Effects F Unannounced Everywhere s (approach cfg s task room) := by
  unfold approach
  split
  · exact .of_eq rfl rfl rfl
  · exact .refl

theorem assign_effects (task : QueuedTask) :
    Effects TickFrame Unannounced Everywhere s (assign cfg env s task) := by
  have hstart : Effects TickFrame Unannounced Everywhere s (startWork env s task) := by
    unfold startWork
    exact Effects.refl.setStatus.setAvatarStatus.appendAudit
  have hover : Effects TickFrame Unannounced Everywhere s
      (handOver cfg env (startWork env s task) task).2 := by
    unfold handOver
    simp only
    split
    · exact hstart
    · exact hstart.push .taskAssigned
  rw [assign_eq]
  split
  · exact hover
  · unfold rollBack
    exact hover.setStatus.setAvatarStatus

theorem clearBlocker_effects (task : QueuedTask) :
    Effects F (Unblocks task.id) (· ≠ task.id) s (clearBlocker env s task) := by
  unfold clearBlocker
  split
  · refine Effects.emitSystemEvent ?_ (.inr ⟨rfl, rfl⟩)
    cases hdb : s.db.relinkTask task.id fun t => { t with blockedOn := none } with
    | none => exact .refl
    | some db => exact Effects.refl.relink hdb fun h => absurd rfl h
  · exact .refl

/-- Anything is allowed to a tick but other frames. -/
theorem Effects.weaken {E : SystemEvent → Prop} {K : String → Prop} (h : Effects F E K s s') :
    Effects F AnyEvent Nowhere s s' :=
  h.mono (fun _ _ => id) (fun _ _ => trivial) fun _ h => h.elim

variable (cfg env s) in
/-- **One row** says no more than that its task waits no longer. -/
theorem dispatchOne_effects (task : QueuedTask) :
    Effects TickFrame (Unblocks task.id) (· ≠ task.id) s (dispatchOne cfg env s task) := by
  have hrest : ∀ {s s' : LoopState}, Effects TickFrame Unannounced Everywhere s s' →
      Effects TickFrame (Unblocks task.id) (· ≠ task.id) s s' :=
    fun h => h.mono (fun _ _ => id) (fun _ => .inl) fun _ _ => trivial
  unfold dispatchOne
  split
  · exact .refl
  · split
    · have hclear : Effects TickFrame (Unblocks task.id) (· ≠ task.id) s (clearBlocker env s task) :=
        clearBlocker_effects task
      simp only
      split
      · exact hclear.trans (hrest (approach_effects task _))
      · split
        · exact hclear.trans (hrest (assign_effects task))
        · exact hclear
    · exact .refl

/-! ### Deadlines and passes -/

theorem deadlineScan_effects : Effects F AnyEvent Nowhere s (deadlineScan env s) := by
  unfold deadlineScan
  refine Effects.foldl _ (fun row _ s => ?_) s
  unfold notifyOverdue
  exact (Effects.refl.emitSystemEvent trivial).touch fun h => h.elim

theorem autoSteal_effects (startupId taskId current : String) :
    Effects F Unannounced Everywhere s (autoSteal env s startupId taskId current) := by
  unfold autoSteal
  split
  · exact .refl
  · split
    · exact .refl
    · split
      · rename_i db hdb
        obtain ⟨-, -, -, -, hrelink⟩ := Db.reassignTask_eq_some one_ne_zero hdb
        exact (Effects.appendAudit (Effects.refl.relink hrelink fun _ _ => rfl)).emitSystemEvent
          (by simp [Unannounced])
      · exact .refl

theorem autoRecover_effects (startupId taskId current : String) (reviewRound : ℕ) :
    Effects F Unannounced Everywhere s (autoRecover env s startupId taskId current reviewRound) := by
  unfold autoRecover
  split
  · exact .refl
  · split
    · rename_i db hdb
      obtain ⟨-, -, -, -, hrelink⟩ := Db.reassignTask_eq_some one_ne_zero hdb
      exact (Effects.appendAudit (Effects.refl.relink hrelink fun _ _ => rfl)).emitSystemEvent
        (by simp [Unannounced])
    · exact .refl

theorem autoStealPass_effects : Effects F Unannounced Everywhere s (autoStealPass env s) := by
  unfold autoStealPass
  refine Effects.foldl _ (fun startup _ s => ?_) s
  exact Effects.foldl _ (fun row _ s => autoSteal_effects startup.1 row.1 row.2.1) s

theorem autoRecoveryPass_effects : Effects F Unannounced Everywhere s (autoRecoveryPass env s) := by
  unfold autoRecoveryPass
  refine Effects.foldl _ (fun startup _ s => ?_) s
  exact Effects.foldl _ (fun row _ s => autoRecover_effects startup.1 row.1 row.2.1 row.2.2) s

/-! ### One tick -/

variable (cfg env s) in
/-- The scheduler. -/
theorem schedulerTick_effects : Effects TickFrame AnyEvent Nowhere s (schedulerTick cfg env s) := by
  unfold schedulerTick
  have hdispatch : Effects TickFrame AnyEvent Nowhere s
      ((queuedTasks env s.db).foldl (dispatchOne cfg env) s) :=
    Effects.foldl _ (fun task _ s => (dispatchOne_effects cfg env s task).weaken) s
  exact hdispatch.trans
    (deadlineScan_effects.trans (autoStealPass_effects.weaken.trans autoRecoveryPass_effects.weaken))

variable (cfg env s) in
/-- **A tick.** -/
theorem loopTick_effects : Effects TickFrame AnyEvent Nowhere s (loopTick cfg env s) := by
  unfold loopTick
  generalize stepAll s.world s.paths = r
  obtain ⟨world, paths, events⟩ := r
  have hmove : Effects TickFrame AnyEvent Nowhere s { s with world := world, paths := paths } :=
    .of_eq rfl rfl rfl
  have hpush : Effects TickFrame AnyEvent Nowhere s
      (events.foldl (pushMoveComplete env) { s with world := world, paths := paths }) :=
    hmove.trans (Effects.foldl _ (fun _ _ _ => Effects.refl.push .moveComplete) _)
  exact hpush.trans (schedulerTick_effects cfg env _)

end Tick

/-! ### Any request -/

/-- What a request sends, and to whom. -/
def LoopEvent.Sends (s : LoopState) : LoopEvent → String → Json → Prop
  | .tick _ => TickFrame
  | .mcp env agentId _ => fun to' frame =>
      ∃ caller, s.world.avatars.lookup agentId = some caller ∧ CallFrame env s caller to' frame
  | .console .. => ConsoleFrame
  | _ => fun _ _ => False

/-- Which events a request records: only a tick records notices. -/
def LoopEvent.Records : LoopEvent → SystemEvent → Prop
  | .tick _ => AnyEvent
  | _ => Unannounced

/-- Which tasks keep their blocker and their deadline: a tick may change any, a call of an agent the one
that it names. -/
def LoopEvent.Keeps : LoopEvent → String → Prop
  | .tick _ => Nowhere
  | .mcp _ _ msg => fun id => ¬ Retimes (McpCall.ofJson msg).args (McpCall.ofJson msg).tool id
  | _ => Everywhere

/-- **Any request.** -/
theorem apply_effects (cfg : Config) (s : LoopState) (l : LoopEvent) :
    Effects (l.Sends s) l.Records l.Keeps s (l.apply cfg s) := by
  cases l with
  | tick env => exact loopTick_effects cfg env s
  | autoSteal env => exact autoStealPass_effects
  | autoRecovery env => exact autoRecoveryPass_effects
  | mcp env agentId msg =>
      simp only [LoopEvent.apply]
      cases hcaller : s.world.avatars.lookup agentId with
      | none =>
          rw [state_dispatchMcp_unknown msg hcaller]
          exact .refl
      | some caller =>
          rw [state_dispatchMcp msg hcaller]
          exact (callTool_effects cfg env s caller _ _).mono (fun _ _ h => ⟨caller, hcaller, h⟩)
            (fun _ => id) fun _ => id
  | console env identity cmd =>
      simp only [LoopEvent.apply, state_dispatchConsole]
      exact consoleCommand_effects cfg env s identity cmd
  | createTask env identity body => exact .settle fun _ _ => createTask_effects
  | registerWorker agentId => exact .of_eq rfl rfl rfl
  | unregisterWorker agentId => exact .of_eq rfl rfl rfl

end Cliptown.Task
