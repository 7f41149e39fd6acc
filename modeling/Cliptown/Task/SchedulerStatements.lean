import Cliptown.Task.Admin
import Cliptown.Task.SchedulerBoard
import Cliptown.Task.Statements

/-!
# The scheduler and the admin endpoint as statements

* `dispatchOne_statements` — one row of the dispatch query: the only place that writes that a task was
  assigned.
* `autoStealPass_statements`, `autoRecoveryPass_statements` — the passes hand a task to an avatar of
  the startup that the task belongs to.
* `loopTick_statements` — a tick.
* `createTask_statements` — the endpoint checks neither the parent nor the blocker.
-/

namespace Cliptown.Task

open Cliptown.Lib Cliptown.Town Cliptown.World Cliptown.Worker

section Dispatch

variable {cfg : Config} {env : Env} {s s' : LoopState} {party : Party} {astray : Prop}

/-- A party that may touch everything. -/
def Party.Free (party : Party) : Prop :=
  ∀ startupId, AtHome party startupId

theorem Party.Free.ownedBy (hfree : party.Free) (id : String) : s.OwnedBy party id :=
  fun t _ => hfree t.startupId

theorem free_scheduler : Party.scheduler.Free :=
  fun _ => trivial

theorem free_endpoint : Party.endpoint.Free :=
  fun _ => trivial

/-! ### One row -/

/-- A blocker that is forgotten. -/
theorem kept_unblocked {t : TaskRow} (hfree : party.Free) :
    Kept party astray s t { t with blockedOn := none } where
  startup := rfl
  parent := rfl
  assignee _ h := .inl h
  blocker _ h := absurd h (by simp)
  owned := .inr (hfree _)
  assignments := .inl rfl

theorem clearBlocker_statements (hfree : party.Free) (task : QueuedTask) :
    Statements party astray s (clearBlocker env s task) := by
  unfold clearBlocker
  split
  · refine Statements.emitSystemEvent ?_
    cases hdb : s.db.relinkTask task.id fun t => { t with blockedOn := none } with
    | none => exact .refl
    | some db => exact .single (.relink hdb fun t _ => kept_unblocked hfree)
  · exact .refl

theorem approach_statements (task : QueuedTask) (room : String) :
    Statements party astray s (approach cfg s task room) := by
  unfold approach
  split
  · exact .single (.move (sameAvatars_startMove _ _ _ _ _ _ _ _))
  · exact .refl

theorem handOver_statements (task : QueuedTask) :
    Statements party astray s (handOver cfg env s task).2 := by
  unfold handOver
  simp only
  split
  · exact .refl
  · exact Statements.refl.push rfl

theorem startWork_statements (task : QueuedTask) :
    Statements .scheduler astray s (startWork env s task) := by
  unfold startWork
  exact (Statements.refl.setStatus (free_scheduler.ownedBy task.id)).setAvatarStatus.appendAudit
    (free_scheduler.ownedBy task.id) (.inr rfl)

theorem rollBack_statements (hfree : party.Free) (task : QueuedTask) :
    Statements party astray s (rollBack env s task) :=
  (Statements.refl.setStatus (hfree.ownedBy task.id)).setAvatarStatus

theorem assign_statements (task : QueuedTask) :
    Statements .scheduler astray s (assign cfg env s task) := by
  have hover : Statements .scheduler astray s (handOver cfg env (startWork env s task) task).2 :=
    (startWork_statements task).trans (handOver_statements task)
  rw [assign_eq]
  split
  · exact hover
  · exact hover.trans (rollBack_statements free_scheduler task)

variable (cfg env s) in
/-- **One row of the dispatch query.** -/
theorem dispatchOne_statements (task : QueuedTask) :
    Statements .scheduler astray s (dispatchOne cfg env s task) := by
  unfold dispatchOne
  split
  · exact .refl
  · split
    · have hclear : Statements .scheduler astray s (clearBlocker env s task) :=
        clearBlocker_statements free_scheduler task
      simp only
      split
      · exact hclear.trans (approach_statements task _)
      · split
        · exact hclear.trans (assign_statements task)
        · exact hclear
    · exact .refl

/-! ### Deadlines and passes -/

theorem deadlineScan_statements (hfree : party.Free) :
    Statements party astray s (deadlineScan env s) := by
  unfold deadlineScan
  refine Statements.foldl (fun s row => ?_) _ s
  unfold notifyOverdue
  exact Statements.refl.emitSystemEvent.touch (hfree.ownedBy row.1) (.inl fun _ => rfl)

/-- A loop over tasks of a startup. -/
theorem Statements.foldl_taskIn {ι : Type*} {startupId : String} {id : ι → String}
    {f : LoopState → ι → LoopState}
    (hf : ∀ s i, TaskIn s.db (id i) startupId → Statements party astray s (f s i)) (l : List ι) :
    ∀ s : LoopState, (∀ i ∈ l, TaskIn s.db (id i) startupId) →
      Statements party astray s (l.foldl f s) := by
  induction l with
  | nil =>
      intro s _
      exact .refl
  | cons i l ih =>
      intro s hin
      have hone := hf s i (hin i List.mem_cons_self)
      exact hone.trans (ih (f s i) fun j hj => hone.taskIn (hin j (List.mem_cons_of_mem _ hj)))

/-- The rows of a pass are of tasks of the startup. -/
theorem taskIn_of_mem_assignedTasks {startupId : String} {status : TaskStatus} {p : TaskRow → Bool}
    {row : String × String × ℕ} (h : row ∈ assignedTasks env s startupId status p) :
    TaskIn s.db row.1 startupId := by
  obtain ⟨id, -, h⟩ := List.mem_filterMap.mp h
  obtain ⟨t, ht, hrow⟩ := Option.bind_eq_some_iff.mp h
  split at hrow
  · rename_i hwhere
    obtain ⟨assignee, -, rfl⟩ := Option.map_eq_some_iff.mp hrow
    exact ⟨t, ht, hwhere.1⟩
  · exact absurd hrow (by simp)

/-- The peer that takes over has an avatar of the startup. -/
theorem avatarOf_replacement {startupId current peer : String}
    (h : replacement env s startupId current = some peer) : AvatarOf s.world peer startupId := by
  obtain ⟨agent, -, hpeer⟩ := Option.bind_eq_some_iff.mp h
  have hmatch := List.find?_some hpeer
  cases ha : s.world.avatars.lookup peer with
  | none => simp [ha] at hmatch
  | some a =>
      rw [ha, Option.any_some, decide_eq_true_eq] at hmatch
      exact ⟨peer, a, ha, .inl rfl, hmatch.1⟩

/-- A task that a pass hands over. -/
theorem kept_reassigned {t t' : TaskRow} {peer : String} (hfree : party.Free)
    (hpeer : AvatarOf s.world peer t.startupId)
    (hrefs : t'.refs = (t.startupId, t.parentId, some peer, t.blockedOn))
    (haudit : t'.assignments = t.assignments) :
    Kept party astray s t t' := by
  simp only [TaskRow.refs, Prod.mk.injEq] at hrefs
  obtain ⟨hstartup, hparent, hassignee, hblocker⟩ := hrefs
  refine ⟨hstartup, hparent, fun a ha => ?_, fun u hu => ?_, .inr (hfree _), .inl haudit⟩
  · obtain rfl := Option.some.inj (hassignee.symm.trans ha)
    exact .inr (.inr hpeer)
  · exact .inl (hblocker ▸ hu)

/-- A reassignment within a startup. -/
theorem reassign_statements {startupId taskId current peer : String} {status : TaskStatus}
    {f : TaskRow → TaskRow} {db : Db} (hfree : party.Free)
    (hin : TaskIn s.db taskId startupId) (hpeer : AvatarOf s.world peer startupId)
    (hdb : s.db.reassignTask taskId status current f = some (db, 1))
    (hf : ∀ t, (f t).refs = (t.startupId, t.parentId, some peer, t.blockedOn))
    (haudit : ∀ t, (f t).assignments = t.assignments) :
    Statements party astray s { s with db := db } := by
  obtain ⟨-, -, -, -, hrelink⟩ := Db.reassignTask_eq_some one_ne_zero hdb
  obtain ⟨t, ht, hstartup⟩ := hin
  refine .single (.relink hrelink fun t' ht' => kept_reassigned hfree ?_ (hf t') (haudit t'))
  obtain rfl := Option.some.inj (ht.symm.trans ht')
  exact hstartup ▸ hpeer

theorem autoSteal_statements {startupId taskId : String} (current : String)
    (hfree : party.Free) (hin : TaskIn s.db taskId startupId) :
    Statements party astray s (autoSteal env s startupId taskId current) := by
  unfold autoSteal
  split
  · exact .refl
  · split
    · exact .refl
    · rename_i peer hpeer
      split
      · rename_i db hdb
        refine Statements.emitSystemEvent (Statements.appendAudit ?_ (hfree.ownedBy taskId) (.inl ?_))
        · exact reassign_statements hfree hin (avatarOf_replacement hpeer) hdb (fun _ => rfl)
            fun _ => rfl
        · simp [Json.getStr, Json.get, Json.asStr]
      · exact .refl

theorem autoRecover_statements {startupId taskId : String} (current : String) (reviewRound : ℕ)
    (hfree : party.Free) (hin : TaskIn s.db taskId startupId) :
    Statements party astray s (autoRecover env s startupId taskId current reviewRound) := by
  unfold autoRecover
  split
  · exact .refl
  · rename_i peer hpeer
    split
    · rename_i db hdb
      refine Statements.emitSystemEvent (Statements.appendAudit ?_ (hfree.ownedBy taskId) (.inl ?_))
      · exact reassign_statements hfree hin (avatarOf_replacement hpeer) hdb (fun _ => rfl)
          fun _ => rfl
      · simp [Json.getStr, Json.get, Json.asStr]
    · exact .refl

theorem autoStealPass_statements (hfree : party.Free) :
    Statements party astray s (autoStealPass env s) := by
  unfold autoStealPass
  refine Statements.foldl (fun s startup => ?_) _ s
  refine Statements.foldl_taskIn (fun s row hin => autoSteal_statements row.2.1 hfree hin) _ s ?_
  exact fun row => taskIn_of_mem_assignedTasks

theorem autoRecoveryPass_statements (hfree : party.Free) :
    Statements party astray s (autoRecoveryPass env s) := by
  unfold autoRecoveryPass
  refine Statements.foldl (fun s startup => ?_) _ s
  refine Statements.foldl_taskIn (fun s row hin => autoRecover_statements row.2.1 row.2.2 hfree hin) _ s ?_
  exact fun row => taskIn_of_mem_assignedTasks

/-! ### One tick -/

variable (cfg env s) in
/-- **The scheduler.** -/
theorem schedulerTick_statements : Statements .scheduler astray s (schedulerTick cfg env s) := by
  unfold schedulerTick
  have hdispatch : Statements .scheduler astray s
      ((queuedTasks env s.db).foldl (dispatchOne cfg env) s) :=
    Statements.foldl (fun s task => dispatchOne_statements cfg env s task) _ s
  exact hdispatch.trans
    ((deadlineScan_statements free_scheduler).trans
      ((autoStealPass_statements free_scheduler).trans (autoRecoveryPass_statements free_scheduler)))

variable (cfg env s) in
/-- **A tick.** -/
theorem loopTick_statements : Statements .scheduler astray s (loopTick cfg env s) := by
  unfold loopTick
  have hsame := sameAvatars_stepAll s.world s.paths
  generalize stepAll s.world s.paths = r at hsame
  obtain ⟨world, paths, events⟩ := r
  have hmove : Statements .scheduler astray s { s with world := world, paths := paths } :=
    .single (.move hsame)
  have hpush : Statements .scheduler astray s
      (events.foldl (pushMoveComplete env) { s with world := world, paths := paths }) :=
    hmove.trans (Statements.foldl (fun s e => Statements.refl.push rfl) events _)
  exact hpush.trans (schedulerTick_statements cfg env _)

/-! ### The admin endpoint -/

/-- What the endpoint checks about a request, and the database about its references. -/
structure CreateTaskBody.Admissible (db : Db) (identity : Option OperatorIdentity)
    (body : CreateTaskBody) : Prop where
  role : ∃ operator, identity = some operator ∧ operator.role.atLeast .manager
  texts : ¬ (blank body.title ∨ blank body.description)
  cost : ∀ c ∈ body.costEstimateUsd, 0 ≤ c
  startup : (db.startups.lookup body.startupId).isSome
  assignee : ∀ a, body.assigneeAgentId = some a → AgentOf db a body.startupId
  links : ∀ u, body.parentId = some u ∨ body.blockedOn = some u → (db.tasks.lookup u).isSome

/-- An admissible request names a parent or a blocker of another startup. -/
def CreateTaskBody.Astray (db : Db) (identity : Option OperatorIdentity) (body : CreateTaskBody) :
    Prop :=
  body.Admissible db identity ∧
    ∃ u, (body.parentId = some u ∨ body.blockedOn = some u) ∧ TaskAbroad db u body.startupId

/-- A request that is granted is admissible. -/
theorem admissible_of_createTask {identity : Option OperatorIdentity} {body : CreateTaskBody}
    {r : Response} (h : createTask cfg env s identity body = .ok (r, s')) :
    body.Admissible s.db identity := by
  unfold createTask at h
  simp only [bind_eq_ok, require_eq_ok, ensure_eq_ok] at h
  obtain ⟨operator, hidentity, _, hrole, _, htexts, _, hcost, startup, hstartup, _, hassignee, db,
    hdb, -⟩ := h
  obtain ⟨-, -, hrefs⟩ := lookup_insertTask hdb
  refine ⟨⟨operator, hidentity, hrole⟩, htexts, hcost, by simp [hstartup], fun a ha => ?_, ?_⟩
  · unfold checkBodyAssignee at hassignee
    rw [ha] at hassignee
    simp only [bind_eq_ok, require_eq_ok, ensure_eq_ok] at hassignee
    exact hassignee
  · rintro u (hu | hu)
    · exact hrefs.parent u hu
    · exact hrefs.blocker u hu

theorem createTask_statements {identity : Option OperatorIdentity} {body : CreateTaskBody}
    {r : Response} (h : createTask cfg env s identity body = .ok (r, s')) :
    Statements .endpoint (body.Astray s.db identity) s s' := by
  have hadmissible := admissible_of_createTask h
  unfold createTask at h
  simp only [bind_eq_ok, require_eq_ok, pure_eq_ok, Prod.mk.injEq] at h
  obtain ⟨_, -, _, -, _, -, _, -, _, -, _, -, db, hdb, -, rfl⟩ := h
  have hlink : ∀ u, body.parentId = some u ∨ body.blockedOn = some u →
      TaskIn s.db u body.startupId ∨ body.Astray s.db identity := by
    intro u hu
    refine (taskIn_or_abroad body.startupId (hadmissible.links u hu)).imp_right fun habroad => ?_
    exact ⟨hadmissible, u, hu, habroad⟩
  have hinsert : Statements .endpoint (body.Astray s.db identity) s { s with db := db } := by
    refine .single (.insert hdb ⟨trivial, hadmissible.assignee, ?_, ?_, rfl⟩)
    · exact fun u hu => hlink u (.inl hu)
    · exact fun u hu => hlink u (.inr hu)
  refine Statements.appendAudit hinsert (free_endpoint.ownedBy _) (.inl ?_)
  simp [Json.getStr, Json.get, Json.asStr]

end Dispatch

end Cliptown.Task
