import Cliptown.Task.Running

/-!
# Rejected calls

A call that is refused changes no task, but for one order of checks: `task_done` records the self-review
before it looks at the status of the task.

* `Rejects` — a reply that refuses a call for its arguments, for the caller or for the status.
* `tasks_of_error` — no other tool changes a task and then fails.
* `ReviewedInVain` — a report whose self-review passes and whose status does not allow it.
* `rejected_changes_nothing` — rejected calls change nothing, but for those reports.
-/

namespace Cliptown.Task

open Cliptown.Lib Cliptown.Town Cliptown.World Cliptown.Worker

/-! ### Replies -/

/-- The codes that refuse a call for its arguments, for the caller or for the status of the task. -/
def rejectionCodes : List String :=
  ["illegal_transition", "no_permission", "cross_startup", "unknown_assignee", "bad_args"]

/-- A reply that refuses the call with one of these codes. -/
def Rejects (reply : Json) : Prop :=
  reply.getStr "type" = some "mcp_error" ∧
    ∃ code ∈ rejectionCodes, reply.getStr "code" = some code

instance (reply : Json) : Decidable (Rejects reply) :=
  inferInstanceAs (Decidable (_ ∧ ∃ code ∈ rejectionCodes, _))

theorem rejects_mcpErr {corrId code message : String} :
    Rejects (mcpErr corrId code message) ↔ code ∈ rejectionCodes := by
  have hcode : (mcpErr corrId code message).getStr "code" = some code := rfl
  unfold Rejects
  rw [hcode]
  constructor
  · rintro ⟨-, code', hmem, heq⟩
    obtain rfl := Option.some.inj heq
    exact hmem
  · intro hmem
    exact ⟨rfl, code, hmem, rfl⟩

section Calls

variable {cfg : Config} {env : Env} {s s' : LoopState} {caller : AvatarView} {args : Json}
  {e : McpError}

/-! ### Calls that fail -/

/-- A move changes no task. -/
theorem tasks_handleMoveIntent :
    (handleMoveIntent cfg env s caller args).2.db.tasks = s.db.tasks := by
  unfold handleMoveIntent
  split
  · rfl
  · generalize startMove cfg.astar s.world s.paths cfg.layout (graphFromLayout cfg.layout)
      caller.agentId _ _ = r
    obtain ⟨result, world, paths⟩ := r
    cases result <;> rfl

/-- A handler that fails has changed no task. -/
theorem tasks_of_settle_error {r : Except McpError (Json × LoopState)}
    (h : settle s r = (.error e, s')) : s'.db.tasks = s.db.tasks := by
  rw [eq_of_settle_error h]

/-- **A call that fails** has changed no task, unless it is a report. -/
theorem tasks_of_error {tool : String} (h : callTool cfg env s caller args tool = (.error e, s')) :
    s'.db.tasks = s.db.tasks ∨
      tool = "task_done" ∧ handleTaskDone cfg env s caller args = (.error e, s') := by
  unfold callTool at h
  split at h
  case h_1 =>
    have hmove : (handleMoveIntent cfg env s caller args).2.db.tasks = s.db.tasks :=
      tasks_handleMoveIntent
    rw [h] at hmove
    exact .inl hmove
  case h_3 => exact .inr ⟨rfl, h⟩
  case h_13 => exact absurd (Prod.mk.inj h).1 (by simp)
  case h_28 =>
    -- a tool that only answers
    split at h
    · obtain ⟨-, rfl⟩ := Prod.mk.inj h
      exact .inl rfl
    · obtain ⟨-, rfl⟩ := Prod.mk.inj h
      exact .inl rfl
  all_goals exact .inl (tasks_of_settle_error h)

/-! ### Reports -/

/-- A report that passes its checks and its self-review, of a task that cannot be reported. -/
def ReviewedInVain (env : Env) (s : LoopState) (caller : AvatarView) (args : Json) : Prop :=
  ∃ taskId artifactPath task, taskDoneChecks env s caller args = .ok (taskId, artifactPath, task) ∧
    autoCheck args = true ∧ (selfReviewRun env.files caller.startupId taskId artifactPath).ok = true ∧
    task.status ≠ .inProgress ∧ task.status ≠ .changesRequested

/-- A report that is rejected has changed no task, unless it was reviewed in vain. -/
theorem tasks_of_rejected_report (h : handleTaskDone cfg env s caller args = (.error e, s'))
    (hcode : e.1 ∈ rejectionCodes) :
    s'.db.tasks = s.db.tasks ∨ ReviewedInVain env s caller args := by
  unfold handleTaskDone at h
  split at h
  · obtain ⟨-, rfl⟩ := Prod.mk.inj h
    exact .inl rfl
  · rename_i taskId artifactPath task hchecks
    simp only at h
    split at h
    · rename_i hok
      split at h
      · rename_i hnext
        obtain ⟨-, rfl⟩ := Prod.mk.inj h
        unfold recordReview
        split
        · rename_i hauto
          right
          unfold taskDoneReview at hok
          rw [if_pos hauto] at hok
          have hstatus : ¬ (task.status = .inProgress ∨ task.status = .changesRequested) := by
            intro hstatus
            have hgranted : next task.status .taskDoneMcp = .ok .awaitingReview :=
              next_eq_ok_iff.mpr ⟨hstatus, rfl⟩
            rw [hgranted] at hnext
            exact absurd hnext (by simp [illegal])
          obtain ⟨hprogress, hchanges⟩ := not_or.mp hstatus
          exact ⟨taskId, artifactPath, task, hchecks, hauto, hok, hprogress, hchanges⟩
        · exact .inl rfl
      · exact absurd (Prod.mk.inj h).1 (by simp)
    · obtain ⟨herror, -⟩ := Prod.mk.inj h
      obtain rfl := Except.error.inj herror
      exact absurd hcode (by simp [rejectionCodes])

variable (cfg) in
/-- A report that is reviewed in vain is rejected, and the trace of the review stays. -/
theorem report_of_reviewedInVain (h : ReviewedInVain env s caller args) :
    ∃ reason s' taskId, handleTaskDone cfg env s caller args =
      (.error ("illegal_transition", reason), s') ∧
        s'.db.tasks.lookup taskId ≠ s.db.tasks.lookup taskId := by
  obtain ⟨taskId, artifactPath, task, hchecks, hauto, hok, hprogress, hchanges⟩ := h
  obtain ⟨-, -, htask, -⟩ := taskDoneChecks_eq_ok.mp hchecks
  have hreview : taskDoneReview env caller args taskId artifactPath =
      selfReviewRun env.files caller.startupId taskId artifactPath := if_pos hauto
  have hrefused : ∃ reason, next task.status .taskDoneMcp = .error reason := by
    cases hnext : next task.status .taskDoneMcp with
    | ok newStatus =>
        obtain ⟨hstatus, -⟩ := next_eq_ok_iff.mp hnext
        exact absurd hstatus (not_or.mpr ⟨hprogress, hchanges⟩)
    | error reason => exact ⟨reason, rfl⟩
  obtain ⟨reason, hreason⟩ := hrefused
  refine ⟨reason, recordReview env s caller args taskId
    (taskDoneReview env caller args taskId artifactPath), taskId, ?_, ?_⟩
  · unfold handleTaskDone
    rw [hchecks]
    simp only
    rw [if_pos (hreview ▸ hok), hreason]
    rfl
  · unfold recordReview
    rw [if_pos hauto, htask]
    obtain ⟨t, ht, hlength⟩ := auditTrail_selfReviewRecord htask caller.agentId
      (taskDoneReview env caller args taskId artifactPath)
    rw [ht]
    intro heq
    rw [Option.some.inj heq] at hlength
    omega

/-- **Rejected calls change nothing**, in every case but that of a report that is reviewed in vain. -/
theorem rejected_changes_nothing (cfg : Config) (env : Env) (s : LoopState) (agentId : String)
    (msg : Json) :
    (Rejects (dispatchMcp cfg env s agentId msg).1 → ∀ id,
        (dispatchMcp cfg env s agentId msg).2.db.tasks.lookup id = s.db.tasks.lookup id) ↔
      ¬ ((McpCall.ofJson msg).tool = "task_done" ∧
        ∃ caller, s.world.avatars.lookup agentId = some caller ∧
          ReviewedInVain env s caller (McpCall.ofJson msg).args) := by
  constructor
  · rintro h ⟨htool, caller, hcaller, hvain⟩
    obtain ⟨reason, s', taskId, hreport, hchanged⟩ := report_of_reviewedInVain cfg hvain
    have hcall : callTool cfg env s caller (McpCall.ofJson msg).args "task_done" =
        (.error ("illegal_transition", reason), s') := hreport
    have hreply : dispatchMcp cfg env s agentId msg =
        (mcpErr (McpCall.ofJson msg).corrId "illegal_transition" reason, s') := by
      unfold dispatchMcp
      rw [hcaller]
      simp only
      rw [htool, hcall]
    rw [hreply] at h
    exact hchanged (h (rejects_mcpErr.mpr (by simp [rejectionCodes])) taskId)
  · intro hvain hrejects id
    unfold dispatchMcp at hrejects ⊢
    cases hcaller : s.world.avatars.lookup agentId with
    | none => rfl
    | some caller =>
        rw [hcaller] at hrejects
        simp only at hrejects ⊢
        generalize hcall : callTool cfg env s caller (McpCall.ofJson msg).args
          (McpCall.ofJson msg).tool = r at hrejects ⊢
        obtain ⟨result, s'⟩ := r
        cases result with
        | ok v =>
            obtain ⟨htype, -⟩ := hrejects
            exact absurd (Option.some.inj htype) (by decide)
        | error e =>
            have hcode : e.1 ∈ rejectionCodes := rejects_mcpErr.mp hrejects
            have hsame : s'.db.tasks = s.db.tasks := by
              rcases tasks_of_error hcall with hsame | ⟨htool, hreport⟩
              · exact hsame
              · refine (tasks_of_rejected_report hreport hcode).resolve_right fun h => ?_
                exact hvain ⟨htool, caller, hcaller, h⟩
            simp only
            rw [hsame]

end Calls

/-- A moment at which every artifact has a text. -/
def artifactEnv (now : ℤ) (newId : String) : Env :=
  { sampleEnv now newId with files := ⟨fun dir path => .ok (dir ++ "/" ++ path), fun _ => .ok [35]⟩ }

/-- The engineer's report of its task. -/
def reportMsg : Json :=
  .obj [("type", .str "mcp_call"), ("tool", .str "task_done"), ("args", .obj [("task_id", .str "T_1"),
    ("artifact_path", .str "workspaces/s-1/artifacts/T_1.md")]), ("corr_id", .str "c")]

/-- **Not in every case**: the engineer reports a task that is still queued; the report is refused, and the
task says that it was reviewed. -/
theorem not_rejected_changes_nothing :
    ¬ ∀ (cfg : Config) (env : Env) (s : LoopState) (agentId : String) (msg : Json),
      (loopSystem cfg).Reachable s → Rejects (dispatchMcp cfg env s agentId msg).1 →
        ∀ id, (dispatchMcp cfg env s agentId msg).2.db.tasks.lookup id = s.db.tasks.lookup id := by
  intro h
  have hreachable : ((loopSystem sampleConfig).restrict fun _ _ => True).Reachable
      (runEvents sampleConfig sampleStartup.state [sampleCreate 1 "1" (some "a-2")]) :=
    reachable_runEvents (.init (sampleStartup.init sampleConfig)) _ fun _ _ _ => trivial
  have hreply : Rejects (dispatchMcp sampleConfig (artifactEnv 2 "m")
      (runEvents sampleConfig sampleStartup.state [sampleCreate 1 "1" (some "a-2")]) "a-2"
      reportMsg).1 := by
    decide +kernel
  have hrow := h sampleConfig (artifactEnv 2 "m") _ "a-2" reportMsg hreachable.of_restrict hreply "T_1"
  have hreviewed : ∃ t ∈ (dispatchMcp sampleConfig (artifactEnv 2 "m")
      (runEvents sampleConfig sampleStartup.state [sampleCreate 1 "1" (some "a-2")]) "a-2"
      reportMsg).2.db.tasks.lookup "T_1", t.selfReviewedAt = some 2 := by
    decide +kernel
  have hbefore : ∀ t ∈ (runEvents sampleConfig sampleStartup.state
      [sampleCreate 1 "1" (some "a-2")]).db.tasks.lookup "T_1", t.selfReviewedAt = none := by
    decide +kernel
  obtain ⟨t, ht, hstamp⟩ := hreviewed
  have hnone := hbefore t (hrow ▸ ht)
  exact absurd (hstamp.symm.trans hnone) (by simp)

end Cliptown.Task
