import Cliptown.Task.System

/-!
# Running tasks and working avatars

The scheduler takes an idle avatar for an agent without a task in progress, and sets the avatar to
working with the task. The tools that set it idle again look at the task that is reported only, and a
forced failure does not look at the avatar at all.

* `Reports` — a report about a task that is granted.
* `ReportsSolo`, `one_running_task` — one task per agent, while nobody reports on an idle task of its own
  with another one in progress.
* `ForcesNobody`, `working_has_task` — no avatar is stuck as working, while no forced failure takes the
  only running task of a working avatar.
* `sampleStartup`, … — a startup at work, on which both fail.
-/

namespace Cliptown.Task

open Cliptown.Lib Cliptown.Town Cliptown.World Cliptown.Console

/-! ### One task per agent -/

/-- A report of the caller about one of its tasks that is granted: `task_done` on a task in progress or
sent back, or `task_failed` on any task that is neither done nor failed. -/
inductive Reports (env : Env) (s : LoopState) (caller : AvatarView) (call : McpCall) :
    String → TaskRow → Prop
  | done {taskId artifactPath : String} {task : TaskRow} : call.tool = "task_done" →
      taskDoneChecks env s caller call.args = .ok (taskId, artifactPath, task) →
      (taskDoneReview env caller call.args taskId artifactPath).ok →
      task.status = .inProgress ∨ task.status = .changesRequested →
      Reports env s caller call taskId task
  | failed {taskId : String} {task : TaskRow} : call.tool = "task_failed" →
      call.args.getStr "task_id" = some taskId → s.db.tasks.lookup taskId = some task →
      task.startupId = caller.startupId → task.assigneeAgentId = some caller.agentId →
      task.status ≠ .done → task.status ≠ .failed → Reports env s caller call taskId task

/-- Nobody reports on a task that is not in progress while another one of its own is. -/
def ReportsSolo (s : LoopState) : LoopEvent → Prop
  | .mcp env agentId msg => ∀ caller, s.world.avatars.lookup agentId = some caller →
      ∀ taskId task, Reports env s caller (McpCall.ofJson msg) taskId task →
        task.status ≠ .inProgress → ∀ other, ¬ InProgress s.db other caller.agentId
  | _ => True

/-- Every agent has at most one task in progress. -/
def OneRunning (db : Db) : Prop :=
  ∀ taskId other agentId, InProgress db taskId agentId → InProgress db other agentId →
    taskId = other

section OneRunning

variable {cfg : Config} {s : LoopState} {l : LoopEvent} {e : BoardEvent String String}
  {b : Board String String}

/-- A granted report on a task that is not in progress comes from a caller without one in progress. -/
theorem not_running_of_reports {env : Env} {agentId : String} {msg : Json} {caller : AvatarView}
    {taskId other : String} {task : TaskRow} (hC : ReportsSolo s (.mcp env agentId msg))
    (hcaller : s.world.avatars.lookup agentId = some caller)
    (hreports : Reports env s caller (McpCall.ofJson msg) taskId task)
    (htask : s.db.tasks.lookup taskId = some task)
    (hassignee : task.assigneeAgentId = some caller.agentId)
    (hnot : ¬ s.board.Running taskId caller.agentId) : ¬ s.board.Running other caller.agentId := by
  intro hother
  apply hC caller hcaller taskId task hreports
  · intro hprogress
    exact hnot (running_iff.mpr ⟨task, htask, hprogress, hassignee⟩)
  · exact running_iff.mp hother

/-- The condition on requests is the condition on the events behind them. -/
theorem soloReport_of_emits (hC : ReportsSolo s l) (he : Emits s l e)
    (hstep : Board.Step s.board e b) : Board.SoloReport s.board e := by
  rintro taskId agentId (rfl | rfl) hnot other
  · cases he with
    | @mcp env callerId msg caller _ hcaller hissues =>
        generalize htool : (McpCall.ofJson msg).tool = tool at hissues
        cases hissues with
        | plain hplain => exact hplain.elim
        | submit hchecks hok =>
            obtain ⟨-, -, htask, -, hassignee, -, -⟩ := taskDoneChecks_eq_ok.mp hchecks
            cases hstep with
            | submit hcard hstatus =>
                obtain rfl := Option.some.inj (hcard.symm.trans (card_of_lookup htask))
                have hreports := Reports.done htool hchecks hok hstatus
                exact not_running_of_reports hC hcaller hreports htask hassignee hnot
    | console horders =>
        cases horders with
        | plain hplain => exact hplain.elim
  · cases he with
    | @mcp env callerId msg caller _ hcaller hissues =>
        generalize htool : (McpCall.ofJson msg).tool = tool at hissues
        cases hissues with
        | plain hplain => exact hplain.elim
        | fail hid htask hstartup hassignee =>
            cases hstep with
            | fail hcard hdone hfailed =>
                obtain rfl := Option.some.inj (hcard.symm.trans (card_of_lookup htask))
                have hreports : Reports env s caller (McpCall.ofJson msg) taskId _ :=
                  .failed htool hid htask hstartup hassignee hdone hfailed
                exact not_running_of_reports hC hcaller hreports htask hassignee hnot
    | console horders =>
        cases horders with
        | plain hplain => exact hplain.elim

/-- **One running task per agent**, in every run in which nobody reports on a task that is not in
progress while another one of its own is. -/
theorem one_running_task (h : ((loopSystem cfg).restrict ReportsSolo).Reachable s) :
    OneRunning s.db := by
  have hrefines : ((loopSystem cfg).restrict ReportsSolo).Refines
      ((boardSystem String String).restrict Board.SoloReport) LoopState.board :=
    loop_refines (fun _ _ => .of_plain) fun _ _ _ _ => soloReport_of_emits
  have hsolo := Board.Solo.of_reachable (hrefines.reachable h)
  intro taskId other agentId htask hother
  exact hsolo.one taskId other agentId (running_iff.mpr htask) (running_iff.mpr hother)

end OneRunning

/-! ### A startup at work -/

/-- A startup with its three agents. -/
def sampleStartup : NewStartup where
  id := "s-1"
  budgetCapUsd := 100
  suiteId := "suite_1"
  suite := ⟨0, 0, 7, 6⟩
  founderId := "a-1"
  engineerId := "a-2"
  designerId := "a-3"
  founderBackend := "codex"
  engineerBackend := "codex"
  designerBackend := "codex"
  ids := by decide

/-- The default town, and long-running workers. -/
noncomputable def sampleConfig : Config where
  astar := .reference 4
  layout := defaultTown
  perTaskMode := false
  agentSecret := fun _ => "dev-secret"
  worldUrl := "ws://127.0.0.1:8080/ws/worker"
  operatorToken := "dev-token"
  hashToken := fun token => "sha256:" ++ token
  jsonText := fun _ => "[]"
  sqlText := "constraint failed"

/-- A moment at which everything works. -/
def sampleEnv (now : ℤ) (newId : String) : Env where
  now := now
  newId := newId
  newToken := newId
  trySend := fun _ _ => .ok
  spawn := fun _ => true
  files := ⟨fun dir path => .ok (dir ++ "/" ++ path), fun _ => .ok []⟩
  command := fun _ _ _ => .error ("tool_failed", "no command")
  reply := fun _ _ => .ok .null
  order := List.reverse
  order_perm := List.reverse_perm

/-- The seeded operator. -/
def sampleAdmin : OperatorIdentity := ⟨"op_default", "default-admin", .admin⟩

/-- The admin creates a task; its id is `T_` and the fresh id. -/
def sampleCreate (now : ℤ) (newId : String) (assignee : Option String) : LoopEvent :=
  .createTask (sampleEnv now newId) (some sampleAdmin)
    { startupId := "s-1", title := "title", description := "description"
      assigneeAgentId := assignee, parentId := none, requiredRoom := none
      preferredBackend := none, preferredModel := none, costEstimateUsd := none
      blockedOn := none, deadlineAt := none }

/-- An agent calls a tool. -/
def sampleCall (now : ℤ) (agentId tool : String) (args : List (String × Json)) : LoopEvent :=
  .mcp (sampleEnv now "m") agentId (.obj [("type", .str "mcp_call"), ("tool", .str tool),
    ("args", .obj args), ("corr_id", .str "c")])

/-- The engineer is given three tasks and starts with the first. -/
def busyEvents : List LoopEvent :=
  [sampleCreate 1 "1" (some "a-2"), sampleCreate 2 "2" (some "a-2"),
    sampleCreate 3 "3" (some "a-2"), .registerWorker "a-2", .tick (sampleEnv 4 "t")]

/-- The state after that. -/
noncomputable def busyState : LoopState :=
  runEvents sampleConfig sampleStartup.state busyEvents

/-- The engineer reports a task as failed, and the next tick comes. -/
def failAndTick (taskId : String) : List LoopEvent :=
  [sampleCall 5 "a-2" "task_failed" [("task_id", .str taskId)], .tick (sampleEnv 6 "t")]

/-- After a report on the task in progress, the engineer is given the next one and has only that. -/
theorem one_running_task_in_turn :
    OneRunning (runEvents sampleConfig busyState (failAndTick "T_1")).db ∧
      InProgress (runEvents sampleConfig busyState (failAndTick "T_1")).db "T_2" "a-2" := by
  have hbusy : ((loopSystem sampleConfig).restrict ReportsSolo).Reachable busyState := by
    refine reachable_runEvents (.init (sampleStartup.init sampleConfig)) _ fun l hl s => ?_
    simp only [busyEvents, List.mem_cons, List.not_mem_nil, or_false] at hl
    rcases hl with rfl | rfl | rfl | rfl | rfl <;> trivial
  have hreport : ReportsSolo busyState
      (sampleCall 5 "a-2" "task_failed" [("task_id", .str "T_1")]) := by
    intro caller _ taskId task hreports hidle
    exfalso
    cases hreports with
    | done htool => exact absurd htool (by decide)
    | failed _ hid htask =>
        obtain rfl := Option.some.inj hid
        have hprogress : ∀ t ∈ busyState.db.tasks.lookup "T_1", t.status = .inProgress := by
          decide +kernel
        exact hidle (hprogress task htask)
  exact ⟨one_running_task ((hbusy.step ⟨hreport, rfl⟩).step (l := .tick (sampleEnv 6 "t"))
    ⟨trivial, rfl⟩), by decide +kernel⟩

/-- **Not in every run**: the engineer reports a queued task as failed, and is given another task
beside the one in progress. -/
theorem not_one_running_task :
    ¬ ∀ (cfg : Config) (s : LoopState), (loopSystem cfg).Reachable s → OneRunning s.db := by
  intro h
  have hreachable : ((loopSystem sampleConfig).restrict fun _ _ => True).Reachable
      (runEvents sampleConfig busyState (failAndTick "T_2")) :=
    reachable_runEvents (reachable_runEvents (.init (sampleStartup.init sampleConfig)) _ fun _ _ _ => trivial) _
      fun _ _ _ => trivial
  have htasks := h sampleConfig _ hreachable.of_restrict "T_1" "T_3" "a-2" (by decide +kernel)
    (by decide +kernel)
  exact absurd htasks (by decide)

/-! ### No avatar stuck as working -/

/-- A forced failure that is granted does not take the only running task of a working avatar. -/
def ForcesNobody (s : LoopState) : LoopEvent → Prop
  | .console env identity (.operatorForceFail taskId _) => identity.role.atLeast .manager →
      (∃ lock, (tryAcquire s.db.operatorNames s.db.actionLocks (taskLockKey taskId "force_fail")
        identity.id defaultTtlSecs env.now).2 = .ok lock) →
      ∀ agentId, InProgress s.db taskId agentId → statusOf s.world agentId = some .working →
        ∃ other, other ≠ taskId ∧ InProgress s.db other agentId
  | _ => True

/-- Every working avatar has a task in progress. -/
def NobodyStuck (s : LoopState) : Prop :=
  ∀ agentId a, s.world.avatars.lookup agentId = some a → a.status = .working →
    ∃ taskId, InProgress s.db taskId agentId

section Stuck

variable {cfg : Config} {s : LoopState} {l : LoopEvent} {e : BoardEvent String String}

/-- The condition on requests is the condition on the events behind them. -/
theorem freesNobody_of_emits (hC : ForcesNobody s l) (he : Emits s l e) :
    Board.FreesNobody s.board e := by
  rintro taskId agentId rfl hrunning hworking
  cases he with
  | @mcp env callerId msg caller _ hcaller hissues =>
      generalize (McpCall.ofJson msg).tool = tool at hissues
      cases hissues with
      | plain hplain => exact hplain.elim
  | console horders =>
      cases horders with
      | plain hplain => exact hplain.elim
      | @forceFail _ note lock hrole hlock =>
          obtain ⟨other, hne, hother⟩ :=
            hC hrole ⟨lock, hlock⟩ agentId (running_iff.mp hrunning) hworking
          exact ⟨other, hne, running_iff.mpr hother⟩

/-- **No avatar is stuck as working**, in every run in which no forced failure takes the only running
task of a working avatar. -/
theorem working_has_task (h : ((loopSystem cfg).restrict ForcesNobody).Reachable s) :
    NobodyStuck s := by
  have hrefines : ((loopSystem cfg).restrict ForcesNobody).Refines
      ((boardSystem String String).restrict Board.FreesNobody) LoopState.board :=
    loop_refines (fun _ _ => .of_plain) fun _ _ _ _ hC he _ => freesNobody_of_emits hC he
  have hoccupied := Board.Occupied.of_reachable (hrefines.reachable h)
  intro agentId a ha hworking
  obtain ⟨taskId, htask⟩ := hoccupied agentId (Option.map_eq_some_iff.mpr ⟨a, ha, hworking⟩)
  exact ⟨taskId, running_iff.mp htask⟩

end Stuck

/-- The seeded operator fails a task by force. -/
def forceFail (taskId : String) : LoopEvent :=
  .console (sampleEnv 5 "o") sampleAdmin (.operatorForceFail taskId "note")

/-- A forced failure of a queued task leaves the engineer at work. -/
theorem working_has_task_beside_failed :
    NobodyStuck (runEvents sampleConfig busyState [forceFail "T_2"]) ∧
      statusOf (runEvents sampleConfig busyState [forceFail "T_2"]).world "a-2" = some .working := by
  have hbusy : ((loopSystem sampleConfig).restrict ForcesNobody).Reachable busyState := by
    refine reachable_runEvents (.init (sampleStartup.init sampleConfig)) _ fun l hl s => ?_
    simp only [busyEvents, List.mem_cons, List.not_mem_nil, or_false] at hl
    rcases hl with rfl | rfl | rfl | rfl | rfl <;> trivial
  have hforce : ForcesNobody busyState (forceFail "T_2") := by
    rintro - - agentId ⟨task, htask, hprogress, -⟩ -
    have hqueued : ∀ t ∈ busyState.db.tasks.lookup "T_2", t.status = .queued := by decide +kernel
    rw [hqueued task htask] at hprogress
    exact absurd hprogress (by decide)
  exact ⟨working_has_task (hbusy.step ⟨hforce, rfl⟩), by decide +kernel⟩

/-- **Not in every run**: the operator fails the task in progress by force, and the engineer's avatar
stays at work on nothing. -/
theorem not_working_has_task :
    ¬ ∀ (cfg : Config) (s : LoopState), (loopSystem cfg).Reachable s → NobodyStuck s := by
  intro h
  have hreachable : ((loopSystem sampleConfig).restrict fun _ _ => True).Reachable
      (runEvents sampleConfig busyState [forceFail "T_1"]) :=
    reachable_runEvents (reachable_runEvents (.init (sampleStartup.init sampleConfig)) _
      fun _ _ _ => trivial) _ fun _ _ _ => trivial
  have hstatus : ∃ a ∈ (runEvents sampleConfig busyState [forceFail "T_1"]).world.avatars.lookup
      "a-2", a.status = .working := by
    decide +kernel
  obtain ⟨a, ha, hworking⟩ := hstatus
  obtain ⟨taskId, task, htask, hprogress, -⟩ :=
    h sampleConfig _ hreachable.of_restrict "a-2" a ha hworking
  have hnone : ∀ row ∈ (runEvents sampleConfig busyState [forceFail "T_1"]).db.tasks.entries,
      row.2.status ≠ .inProgress := by
    decide +kernel
  exact hnone ⟨taskId, task⟩ (AList.mem_lookup_iff.mp htask) hprogress

end Cliptown.Task
