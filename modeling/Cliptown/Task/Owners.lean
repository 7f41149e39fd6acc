import Cliptown.Task.Running

/-!
# Owners

A task that waits for an agent to act has an assignee: every path that queues a task names one, except
`subtask_create` by the assignee of the parent, who queues a task at once and may leave the assignee out.

* `TaskStatus.Active`, `HasOwner` — the tasks that wait for an agent, and what they need.
* `NamesAssignee`, `active_has_owner` — no such task is ownerless, while every subtask that is queued at
  once names its assignee.
-/

namespace Cliptown.Task

open Cliptown.Lib Cliptown.Town Cliptown.World

/-- Somebody has to act on the task. -/
def TaskStatus.Active (s : TaskStatus) : Prop :=
  s = queued ∨ s = inProgress ∨ s = awaitingReview ∨ s = changesRequested

/-- Every task that waits for an agent has an assignee, who exists; a queued one is found by the dispatch
query. -/
def HasOwner (db : Db) : Prop :=
  ∀ id task, db.tasks.lookup id = some task → task.status.Active →
    ∃ agentId, task.assigneeAgentId = some agentId ∧ (db.agents.lookup agentId).isSome ∧
      (task.status = .queued → ∀ env, ∃ row ∈ queuedTasks env db,
        row.id = id ∧ row.assigneeAgentId = agentId)

/-- The assignee of a task that creates a subtask names the assignee of that one. -/
def NamesAssignee (s : LoopState) : LoopEvent → Prop
  | .mcp _ agentId msg => (McpCall.ofJson msg).tool = "subtask_create" →
      ∀ caller, s.world.avatars.lookup agentId = some caller →
      ∀ parentId parent, (McpCall.ofJson msg).args.getStr "parent_id" = some parentId →
        s.db.tasks.lookup parentId = some parent → parent.startupId = caller.startupId →
        parent.assigneeAgentId = some caller.agentId →
        ((McpCall.ofJson msg).args.getStr "assignee_agent_id").isSome
  | _ => True

section Owner

variable {cfg : Config} {s : LoopState} {l : LoopEvent} {e : BoardEvent String String}

/-- The condition on requests is the condition on the events behind them. -/
theorem namesOwner_of_emits (hC : NamesAssignee s l) (he : Emits s l e) : Board.NamesOwner e := by
  rintro id c rfl hqueued
  cases he with
  | @mcp env callerId msg caller _ hcaller hissues =>
      generalize htool : (McpCall.ofJson msg).tool = tool at hissues
      cases hissues with
      | plain hplain => exact hplain.elim
      | @create parentId _ parent _ hid hparent hstartup howner =>
          obtain ⟨hmanager, hassignee⟩ := howner hqueued
          rw [hassignee]
          exact hC htool caller hcaller parentId parent hid hparent hstartup hmanager
  | console horders =>
      cases horders with
      | plain hplain => exact hplain.elim
  | create howner => exact howner hqueued

/-- **No runnable task is ownerless**, in every run in which the assignee of a task that creates a
subtask names the assignee of that one. -/
theorem active_has_owner (h : ((loopSystem cfg).restrict NamesAssignee).Reachable s) :
    HasOwner s.db := by
  have hrefines : ((loopSystem cfg).restrict NamesAssignee).Refines
      ((boardSystem String String).restrict fun _ e => Board.NamesOwner e) LoopState.board :=
    loop_refines (fun _ _ => .of_plain) fun _ _ _ _ hC he _ => namesOwner_of_emits hC he
  have howned := Board.Owned.of_reachable (hrefines.reachable h)
  intro id task htask hactive
  obtain ⟨agentId, hassignee⟩ :=
    Option.isSome_iff_exists.mp (howned id task.card (card_of_lookup htask) hactive)
  exact ⟨agentId, hassignee, (s.db.taskRefs id task htask).assignee agentId hassignee,
    fun hqueued env => exists_mem_queuedTasks htask hqueued hassignee⟩

end Owner

/-- The founder's task, of which the founder creates a subtask. -/
def subtaskEvents (args : List (String × Json)) : List LoopEvent :=
  [sampleCreate 1 "1" (some "a-1"),
    sampleCall 2 "a-1" "subtask_create" (("parent_id", .str "T_1") :: args)]

/-- A subtask for the engineer has its owner. -/
theorem active_has_owner_engineer :
    HasOwner (runEvents sampleConfig sampleStartup.state
      (subtaskEvents [("assignee_agent_id", .str "a-2")])).db ∧
    ∃ task ∈ (runEvents sampleConfig sampleStartup.state
      (subtaskEvents [("assignee_agent_id", .str "a-2")])).db.tasks.lookup "m",
      task.status = .queued := by
  refine ⟨active_has_owner (reachable_runEvents (.init (sampleStartup.init sampleConfig)) _
    fun l hl s => ?_), by decide +kernel⟩
  simp only [subtaskEvents, List.mem_cons, List.not_mem_nil, or_false] at hl
  rcases hl with rfl | rfl
  · trivial
  · rintro - caller - parentId parent - - - -
    decide

/-- **Not in every run**: the founder leaves the assignee of a subtask out. -/
theorem not_active_has_owner :
    ¬ ∀ (cfg : Config) (s : LoopState), (loopSystem cfg).Reachable s → HasOwner s.db := by
  intro h
  have hreachable : ((loopSystem sampleConfig).restrict fun _ _ => True).Reachable
      (runEvents sampleConfig sampleStartup.state (subtaskEvents [])) :=
    reachable_runEvents (.init (sampleStartup.init sampleConfig)) _ fun _ _ _ => trivial
  have htask : ∃ task ∈ (runEvents sampleConfig sampleStartup.state (subtaskEvents [])).db.tasks.lookup
      "m", task.status = .queued ∧ task.assigneeAgentId = none := by
    decide +kernel
  obtain ⟨task, htask, hqueued, hnone⟩ := htask
  obtain ⟨agentId, hassignee, -⟩ :=
    h sampleConfig _ hreachable.of_restrict "m" task htask (.inl hqueued)
  rw [hnone] at hassignee
  exact absurd hassignee (by simp)

end Cliptown.Task
