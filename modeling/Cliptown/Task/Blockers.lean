import Cliptown.Task.Owners

/-!
# Blockers

A task waits for the task that it is blocked on, as long as both are open. `task_set_blocking` refuses a
task that blocks itself, but follows the chain no further.

* `ChainEnds` — the chain of blockers from a task ends.
* `BlocksNoLoop`, `blocking_acyclic` — no deadlock, while no task is blocked on one that waits for it.
-/

namespace Cliptown.Task

open Cliptown.Lib Cliptown.Town Cliptown.World Relation

/-- The chain of blockers from a task ends: with one that is not blocked, or is blocked on a task that
is over. -/
def ChainEnds (db : Db) (taskId : String) : Prop :=
  ∃ lastId last, ReflTransGen (WaitsFor db) taskId lastId ∧ db.tasks.lookup lastId = some last ∧
    ∀ blockerId ∈ last.blockedOn, ∃ blocker, db.tasks.lookup blockerId = some blocker ∧
      blocker.status.Terminal

/-- No open tasks wait for one another in a circle, and for every queued task the chain ends. -/
def NoDeadlock (db : Db) : Prop :=
  Acyclic (WaitsFor db) ∧
    ∀ taskId task, db.tasks.lookup taskId = some task → task.status = .queued → ChainEnds db taskId

/-- No call that is granted blocks an open task on one that waits for it. -/
def BlocksNoLoop (s : LoopState) : LoopEvent → Prop
  | .mcp _ agentId msg => (McpCall.ofJson msg).tool = "task_set_blocking" →
      ∀ caller, s.world.avatars.lookup agentId = some caller →
      ∀ taskId task blockerId, (McpCall.ofJson msg).args.getStr "task_id" = some taskId →
        s.db.tasks.lookup taskId = some task → task.startupId = caller.startupId →
        mayConfigure s.db caller task →
        (McpCall.ofJson msg).args.getStr "blocked_on" = some blockerId → blockerId ≠ taskId →
        ¬ task.status.Terminal → ¬ ReflTransGen (WaitsFor s.db) blockerId taskId
  | _ => True

section Chains

variable {cfg : Config} {s : LoopState} {l : LoopEvent} {e : BoardEvent String String}

/-- The condition on requests is the condition on the events behind them. -/
theorem noLoop_of_emits (hC : BlocksNoLoop s l) (he : Emits s l e) : Board.NoLoop s.board e := by
  rintro taskId blockerId rfl hopen hloop
  cases he with
  | @mcp env callerId msg caller _ hcaller hissues =>
      generalize htool : (McpCall.ofJson msg).tool = tool at hissues
      cases hissues with
      | plain hplain => exact hplain.elim
      | @block _ _ task hid htask hstartup hmay hblocked hne =>
          obtain ⟨c, hc, hterminal⟩ := hopen
          obtain rfl := Option.some.inj (hc.symm.trans (card_of_lookup htask))
          rw [waits_eq] at hloop
          exact hC htool caller hcaller taskId task blockerId hid htask hstartup hmay hblocked hne
            hterminal hloop
  | console horders =>
      cases horders with
      | plain hplain => exact hplain.elim

/-- Without circles, every chain of blockers ends: there are finitely many tasks, and every blocker
exists. -/
theorem chainEnds_of_acyclic (h : Acyclic (WaitsFor s.db)) {taskId : String} {task : TaskRow}
    (htask : s.db.tasks.lookup taskId = some task) (hopen : ¬ task.status.Terminal) :
    ChainEnds s.db taskId := by
  let waiting : Set String := {id | ∃ t ∈ s.db.tasks.lookup id, ¬ t.status.Terminal}
  have hfinite : waiting.Finite := by
    refine (List.finite_toSet s.db.tasks.keys).subset ?_
    rintro id ⟨t, ht, -⟩
    exact AList.mem_keys.mp (AList.lookup_isSome.mp (Option.isSome_of_mem ht))
  have hclosed : ∀ x ∈ waiting, ∀ y, WaitsFor s.db x y → y ∈ waiting := by
    rintro x - y ⟨-, -, -, -, hy⟩
    exact hy
  obtain ⟨lastId, ⟨last, hlast, hlastOpen⟩, hchain, hend⟩ :=
    h.exists_end hfinite hclosed ⟨task, htask, hopen⟩
  refine ⟨lastId, last, hchain, hlast, fun blockerId hblocked => ?_⟩
  obtain ⟨blocker, hblocker⟩ :=
    Option.isSome_iff_exists.mp ((s.db.taskRefs lastId last hlast).blocker blockerId hblocked)
  refine ⟨blocker, hblocker, ?_⟩
  by_contra hblockerOpen
  exact hend blockerId ⟨last, hlast, hlastOpen, hblocked, blocker, hblocker, hblockerOpen⟩

/-- **No blocking deadlock**, in every run in which no open task is blocked on one that waits for it. -/
theorem blocking_acyclic (h : ((loopSystem cfg).restrict BlocksNoLoop).Reachable s) :
    NoDeadlock s.db := by
  have hrefines : ((loopSystem cfg).restrict BlocksNoLoop).Refines
      ((boardSystem String String).restrict Board.NoLoop) LoopState.board :=
    loop_refines (fun _ _ => .of_plain) fun _ _ _ _ hC he _ => noLoop_of_emits hC he
  have hacyclic : Acyclic (WaitsFor s.db) :=
    waits_eq ▸ Board.acyclic_of_reachable (hrefines.reachable h)
  refine ⟨hacyclic, fun taskId task htask hqueued => chainEnds_of_acyclic hacyclic htask ?_⟩
  rw [hqueued]
  decide

end Chains

/-- The engineer has two tasks and blocks one on the other. -/
def blockEvents : List LoopEvent :=
  [sampleCreate 1 "1" (some "a-2"), sampleCreate 2 "2" (some "a-2"),
    sampleCall 3 "a-2" "task_set_blocking" [("task_id", .str "T_1"), ("blocked_on", .str "T_2")]]

/-- One task that waits for another one is no deadlock. -/
theorem blocking_acyclic_of_one :
    NoDeadlock (runEvents sampleConfig sampleStartup.state blockEvents).db ∧
      WaitsFor (runEvents sampleConfig sampleStartup.state blockEvents).db "T_1" "T_2" := by
  have hcreated : ((loopSystem sampleConfig).restrict BlocksNoLoop).Reachable
      (runEvents sampleConfig sampleStartup.state (blockEvents.take 2)) := by
    refine reachable_runEvents (.init (sampleStartup.init sampleConfig)) _ fun l hl s => ?_
    simp only [blockEvents, List.take_succ_cons, List.take_zero, List.mem_cons, List.not_mem_nil,
      or_false] at hl
    rcases hl with rfl | rfl <;> trivial
  have hblock : BlocksNoLoop (runEvents sampleConfig sampleStartup.state (blockEvents.take 2))
      (sampleCall 3 "a-2" "task_set_blocking"
        [("task_id", .str "T_1"), ("blocked_on", .str "T_2")]) := by
    rintro - caller - taskId task blockerId hid - - - hblocked hne - hloop
    obtain rfl := Option.some.inj hblocked
    -- nothing is blocked yet, so the second task reaches only itself
    rcases ReflTransGen.cases_head hloop with heq | ⟨x, ⟨row, hrow, -, hrowBlocked, -⟩, -⟩
    · exact hne heq
    · have hfree : ∀ t ∈ (runEvents sampleConfig sampleStartup.state
          (blockEvents.take 2)).db.tasks.lookup "T_2", t.blockedOn = none := by
        decide +kernel
      rw [hfree row hrow] at hrowBlocked
      exact absurd hrowBlocked (by simp)
  exact ⟨blocking_acyclic (hcreated.step ⟨hblock, rfl⟩), by decide +kernel⟩

/-- **Not in every run**: the engineer blocks two tasks on one another. -/
theorem not_blocking_acyclic :
    ¬ ∀ (cfg : Config) (s : LoopState), (loopSystem cfg).Reachable s → NoDeadlock s.db := by
  intro h
  have hreachable : ((loopSystem sampleConfig).restrict fun _ _ => True).Reachable
      (runEvents sampleConfig sampleStartup.state (blockEvents ++ [sampleCall 4 "a-2"
        "task_set_blocking" [("task_id", .str "T_2"), ("blocked_on", .str "T_1")]])) :=
    reachable_runEvents (.init (sampleStartup.init sampleConfig)) _ fun _ _ _ => trivial
  have hwaits : WaitsFor (runEvents sampleConfig sampleStartup.state (blockEvents ++ [sampleCall 4
      "a-2" "task_set_blocking" [("task_id", .str "T_2"), ("blocked_on", .str "T_1")]])).db
      "T_1" "T_2" := by
    decide +kernel
  have hback : WaitsFor (runEvents sampleConfig sampleStartup.state (blockEvents ++ [sampleCall 4
      "a-2" "task_set_blocking" [("task_id", .str "T_2"), ("blocked_on", .str "T_1")]])).db
      "T_2" "T_1" := by
    decide +kernel
  exact (h sampleConfig _ hreachable.of_restrict).1 "T_1" (.tail (.single hwaits) hback)

end Cliptown.Task
