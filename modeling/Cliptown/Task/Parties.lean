import Cliptown.Task.ConsoleStatements
import Cliptown.Task.SchedulerStatements
import Cliptown.Task.System

/-!
# On whose behalf requests are made

* `LoopEvent.party` — on whose behalf a request is made.
* `LoopEvent.Astray` — whether it names another startup's task where nothing checks it.
* `apply_statements` — every request is a run of statements; `run_statements` — what statements preserve,
  runs of the subsystem preserve.
-/

namespace Cliptown.Task

open Cliptown.Lib Cliptown.Town Cliptown.World

/-- On whose behalf a request is made. A call of an unknown agent changes nothing. -/
def LoopEvent.party (s : LoopState) : LoopEvent → Party
  | .mcp _ agentId _ =>
      match s.world.avatars.lookup agentId with
      | some caller => .agent caller.startupId
      | none => .endpoint
  | .console .. => .operator
  | .createTask .. | .registerWorker .. | .unregisterWorker .. => .endpoint
  | .tick .. | .autoSteal .. | .autoRecovery .. => .scheduler

/-- The request names another startup's task as a parent or a blocker: nothing checks it. -/
def LoopEvent.Astray (s : LoopState) : LoopEvent → Prop
  | .mcp _ agentId msg => ∃ caller, s.world.avatars.lookup agentId = some caller ∧
      (McpCall.ofJson msg).tool = "task_set_blocking" ∧
      BlockerAstray s.db caller (McpCall.ofJson msg).args
  | .createTask _ identity body => body.Astray s.db identity
  | _ => False

/-- Fewer things go astray. -/
theorem Statement.mono {party : Party} {astray astray' : Prop} {s s' : LoopState}
    (himp : astray → astray') (h : Statement party astray s s') : Statement party astray' s s' := by
  cases h with
  | touch hf howned haudit => exact .touch hf howned haudit
  | relink hdb hkept =>
      refine .relink hdb fun t ht => { hkept t ht with blocker := fun u hu => ?_ }
      exact ((hkept t ht).blocker u hu).imp_right (Or.imp_right himp)
  | insert hdb hcreated =>
      refine .insert hdb { hcreated with parent := fun u hu => ?_, blocker := fun u hu => ?_ }
      · exact (hcreated.parent u hu).imp_right himp
      · exact (hcreated.blocker u hu).imp_right himp
  | message hdb hhome => exact .message hdb hhome
  | event => exact .event
  | locks => exact .locks
  | skills hstep => exact .skills hstep
  | notify hparty hassignee hparent => exact .notify hparty hassignee hparent
  | frame hframe => exact .frame hframe
  | move hsame => exact .move hsame
  | workers => exact .workers
  | possess hparty hid => exact .possess hparty hid
  | unpossess hparty => exact .unpossess hparty
  | peerReviewer hparty => exact .peerReviewer hparty
  | startup hparty => exact .startup hparty
  | operators hparty => exact .operators hparty
  | disown hparty => exact .disown hparty

theorem Statements.mono {party : Party} {astray astray' : Prop} {s s' : LoopState}
    (himp : astray → astray') (h : Statements party astray s s') : Statements party astray' s s' :=
  Relation.ReflTransGen.mono (fun _ _ => Statement.mono himp) _ _ h

/-- **Every request** is a run of statements on behalf of its party. -/
theorem apply_statements (cfg : Config) (s : LoopState) (l : LoopEvent) :
    Statements (l.party s) (l.Astray s) s (l.apply cfg s) := by
  cases l with
  | tick env => exact loopTick_statements cfg env s
  | autoSteal env => exact autoStealPass_statements free_scheduler
  | autoRecovery env => exact autoRecoveryPass_statements free_scheduler
  | mcp env agentId msg =>
      cases hcaller : s.world.avatars.lookup agentId with
      | none =>
          have hsame : LoopEvent.apply cfg s (.mcp env agentId msg) = s := by
            simp only [LoopEvent.apply, dispatchMcp, hcaller]
          rw [hsame]
      | some caller =>
          have hparty : LoopEvent.party s (.mcp env agentId msg) = .agent caller.startupId := by
            simp only [LoopEvent.party, hcaller]
          rw [hparty]
          exact (dispatchMcp_statements cfg env msg hcaller).mono fun h => ⟨caller, hcaller, h⟩
  | console env identity cmd => exact dispatchConsole_statements cfg env s identity cmd
  | createTask env identity body => exact .settle fun _ _ => createTask_statements
  | registerWorker agentId => exact .single .workers
  | unregisterWorker agentId => exact .single .workers

/-- **What statements preserve, runs preserve.** The condition `C` is on the requests. -/
theorem run_statements {cfg : Config} {C : LoopState → LoopEvent → Prop} {I : LoopState → Prop}
    (hstep : ∀ party astray s₀ l s s', C s₀ l → (astray → l.Astray s₀) → I s →
      Statement party astray s s' → I s')
    {s t : LoopState} {ls : List LoopEvent} (h : Run ((loopSystem cfg).restrict C).step s ls t)
    (hs : I s) : I t := by
  refine h.preserves (fun s l t hI hst => ?_) hs
  obtain ⟨hC, rfl⟩ := hst
  have hrun := apply_statements cfg s l
  generalize l.apply cfg s = t at hrun
  induction hrun with
  | refl => exact hI
  | tail _ hstatement ih => exact hstep _ _ s l _ _ hC id ih hstatement

end Cliptown.Task
