import Cliptown.Task.Admin
import Cliptown.Task.BoardInvariants
import Cliptown.Task.SchedulerBoard
import Cliptown.Task.Startup

/-!
# The task subsystem as a whole

* `LoopEvent`, `loopSystem` — what the world loop and the admin endpoint are asked to do, in any order,
  from freshly created startups: each event carries what it reads from outside.
* `Emits` — the event of the board behind a request; `request_board`, `apply_board` — a request is a run of
  plain events or one event that it emits.
* `loop_refines` — under matching conditions on requests and on events, the loop refines the board, so
  what holds of every board that is reached holds of what every state shows.
* `NewStartup.init` — a startup that has just been created is an initial state.
* `InProgress`, `WaitsFor` — how the tables show running and waiting tasks.
-/

namespace Cliptown.Task

open Cliptown.Lib Cliptown.Town Cliptown.World Cliptown.Console Relation

/-- A request to the world loop or the admin endpoint. The passes are part of each tick, and events of
their own besides. Source: `loop_.rs` `Cmd` -/
inductive LoopEvent where
  | tick (env : Env)
  | autoSteal (env : Env)
  | autoRecovery (env : Env)
  | mcp (env : Env) (agentId : String) (msg : Json)
  | console (env : Env) (identity : OperatorIdentity) (cmd : ConsoleInbound)
  | createTask (env : Env) (identity : Option OperatorIdentity) (body : CreateTaskBody)
  | registerWorker (agentId : String)
  | unregisterWorker (agentId : String)

/-- The state after a request. -/
def LoopEvent.apply (cfg : Config) (s : LoopState) : LoopEvent → LoopState
  | .tick env => loopTick cfg env s
  | .autoSteal env => autoStealPass env s
  | .autoRecovery env => autoRecoveryPass env s
  | .mcp env agentId msg => (dispatchMcp cfg env s agentId msg).2
  | .console env identity cmd => (dispatchConsole cfg env s identity cmd).2
  | .createTask env identity body => (settle s (Task.createTask cfg env s identity body)).2
  | .registerWorker agentId => { s with outBus := s.outBus.insert agentId }
  | .unregisterWorker agentId => { s with outBus := s.outBus.erase agentId }

/-- The runs of the task subsystem: at first there are no tasks, and every avatar is idle. -/
def loopSystem (cfg : Config) : System LoopState LoopEvent where
  init s := s.db.tasks = ∅ ∧ ∀ agentId a, s.world.avatars.lookup agentId = some a → a.status = .idle
  step s l t := t = l.apply cfg s

/-- The event of the board behind a request. -/
inductive Emits (s : LoopState) : LoopEvent → BoardEvent String String → Prop
  | mcp {env : Env} {agentId : String} {msg : Json} {caller : AvatarView}
      {e : BoardEvent String String} : s.world.avatars.lookup agentId = some caller →
      Issues env s caller (McpCall.ofJson msg).args (McpCall.ofJson msg).tool e →
      Emits s (.mcp env agentId msg) e
  | console {env : Env} {identity : OperatorIdentity} {cmd : ConsoleInbound}
      {e : BoardEvent String String} : Orders env s identity cmd e →
      Emits s (.console env identity cmd) e
  | create {env : Env} {identity : Option OperatorIdentity} {body : CreateTaskBody} {id : String}
      {c : Card String String} : (c.status = .queued → c.assignee.isSome) →
      Emits s (.createTask env identity body) (.create id c)

section Refine

variable {cfg : Config} {s t : LoopState} {l : LoopEvent}

/-- The requests that the scheduler makes to itself. -/
def LoopEvent.Scheduler : LoopEvent → Prop
  | .tick _ | .autoSteal _ | .autoRecovery _ => True
  | _ => False

variable (cfg s) in
/-- **A request** other than the scheduler's leaves the board as it is, or is one event that it emits. -/
theorem request_board (l : LoopEvent) (h : ¬ l.Scheduler) :
    (l.apply cfg s).board = s.board ∨
      ∃ e, Board.Step s.board e (l.apply cfg s).board ∧ Emits s l e := by
  cases l with
  | tick env | autoSteal env | autoRecovery env => exact absurd trivial h
  | mcp env agentId msg =>
      unfold LoopEvent.apply
      rcases dispatchMcp_board cfg env s agentId msg
        with hboard | ⟨caller, e, hcaller, hissues, hstep⟩
      · exact .inl hboard
      · exact .inr ⟨e, hstep, .mcp hcaller hissues⟩
  | console env identity cmd =>
      unfold LoopEvent.apply
      rcases dispatchConsole_board cfg env s identity cmd
        with hboard | ⟨e, hstep, horders⟩
      · exact .inl hboard
      · exact .inr ⟨e, hstep, .console horders⟩
  | createTask env identity body =>
      simp only [LoopEvent.apply]
      rcases settle_cases s (createTask cfg env s identity body) with hs | ⟨r, s', hok, hs⟩
      · exact .inl (by rw [hs])
      · obtain ⟨id, c, hstep, howner⟩ := createTask_board hok
        refine .inr ⟨.create id c, ?_, .create howner⟩
        rw [hs]
        exact hstep
  | registerWorker agentId => exact .inl rfl
  | unregisterWorker agentId => exact .inl rfl

variable (cfg s) in
/-- **Any request** is a run of plain events, or one event that it emits. -/
theorem apply_board (l : LoopEvent) :
    Board.Plainly s.board (l.apply cfg s).board ∨
      ∃ e, Board.Step s.board e (l.apply cfg s).board ∧ Emits s l e := by
  have hrequest : ¬ l.Scheduler → Board.Plainly s.board (l.apply cfg s).board ∨
      ∃ e, Board.Step s.board e (l.apply cfg s).board ∧ Emits s l e := by
    intro h
    refine (request_board cfg s l h).imp_left fun hboard => ?_
    rw [hboard]
    exact .refl _
  cases l with
  | tick env => exact .inl loopTick_board
  | autoSteal env => exact .inl autoStealPass_board
  | autoRecovery env => exact .inl autoRecoveryPass_board
  | _ => exact hrequest id

/-- A startup that has just been created is an initial state. -/
theorem NewStartup.init (n : NewStartup) (cfg : Config) : (loopSystem cfg).init n.state :=
  ⟨rfl, fun _ _ h => n.status_of_lookup h⟩

/-- A fresh state shows a board without tasks, on which nobody works. -/
theorem board_of_init (h : (loopSystem cfg).init s) : (boardSystem String String).init s.board := by
  obtain ⟨htasks, hidle⟩ := h
  refine ⟨fun id => ?_, fun agentId hworking => ?_⟩
  · simp [LoopState.board, Db.card, htasks]
  · obtain ⟨a, ha, hstatus⟩ := Option.map_eq_some_iff.mp hworking
    rw [hidle agentId a ha] at hstatus
    exact absurd hstatus (by decide)

/-- **The loop refines the board**, also when both are restricted: the condition `D` on events asks
nothing of plain ones, and the condition `C` on requests implies it for what they emit. -/
theorem loop_refines {C : LoopState → LoopEvent → Prop}
    {D : Board String String → BoardEvent String String → Prop}
    (hplain : ∀ b e, e.Plain → D b e)
    (hemits : ∀ s l e b, C s l → Emits s l e → Board.Step s.board e b → D s.board e) :
    ((loopSystem cfg).restrict C).Refines ((boardSystem String String).restrict D)
      LoopState.board := by
  refine ⟨fun s hinit => board_of_init (show (loopSystem cfg).init s from hinit), ?_⟩
  rintro s l t - ⟨hC, rfl⟩
  rcases apply_board cfg s l with ⟨es, hrun, hes⟩ | ⟨e, hstep, he⟩
  · exact ⟨es, System.run_restrict (S := boardSystem String String) hrun
      fun e he b => hplain b e (hes e he)⟩
  · exact ⟨[e], .single ⟨hemits s l e _ hC he hstep, hstep⟩⟩

/-- Requests one after the other. -/
def runEvents (cfg : Config) (s : LoopState) (ls : List LoopEvent) : LoopState :=
  ls.foldl (fun s l => l.apply cfg s) s

theorem runEvents_append (cfg : Config) (s : LoopState) (ls ls' : List LoopEvent) :
    runEvents cfg s (ls ++ ls') = runEvents cfg (runEvents cfg s ls) ls' :=
  List.foldl_append

/-- They are a run. -/
theorem run_runEvents (cfg : Config) (s : LoopState) (ls : List LoopEvent) :
    Run (loopSystem cfg).step s ls (runEvents cfg s ls) := by
  induction ls generalizing s with
  | nil => exact .nil s
  | cons l ls ih => exact .cons rfl (ih (l.apply cfg s))

/-- A run is where its requests lead. -/
theorem eq_runEvents {ls : List LoopEvent} (h : Run (loopSystem cfg).step s ls t) :
    t = runEvents cfg s ls := by
  induction h with
  | nil s => rfl
  | cons hst _ ih =>
      obtain rfl := hst
      exact ih

/-- Requests that meet a condition in every state lead to states that are reachable under it. -/
theorem reachable_runEvents {C : LoopState → LoopEvent → Prop}
    (h : ((loopSystem cfg).restrict C).Reachable s) (ls : List LoopEvent)
    (hC : ∀ l ∈ ls, ∀ s, C s l) :
    ((loopSystem cfg).restrict C).Reachable (runEvents cfg s ls) := by
  induction ls generalizing s with
  | nil => exact h
  | cons l ls ih =>
      refine ih (h.step ⟨hC l List.mem_cons_self s, rfl⟩) fun l' hl' => ?_
      exact hC l' (List.mem_cons_of_mem _ hl')

end Refine

/-! ### What the tables show -/

/-- A task of an agent is in progress. -/
def InProgress (db : Db) (taskId agentId : String) : Prop :=
  ∃ task ∈ db.tasks.lookup taskId, task.status = .inProgress ∧
    task.assigneeAgentId = some agentId

/-- A task that is not over is blocked on another one that is not over. -/
def WaitsFor (db : Db) (taskId blockerId : String) : Prop :=
  ∃ task ∈ db.tasks.lookup taskId, ¬ task.status.Terminal ∧ task.blockedOn = some blockerId ∧
    ∃ blocker ∈ db.tasks.lookup blockerId, ¬ blocker.status.Terminal

instance (db : Db) (taskId agentId : String) : Decidable (InProgress db taskId agentId) :=
  inferInstanceAs (Decidable (∃ task ∈ db.tasks.lookup taskId, _))

instance (db : Db) (taskId blockerId : String) : Decidable (WaitsFor db taskId blockerId) :=
  inferInstanceAs (Decidable (∃ task ∈ db.tasks.lookup taskId, _))

/-- The tables show who is at work on what. -/
theorem running_iff {s : LoopState} {taskId agentId : String} :
    s.board.Running taskId agentId ↔ InProgress s.db taskId agentId := by
  constructor
  · rintro ⟨c, hc, hstatus, hassignee⟩
    obtain ⟨task, htask, rfl⟩ := Db.card_eq_some_iff.mp hc
    exact ⟨task, htask, hstatus, hassignee⟩
  · rintro ⟨task, htask, hstatus, hassignee⟩
    exact ⟨task.card, card_of_lookup htask, hstatus, hassignee⟩

/-- The tables show who waits for whom. -/
theorem waits_eq {s : LoopState} : s.board.Waits = WaitsFor s.db := by
  funext taskId blockerId
  apply propext
  constructor
  · rintro ⟨⟨c, hc, hopen, hblocked⟩, d, hd, hopen'⟩
    obtain ⟨task, htask, rfl⟩ := Db.card_eq_some_iff.mp hc
    obtain ⟨blocker, hblocker, rfl⟩ := Db.card_eq_some_iff.mp hd
    exact ⟨task, htask, hopen, hblocked, blocker, hblocker, hopen'⟩
  · rintro ⟨task, htask, hopen, hblocked, blocker, hblocker, hopen'⟩
    exact ⟨⟨task.card, card_of_lookup htask, hopen, hblocked⟩, blocker.card,
      card_of_lookup hblocker, hopen'⟩

end Cliptown.Task
