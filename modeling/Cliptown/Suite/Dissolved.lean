import Cliptown.Suite.Messages
import Cliptown.Task.Ready
import Cliptown.Task.StatusChanges
import Cliptown.Task.Tenancy

/-!
# What a dissolved startup is given to do

The dispatch query does not look at the status of a startup, and the loop hears of a dissolved one only when its
workers have been stopped. Until then the avatars are there, and ticks go on.

* `DissolveState`, `dissolveSystem` — the loop, the status of the startups, and those still to be released.
* `Tenanted` — the invariant: the avatars of agents of a dissolved startup are there only while it is still to be
  released.
* `NoneReady` — no tick finds a ready task of a dissolved startup that is still to be released.
* `GivesNoWork` — no tick starts a task of a dissolved startup, tells a worker of one, or spawns a worker for one.
* `gives_no_work_iff` — a run gives no work exactly when its ticks find nothing ready in that time.
-/

namespace Cliptown.Suite

open Cliptown.Lib Cliptown.Town Cliptown.World Cliptown.Task Cliptown.Console Cliptown.Worker

/-! ### Deleting while the loop ticks -/

/-- The loop with its layout, the status of the startups and their rooms; and the startups whose `DELETE` has
committed, and which the loop has not been told to release. -/
structure DissolveState where
  loop : LoopState
  layout : TownLayout
  statuses : Table String StartupStatus
  rooms : Table String RoomRow
  releasing : List String

namespace DissolveState

/-- The tables. -/
def town (s : DissolveState) : TownDb :=
  ⟨s.loop.db, s.statuses, s.rooms⟩

/-- The loop reads its own layout. -/
def config (cfg : Config) (s : DissolveState) : Config :=
  { cfg with layout := s.layout }

/-- A handler has committed, and its workers are still to be stopped. -/
def committed (s : DissolveState) (startupId : String) (d : TownDb) : DissolveState where
  __ := s
  loop := { s.loop with db := d.db }
  statuses := d.statuses
  rooms := d.rooms
  releasing := s.releasing ++ [startupId]

/-- The loop is told. -/
def release (s : DissolveState) (startupId : String) : DissolveState :=
  if startupId ∈ s.releasing then
    let (layout, world) := (SuiteMessage.releaseSuite startupId).apply s.layout s.loop.world
    { s with layout, loop := { s.loop with world }, releasing := s.releasing.erase startupId }
  else s

end DissolveState

/-- A request to the loop, a `DELETE` up to its commit, or the message that it ends with. -/
inductive DissolveEvent where
  | request (l : LoopEvent)
  | delete (identity : Option OperatorIdentity) (startupId : String)
  | release (startupId : String)

section Events

variable (cfg : Config) (sqlText : String)

/-- The state after an event. -/
def DissolveEvent.apply (s : DissolveState) : DissolveEvent → DissolveState
  | .request l => { s with loop := l.apply (s.config cfg) s.loop }
  | .delete identity startupId =>
      match (deleteStartup sqlText identity startupId).exec s.town with
      | (.dissolved id, d) => s.committed id d
      | _ => s
  | .release startupId => s.release startupId

/-- Nobody of a dissolved startup is in the world unless the startup is still to be released; tasks are assigned
within their startup, and avatars agree with agents. -/
structure Tenanted (s : DissolveState) : Prop where
  matched : AvatarsMatch s.loop
  home : AssignedAtHome s.loop.db
  present : ∀ key agent, (s.loop.world.avatars.lookup key).isSome → s.loop.db.agents.lookup key = some agent →
    s.statuses.lookup agent.startupId = some .dissolved → agent.startupId ∈ s.releasing

/-- The runs, from any state in which nothing is still to be released. -/
def dissolveSystem : System DissolveState DissolveEvent where
  init s := Tenanted s ∧ s.releasing = []
  step s e t := t = e.apply cfg sqlText s

/-- A tick makes no attempt to hand over a task of a dissolved startup, and no task of it is in progress afterwards
that was not before. -/
def GivesNoWork (s : DissolveState) : DissolveEvent → Prop
  | .request (.tick env) => ∀ S, s.statuses.lookup S = some .dissolved →
      (∀ a ∈ tickAttempts (s.config cfg) env (afterMoves env s.loop), a.task.startupId ≠ S) ∧
        ∀ taskId task, (loopTick (s.config cfg) env s.loop).db.tasks.lookup taskId = some task →
          task.startupId = S → task.status = .inProgress →
            ∃ before, s.loop.db.tasks.lookup taskId = some before ∧ before.status = .inProgress
  | _ => True

/-- When a tick comes, no queued task is ready of a startup that is dissolved and still to be released. -/
def NoneReady (s : DissolveState) : DissolveEvent → Prop
  | .request (.tick env) => ∀ S ∈ s.releasing, s.statuses.lookup S = some .dissolved →
      ∀ task ∈ queuedTasks env s.loop.db, task.startupId = S → ¬ Ready (s.config cfg) (afterMoves env s.loop) task
  | _ => True

end Events

section Runs

variable {cfg : Config} {sqlText : String} {s t : DissolveState} {e : DissolveEvent}

/-! ### The invariant -/

/-- A statement of the loop brings nobody of another startup into the world. -/
theorem Tenanted.statement {party : Party} {astray : Prop} {loop : LoopState} (hs : Tenanted s)
    (h : Statement party astray s.loop loop) : Tenanted { s with loop } where
  matched := h.avatarsMatch hs.matched
  home := h.assignedAtHome hs.matched hs.home
  present key agent' havatar hagent' hdissolved := by
    obtain ⟨avatar', havatar'⟩ := Option.isSome_iff_exists.mp havatar
    obtain ⟨agent, hagent, hsame⟩ := h.agent_of hagent'
    have hstartup : agent.startupId = agent'.startupId := congrArg Prod.fst hsame
    rcases h.avatar_of havatar' with ⟨avatar, hbefore, -⟩ | ⟨hkey, -⟩
    · rw [← hstartup] at hdissolved ⊢
      exact hs.present key agent (by simp [hbefore]) hagent hdissolved
    · rw [hkey, s.loop.db.agentIds] at hagent
      exact absurd hagent (by simp)

/-- Neither does a request. -/
theorem Tenanted.request (hs : Tenanted s) (l : LoopEvent) :
    Tenanted { s with loop := l.apply (s.config cfg) s.loop } := by
  have hrun := apply_statements (s.config cfg) s.loop l
  generalize l.apply (s.config cfg) s.loop = loop at hrun
  induction hrun with
  | refl => exact hs
  | tail _ hstatement ih => exact ih.statement hstatement

/-- **A `DELETE`** is refused, or the startup is dissolved, has no room any more, and is still to be released. -/
theorem delete_cases (identity : Option OperatorIdentity) (startupId : String) :
    (DissolveEvent.delete identity startupId).apply cfg sqlText s = s ∨
      (DissolveEvent.delete identity startupId).apply cfg sqlText s =
        s.committed startupId ((s.town.dissolve startupId).freeRooms startupId) := by
  unfold DissolveEvent.apply deleteStartup
  cases identity with
  | none => exact .inl rfl
  | some identity =>
      simp only [Request.exec]
      split
      · rename_i id d heq
        split at heq
        · exact absurd heq (by simp [Request.exec])
        · simp only [Request.exec, Script.exec, Prod.mk.injEq, Outcome.dissolved.injEq] at heq
          obtain ⟨rfl, rfl⟩ := heq
          exact .inr rfl
      · exact .inl rfl

/-- A startup that is dissolved is still to be released. -/
theorem Tenanted.committed (hs : Tenanted s) (startupId : String) :
    Tenanted (s.committed startupId ((s.town.dissolve startupId).freeRooms startupId)) where
  matched := hs.matched
  home := hs.home
  present key agent havatar hagent hdissolved := by
    by_cases hid : agent.startupId = startupId
    · exact List.mem_append_right _ (by simp [hid])
    · have hsame : (s.statuses.modify startupId fun _ => .dissolved).lookup agent.startupId =
          s.statuses.lookup agent.startupId := Table.lookup_modify_ne _ hid _
      exact List.mem_append_left _ (hs.present key agent havatar hagent (hsame ▸ hdissolved))

/-- When it is released, its avatars go. -/
theorem Tenanted.release (hs : Tenanted s) (startupId : String) : Tenanted (s.release startupId) := by
  unfold DissolveState.release
  split
  · have hkept : ∀ key avatar,
        (s.loop.world.avatars.deleteWhere fun _ a => decide (a.startupId = startupId)).lookup key = some avatar →
          s.loop.world.avatars.lookup key = some avatar ∧ avatar.startupId ≠ startupId := by
      intro key avatar havatar
      obtain ⟨hbefore, hne⟩ := Table.of_lookup_deleteWhere havatar
      exact ⟨hbefore, of_decide_eq_false hne⟩
    refine ⟨fun key avatar agent havatar hagent => ?_, hs.home, fun key agent havatar hagent hdissolved => ?_⟩
    · exact hs.matched key avatar agent (hkept key avatar havatar).1 hagent
    · obtain ⟨avatar, havatar⟩ := Option.isSome_iff_exists.mp havatar
      obtain ⟨hbefore, hne⟩ := hkept key avatar havatar
      have hsame := (hs.matched key avatar agent hbefore (.inl hagent)).1
      refine (List.mem_erase_of_ne (hsame ▸ hne)).mpr ?_
      exact hs.present key agent (by simp [hbefore]) hagent hdissolved
  · exact hs

/-- **Every event** keeps the invariant. -/
theorem Tenanted.apply (hs : Tenanted s) (e : DissolveEvent) : Tenanted (e.apply cfg sqlText s) := by
  cases e with
  | request l => exact hs.request l
  | delete identity startupId =>
      rcases delete_cases identity startupId with heq | heq
      · rw [heq]
        exact hs
      · rw [heq]
        exact hs.committed startupId
  | release startupId => exact hs.release startupId

/-! ### One tick -/

/-- The startup of a row is that of its task. -/
theorem startupId_of_mem_queuedTasks {env : Env} {db : Db} {task : QueuedTask} (h : task ∈ queuedTasks env db) :
    ∃ t, db.tasks.lookup task.id = some t ∧ t.assigneeAgentId = some task.assigneeAgentId ∧
      t.startupId = task.startupId := by
  obtain ⟨id, -, h⟩ := List.mem_filterMap.mp h
  obtain ⟨t, ht, hrow⟩ := Option.bind_eq_some_iff.mp h
  unfold queuedRow at hrow
  split at hrow
  · simp only [Option.bind_eq_bind, Option.bind_eq_some_iff, Option.pure_def, Option.some.injEq] at hrow
    obtain ⟨assignee, hassignee, agent, -, startup, -, rfl⟩ := hrow
    exact ⟨t, ht, hassignee, rfl⟩
  · exact absurd hrow (by simp)

/-- The agent of a row is of its startup. -/
theorem agentOf_of_mem_queuedTasks {env : Env} {db : Db} {task : QueuedTask} (hs : AssignedAtHome db)
    (h : task ∈ queuedTasks env db) : AgentOf db task.assigneeAgentId task.startupId := by
  obtain ⟨t, ht, hassignee, hstartup⟩ := startupId_of_mem_queuedTasks h
  exact hstartup ▸ hs task.id t task.assigneeAgentId ht hassignee

/-- A row that is ready has its avatar in the world. -/
theorem mem_releasing_of_ready {env : Env} {task : QueuedTask} (hs : Tenanted s)
    (htask : task ∈ queuedTasks env s.loop.db) (hready : Ready cfg (afterMoves env s.loop) task)
    (hdissolved : s.statuses.lookup task.startupId = some .dissolved) : task.startupId ∈ s.releasing := by
  obtain ⟨agent, hagent, hstartup⟩ := agentOf_of_mem_queuedTasks hs.home htask
  have hidle : statusOf s.loop.world task.assigneeAgentId = some .idle :=
    (congrFun (congrArg Board.avatar board_afterMoves) _).symm.trans hready.idle
  obtain ⟨avatar, havatar, -⟩ := Option.map_eq_some_iff.mp hidle
  rw [← hstartup] at hdissolved ⊢
  exact hs.present _ agent (by simp [havatar]) hagent hdissolved

/-- **One tick** gives a startup work exactly when one of its queued tasks is ready. -/
theorem attempts_tick_iff {env : Env} (hs : Tenanted s) (S : String) :
    (∃ a ∈ tickAttempts cfg env (afterMoves env s.loop), a.task.startupId = S) ↔
      ∃ task ∈ queuedTasks env s.loop.db, task.startupId = S ∧ Ready cfg (afterMoves env s.loop) task := by
  have hdb : (afterMoves env s.loop).db = s.loop.db := db_afterMoves
  unfold tickAttempts
  rw [hdb]
  refine attempts_for_iff S _ _ (hdb ▸ pending_queuedTasks env (afterMoves env s.loop)) ?_
  intro row hrow other hother hagent
  obtain ⟨agent, hlookup, hstartup⟩ := agentOf_of_mem_queuedTasks hs.home hrow
  obtain ⟨agent', hlookup', hstartup'⟩ := agentOf_of_mem_queuedTasks hs.home hother
  obtain rfl := Option.some.inj ((hagent ▸ hlookup).symm.trans hlookup')
  exact hstartup.symm.trans hstartup'

/-- **The condition is exact**, event by event. -/
theorem givesNoWork_iff (hs : Tenanted s) (e : DissolveEvent) : GivesNoWork cfg s e ↔ NoneReady cfg s e := by
  cases e with
  | delete | release => exact Iff.rfl
  | request l =>
      cases l with
      | tick env =>
          constructor
          · intro h S _ hdissolved task htask hS hready
            obtain ⟨a, ha, haS⟩ := (attempts_tick_iff hs S).mpr ⟨task, htask, hS, hready⟩
            exact (h S hdissolved).1 a ha haS
          · intro h S hdissolved
            have hnone : ∀ a ∈ tickAttempts (s.config cfg) env (afterMoves env s.loop), a.task.startupId ≠ S := by
              intro a ha haS
              obtain ⟨task, htask, rfl, hready⟩ := (attempts_tick_iff hs S).mp ⟨a, ha, haS⟩
              exact h _ (mem_releasing_of_ready hs htask hready hdissolved) hdissolved task htask rfl hready
            refine ⟨hnone, fun taskId task htask hS hprogress => ?_⟩
            have hstarted : ∀ a ∈ tickAttempts (s.config cfg) env (afterMoves env s.loop), a.task.id ≠ taskId := by
              rintro a ha rfl
              obtain ⟨rows, rest, hrows, -⟩ := made_of_mem_attempts _ _ a ha
              have hmem : a.task ∈ queuedTasks env (afterMoves env s.loop).db := by
                rw [hrows]
                exact List.mem_append_right _ List.mem_cons_self
              rw [db_afterMoves] at hmem
              obtain ⟨before, hbefore, -, hstartup⟩ := startupId_of_mem_queuedTasks hmem
              have htick : Statements .scheduler False s.loop (loopTick (s.config cfg) env s.loop) :=
                loopTick_statements (s.config cfg) env s.loop
              obtain ⟨after, hafter, hkept⟩ := htick.taskIn ⟨before, hbefore, hstartup⟩
              obtain rfl := Option.some.inj (htask.symm.trans hafter)
              exact hnone a ha (hkept.symm.trans hS)
            have htick := inProgress_of_tick hstarted htask hprogress
            rwa [db_afterMoves] at htick
      | _ => exact Iff.rfl

/-! ### Runs -/

/-- **A dissolved startup is given no work**, in a run from a state in which nothing is still to be released, exactly
when no tick of the run finds a ready task of a startup that is dissolved and still to be released. -/
theorem gives_no_work_iff {es : List DissolveEvent} (hinit : (dissolveSystem cfg sqlText).init s) :
    Run ((dissolveSystem cfg sqlText).restrict (GivesNoWork cfg)).step s es t ↔
      Run ((dissolveSystem cfg sqlText).restrict (NoneReady cfg)).step s es t := by
  have hs := hinit.1
  clear hinit
  induction es generalizing s with
  | nil =>
      constructor <;> rintro ⟨⟩
      · exact .nil _
      · exact .nil _
  | cons e es ih =>
      constructor
      · intro h
        obtain ⟨u, ⟨hnone, rfl⟩, hrest⟩ := h.cons_inv
        exact .cons ⟨(givesNoWork_iff hs e).mp hnone, rfl⟩ ((ih (hs.apply e)).mp hrest)
      · intro h
        obtain ⟨u, ⟨hnone, rfl⟩, hrest⟩ := h.cons_inv
        exact .cons ⟨(givesNoWork_iff hs e).mpr hnone, rfl⟩ ((ih (hs.apply e)).mpr hrest)

end Runs

/-- The startup in its suite, before it is given anything to do. -/
def suiteTaken : DissolveState where
  loop := sampleStartup.state
  layout := claimIn defaultTown "suite_1" "s-1"
  statuses := Table.ofList [("s-1", .active)]
  rooms := (seededTown.claimRoom "s-1" "suite_1").rooms
  releasing := []

theorem suiteTaken_init : (dissolveSystem sampleConfig "sql").init suiteTaken := by
  refine ⟨⟨sampleStartup.avatarsMatch, assignedAtHome_of_init (sampleStartup.init sampleConfig), ?_⟩, rfl⟩
  intro key agent _ _ hdissolved
  have hactive := Table.mem_of_lookup_ofList hdissolved
  exact absurd hactive (by simp)

/-- The engineer has a task when the startup is dissolved. A tick comes before the loop is told of it, when the worker
is not there, and another one after that, when it is. -/
def dissolvedInTime : List DissolveEvent :=
  [.request (sampleCreate 1 "1" (some "a-2")), .delete (some sampleAdmin) "s-1", .request (.tick (sampleEnv 2 "t")),
    .release "s-1", .request (.registerWorker "a-2"), .request (.tick (sampleEnv 3 "u"))]

/-- The startup that is dissolved in time is given no work. -/
theorem gives_no_work_without_worker :
    ∃ t, Run ((dissolveSystem sampleConfig "sql").restrict (GivesNoWork sampleConfig)).step suiteTaken
      dissolvedInTime t := by
  have hready : ∃ t, Run ((dissolveSystem sampleConfig "sql").restrict (NoneReady sampleConfig)).step suiteTaken
      dissolvedInTime t := by
    refine ⟨_, .cons ⟨trivial, rfl⟩ (.cons ⟨trivial, rfl⟩ (.cons ⟨?_, rfl⟩
      (.cons ⟨trivial, rfl⟩ (.cons ⟨trivial, rfl⟩ (.single ⟨?_, rfl⟩)))))⟩
    · intro S _ _ task _ _ hready
      have hworker : task.assigneeAgentId ∈ ([] : List String) := of_decide_eq_true hready.worker
      exact absurd hworker List.not_mem_nil
    · intro S hS
      have hnone : S ∈ ([] : List String) := hS
      exact absurd hnone List.not_mem_nil
  obtain ⟨t, hrun⟩ := hready
  exact ⟨t, (gives_no_work_iff suiteTaken_init).mpr hrun⟩

/-- **A tick between the commit and the message**: the startup is dissolved, and its engineer is handed a task. -/
theorem gives_work :
    ¬ ∀ (cfg : Config) (sqlText : String) (s t : DissolveState) (es : List DissolveEvent),
      (dissolveSystem cfg sqlText).init s → Run (dissolveSystem cfg sqlText).step s es t →
        Run ((dissolveSystem cfg sqlText).restrict (GivesNoWork cfg)).step s es t := by
  intro h
  have hrun := h sampleConfig "sql" suiteTaken _
    [.request (sampleCreate 1 "1" (some "a-2")), .request (.registerWorker "a-2"),
      .delete (some sampleAdmin) "s-1", .request (.tick (sampleEnv 2 "t"))]
    suiteTaken_init (.cons rfl (.cons rfl (.cons rfl (.single rfl))))
  obtain ⟨u, ⟨-, rfl⟩, hrun⟩ := hrun.cons_inv
  obtain ⟨u, ⟨-, rfl⟩, hrun⟩ := hrun.cons_inv
  obtain ⟨u, ⟨-, rfl⟩, hrun⟩ := hrun.cons_inv
  obtain ⟨u, ⟨hnone, -⟩, -⟩ := hrun.cons_inv
  obtain ⟨hattempts, -⟩ := hnone "s-1" (by decide +kernel)
  revert hattempts
  decide +kernel

end Cliptown.Suite
