import Cliptown.Budget.Pause
import Cliptown.Task.LoopEffects
import Cliptown.Task.Proximity
import Cliptown.Task.Rounds

/-!
# What is pushed to the workers

* `LoopMessage`, `messageSystem` — requests, each tick with the news of the rooms at its end; reports and caps; and
  the move intents of workers.
* `Conforms` — a frame is a message of the protocol; `not_conforms_proximityTick` — the news of a room are not.
* `conforms_callFrame`, `conforms_tickFrame`, … — other frames are.
* `RoundsFit` — the rounds of reviews are numbers in 32 bits.
* `LoopMessage.NewsTaken` — a tick at which a worker takes the news of its room.
* `conforming_iff`, `run_conforming_iff` — the frames of a step, and of all steps of a run, conform exactly if no
  worker takes such news.
-/

namespace Cliptown.Budget

open Cliptown.Lib Cliptown.Task Cliptown.Town Cliptown.World Cliptown.Console Cliptown.Worker

/-! ### Messages -/

/-- The frame for a move that fails. -/
def moveFailed (reason : String) : Json :=
  .obj [("type", .str "move_failed"), ("v", .int 1), ("reason", .str reason)]

/-- A worker asks for a move of its avatar. Source: `cmd_worker.rs` `dispatch`, `WorkerInbound::MoveIntent` -/
def moveIntent (cfg : Config) (env : Env) (s : LoopState) (agentId targetRoom : String) (target : Tile) :
    Json × LoopState :=
  let (result, world, paths) := startMove cfg.astar s.world s.paths cfg.layout (graphFromLayout cfg.layout)
    agentId targetRoom target
  let s := { s with world, paths }
  match result with
  | .ok => (.obj [("type", .str "ok"), ("kind", .str "move_intent")], s)
  | .noPath => (.obj [("type", .str "error"), ("reason", .str "no_path")],
      s.push env agentId (moveFailed "no_path"))
  | .permissionDenied => (.obj [("type", .str "error"), ("reason", .str "no_permission")],
      s.push env agentId (moveFailed "no_permission"))
  | .noSuchAgent => (.obj [("type", .str "error"), ("reason", .str "unknown_agent")], s)

/-- What the loop is asked to do. -/
inductive LoopMessage where
  | request (l : LoopEvent)
  | budget (action : BudgetAction)
  | moveIntent (env : Env) (agentId targetRoom : String) (target : Tile)

/-- The end of a tick. Source: `loop_.rs` `spawn_with_layout`, `Cmd::Tick` -/
def tellPeers (s : LoopState) : LoopEvent → LoopState
  | .tick env => computeAndEmit env s
  | _ => s

/-- The state after a message. -/
def LoopMessage.apply (cfg : Config) (st : BudgetState) : LoopMessage → BudgetState
  | .request l => { st with loop := tellPeers (l.apply cfg st.loop) l }
  | .budget action => action.apply st
  | .moveIntent env agentId targetRoom target =>
      { st with loop := (Budget.moveIntent cfg env st.loop agentId targetRoom target).2 }

/-- Messages in any order. -/
def messageSystem (cfg : Config) : System BudgetState LoopMessage where
  init st := (loopSystem cfg).init st.loop
  step st l st' := st' = l.apply cfg st

/-- A frame is read as a message of the protocol with the same content. -/
def Conforms (frame : Json) : Prop :=
  ∃ m, Conveys frame m

/-- What is pushed in a step conforms. -/
def Conforming (st : BudgetState) (_l : LoopMessage) (st' : BudgetState) : Prop :=
  Appends LoopState.frames (fun f => Conforms f.2) st.loop st'.loop

/-- A worker is registered for an avatar, and takes the news of the room where the avatar is after the movement of
the tick. -/
def LoopMessage.NewsTaken (st : BudgetState) : LoopMessage → Prop
  | .request (.tick env) => ∃ id a, (stepAll st.loop.world st.loop.paths).1.avatars.lookup id = some a ∧
      a.agentId ∈ st.loop.outBus ∧ env.trySend a.agentId (proximityTick a.roomId
        (membersOf env (stepAll st.loop.world st.loop.paths).1 a.roomId)) = .ok
  | _ => False

/-! ### Frames -/

section Frames

variable {env : Env} {s : LoopState} {caller : AvatarView} {agentId : String} {frame : Json}

/-- **The news of a room** are not a message of the protocol: there are no `members`. -/
theorem not_conforms_proximityTick (roomId : String) (members : List AvatarView) :
    ¬ Conforms (proximityTick roomId members) := by
  rintro ⟨m, hconveys⟩
  have hreads := hconveys.reads
  have hnone : WorkerOutbound.ofJson (proximityTick roomId members) = none := by rfl
  exact absurd (hnone.symm.trans hreads) (by simp)

/-- What is written from a message conforms. -/
theorem conforms_toJson (m : WorkerOutbound) : Conforms m.toJson :=
  ⟨m, conveys_toJson m⟩

/-- The rounds of reviews that a table shows are bounded. -/
def RoundsFit (s : LoopState) : Prop :=
  ∀ id row, s.db.tasks.lookup id = some row → row.reviewRound ≤ maxReviewRounds

/-- A number of 32 bits. -/
theorem toNat_ofNat_u32 {n : ℕ} (h : n < 4294967296) : (UInt32.ofNat n).toNat = n :=
  UInt32.toNat_ofNat_of_lt' h

/-- Frames of calls. -/
theorem conforms_callFrame (hfit : RoundsFit s) (h : CallFrame env s caller agentId frame) :
    Conforms frame := by
  cases h with
  | chat => exact conforms_toJson (.chatReceived 1 caller.agentId _ caller.roomId)
  | @directive recipient body hcheck =>
      refine ⟨.directive 1 caller.agentId body none, conveys_of_written rfl ?_⟩
      simp only [WorkerOutbound.fields, version, List.forall_mem_cons]
      exact ⟨.inl rfl, .inl rfl, .inl rfl, .inr ⟨rfl, by decide, rfl⟩, by simp⟩
  | @sendBack taskId assignee feedback task =>
      exact conforms_toJson (.directive 1 caller.agentId feedback (some taskId))
  | @subtaskDone taskId parentId manager artifactPath task htask =>
      have hround := hfit taskId task htask
      have hwritten := conforms_toJson
        (.subtaskDone 1 parentId taskId artifactPath (UInt32.ofNat task.reviewRound))
      simp only [WorkerOutbound.toJson, WorkerOutbound.fields, version] at hwritten
      rw [toNat_ofNat_u32 (by unfold maxReviewRounds at hround; omega)] at hwritten
      exact hwritten
  | @subtaskProposed parentId manager title description =>
      refine ⟨.subtaskProposed 1 parentId env.newId caller.agentId title description none,
        conveys_of_written rfl ?_⟩
      simp only [WorkerOutbound.fields, version, List.forall_mem_cons]
      exact ⟨.inl rfl, .inl rfl, .inl rfl, .inl rfl, .inl rfl, .inl rfl, .inr ⟨rfl, by decide, rfl⟩, by simp⟩

/-- Frames of operators. -/
theorem conforms_consoleFrame (h : ConsoleFrame agentId frame) : Conforms frame := by
  cases h with
  | @directive body messageId =>
      refine ⟨.directive 1 "operator" body none, conveys_of_written rfl ?_⟩
      simp only [WorkerOutbound.fields, version, List.forall_mem_cons]
      exact ⟨.inl rfl, .inl rfl, .inl rfl, .inr ⟨rfl, by decide, rfl⟩, by simp⟩

/-- Frames of ticks, without the news. -/
theorem conforms_tickFrame (h : TickFrame agentId frame) : Conforms frame := by
  cases h with
  | moveComplete => exact conforms_toJson (.moveComplete 1 _)
  | @taskAssigned task =>
      exact conforms_toJson (.taskAssigned 1 task.id task.title task.description task.requiredRoom
        task.parentId task.preferredBackend task.preferredModel)

/-- Frames of warnings. -/
theorem conforms_warning (remainingUsd : ℚ) {percentUsed : ℕ} (h : percentUsed < 4294967296) :
    Conforms (.obj [("type", .str "budget_warning"), ("v", .int 1), ("remaining_usd", .float remainingUsd),
      ("percent_used", .int percentUsed)]) := by
  have hwritten := conforms_toJson (.budgetWarning 1 remainingUsd (UInt32.ofNat percentUsed))
  simp only [WorkerOutbound.toJson, WorkerOutbound.fields, version] at hwritten
  rw [toNat_ofNat_u32 h] at hwritten
  exact hwritten

end Frames

section Steps

variable {cfg : Config} {env : Env} {s : LoopState} {st : BudgetState}

/-! ### Steps -/

/-- A frame that is pushed. -/
theorem appends_push {P : Json → Prop} {agentId : String} {frame : Json} (h : P frame) :
    Appends LoopState.frames (fun f => P f.2) s (s.push env agentId frame) := by
  unfold LoopState.push
  split
  · exact .single rfl h
  · exact .refl s

/-- **Any request**, without the news. -/
theorem appends_apply (cfg : Config) (hfit : RoundsFit s) (l : LoopEvent) :
    Appends LoopState.frames (fun f => Conforms f.2) s (l.apply cfg s) := by
  refine (apply_effects cfg s l).frames.mono fun f hf => ?_
  cases l with
  | tick env => exact conforms_tickFrame hf
  | mcp env agentId msg =>
      obtain ⟨caller, -, hframe⟩ := hf
      exact conforms_callFrame hfit hframe
  | console env identity cmd => exact conforms_consoleFrame hf
  | _ => exact hf.elim

/-- **The news at the end of a tick** conform only if nobody takes them. -/
theorem appends_computeAndEmit_iff :
    Appends LoopState.frames (fun f => Conforms f.2) s (computeAndEmit env s) ↔
      ∀ f ∈ proximityFrames env s.world, ¬ (f.1 ∈ s.outBus ∧ env.trySend f.1 f.2 = .ok) := by
  have hframes := frames_foldl_push env (proximityFrames env s.world) s
  constructor
  · rintro ⟨new, hnew, hconform⟩ f hf htaken
    have hsame := List.append_cancel_left (hnew.symm.trans hframes)
    have hmem : f ∈ new := by
      rw [hsame]
      exact List.mem_filter.mpr ⟨hf, by simpa using htaken⟩
    obtain ⟨id, a, -, rfl⟩ := mem_proximityFrames.mp hf
    exact not_conforms_proximityTick _ _ (hconform _ hmem)
  · intro hnone
    refine .of_eq (hframes.trans ?_)
    rw [List.filter_eq_nil_iff.mpr fun f hf => by simpa using hnone f hf, List.append_nil]

/-- Whether a worker takes the news can be told before the scheduler runs. -/
theorem newsTaken_tick_iff : (LoopMessage.request (.tick env)).NewsTaken st ↔
    ∃ f ∈ proximityFrames env (loopTick cfg env st.loop).world,
      f.1 ∈ (loopTick cfg env st.loop).outBus ∧ env.trySend f.1 f.2 = .ok := by
  have hplaces := samePlaces_loopTick cfg env st.loop
  rw [proximityFrames_congr hplaces.places, hplaces.workers]
  constructor
  · rintro ⟨id, a, ha, hbus, hsend⟩
    exact ⟨_, mem_proximityFrames.mpr ⟨id, a, ha, rfl⟩, hbus, hsend⟩
  · rintro ⟨f, hf, hbus, hsend⟩
    obtain ⟨id, a, ha, rfl⟩ := mem_proximityFrames.mp hf
    exact ⟨id, a, ha, hbus, hsend⟩

/-- Announcements of a threshold. -/
theorem appends_announce (startupId : String) (threshold : Threshold) (spent cap : ℚ) :
    Appends LoopState.frames (fun f => Conforms f.2) s (announce env s startupId threshold spent cap) := by
  have hbroadcast : ∀ {frame : Json}, Conforms frame → Appends LoopState.frames (fun f => Conforms f.2) s
      (broadcast env (recordThresholdEvent env s startupId threshold spent cap) startupId frame) := by
    intro frame hframe
    exact Appends.foldl _ (fun agentId _ s => appends_push hframe) _
  have hpercent : (if 0 < cap then asU32 (spent / cap * 100) else 0) < 4294967296 := by
    unfold asU32
    split <;> omega
  cases threshold
  case warn80 => exact hbroadcast (conforms_warning _ hpercent)
  case warn95 => exact hbroadcast (conforms_warning _ hpercent)
  case pause100 => exact hbroadcast (conforms_toJson (.pause 1 "budget_exhausted"))

/-- A note of a variance sends nothing. -/
theorem frames_noteVariance (startupId : String) (r : Report) :
    (noteVariance env s startupId r).frames = s.frames := by
  unfold noteVariance
  split
  · split
    · dsimp only
      split <;> rfl
    · rfl
  · rfl

/-- **A report** pushes what it announces. -/
theorem appends_reportBudget (agentId : String) (r : Report) :
    Appends LoopState.frames (fun f => Conforms f.2) st.loop (reportBudget env st agentId r).2.loop := by
  unfold reportBudget
  split
  · exact .refl _
  · rename_i avatar _
    obtain ⟨db, hdb⟩ := loop_applyReport env st avatar.startupId agentId r
    dsimp only
    have hnote : Appends LoopState.frames (fun f => Conforms f.2) st.loop
        (noteVariance env (applyReport env st avatar.startupId agentId r).2.loop avatar.startupId r) :=
      .of_eq (by rw [frames_noteVariance, hdb])
    split
    · exact hnote.trans (appends_announce _ _ _ _)
    · exact hnote

/-- **A move intent** pushes at most that it has failed. -/
theorem appends_moveIntent (agentId targetRoom : String) (target : Tile) :
    Appends LoopState.frames (fun f => Conforms f.2) s
      (moveIntent cfg env s agentId targetRoom target).2 := by
  have hfailed : ∀ (s : LoopState) (reason : String),
      Appends LoopState.frames (fun f => Conforms f.2) s (s.push env agentId (moveFailed reason)) :=
    fun s reason => appends_push (conforms_toJson (.moveFailed 1 reason))
  unfold moveIntent
  generalize startMove cfg.astar s.world s.paths cfg.layout (graphFromLayout cfg.layout) agentId
    targetRoom target = r
  obtain ⟨result, world, paths⟩ := r
  have hmove : Appends LoopState.frames (fun f => Conforms f.2) s { s with world := world, paths := paths } :=
    .of_eq rfl
  cases result with
  | ok => exact hmove
  | noPath => exact hmove.trans (hfailed _ _)
  | permissionDenied => exact hmove.trans (hfailed _ _)
  | noSuchAgent => exact hmove

/-- **What a step pushes conforms** exactly if it is no tick at which a worker takes the news of its room. -/
theorem conforming_iff (hfit : RoundsFit st.loop) (l : LoopMessage) :
    Conforming st l (l.apply cfg st) ↔ ¬ l.NewsTaken st := by
  unfold Conforming
  cases l with
  | request l =>
      have hrequest := appends_apply cfg hfit l
      cases l with
      | tick env =>
          have hnews : Appends LoopState.frames (fun _ => True) (loopTick cfg env st.loop)
              (computeAndEmit env (loopTick cfg env st.loop)) :=
            Appends.foldl _ (fun f _ s => appends_push (P := fun _ => True) trivial) _
          have hparts := appends_trans_iff (P := fun f : String × Json => Conforms f.2)
            (hrequest.mono fun _ _ => trivial) hnews
          rw [newsTaken_tick_iff]
          refine hparts.trans ((and_iff_right hrequest).trans (appends_computeAndEmit_iff.trans ?_))
          push Not
          rfl
      | _ => exact iff_of_true hrequest id
  | budget action =>
      refine iff_of_true ?_ id
      cases action with
      | report m => exact appends_reportBudget m.agentId m.report
      | patch identity id budgetCapUsd =>
          refine .of_eq ?_
          simp only [LoopMessage.apply, BudgetAction.apply]
          unfold patchStartup
          split
          · rfl
          · split
            · rfl
            · split <;> rfl
  | moveIntent env agentId targetRoom target => exact iff_of_true (appends_moveIntent _ _ _) id

/-! ### Rounds of reviews -/

/-- Where the tasks are the same, so are the rounds. -/
theorem RoundsFit.of_tasks {s' : LoopState} (hfit : RoundsFit s) (h : s'.db.tasks = s.db.tasks) :
    RoundsFit s' := by
  unfold RoundsFit
  rw [h]
  exact hfit

/-- A request starts no round beyond the last. -/
theorem RoundsFit.apply (cfg : Config) (hfit : RoundsFit s) (l : LoopEvent) : RoundsFit (l.apply cfg s) := by
  intro id row hrow
  have hbefore : ∃ n, Counted n id s := by
    rcases ht : s.db.tasks.lookup id with _ | t
    · exact ⟨0, counted_iff.mpr ⟨fun _ => rfl, fun t ht' => absurd (ht.symm.trans ht') (by simp)⟩⟩
    · refine ⟨t.reviewRound, counted_iff.mpr ⟨fun hnone => absurd (hnone.symm.trans ht) (by simp), ?_⟩⟩
      intro t' ht'
      obtain rfl := Option.some.inj (ht.symm.trans ht')
      exact ⟨hfit id t ht, rfl⟩
  obtain ⟨n, hcounted⟩ := hbefore
  exact ((counted_iff.mp (hcounted.apply cfg l)).2 row hrow).1

theorem db_computeAndEmit : (computeAndEmit env s).db = s.db :=
  List.foldlRecOn (motive := fun t : LoopState => t.db = s.db) _ _ rfl fun _ ht _ _ => (db_push _ _).trans ht

/-- Reports and caps leave the tasks alone. -/
theorem tasks_budgetAction (action : BudgetAction) : (action.apply st).loop.db.tasks = st.loop.db.tasks := by
  cases action with
  | report m =>
      simp only [BudgetAction.apply]
      rcases havatar : st.loop.world.avatars.lookup m.agentId with _ | avatar
      · rw [show m.handle st = st from reportBudget_of_none havatar m.report]
      · obtain ⟨s, ⟨frames, events, rfl⟩, heq⟩ := reportBudget_eq m.env havatar m.report
        rw [show m.handle st = _ from heq]
        change (applyReport m.env st avatar.startupId m.agentId m.report).2.loop.db.tasks = _
        unfold applyReport
        split
        · rfl
        · dsimp only
          unfold recordBudgetEvent
          split <;> rfl
  | patch identity id budgetCapUsd =>
      simp only [BudgetAction.apply]
      unfold patchStartup
      split
      · rfl
      · split
        · rfl
        · split <;> rfl

/-- **Any message** keeps the rounds in bounds. -/
theorem roundsFit_apply (cfg : Config) (hfit : RoundsFit st.loop) (l : LoopMessage) :
    RoundsFit (l.apply cfg st).loop := by
  cases l with
  | request l =>
      have hrequest := hfit.apply cfg l
      cases l with
      | tick env => exact hrequest.of_tasks (congrArg Db.tasks db_computeAndEmit)
      | _ => exact hrequest
  | budget action => exact hfit.of_tasks (tasks_budgetAction action)
  | moveIntent env agentId targetRoom target =>
      refine hfit.of_tasks ?_
      simp only [LoopMessage.apply]
      unfold moveIntent
      generalize startMove cfg.astar st.loop.world st.loop.paths cfg.layout
        (graphFromLayout cfg.layout) agentId targetRoom target = r
      obtain ⟨result, world, paths⟩ := r
      cases result with
      | ok => rfl
      | noPath => exact congrArg Db.tasks (db_push _ _)
      | permissionDenied => exact congrArg Db.tasks (db_push _ _)
      | noSuchAgent => rfl

/-! ### Runs -/

/-- In every state that is reached the rounds are in bounds. -/
theorem roundsFit_of_reachable (h : (messageSystem cfg).Reachable st) : RoundsFit st.loop := by
  refine h.invariant (I := fun st => RoundsFit st.loop) (fun st hinit id row hrow => ?_) ?_
  · rw [hinit.1] at hrow
    exact absurd hrow (by simp)
  · rintro st l _ hfit rfl
    exact roundsFit_apply cfg hfit l

/-- **What a run pushes conforms** exactly if in none of its ticks a worker takes the news of its room. -/
theorem run_conforming_iff {ls : List LoopMessage} {st' : BudgetState}
    (h : (messageSystem cfg).Reachable st) :
    Run ((messageSystem cfg).restrict fun st l => ¬ l.NewsTaken st).step st ls st' ↔
      Run ((messageSystem cfg).keeping Conforming).step st ls st' := by
  refine System.run_restrict_iff_keeping (I := fun st => RoundsFit st.loop) ?_ ?_ (roundsFit_of_reachable h)
  · rintro st l _ rfl hfit
    exact conforming_iff hfit l
  · rintro st l _ rfl hfit -
    exact roundsFit_apply cfg hfit l

end Steps

/-- The engineer is given a task and a worker. -/
def readyMessages : List LoopMessage :=
  [.request (sampleCreate 1 "1" (some "a-2")), .request (.registerWorker "a-2")]

/-- The state after that. -/
noncomputable def readyState : BudgetState :=
  readyMessages.foldl (fun st l => l.apply sampleConfig st) freshBudget

/-- A moment at which channels have room for anything but news. -/
def noNewsEnv : Env :=
  { sampleEnv 4 "t" with
    trySend := fun _ frame => if frame.getStr "type" = some "proximity_tick" then .full else .ok }

theorem readyState_reachable : (messageSystem sampleConfig).Reachable readyState := by
  have hinit : (messageSystem sampleConfig).init freshBudget := sampleStartup.init sampleConfig
  have hrun : Run (messageSystem sampleConfig).step freshBudget readyMessages readyState :=
    .cons rfl (.cons rfl (.nil _))
  exact (System.Reachable.init hinit).run hrun

/-- The task is announced, and the news are dropped. -/
theorem run_conforming_announced :
    Run ((messageSystem sampleConfig).keeping Conforming).step readyState [.request (.tick noNewsEnv)]
        ((LoopMessage.request (.tick noNewsEnv)).apply sampleConfig readyState) ∧
      ((LoopMessage.request (.tick noNewsEnv)).apply sampleConfig readyState).loop.frames.length = 1 := by
  refine ⟨(run_conforming_iff readyState_reachable).mp (.single ⟨?_, rfl⟩), by decide +kernel⟩
  rintro ⟨id, a, -, -, hsend⟩
  have hfull : SendResult.full = SendResult.ok := hsend
  exact absurd hfull (by decide)

/-- **Not in every step**: the worker is told the news of its room. -/
theorem not_conforming :
    ¬ ∀ (cfg : Config) (st st' : BudgetState) (l : LoopMessage), (messageSystem cfg).Reachable st →
      (messageSystem cfg).step st l st' → Conforming st l st' := by
  intro h
  have hquiet := (conforming_iff (roundsFit_of_reachable readyState_reachable)
    (.request (.tick (sampleEnv 4 "t")))).mp (h sampleConfig _ _ _ readyState_reachable rfl)
  have htold : ∃ a ∈ (stepAll readyState.loop.world readyState.loop.paths).1.avatars.lookup "a-2",
      a.agentId ∈ readyState.loop.outBus := by
    decide +kernel
  obtain ⟨a, ha, hbus⟩ := htold
  exact hquiet ⟨"a-2", a, ha, hbus, rfl⟩

end Cliptown.Budget
