import Cliptown.Task.Assignments

/-!
# Rows that are ready

Which rows the dispatch loop tries to hand over can be told from the state in which it begins, startup by startup.

* `Ready` — a row that passes its gates; `exists_attempt_iff` — the loop makes an attempt for it when its turn comes.
* `SameScene` — what dispatching leaves alone; `ready_of_dispatchOne`, `ready_dispatchOne` — so a row stays ready
  until its agent is handed another task.
* `attempts_for_iff` — there are attempts for the tasks of a startup exactly when one of its rows is ready.
* `inProgress_of_tick` — a tick starts no task for which it makes no attempt; `running_of_tick` — what runs after it
  ran before, or was handed over.
-/

namespace Cliptown.Task

open Cliptown.Lib Cliptown.Town Cliptown.World Cliptown.Worker

/-- A row that passes its gates. -/
structure Ready (cfg : Config) (s : LoopState) (task : QueuedTask) : Prop where
  idle : statusOf s.world task.assigneeAgentId = some .idle
  inRoom : ∀ room, task.requiredRoom = some room →
    (s.world.avatars.lookup task.assigneeAgentId).map AvatarView.roomId = some room
  blocker : blockerOver s.db task.blockedOn
  budget : ¬ overBudget s.db task.assigneeAgentId
  worker : workerReady cfg s.outBus task.assigneeAgentId

/-- What dispatching leaves alone: where the avatars are, the agents and the startups, the workers that are
registered. -/
structure SameScene (s s' : LoopState) : Prop where
  rooms : ∀ x, (s'.world.avatars.lookup x).map AvatarView.roomId =
    (s.world.avatars.lookup x).map AvatarView.roomId
  agents : s'.db.agents = s.db.agents
  startups : s'.db.startups = s.db.startups
  workers : s'.outBus = s.outBus

section Scene

variable {cfg : Config} {env : Env} {s s' s'' : LoopState} {task : QueuedTask}

theorem SameScene.refl (s : LoopState) : SameScene s s :=
  ⟨fun _ => rfl, rfl, rfl, rfl⟩

theorem SameScene.trans (h : SameScene s s') (h' : SameScene s' s'') : SameScene s s'' :=
  ⟨fun x => (h'.rooms x).trans (h.rooms x), h'.agents.trans h.agents, h'.startups.trans h.startups,
    h'.workers.trans h.workers⟩

/-- A new status of an avatar does not move it. -/
theorem sameScene_setAvatarStatus (agentId : String) (status : AvatarStatus) :
    SameScene s (s.setAvatarStatus agentId status) where
  rooms x := by
    unfold LoopState.setAvatarStatus
    by_cases hx : x = agentId
    · rw [hx, WorldView.lookup_setAvatar_self, Option.map_map]
      rfl
    · rw [WorldView.lookup_setAvatar_ne _ hx]
  agents := rfl
  startups := rfl
  workers := rfl

theorem sameScene_clearBlocker : SameScene s (clearBlocker env s task) := by
  unfold clearBlocker
  split
  · cases hdb : s.db.relinkTask task.id fun t => { t with blockedOn := none } with
    | none => exact ⟨fun _ => rfl, rfl, rfl, rfl⟩
    | some db => exact ⟨fun _ => rfl, (onlyTasks_relinkTask hdb).agents, (onlyTasks_relinkTask hdb).startups, rfl⟩
  · exact .refl s

/-- A planned move does not move anyone yet. -/
theorem roomId_startMove (A : AStar) (w : WorldView) (paths : PathStore) (L : TownLayout)
    (g : RoomGraph) (agentId room : String) (target : Tile) (x : String) :
    ((startMove A w paths L g agentId room target).2.1.avatars.lookup x).map AvatarView.roomId =
      (w.avatars.lookup x).map AvatarView.roomId := by
  rcases startMove_world A w paths L g agentId room target with h | ⟨t, h⟩
  · rw [h]
  · rw [h]
    by_cases hx : x = agentId
    · rw [hx, WorldView.lookup_setAvatar_self, Option.map_map]
      rfl
    · rw [WorldView.lookup_setAvatar_ne _ hx]

theorem sameScene_approach (room : String) : SameScene s (approach cfg s task room) := by
  unfold approach
  split
  · exact ⟨fun x => roomId_startMove _ _ _ _ _ _ _ _ x, rfl, rfl, rfl⟩
  · exact .refl s

theorem sameScene_push (agentId : String) (frame : Json) : SameScene s (s.push env agentId frame) := by
  unfold LoopState.push
  split
  · exact ⟨fun _ => rfl, rfl, rfl, rfl⟩
  · exact .refl s

theorem sameScene_assign : SameScene s (assign cfg env s task) := by
  have hstart : SameScene s (startWork env s task) :=
    @SameScene.trans _ (s.setStatus env task.id .inProgress) _ ⟨fun _ => rfl, rfl, rfl, rfl⟩
      ((sameScene_setAvatarStatus task.assigneeAgentId .working).trans ⟨fun _ => rfl, rfl, rfl, rfl⟩)
  have hover : SameScene (startWork env s task) (handOver cfg env (startWork env s task) task).2 := by
    unfold handOver
    simp only
    split
    · exact .refl _
    · exact sameScene_push _ _
  rw [assign_eq]
  split
  · exact hstart.trans hover
  · have hback : SameScene (handOver cfg env (startWork env s task) task).2
        (rollBack env (handOver cfg env (startWork env s task) task).2 task) :=
      @SameScene.trans _ (LoopState.setStatus env _ task.id .queued) _ ⟨fun _ => rfl, rfl, rfl, rfl⟩
        (sameScene_setAvatarStatus task.assigneeAgentId .idle)
    exact (hstart.trans hover).trans hback

variable (cfg env s task) in
/-- **One row** leaves the scene alone. -/
theorem sameScene_dispatchOne : SameScene s (dispatchOne cfg env s task) := by
  rcases attempt_cases cfg env s task with ⟨-, heq | heq | ⟨room, heq⟩⟩ | ⟨a, -, heq, -, hbefore, -⟩
  · rw [heq]
    exact .refl s
  · rw [heq]
    exact sameScene_clearBlocker
  · rw [heq]
    exact sameScene_clearBlocker.trans (sameScene_approach room)
  · rw [heq, hbefore]
    exact sameScene_clearBlocker.trans sameScene_assign

theorem SameScene.overBudget (h : SameScene s s') (agentId : String) :
    overBudget s'.db agentId = overBudget s.db agentId := by
  unfold Task.overBudget
  rw [h.agents, h.startups]

end Scene

section Rows

variable {cfg : Config} {env : Env} {s : LoopState} {task row : QueuedTask}

/-! ### One row -/

theorem roomMissing_eq_none {avatar : AvatarView} :
    roomMissing task avatar = none ↔ ∀ room, task.requiredRoom = some room → avatar.roomId = room := by
  constructor
  · intro h room hroom
    exact roomId_of_roomMissing h hroom
  · intro h
    unfold roomMissing
    refine Option.filter_eq_none_iff.mpr fun room hroom => ?_
    simpa using h room hroom

/-- **An attempt is made for a row exactly when it is ready.** -/
theorem exists_attempt_iff : (∃ a, attemptOf cfg env s task = some a) ↔ Ready cfg s task := by
  have hscene : SameScene s (clearBlocker env s task) := sameScene_clearBlocker
  unfold attemptOf
  cases havatar : s.world.avatars.lookup task.assigneeAgentId with
  | none =>
      refine ⟨fun ⟨a, ha⟩ => absurd ha (by simp), fun h => ?_⟩
      have hidle := h.idle
      unfold statusOf at hidle
      rw [havatar] at hidle
      exact absurd hidle (by simp)
  | some avatar =>
      simp only
      constructor
      · rintro ⟨a, ha⟩
        split at ha
        · rename_i hgate
          split at ha
          · exact absurd ha (by simp)
          · rename_i hroom
            split at ha
            · rename_i hready
              exact
                { idle := Option.map_eq_some_iff.mpr ⟨avatar, havatar, hgate.1⟩
                  inRoom := fun room hrequired => by
                    rw [havatar]
                    exact congrArg some (roomMissing_eq_none.mp hroom room hrequired)
                  blocker := hgate.2
                  budget := hscene.overBudget _ ▸ hready.1
                  worker := hscene.workers ▸ hready.2 }
            · exact absurd ha (by simp)
        · exact absurd ha (by simp)
      · intro h
        have hidle : avatar.status = .idle := by
          obtain ⟨avatar', havatar', hidle⟩ := Option.map_eq_some_iff.mp h.idle
          obtain rfl := Option.some.inj (havatar.symm.trans havatar')
          exact hidle
        have hroom : roomMissing task avatar = none := by
          refine roomMissing_eq_none.mpr fun room hrequired => ?_
          have hin := h.inRoom room hrequired
          rw [havatar] at hin
          exact Option.some.inj hin
        rw [if_pos ⟨hidle, h.blocker⟩, hroom]
        simp only
        rw [if_pos ⟨(hscene.overBudget _).symm ▸ h.budget, hscene.workers.symm ▸ h.worker⟩]
        exact ⟨_, rfl⟩

variable (cfg env) in
/-- The card of a row afterwards: queued, or in progress after a hand-over, and of the same assignee. -/
theorem status_dispatchOne (h : Fresh s.board task) :
    ∃ c, (dispatchOne cfg env s task).board.card task.id = some c ∧ c.assignee = some task.assigneeAgentId ∧
      (c.status = .queued ∨ c.status = .inProgress ∧ ∃ a, attemptOf cfg env s task = some a ∧ a.handed) := by
  obtain ⟨-, hclear, -⟩ := clearBlocker_board env h
  cases hattempt : attemptOf cfg env s task with
  | none =>
      rcases dispatchOne_of_none hattempt with heq | heq | ⟨room, heq⟩
      · obtain ⟨c, hc, hstatus, hassignee⟩ := h
        exact ⟨c, by rw [heq]; exact hc, hassignee, .inl hstatus⟩
      · obtain ⟨c, hc, hstatus, hassignee⟩ := hclear
        exact ⟨c, by rw [heq]; exact hc, hassignee, .inl hstatus⟩
      · obtain ⟨c, hc, hstatus, hassignee⟩ := hclear
        exact ⟨c, by rw [heq, board_approach]; exact hc, hassignee, .inl hstatus⟩
  | some a =>
      cases hhanded : a.handed with
      | false =>
          obtain ⟨c, hc, hstatus, hassignee⟩ := fresh_of_failed hattempt hhanded h
          exact ⟨c, hc, hassignee, .inl hstatus⟩
      | true =>
          obtain ⟨-, hbefore, -, hover, -⟩ := gated_of_attemptOf hattempt
          obtain ⟨c, hc, -, hassignee⟩ := hclear
          refine ⟨{ c with status := .inProgress }, ?_, hassignee, .inr ⟨rfl, a, rfl, hhanded⟩⟩
          rw [hhanded, hbefore] at hover
          rw [dispatchOne_of_attempt hattempt, hbefore, assign_eq, if_pos hover.symm, board_handOver,
            board_startWork hc, Board.card_mark, Board.card_put, if_pos rfl]

/-- Whether a blocker is over, as the board shows it. -/
theorem blockerOver_eq (db : Db) (u : String) :
    blockerOver db (some u) = (db.card u).all fun c => decide c.status.Terminal := by
  unfold blockerOver Db.card
  rw [Option.all_map]
  rfl

/-- A row is not over, before its turn or after it. -/
theorem blockerOver_dispatchOne (h : Fresh s.board task) (blockedOn : Option String) :
    blockerOver (dispatchOne cfg env s task).db blockedOn = blockerOver s.db blockedOn := by
  cases blockedOn with
  | none => rfl
  | some u =>
      rw [blockerOver_eq, blockerOver_eq]
      by_cases hu : u = task.id
      · obtain ⟨c', hc', -, hstatus'⟩ := status_dispatchOne cfg env h
        obtain ⟨c, hc, hstatus, -⟩ := h
        subst hu
        rw [show s.db.card task.id = some c from hc,
          show (dispatchOne cfg env s task).db.card task.id = some c' from hc']
        have hopen : ¬ c.status.Terminal := by rw [hstatus]; decide
        have hopen' : ¬ c'.status.Terminal := by
          rcases hstatus' with hqueued | ⟨hprogress, -⟩
          · rw [hqueued]; decide
          · rw [hprogress]; decide
        simp [hopen, hopen']
      · rw [show (dispatchOne cfg env s task).db.card u = s.db.card u from
          (dispatchOne_board cfg env h).frame u hu]

/-- **A row that is ready after another one** was ready before it. -/
theorem ready_of_dispatchOne (h : Fresh s.board task) (hready : Ready cfg (dispatchOne cfg env s task) row) :
    Ready cfg s row := by
  have hscene := sameScene_dispatchOne cfg env s task
  refine
    { idle := ?_
      inRoom := fun room hroom => (hscene.rooms _).symm.trans (hready.inRoom room hroom)
      blocker := (blockerOver_dispatchOne h _).symm.trans hready.blocker
      budget := hscene.overBudget _ ▸ hready.budget
      worker := hscene.workers ▸ hready.worker }
  have hidle := hready.idle
  rw [statusOf_dispatchOne] at hidle
  split at hidle
  · exact absurd hidle (by simp)
  · exact hidle

variable (env) in
/-- **A row that is ready** stays ready, unless its agent is handed the other task. -/
theorem ready_dispatchOne (h : Fresh s.board task) (hready : Ready cfg s row) :
    Ready cfg (dispatchOne cfg env s task) row ∨
      ∃ a, attemptOf cfg env s task = some a ∧ task.assigneeAgentId = row.assigneeAgentId := by
  have hscene := sameScene_dispatchOne cfg env s task
  by_cases hhanded : ∃ a, attemptOf cfg env s task = some a ∧ a.handed ∧ a.agentId = row.assigneeAgentId
  · obtain ⟨a, ha, -, hagent⟩ := hhanded
    obtain ⟨rfl, -⟩ := gated_of_attemptOf ha
    exact .inr ⟨a, ha, hagent⟩
  · left
    exact
      { idle := by
          rw [statusOf_dispatchOne, if_neg hhanded]
          exact hready.idle
        inRoom := fun room hroom => (hscene.rooms _).trans (hready.inRoom room hroom)
        blocker := (blockerOver_dispatchOne h _).trans hready.blocker
        budget := (hscene.overBudget _).symm ▸ hready.budget
        worker := hscene.workers.symm ▸ hready.worker }

end Rows

/-! ### The loop -/

section Loop

variable {cfg : Config} {env : Env}

/-- **Attempts for a startup**, when no agent has rows of two startups: one is made exactly when a row of the startup
is ready at the beginning. -/
theorem attempts_for_iff (S : String) (tasks : List QueuedTask) : ∀ s : LoopState, Pending s.board tasks →
    (∀ row ∈ tasks, ∀ other ∈ tasks, row.assigneeAgentId = other.assigneeAgentId →
      row.startupId = other.startupId) →
      ((∃ a ∈ attempts cfg env tasks s, a.task.startupId = S) ↔
        ∃ row ∈ tasks, row.startupId = S ∧ Ready cfg s row) := by
  induction tasks with
  | nil =>
      intro s _ _
      simp [attempts]
  | cons task tasks ih =>
      intro s hpending htenants
      have hfresh := hpending.fresh task List.mem_cons_self
      have hrest := ih (dispatchOne cfg env s task) (hpending.tail cfg env) fun row hrow other hother =>
        htenants row (List.mem_cons_of_mem _ hrow) other (List.mem_cons_of_mem _ hother)
      constructor
      · rintro ⟨a, ha, hS⟩
        rcases List.mem_append.mp ha with ha | ha
        · have hattempt := Option.mem_toList.mp ha
          obtain ⟨rfl, -⟩ := gated_of_attemptOf hattempt
          exact ⟨a.task, List.mem_cons_self, hS, exists_attempt_iff.mp ⟨a, hattempt⟩⟩
        · obtain ⟨row, hrow, hS, hready⟩ := hrest.mp ⟨a, ha, hS⟩
          exact ⟨row, List.mem_cons_of_mem _ hrow, hS, ready_of_dispatchOne hfresh hready⟩
      · rintro ⟨row, hrow, hS, hready⟩
        have hhead : ∀ a, attemptOf cfg env s task = some a → task.startupId = S →
            ∃ a ∈ attempts cfg env (task :: tasks) s, a.task.startupId = S := by
          intro a ha htask
          obtain ⟨rfl, -⟩ := gated_of_attemptOf ha
          exact ⟨a, List.mem_append_left _ (Option.mem_toList.mpr ha), htask⟩
        rcases List.mem_cons.mp hrow with rfl | hmem
        · obtain ⟨a, ha⟩ := exists_attempt_iff.mpr hready
          exact hhead a ha hS
        · rcases ready_dispatchOne env hfresh hready with hready' | ⟨a, ha, hagent⟩
          · obtain ⟨a, ha, hS⟩ := hrest.mpr ⟨row, hmem, hS, hready'⟩
            exact ⟨a, List.mem_append_right _ ha, hS⟩
          · exact hhead a ha ((htenants task List.mem_cons_self row hrow hagent).trans hS)

/-- The loop starts no task for which it makes no attempt. -/
theorem inProgress_foldl {id : String} (tasks : List QueuedTask) : ∀ s : LoopState, Pending s.board tasks →
    (∀ a ∈ attempts cfg env tasks s, a.task.id ≠ id) → ∀ c',
      (tasks.foldl (dispatchOne cfg env) s).board.card id = some c' → c'.status = .inProgress →
        ∃ c, s.board.card id = some c ∧ c.status = .inProgress := by
  induction tasks with
  | nil =>
      intro s _ _ c' hc' hstatus
      exact ⟨c', hc', hstatus⟩
  | cons task tasks ih =>
      intro s hpending hnone c' hc' hstatus
      have hfresh := hpending.fresh task List.mem_cons_self
      obtain ⟨c, hc, hprogress⟩ := ih _ (hpending.tail cfg env)
        (fun a ha => hnone a (List.mem_append_right _ ha)) c' hc' hstatus
      by_cases hid : id = task.id
      · obtain ⟨c₁, hc₁, -, hqueued | ⟨-, a, ha, -⟩⟩ := status_dispatchOne cfg env hfresh
        · obtain rfl := Option.some.inj (hc.symm.trans (hid ▸ hc₁))
          exact absurd (hprogress.symm.trans hqueued) (by simp)
        · obtain ⟨htask, -⟩ := gated_of_attemptOf ha
          exact absurd ((congrArg QueuedTask.id htask).trans hid.symm)
            (hnone a (List.mem_append_left _ (Option.mem_toList.mpr ha)))
      · exact ⟨c, ((dispatchOne_board cfg env hfresh).frame id hid).symm.trans hc, hprogress⟩

/-- **What runs after the loop** ran before, or was handed over. -/
theorem running_foldl {id agentId : String} (tasks : List QueuedTask) : ∀ s : LoopState,
    Pending s.board tasks → (tasks.foldl (dispatchOne cfg env) s).board.Running id agentId →
      s.board.Running id agentId ∨
        ∃ a ∈ attempts cfg env tasks s, a.handed ∧ a.task.id = id ∧ a.agentId = agentId := by
  induction tasks with
  | nil =>
      intro s _ hrunning
      exact .inl hrunning
  | cons task tasks ih =>
      intro s hpending hrunning
      have hfresh := hpending.fresh task List.mem_cons_self
      rcases ih _ (hpending.tail cfg env) hrunning with hhead | ⟨a, ha, hrest⟩
      · obtain ⟨c, hc, hprogress, hassignee⟩ := hhead
        by_cases hid : id = task.id
        · subst hid
          obtain ⟨c₁, hc₁, hassignee₁, hqueued | ⟨-, a, ha, hhanded⟩⟩ := status_dispatchOne cfg env hfresh
          · obtain rfl := Option.some.inj (hc.symm.trans hc₁)
            exact absurd (hprogress.symm.trans hqueued) (by simp)
          · obtain rfl := Option.some.inj (hc.symm.trans hc₁)
            obtain ⟨rfl, -⟩ := gated_of_attemptOf ha
            exact .inr ⟨a, List.mem_append_left _ (Option.mem_toList.mpr ha), hhanded, rfl,
              Option.some.inj (hassignee₁.symm.trans hassignee)⟩
        · exact .inl ⟨c, ((dispatchOne_board cfg env hfresh).frame id hid).symm.trans hc, hprogress, hassignee⟩
      · exact .inr ⟨a, List.mem_append_right _ ha, hrest⟩

end Loop

/-! ### A tick -/

/-- What is in progress afterwards was so before. -/
def StartsNothing (s s' : LoopState) : Prop :=
  ∀ id c', s'.board.card id = some c' → c'.status = .inProgress →
    ∃ c, s.board.card id = some c ∧ c.status = .inProgress

section Tick

variable {cfg : Config} {env : Env} {s s' s'' : LoopState}

theorem StartsNothing.of_board (h : s'.board = s.board) : StartsNothing s s' := by
  intro id c' hc' hstatus
  exact ⟨c', h ▸ hc', hstatus⟩

theorem StartsNothing.trans (h : StartsNothing s s') (h' : StartsNothing s' s'') : StartsNothing s s'' := by
  intro id c'' hc'' hstatus
  obtain ⟨c', hc', hprogress⟩ := h' id c'' hc'' hstatus
  exact h id c' hc' hprogress

/-- A card that is placed with a status other than that. -/
theorem StartsNothing.of_put {id : String} {c : Card String String} (hstatus : c.status ≠ .inProgress)
    (h : s'.board = s.board.put id c) : StartsNothing s s' := by
  intro u c' hc' hprogress
  rw [h, Board.card_put] at hc'
  split at hc'
  · obtain rfl := Option.some.inj hc'
    exact absurd hprogress hstatus
  · exact ⟨c', hc', hprogress⟩

/-- A loop over what starts nothing. -/
theorem StartsNothing.foldl {ι : Type*} {f : LoopState → ι → LoopState} (hf : ∀ s i, StartsNothing s (f s i))
    (l : List ι) (s : LoopState) : StartsNothing s (l.foldl f s) :=
  List.foldlRecOn (motive := fun t => StartsNothing s t) l f (.of_board rfl) fun t ht i _ => ht.trans (hf t i)

theorem startsNothing_autoSteal (startupId taskId current : String) :
    StartsNothing s (autoSteal env s startupId taskId current) := by
  rcases autoSteal_step startupId taskId current with hboard | ⟨peer, hstep⟩
  · exact .of_board hboard
  · generalize hb : (autoSteal env s startupId taskId current).board = b at hstep
    cases hstep with
    | steal hcard hqueued => exact .of_put (by simp [hqueued]) hb

theorem startsNothing_autoRecover (startupId taskId current : String) (reviewRound : ℕ) :
    StartsNothing s (autoRecover env s startupId taskId current reviewRound) := by
  rcases autoRecover_step startupId taskId current reviewRound with hboard | ⟨peer, hstep⟩
  · exact .of_board hboard
  · generalize hb : (autoRecover env s startupId taskId current reviewRound).board = b at hstep
    cases hstep with
    | recover hcard hchanges => exact .of_put (by simp) hb

variable (env s) in
/-- The rest of a tick starts nothing. -/
theorem startsNothing_passes :
    StartsNothing s (autoRecoveryPass env (autoStealPass env (deadlineScan env s))) := by
  have hdeadline : StartsNothing s (deadlineScan env s) := .of_board board_deadlineScan
  have hsteal : ∀ s, StartsNothing s (autoStealPass env s) := by
    intro s
    unfold autoStealPass
    exact .foldl (fun s _ => .foldl (fun s _ => startsNothing_autoSteal _ _ _) _ s) _ s
  have hrecover : ∀ s, StartsNothing s (autoRecoveryPass env s) := by
    intro s
    unfold autoRecoveryPass
    exact .foldl (fun s _ => .foldl (fun s _ => startsNothing_autoRecover _ _ _ _) _ s) _ s
  exact hdeadline.trans ((hsteal _).trans (hrecover _))

theorem db_push (agentId : String) (frame : Json) : (s.push env agentId frame).db = s.db := by
  unfold LoopState.push
  split <;> rfl

/-- Movement does not touch the tables. -/
theorem db_afterMoves : (afterMoves env s).db = s.db := by
  unfold afterMoves
  refine List.foldlRecOn (motive := fun (t : LoopState) => t.db = s.db) _ _ rfl fun t ht event _ => ?_
  cases event with
  | complete agentId roomId => exact (db_push agentId _).trans ht

/-- A loop over what sets nobody to work. -/
theorem running_of_foldl {ι : Type*} {f : LoopState → ι → LoopState} {id agentId : String}
    (hf : ∀ s i, (f s i).board.Running id agentId → s.board.Running id agentId) (l : List ι) (s : LoopState)
    (h : (l.foldl f s).board.Running id agentId) : s.board.Running id agentId :=
  List.foldlRecOn (motive := fun t => t.board.Running id agentId → s.board.Running id agentId) l f (fun h => h)
    (fun t ht i _ hrunning => ht (hf t i hrunning)) h

/-- What is no dispatch of the task sets nobody to work on it. -/
theorem running_of_event {id agentId : String} (h : s'.board = s.board ∨
      ∃ e, Board.Step s.board e s'.board ∧ e ≠ .dispatch id agentId)
    (hrunning : s'.board.Running id agentId) : s.board.Running id agentId := by
  rcases h with hboard | ⟨e, hstep, hother⟩
  · rw [hboard] at hrunning
    exact hrunning
  · exact ((hstep.running_of hrunning).resolve_right hother).1

/-- A pass of steals sets nobody to work, -/
theorem running_of_autoStealPass {id agentId : String} (h : (autoStealPass env s).board.Running id agentId) :
    s.board.Running id agentId := by
  unfold autoStealPass at h
  refine running_of_foldl (fun s startup => running_of_foldl (fun s row => running_of_event ?_) _ s) _ s h
  rcases autoSteal_step startup.1 row.1 row.2.1 with hboard | ⟨peer, hstep⟩
  · exact .inl hboard
  · exact .inr ⟨_, hstep, by simp⟩

/-- and neither does one of recoveries. -/
theorem running_of_autoRecoveryPass {id agentId : String}
    (h : (autoRecoveryPass env s).board.Running id agentId) : s.board.Running id agentId := by
  unfold autoRecoveryPass at h
  refine running_of_foldl (fun s startup => running_of_foldl (fun s row => running_of_event ?_) _ s) _ s h
  rcases autoRecover_step startup.1 row.1 row.2.1 row.2.2 with hboard | ⟨peer, hstep⟩
  · exact .inl hboard
  · exact .inr ⟨_, hstep, by simp⟩

/-- **What runs after a tick** ran before, or was handed over. -/
theorem running_of_tick {id agentId : String} (h : (schedulerTick cfg env s).board.Running id agentId) :
    s.board.Running id agentId ∨
      ∃ a ∈ tickAttempts cfg env s, a.handed ∧ a.task.id = id ∧ a.agentId = agentId := by
  have hscan := running_of_autoStealPass (running_of_autoRecoveryPass h)
  rw [board_deadlineScan] at hscan
  exact running_foldl _ s (pending_queuedTasks env s) hscan

/-- **A tick starts no task for which it makes no attempt.** -/
theorem inProgress_of_tick {id : String} {t' : TaskRow}
    (hnone : ∀ a ∈ tickAttempts cfg env s, a.task.id ≠ id)
    (ht' : (schedulerTick cfg env s).db.tasks.lookup id = some t') (hstatus : t'.status = .inProgress) :
    ∃ t, s.db.tasks.lookup id = some t ∧ t.status = .inProgress := by
  obtain ⟨c₁, hc₁, hprogress₁⟩ := startsNothing_passes env (dispatchLoop cfg env s) id _
    (card_of_lookup ht') hstatus
  obtain ⟨c, hc, hprogress⟩ := inProgress_foldl _ s (pending_queuedTasks env s) hnone c₁ hc₁ hprogress₁
  obtain ⟨t, ht, rfl⟩ := Db.card_eq_some_iff.mp hc
  exact ⟨t, ht, hprogress⟩

end Tick

end Cliptown.Task
