import Cliptown.Task.Ready

/-!
# News of the room

After each tick, every agent whose worker is registered is told who is in the room.

* `membersOf`, `proximityTick`, `proximityFrames`, `computeAndEmit` — what is told, and to whom.
* `frames_foldl_push` — frames that are pushed in a loop: those that a worker takes.
* `AvatarView.face` — the columns of an avatar that the frames are made of; `faces_dispatchOne` — the scheduler does
  not change them, so what is told after a tick can be told from the state after the movement.
-/

namespace Cliptown.Task

open Cliptown.Lib Cliptown.Town Cliptown.World Cliptown.Worker

/-! ### What is told -/

/-- The avatars that are in a room, in some order. -/
def membersOf (env : Env) (w : WorldView) (roomId : String) : List AvatarView :=
  (env.order w.avatars.keys).filterMap fun id =>
    (w.avatars.lookup id).filter fun a => a.roomId = roomId

/-- Source: `proximity.rs` `compute_and_emit`, the payload of a room -/
def proximityTick (roomId : String) (members : List AvatarView) : Json :=
  .obj [("type", .str "proximity_tick"), ("v", .int 1), ("room_id", .str roomId),
    ("peers", .arr (members.map fun a => .obj [("agent_id", .str a.agentId), ("role", .str a.role),
      ("startup_id", .str a.startupId)]))]

/-- The rooms in which there is someone, in some order. -/
def roomsInUse (env : Env) (w : WorldView) : List String :=
  env.order ((env.order w.avatars.keys).filterMap fun id =>
    (w.avatars.lookup id).map AvatarView.roomId).dedup

/-- What each member of each room is told. -/
def proximityFrames (env : Env) (w : WorldView) : List (String × Json) :=
  (roomsInUse env w).flatMap fun roomId =>
    let members := membersOf env w roomId
    members.map fun a => (a.agentId, proximityTick roomId members)

/-- Source: `proximity.rs` `compute_and_emit` -/
def computeAndEmit (env : Env) (s : LoopState) : LoopState :=
  (proximityFrames env s.world).foldl (fun s f => s.push env f.1 f.2) s

section Frames

variable {env : Env} {w : WorldView} {f : String × Json}

/-- **Who is told what**: every avatar is told about the room where it is. -/
theorem mem_proximityFrames : f ∈ proximityFrames env w ↔
    ∃ id a, w.avatars.lookup id = some a ∧
      f = (a.agentId, proximityTick a.roomId (membersOf env w a.roomId)) := by
  have hkey : ∀ {id a}, w.avatars.lookup id = some a → id ∈ env.order w.avatars.keys := by
    intro id a ha
    refine (env.order_perm _).mem_iff.mpr (AList.mem_keys.mp (AList.lookup_isSome.mp ?_))
    rw [ha]
    rfl
  unfold proximityFrames
  simp only [List.mem_flatMap, List.mem_map]
  constructor
  · rintro ⟨roomId, -, a, ha, rfl⟩
    obtain ⟨id, -, hmember⟩ := List.mem_filterMap.mp ha
    obtain ⟨hlookup, hroom⟩ := Option.filter_eq_some_iff.mp hmember
    obtain rfl : a.roomId = roomId := by simpa using hroom
    exact ⟨id, a, hlookup, rfl⟩
  · rintro ⟨id, a, ha, rfl⟩
    refine ⟨a.roomId, ?_, a, ?_, rfl⟩
    · refine (env.order_perm _).mem_iff.mpr (List.mem_dedup.mpr (List.mem_filterMap.mpr ⟨id, hkey ha, ?_⟩))
      rw [ha]
      rfl
    · exact List.mem_filterMap.mpr ⟨id, hkey ha, Option.filter_eq_some_iff.mpr ⟨ha, by simp⟩⟩

/-- **Frames that are pushed in a loop** are sent to the workers that are registered and take them. -/
theorem frames_foldl_push (env : Env) (l : List (String × Json)) : ∀ s : LoopState,
    (l.foldl (fun s f => s.push env f.1 f.2) s).frames =
      s.frames ++ l.filter fun f => f.1 ∈ s.outBus ∧ env.trySend f.1 f.2 = .ok := by
  induction l with
  | nil => exact fun s => (List.append_nil _).symm
  | cons f l ih =>
      intro s
      rw [List.foldl_cons, ih]
      unfold LoopState.push
      by_cases hf : f.1 ∈ s.outBus ∧ env.trySend f.1 f.2 = .ok
      · rw [if_pos hf, List.filter_cons_of_pos (by simpa using hf), List.append_assoc]
        rfl
      · rw [if_neg hf, List.filter_cons_of_neg (by simpa using hf)]

end Frames

/-! ### What the scheduler leaves alone -/

/-- Whose avatar it is, and where. -/
def whereabouts (a : AvatarView) : (String × String × String) × String :=
  (a.identity, a.roomId)

/-- The same avatars in the same rooms, and the same workers. -/
structure SamePlaces (s s' : LoopState) : Prop where
  places : s'.world.avatars.column whereabouts = s.world.avatars.column whereabouts
  workers : s'.outBus = s.outBus

section Scheduler

variable {cfg : Config} {env : Env} {s s' s'' : LoopState} {task : QueuedTask}

namespace SamePlaces

/-- Steps on the tables. -/
theorem of_eq (hworld : s'.world = s.world) (hworkers : s'.outBus = s.outBus) : SamePlaces s s' where
  places := by rw [hworld]
  workers := hworkers

theorem trans (h : SamePlaces s s') (h' : SamePlaces s' s'') : SamePlaces s s'' where
  places := h'.places.trans h.places
  workers := h'.workers.trans h.workers

theorem foldl {ι : Type*} {f : LoopState → ι → LoopState} (hf : ∀ s i, SamePlaces s (f s i)) (l : List ι) :
    ∀ s, SamePlaces s (l.foldl f s) := by
  induction l with
  | nil => exact fun _ => of_eq rfl rfl
  | cons i l ih => exact fun s => (hf s i).trans (ih (f s i))

end SamePlaces

theorem samePlaces_setAvatarStatus (agentId : String) (status : AvatarStatus) :
    SamePlaces s (s.setAvatarStatus agentId status) where
  places := Table.column_update fun _ => rfl
  workers := rfl

theorem samePlaces_clearBlocker : SamePlaces s (clearBlocker env s task) :=
  .of_eq world_clearBlocker sameScene_clearBlocker.workers

theorem samePlaces_push (agentId : String) (frame : Json) : SamePlaces s (s.push env agentId frame) :=
  .of_eq (world_push agentId frame) (sameScene_push agentId frame).workers

/-- A planned move does not move anyone yet. -/
theorem samePlaces_approach (room : String) : SamePlaces s (approach cfg s task room) := by
  unfold approach
  split
  · rename_i center _ _
    refine ⟨?_, rfl⟩
    rcases startMove_world cfg.astar s.world s.paths cfg.layout (graphFromLayout cfg.layout) task.assigneeAgentId room
      center with h | ⟨t, h⟩
    · exact congrArg (fun w => w.avatars.column whereabouts) h
    · refine (congrArg (fun w => w.avatars.column whereabouts) h).trans ?_
      exact Table.column_update fun _ => rfl
  · exact .of_eq rfl rfl

theorem samePlaces_assign : SamePlaces s (assign cfg env s task) := by
  have hstart : SamePlaces s (startWork env s task) :=
    @SamePlaces.trans _ (s.setStatus env task.id .inProgress) _ (.of_eq rfl rfl)
      ((samePlaces_setAvatarStatus task.assigneeAgentId .working).trans (.of_eq rfl rfl))
  have hover : SamePlaces (startWork env s task) (handOver cfg env (startWork env s task) task).2 := by
    unfold handOver
    simp only
    split
    · exact .of_eq rfl rfl
    · exact samePlaces_push _ _
  rw [assign_eq]
  split
  · exact hstart.trans hover
  · have hback : SamePlaces (handOver cfg env (startWork env s task) task).2
        (rollBack env (handOver cfg env (startWork env s task) task).2 task) :=
      @SamePlaces.trans _ (LoopState.setStatus env _ task.id .queued) _ (.of_eq rfl rfl)
        (samePlaces_setAvatarStatus task.assigneeAgentId .idle)
    exact (hstart.trans hover).trans hback

theorem samePlaces_dispatchOne : SamePlaces s (dispatchOne cfg env s task) := by
  rcases attempt_cases cfg env s task with ⟨-, heq | heq | ⟨room, heq⟩⟩ | ⟨a, -, heq, -, hbefore, -⟩
  · rw [heq]
    exact .of_eq rfl rfl
  · rw [heq]
    exact samePlaces_clearBlocker
  · rw [heq]
    exact samePlaces_clearBlocker.trans (samePlaces_approach room)
  · rw [heq, hbefore]
    exact samePlaces_clearBlocker.trans samePlaces_assign

theorem samePlaces_autoSteal (startupId taskId current : String) :
    SamePlaces s (autoSteal env s startupId taskId current) := by
  refine .of_eq (world_autoSteal startupId taskId current) ?_
  unfold autoSteal
  split
  · rfl
  · split
    · rfl
    · split <;> rfl

theorem samePlaces_autoRecover (startupId taskId current : String) (reviewRound : ℕ) :
    SamePlaces s (autoRecover env s startupId taskId current reviewRound) := by
  refine .of_eq (world_autoRecover startupId taskId current reviewRound) ?_
  unfold autoRecover
  split
  · rfl
  · split <;> rfl

variable (cfg env s) in
/-- **The scheduler** moves nobody, and registers no worker. -/
theorem samePlaces_schedulerTick : SamePlaces s (schedulerTick cfg env s) := by
  have hdispatch : SamePlaces s ((queuedTasks env s.db).foldl (dispatchOne cfg env) s) :=
    SamePlaces.foldl (fun _ _ => samePlaces_dispatchOne) _ s
  have hscan : ∀ s, SamePlaces s (deadlineScan env s) := fun s => by
    have hnotify : ∀ (s : LoopState) (row : String × String × ℤ),
        SamePlaces s (notifyOverdue env s row.1 row.2.1 row.2.2) := fun _ _ => .of_eq rfl rfl
    exact SamePlaces.foldl hnotify _ s
  have hsteal : ∀ s, SamePlaces s (autoStealPass env s) := fun s => by
    unfold autoStealPass
    exact SamePlaces.foldl (fun s _ => SamePlaces.foldl (fun _ _ => samePlaces_autoSteal _ _ _) _ s) _ s
  have hrecover : ∀ s, SamePlaces s (autoRecoveryPass env s) := fun s => by
    unfold autoRecoveryPass
    exact SamePlaces.foldl (fun s _ => SamePlaces.foldl (fun _ _ => samePlaces_autoRecover _ _ _ _) _ s) _ s
  unfold schedulerTick
  exact hdispatch.trans ((hscan _).trans ((hsteal _).trans (hrecover _)))

variable (cfg env s) in
/-- After the movement of a tick, nobody moves and no worker is registered. -/
theorem samePlaces_loopTick :
    SamePlaces { s with world := (stepAll s.world s.paths).1 } (loopTick cfg env s) := by
  have hpush : SamePlaces { s with world := (stepAll s.world s.paths).1 } (afterMoves env s) :=
    @SamePlaces.trans _ { s with
        world := (stepAll s.world s.paths).1
        paths := (stepAll s.world s.paths).2.1 } _ (.of_eq rfl rfl)
      (SamePlaces.foldl (fun _ _ => samePlaces_push _ _) _ _)
  exact hpush.trans (samePlaces_schedulerTick cfg env _)

end Scheduler

section Places

variable {env : Env} {w w' : WorldView}

/-- Who is in a room, as far as anyone is told. -/
theorem whereabouts_membersOf (h : w'.avatars.column whereabouts = w.avatars.column whereabouts)
    (roomId : String) :
    (membersOf env w' roomId).map whereabouts = (membersOf env w roomId).map whereabouts := by
  have hcolumn : ∀ w : WorldView, (membersOf env w roomId).map whereabouts =
      (env.order (w.avatars.column whereabouts).keys).filterMap fun id =>
        ((w.avatars.column whereabouts).lookup id).filter fun x => x.2 = roomId := by
    intro w
    unfold membersOf
    rw [List.map_filterMap, Table.keys_column]
    congr 1
    funext id
    rw [Table.lookup_column, Option.filter_map]
    rfl
  rw [hcolumn, hcolumn, h]

/-- **Avatars in the same rooms are told the same.** -/
theorem proximityFrames_congr (h : w'.avatars.column whereabouts = w.avatars.column whereabouts) :
    proximityFrames env w' = proximityFrames env w := by
  have hrooms : roomsInUse env w' = roomsInUse env w := by
    have hcolumn : ∀ w : WorldView, roomsInUse env w =
        env.order ((env.order (w.avatars.column whereabouts).keys).filterMap fun id =>
          ((w.avatars.column whereabouts).lookup id).map Prod.snd).dedup := by
      intro w
      unfold roomsInUse
      rw [Table.keys_column]
      simp only [Table.lookup_column, Option.map_map]
      rfl
    rw [hcolumn, hcolumn, h]
  -- A frame shows no more of an avatar than whose it is and where.
  have hframes : ∀ w : WorldView, proximityFrames env w =
      (roomsInUse env w).flatMap fun roomId =>
        ((membersOf env w roomId).map whereabouts).map fun x =>
          (x.1.1, .obj [("type", .str "proximity_tick"), ("v", .int 1), ("room_id", .str roomId),
            ("peers", .arr (((membersOf env w roomId).map whereabouts).map fun y =>
              .obj [("agent_id", .str y.1.1), ("role", .str y.1.2.2), ("startup_id", .str y.1.2.1)]))]) := by
    intro w
    simp only [List.map_map]
    rfl
  rw [hframes, hframes, hrooms]
  simp only [whereabouts_membersOf h]

end Places

end Cliptown.Task
