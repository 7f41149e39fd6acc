import Cliptown.Suite.Requests

/-!
# What the world loop is told about suites

Once its transaction is over, a handler tells the loop, which keeps the owners of the rooms in its layout and the
avatars in its world.

* `SuiteMessage`, `Outcome.message` — what is sent.
* `claimIn`, `releaseIn`, `SuiteMessage.apply` — what the loop does with it.
* `ownerIn` — the owner of a room in the layout; `ownerIn_claimIn`, `ownerIn_releaseIn` — how it reads back.
-/

namespace Cliptown.Suite

open Cliptown.Lib Cliptown.Town Cliptown.World Cliptown.Task

/-- Source: `loop_.rs` `Cmd::InsertAvatars`, `Cmd::ReleaseSuite` -/
inductive SuiteMessage where
  | insertAvatars (avatars : List AvatarView) (claimSuite : Option (String × String))
  | releaseSuite (startupId : String)

/-- The avatars of a startup that is created, and its suite. Source: `api_startups.rs` `create_startup`, the end -/
def createdMessage (n : NewStartup) : SuiteMessage :=
  .insertAvatars (n.agents.map n.avatarView) (some (n.suiteId, n.id))

/-- What a handler sends after its transaction. -/
def Outcome.message : Outcome → Option SuiteMessage
  | .created n => some (createdMessage n)
  | .dissolved startupId => some (.releaseSuite startupId)
  | .refused _ => none

/-! ### The loop -/

/-- The first room of the id is private to the startup. -/
def claimIn (L : TownLayout) (suiteId startupId : String) : TownLayout where
  __ := L
  rooms := L.rooms.replaceF fun room =>
    if room.id = suiteId then some { room with privateToStartupId := some startupId } else none

/-- The rooms of the startup are private to nobody. -/
def releaseIn (L : TownLayout) (startupId : String) : TownLayout where
  __ := L
  rooms := L.rooms.map fun room =>
    if room.privateToStartupId = some startupId then { room with privateToStartupId := none } else room

/-- What the loop does with a message. Source: `loop_.rs` `spawn_with_layout` -/
def SuiteMessage.apply (L : TownLayout) (w : WorldView) : SuiteMessage → TownLayout × WorldView
  | .insertAvatars avatars claimSuite =>
      (match claimSuite with
        | some (suiteId, startupId) => claimIn L suiteId startupId
        | none => L,
      ⟨avatars.foldl (fun t a => t.insert a.agentId a) w.avatars⟩)
  | .releaseSuite startupId =>
      (releaseIn L startupId, ⟨w.avatars.deleteWhere fun _ a => a.startupId = startupId⟩)

/-! ### How a message reads back -/

/-- The startup that a room is private to. -/
def ownerIn (L : TownLayout) (roomId : String) : Option String :=
  (L.room roomId).bind RoomDef.privateToStartupId

section ReadBack

variable {L : TownLayout} {w : WorldView} {roomId suiteId startupId : String}

/-- No room of the default layout is private. -/
theorem ownerIn_defaultTown (r : String) : ownerIn defaultTown r = none := by
  have hnobody : ∀ room ∈ defaultTown.rooms, room.privateToStartupId = none := by decide
  unfold ownerIn
  rcases hroom : defaultTown.room r with _ | room
  · rfl
  · exact hnobody room (List.mem_of_find?_eq_some hroom)

/-- A room after a claim. -/
theorem room_claimIn :
    (claimIn L suiteId startupId).room roomId = (L.room roomId).map fun room =>
      if roomId = suiteId then { room with privateToStartupId := some startupId } else room := by
  unfold TownLayout.room claimIn
  generalize L.rooms = rooms
  induction rooms with
  | nil => rfl
  | cons room rooms ih =>
      by_cases hsuite : room.id = suiteId
      · subst hsuite
        by_cases hroom : room.id = roomId
        · subst hroom
          simp [List.replaceF]
        · have hne : ¬ roomId = room.id := fun h => hroom h.symm
          simp [List.replaceF, hroom, hne]
      · by_cases hroom : room.id = roomId
        · subst hroom
          simp [List.replaceF, hsuite]
        · simp only [List.replaceF, hsuite, if_false, List.find?_cons, hroom, decide_false]
          exact ih

/-- A room after a release. -/
theorem room_releaseIn :
    (releaseIn L startupId).room roomId = (L.room roomId).map fun room =>
      if room.privateToStartupId = some startupId then { room with privateToStartupId := none }
      else room := by
  unfold TownLayout.room releaseIn
  rw [List.find?_map]
  congr 2
  funext room
  simp only [Function.comp_apply]
  split <;> rfl

/-- The owner of a room after a claim. -/
theorem ownerIn_claimIn {S : String} :
    ownerIn (claimIn L suiteId startupId) roomId = some S ↔
      if roomId = suiteId then (L.room roomId).isSome ∧ S = startupId else ownerIn L roomId = some S := by
  unfold ownerIn
  rw [room_claimIn]
  cases L.room roomId with
  | none => simp
  | some room =>
      simp only [Option.map_some, Option.bind_some]
      split
      · simp [eq_comm]
      · rfl

/-- The owner of a room after a release. -/
theorem ownerIn_releaseIn {S : String} :
    ownerIn (releaseIn L startupId) roomId = some S ↔ ownerIn L roomId = some S ∧ S ≠ startupId := by
  unfold ownerIn
  rw [room_releaseIn]
  cases L.room roomId with
  | none => simp
  | some room =>
      simp only [Option.map_some, Option.bind_some]
      split
      · rename_i h
        simp [h, eq_comm]
      · rename_i h
        refine ⟨fun howner => ⟨howner, ?_⟩, And.left⟩
        rintro rfl
        exact h howner

/-- No message adds a room to the layout, or removes one. -/
theorem isSome_room_apply (m : SuiteMessage) :
    ((m.apply L w).1.room roomId).isSome = (L.room roomId).isSome := by
  cases m with
  | insertAvatars avatars claimSuite =>
      rcases claimSuite with _ | ⟨suiteId, startupId⟩
      · rfl
      · show ((claimIn L suiteId startupId).room roomId).isSome = _
        rw [room_claimIn, Option.isSome_map]
  | releaseSuite startupId =>
      show ((releaseIn L startupId).room roomId).isSome = _
      rw [room_releaseIn, Option.isSome_map]

/-- An avatar after some were inserted is one of them, or was there. -/
theorem mem_avatars_insert {avatars : List AvatarView} :
    ∀ {t : Table String AvatarView} {key : String} {a : AvatarView},
      (avatars.foldl (fun t a => t.insert a.agentId a) t).lookup key = some a →
        a ∈ avatars ∧ a.agentId = key ∨ t.lookup key = some a := by
  induction avatars with
  | nil => exact fun h => .inr h
  | cons b avatars ih =>
      intro t key a h
      rcases ih h with ⟨hmem, hkey⟩ | h
      · exact .inl ⟨List.mem_cons_of_mem b hmem, hkey⟩
      · rw [Table.lookup_insert_eq] at h
        split at h
        · rename_i hkey
          obtain rfl := Option.some.inj h
          exact .inl ⟨List.mem_cons_self, hkey.symm⟩
        · exact .inr h

/-- The avatars of a startup that is created are its own. -/
theorem startupId_of_mem_avatars {n : NewStartup} {a : AvatarView} (h : a ∈ n.agents.map n.avatarView) :
    a.startupId = n.id := by
  obtain ⟨x, -, rfl⟩ := List.mem_map.mp h
  rfl

end ReadBack

end Cliptown.Suite
