import Cliptown.Task.Startup

/-!
# Suites

The tables that a startup is created in and dissolved in: its row with its status, the rooms, and the agents.

* `RoomRow`, `StartupStatus`, `TownDb` — the tables.
* `TownDb.freeSuite` — the query for a free suite.
* `TownDb.insertStartup`, `TownDb.claimRoom`, `TownDb.insertAgent` — the statements that create a startup.
* `TownDb.dissolve`, `TownDb.freeRooms` — the statements that dissolve one.
* `TownDb.Owns` — the startup that a room is private to.
* `seededTown` — the tables when the program starts for the first time.
-/

namespace Cliptown.Suite

open Cliptown.Lib Cliptown.Town Cliptown.Task

/-! ### Tables -/

/-- The `status` of a startup. Source: `migrations/0001_initial.sql` -/
inductive StartupStatus where
  | active
  | paused
  | dissolved
  deriving DecidableEq, Repr

/-- A row of `rooms`; the bounds are what their text parses to. Source: `migrations/0001_initial.sql` -/
structure RoomRow where
  type : String
  bounds : Except String Bounds
  privateToStartupId : Option String

/-- The database, with the `status` column of `startups` and the table `rooms`. -/
structure TownDb where
  db : Db
  statuses : Table String StartupStatus
  rooms : Table String RoomRow

namespace TownDb

/-- The room is private to the startup. -/
def Owns (d : TownDb) (startupId roomId : String) : Prop :=
  ∃ room ∈ d.rooms.lookup roomId, room.privateToStartupId = some startupId

instance (d : TownDb) (startupId roomId : String) : Decidable (d.Owns startupId roomId) :=
  inferInstanceAs (Decidable (∃ room ∈ d.rooms.lookup roomId, _))

/-! ### Statements -/

/-- An office that is private to nobody. -/
def free (room : RoomRow) : Bool :=
  room.type = "office" ∧ room.privateToStartupId = none

/-- `SELECT id, bounds FROM rooms WHERE type = 'office' AND private_to_startup_id IS NULL ORDER BY id LIMIT 1`. -/
def freeSuite (d : TownDb) : Option (String × RoomRow) := do
  let suiteId ← ((d.rooms.keys.filter fun id => (d.rooms.lookup id).any free).insertionSort (· ≤ ·)).head?
  let room ← d.rooms.lookup suiteId
  return (suiteId, room)

/-- `INSERT INTO startups … 'active'`: fails on a key that is taken. -/
def insertStartup (id : String) (row : Task.Startup) (d : TownDb) : Option TownDb :=
  if h : d.db.startups.lookup id = none ∧ d.statuses.lookup id = none then
    some
      { d with
        statuses := d.statuses.insert id .active
        db :=
          { d.db with
            startups := d.db.startups.insert id row
            taskRefs := by
              intro u t ht
              have hrefs := d.db.taskRefs u t ht
              refine ⟨?_, hrefs.parent, hrefs.assignee, hrefs.blocker⟩
              rw [Table.lookup_insert_eq]
              split
              · rfl
              · exact hrefs.startup } }
  else none

/-- `UPDATE rooms SET private_to_startup_id = ? WHERE id = ?`. -/
def claimRoom (startupId roomId : String) (d : TownDb) : TownDb where
  __ := d
  rooms := d.rooms.modify roomId fun room => { room with privateToStartupId := some startupId }

/-- The roles and the backends that an agent can have. Source: `migrations/0001_initial.sql`, the `CHECK`
clauses of `agents` -/
def agentChecks (row : Agent) : Prop :=
  row.role ∈ ["founder", "engineer", "designer"] ∧ row.backend ∈ ["claude_code", "codex", "opencode"]

instance (row : Agent) : Decidable (agentChecks row) :=
  inferInstanceAs (Decidable (_ ∧ _))

/-- `INSERT INTO agents`: fails on a key that is taken, a value that is not allowed, or a dangling reference. The
key is minted, so it is not the operator's. -/
def insertAgent (id : String) (row : Agent) (d : TownDb) : Option TownDb :=
  if h : (d.db.agents.lookup id = none ∧ id ≠ operatorAvatarId) ∧ agentChecks row ∧
      (d.db.startups.lookup row.startupId).isSome ∧ ∀ m ∈ row.managerId, (d.db.agents.lookup m).isSome then
    some
      { d with
        db :=
          { d.db with
            agents := d.db.agents.insert id row
            taskRefs := by
              intro u t ht
              refine (d.db.taskRefs u t ht).mono rfl (fun a ha => ?_) fun _ h => h
              rw [Table.lookup_insert_eq]
              split
              · rfl
              · exact ha
            agentIds := by
              rw [AList.lookup_insert_ne h.1.2.symm]
              exact d.db.agentIds } }
  else none

/-- `UPDATE startups SET status = 'dissolved' WHERE id = ?`. -/
def dissolve (startupId : String) (d : TownDb) : TownDb where
  __ := d
  statuses := d.statuses.modify startupId fun _ => .dissolved

/-- `UPDATE rooms SET private_to_startup_id = NULL WHERE private_to_startup_id = ?`. -/
def freeRooms (startupId : String) (d : TownDb) : TownDb where
  __ := d
  rooms := d.rooms.update (fun _ room => room.privateToStartupId = some startupId)
    fun room => { room with privateToStartupId := none }

/-! ### What the statements do -/

section Statements

variable {d d' : TownDb} {startupId roomId : String}

/-- At most one startup owns a room. -/
theorem Owns.unique {S S' : String} (h : d.Owns S roomId) (h' : d.Owns S' roomId) : S = S' := by
  obtain ⟨room, hroom, hS⟩ := h
  obtain ⟨room', hroom', hS'⟩ := h'
  obtain rfl := Option.some.inj (hroom.symm.trans hroom')
  exact Option.some.inj (hS.symm.trans hS')

/-- A suite that is found is an office, and private to nobody. -/
theorem freeSuite_eq_some {room : RoomRow} (h : d.freeSuite = some (roomId, room)) :
    d.rooms.lookup roomId = some room ∧ room.type = "office" ∧ room.privateToStartupId = none := by
  unfold freeSuite at h
  simp only [Option.bind_eq_bind, Option.bind_eq_some_iff, Option.pure_def, Option.some.injEq,
    Prod.mk.injEq] at h
  obtain ⟨id, hhead, room', hroom, rfl, rfl⟩ := h
  have hmem := List.mem_of_head? hhead
  rw [List.mem_insertionSort, List.mem_filter] at hmem
  have hfree : free room' = true := by simpa [hroom] using hmem.2
  unfold free at hfree
  exact ⟨hroom, of_decide_eq_true hfree⟩

/-- A new startup is active, and the rooms are as before. -/
theorem insertStartup_eq_some {row : Task.Startup} (h : d.insertStartup startupId row = some d') :
    d.statuses.lookup startupId = none ∧ d'.statuses = d.statuses.insert startupId .active ∧
      d'.rooms = d.rooms ∧ d'.db.startups = d.db.startups.insert startupId row := by
  unfold insertStartup at h
  split at h
  · rename_i hnew
    obtain rfl := Option.some.inj h
    exact ⟨hnew.2, rfl, rfl, rfl⟩
  · exact absurd h (by simp)

/-- A new agent changes neither startups nor rooms. -/
theorem insertAgent_eq_some {id : String} {row : Agent} (h : d.insertAgent id row = some d') :
    d'.statuses = d.statuses ∧ d'.rooms = d.rooms ∧ d'.db.startups = d.db.startups := by
  unfold insertAgent at h
  split at h
  · obtain rfl := Option.some.inj h
    exact ⟨rfl, rfl, rfl⟩
  · exact absurd h (by simp)

/-- A startup that is inserted is new, and so far without agents. -/
theorem new_of_insertStartup {row : Task.Startup} (h : d.insertStartup startupId row = some d') :
    (d.db.startups.lookup startupId = none ∧ d.statuses.lookup startupId = none) ∧
      d'.db.agents = d.db.agents := by
  unfold insertStartup at h
  split at h
  · rename_i hnew
    obtain rfl := Option.some.inj h
    exact ⟨hnew, rfl⟩
  · exact absurd h (by simp)

/-- A startup that is new is inserted. -/
theorem exists_insertStartup (row : Task.Startup) (hnew : d.db.startups.lookup startupId = none)
    (hstatus : d.statuses.lookup startupId = none) : ∃ d', d.insertStartup startupId row = some d' :=
  ⟨_, dif_pos ⟨hnew, hstatus⟩⟩

/-- An agent that is inserted is new. -/
theorem agents_of_insertAgent {id : String} {row : Agent} (h : d.insertAgent id row = some d') :
    d.db.agents.lookup id = none ∧ d'.db.agents = d.db.agents.insert id row := by
  unfold insertAgent at h
  split at h
  · rename_i hfits
    obtain rfl := Option.some.inj h
    exact ⟨hfits.1.1, rfl⟩
  · exact absurd h (by simp)

variable (d) in
/-- An agent that is new, and whose startup and manager are there, is inserted. -/
theorem exists_insertAgent (id : String) (row : Agent) (hnew : d.db.agents.lookup id = none)
    (hid : id ≠ operatorAvatarId) (hchecks : agentChecks row) (hstartup : (d.db.startups.lookup row.startupId).isSome)
    (hmanager : ∀ m ∈ row.managerId, (d.db.agents.lookup m).isSome) : ∃ d', d.insertAgent id row = some d' :=
  ⟨_, dif_pos ⟨⟨hnew, hid⟩, hchecks, hstartup, hmanager⟩⟩

/-- Who owns a room after a claim. -/
theorem owns_claimRoom {S r : String} :
    (d.claimRoom startupId roomId).Owns S r ↔
      if r = roomId then (d.rooms.lookup r).isSome ∧ S = startupId else d.Owns S r := by
  unfold Owns claimRoom
  simp only [Table.lookup_modify]
  split
  · rename_i h
    subst h
    cases d.rooms.lookup r with
    | none => simp
    | some room => simp [eq_comm]
  · rfl

/-- Who owns a room after it was freed. -/
theorem owns_freeRooms {S r : String} :
    (d.freeRooms startupId).Owns S r ↔ d.Owns S r ∧ S ≠ startupId := by
  unfold Owns freeRooms
  simp only [Table.lookup_update]
  cases d.rooms.lookup r with
  | none => simp
  | some room =>
      simp only [Option.map_some, Option.mem_def, Option.some.injEq, exists_eq_left']
      by_cases h : room.privateToStartupId = some startupId
      · simp [h, eq_comm]
      · simp only [h, decide_false, Bool.false_eq_true, if_false]
        constructor
        · rintro hS
          refine ⟨hS, ?_⟩
          rintro rfl
          exact h hS
        · exact And.left

end Statements

end TownDb

/-! ### The seeded town -/

/-- Source: `seed.rs` `seed_if_empty`, the rooms -/
def seededRooms : Table String RoomRow :=
  .ofList [("suite_1", ⟨"office", .ok ⟨0, 0, 7, 6⟩, none⟩), ("suite_2", ⟨"office", .ok ⟨0, 6, 7, 6⟩, none⟩),
    ("suite_3", ⟨"office", .ok ⟨33, 0, 7, 6⟩, none⟩), ("suite_4", ⟨"office", .ok ⟨33, 6, 7, 6⟩, none⟩),
    ("lobby", ⟨"transit", .ok ⟨7, 4, 26, 4⟩, none⟩), ("cafe", ⟨"social", .ok ⟨7, 0, 26, 4⟩, none⟩),
    ("library", ⟨"focus", .ok ⟨7, 8, 26, 4⟩, none⟩)]

/-- The database after the migrations and the seed. -/
def seededTown : TownDb where
  db :=
    { startups := ∅
      agents := ∅
      tasks := ∅
      messages := ∅
      systemEvents := []
      operators := Table.ofList [("op_default", NewStartup.seededAdmin)]
      actionLocks := ∅
      skills := .empty
      taskRefs := by simp
      agentIds := by simp }
  statuses := ∅
  rooms := seededRooms

end Cliptown.Suite
