import Cliptown.Console.ActionLocks
import Cliptown.Lib.Json
import Cliptown.Task.Board
import Cliptown.Task.Operators
import Cliptown.Task.SkillTables
import Cliptown.Town.Move
import Cliptown.Worker.Args

/-!
# The state of the world loop

The tables that the task subsystem reads and writes, and the in-memory state beside them.

* `TaskRow`, `Agent`, `Startup`, `Db` — the tables; a `Db` carries the foreign keys of `tasks`, so no
  row with a dangling reference can be stored, and no agent has the id of the operator's avatar.
* `Db.updateTask`, `Db.relinkTask`, `Db.insertTask` — the statements on `tasks`: an update that leaves
  the references alone, one that may break them, and an insert.
* `LoopState`, `Env`, `Config` — what the world loop owns, what one step reads from outside, and what
  never changes.
* `LoopState.board` — the board that the state shows; `board_updateTask`, `board_relinkTask`,
  `board_insertTask`, `board_setStatus` say what each primitive does to it.
-/

namespace Cliptown.Task

open Cliptown.Lib Cliptown.Town Cliptown.World Cliptown.Console Cliptown.Worker

/-! ### Tables -/

/-- A row of `tasks`; its id is the key. Source: `migrations/0001_initial.sql`, `0004`, `0005`, `0011`,
`0014` -/
structure TaskRow where
  startupId : String
  parentId : Option String
  title : String
  description : String
  assigneeAgentId : Option String
  requiredRoom : Option String
  status : TaskStatus
  reviewRound : ℕ
  auditTrail : List Json
  epistemicLog : List Json
  artifactPath : Option String
  preferredBackend : Option String
  preferredModel : Option String
  costEstimateUsd : Option ℚ
  blockedOn : Option String
  deadlineAt : Option ℤ
  deadlineNotifiedAt : Option ℤ
  selfReviewedAt : Option ℤ
  createdAt : ℤ
  updatedAt : ℤ

/-- A row of `agents`. Source: `migrations/0001_initial.sql`, `0010` -/
structure Agent where
  startupId : String
  role : String
  backend : String
  managerId : Option String
  isPeerReviewer : Bool
  deriving DecidableEq, Repr

/-- The columns that say which role of which startup it is. -/
def Agent.membership (a : Agent) : String × String :=
  (a.startupId, a.role)

/-- A row of `startups`. Source: `migrations/0001_initial.sql`, `0012`, `0015` -/
structure Startup where
  budgetCapUsd : ℚ
  budgetSpentUsd : ℚ
  workspacePath : String
  autoStealEnabled : Bool
  autoStealAfterSecs : ℤ
  autoRecoveryEnabled : Bool
  autoRecoveryMaxAttempts : ℤ
  deriving DecidableEq, Repr

/-- A row of `messages`. Source: `migrations/0001_initial.sql` -/
structure Message where
  startupId : String
  roomId : Option String
  authorId : String
  body : String
  kind : String
  ts : ℤ
  deriving DecidableEq, Repr

/-- A row of `system_events`, without its random id. Source: `emit.rs` `emit_system_event` -/
structure SystemEvent where
  startupId : Option String
  kind : String
  payload : Json
  severity : String
  ts : ℤ

/-- The columns of a task that reference other rows. -/
abbrev TaskRow.refs (t : TaskRow) : String × Option String × Option String × Option String :=
  (t.startupId, t.parentId, t.assigneeAgentId, t.blockedOn)

/-- The `REFERENCES` clauses of `tasks`. -/
structure TaskRow.RefsIn (startups : Table String Startup) (agents : Table String Agent)
    (tasks : Table String TaskRow) (t : TaskRow) : Prop where
  startup : (startups.lookup t.startupId).isSome
  parent : ∀ p ∈ t.parentId, (tasks.lookup p).isSome
  assignee : ∀ a ∈ t.assigneeAgentId, (agents.lookup a).isSome
  blocker : ∀ u ∈ t.blockedOn, (tasks.lookup u).isSome

instance (startups : Table String Startup) (agents : Table String Agent)
    (tasks : Table String TaskRow) (t : TaskRow) : Decidable (t.RefsIn startups agents tasks) :=
  decidable_of_iff ((startups.lookup t.startupId).isSome ∧
      (∀ p ∈ t.parentId, (tasks.lookup p).isSome) ∧
      (∀ a ∈ t.assigneeAgentId, (agents.lookup a).isSome) ∧
      ∀ u ∈ t.blockedOn, (tasks.lookup u).isSome)
    ⟨fun h => ⟨h.1, h.2.1, h.2.2.1, h.2.2.2⟩, fun h => ⟨h.1, h.2, h.3, h.4⟩⟩

/-- The references of a row depend on the columns that hold them and on the keys of the tables. -/
theorem TaskRow.RefsIn.mono {startups : Table String Startup} {agents agents' : Table String Agent}
    {tasks tasks' : Table String TaskRow} {t t' : TaskRow} (h : t.RefsIn startups agents tasks)
    (hrefs : t'.refs = t.refs)
    (hagents : ∀ a, (agents.lookup a).isSome → (agents'.lookup a).isSome)
    (htasks : ∀ id, (tasks.lookup id).isSome → (tasks'.lookup id).isSome) :
    t'.RefsIn startups agents' tasks' := by
  simp only [TaskRow.refs, Prod.mk.injEq] at hrefs
  obtain ⟨hs, hp, ha, hb⟩ := hrefs
  constructor
  · rw [hs]
    exact h.startup
  · rw [hp]
    exact fun p hmem => htasks p (h.parent p hmem)
  · rw [ha]
    exact fun a hmem => hagents a (h.assignee a hmem)
  · rw [hb]
    exact fun u hmem => htasks u (h.blocker u hmem)

/-- The id of the operator's avatar. Source: `cmd_console.rs` `OPERATOR_AVATAR_ID` -/
def operatorAvatarId : String := "__operator__"

/-- The database, as far as the task subsystem uses it. -/
structure Db where
  startups : Table String Startup
  agents : Table String Agent
  tasks : Table String TaskRow
  messages : Table String Message
  systemEvents : List SystemEvent
  operators : Table String Operator
  actionLocks : LockTable
  skills : SkillTables
  /-- The foreign keys of `tasks`. -/
  taskRefs : ∀ id t, tasks.lookup id = some t → t.RefsIn startups agents tasks
  /-- The ids of agents are minted, so none is the operator's. -/
  agentIds : agents.lookup operatorAvatarId = none

namespace Db

/-- `SELECT id, name FROM operators`. -/
def operatorNames (db : Db) : Table String String :=
  db.operators.column Operator.name

variable {db db' : Db} {id : String} {t : TaskRow} {f : TaskRow → TaskRow}

/-- A row that is looked up after a change of one row. -/
theorem isSome_lookup_modify (tasks : Table String TaskRow) (id u : String)
    (f : TaskRow → TaskRow) :
    ((tasks.modify id f).lookup u).isSome = (tasks.lookup u).isSome := by
  rw [Table.lookup_modify]
  split <;> simp

/-- `UPDATE tasks SET … WHERE id = ?`, where the references stay as they are. -/
def updateTask (db : Db) (id : String) (f : TaskRow → TaskRow)
    (hf : ∀ t, (f t).refs = t.refs) : Db where
  __ := db
  tasks := db.tasks.modify id f
  taskRefs := by
    intro u t ht
    have hkeep : ∀ v, (db.tasks.lookup v).isSome → ((db.tasks.modify id f).lookup v).isSome :=
      fun v hv => (isSome_lookup_modify db.tasks id v f).trans hv
    rw [Table.lookup_modify] at ht
    split at ht
    · obtain ⟨t₀, ht₀, rfl⟩ := Option.map_eq_some_iff.mp ht
      exact (db.taskRefs u t₀ ht₀).mono (hf t₀) (fun _ h => h) hkeep
    · exact (db.taskRefs u t ht).mono rfl (fun _ h => h) hkeep

/-- `UPDATE tasks SET … WHERE id = ?`, where the new row may have a dangling reference: the statement
then fails. -/
def relinkTask (db : Db) (id : String) (f : TaskRow → TaskRow) : Option Db :=
  if h : ∀ t ∈ db.tasks.lookup id, (f t).RefsIn db.startups db.agents db.tasks then
    some
      { db with
        tasks := db.tasks.modify id f
        taskRefs := by
          intro u t ht
          have hkeep : ∀ v, (db.tasks.lookup v).isSome →
              ((db.tasks.modify id f).lookup v).isSome :=
            fun v hv => (isSome_lookup_modify db.tasks id v f).trans hv
          rw [Table.lookup_modify] at ht
          split at ht
          · obtain ⟨t₀, ht₀, rfl⟩ := Option.map_eq_some_iff.mp ht
            exact (h t₀ (by rename_i heq; exact heq ▸ ht₀)).mono rfl (fun _ h => h) hkeep
          · exact (db.taskRefs u t ht).mono rfl (fun _ h => h) hkeep }
  else none

/-- `INSERT INTO tasks`: fails on a key that is taken or a dangling reference. The key is freshly
minted, so the row does not refer to itself. -/
def insertTask (db : Db) (id : String) (t : TaskRow) : Option Db :=
  if h : db.tasks.lookup id = none ∧ t.RefsIn db.startups db.agents db.tasks then
    some
      { db with
        tasks := db.tasks.insert id t
        taskRefs := by
          intro u t' ht
          have hkeep : ∀ v, (db.tasks.lookup v).isSome →
              ((db.tasks.insert id t).lookup v).isSome := by
            intro v hv
            rw [Table.lookup_insert_eq]
            split
            · rfl
            · exact hv
          rw [Table.lookup_insert_eq] at ht
          split at ht
          · exact Option.some.inj ht ▸ h.2.mono rfl (fun _ h => h) hkeep
          · exact (db.taskRefs u t' ht).mono rfl (fun _ h => h) hkeep }
  else none

/-- `UPDATE tasks SET … WHERE id = ? AND status = ? AND assignee_agent_id = ?`: the new database and the
number of rows changed, or a failure. -/
def reassignTask (db : Db) (id : String) (status : TaskStatus) (current : String)
    (f : TaskRow → TaskRow) : Option (Db × ℕ) :=
  match db.tasks.lookup id with
  | some t =>
      if t.status = status ∧ t.assigneeAgentId = some current then
        (db.relinkTask id f).map fun db' => (db', 1)
      else some (db, 0)
  | none => some (db, 0)

/-- A reassignment that changes a row. -/
theorem reassignTask_eq_some {status : TaskStatus} {current : String} {rows : ℕ} (hrows : rows ≠ 0)
    (h : db.reassignTask id status current f = some (db', rows)) :
    ∃ t, db.tasks.lookup id = some t ∧ t.status = status ∧ t.assigneeAgentId = some current ∧
      db.relinkTask id f = some db' := by
  unfold reassignTask at h
  split at h
  · rename_i t ht
    split at h
    · rename_i hwhere
      obtain ⟨db₁, hdb₁, heq⟩ := Option.map_eq_some_iff.mp h
      obtain ⟨rfl, rfl⟩ := Prod.mk.inj heq
      exact ⟨t, ht, hwhere.1, hwhere.2, hdb₁⟩
    · exact absurd (Prod.mk.inj (Option.some.inj h)).2.symm hrows
  · exact absurd (Prod.mk.inj (Option.some.inj h)).2.symm hrows

/-- `INSERT INTO messages`: fails on a key that is taken or an unknown startup. -/
def insertMessage (db : Db) (id : String) (m : Message) : Option Db :=
  if db.messages.lookup id = none ∧ (db.startups.lookup m.startupId).isSome then
    some { db with messages := db.messages.insert id m }
  else none

/-- `UPDATE agents SET is_peer_reviewer = ? WHERE id = ?`. -/
def setPeerReviewer (db : Db) (id : String) (v : Bool) : Db where
  __ := db
  agents := db.agents.modify id fun a => { a with isPeerReviewer := v }
  taskRefs := by
    intro u t ht
    refine (db.taskRefs u t ht).mono rfl (fun a ha => ?_) (fun _ h => h)
    rw [Table.lookup_modify]
    split <;> simpa using ha
  agentIds := by
    rw [Table.lookup_modify, db.agentIds]
    simp

/-- `UPDATE startups SET … WHERE id = ?`. -/
def updateStartup (db : Db) (id : String) (f : Startup → Startup) : Db where
  __ := db
  startups := db.startups.modify id f
  taskRefs := by
    intro u t ht
    have h := db.taskRefs u t ht
    refine ⟨?_, h.parent, h.assignee, h.blocker⟩
    rw [Table.lookup_modify]
    split <;> simpa using h.startup

end Db

/-! ### The loop -/

/-- What the world loop owns. The outbound map is the list of its keys; `frames` are the frames that
were accepted by an agent's channel. Source: `loop_.rs` `spawn_with_layout` -/
structure LoopState where
  world : WorldView
  paths : PathStore
  outBus : List String
  db : Db
  frames : List (String × Json)

/-- Source: `tokio::sync::mpsc::Sender::try_send` -/
inductive SendResult where
  | ok
  | full
  | closed
  deriving DecidableEq, Repr

/-- The file system, as `sandbox::resolve` and a read of the whole file see it. -/
structure Files where
  resolve : String → String → Except String String
  read : String → Except String (List UInt8)

/-- What a single step reads from outside: the clock, a fresh id and a fresh token, the channels of the
workers, the supervisor, the files, the commands that tools run, and the order in which a query or a
hash map yields its rows. -/
structure Env where
  now : ℤ
  newId : String
  newToken : String
  trySend : String → Json → SendResult
  /-- Whether the supervisor spawns a worker. -/
  spawn : SpawnConfig → Bool
  files : Files
  /-- What a tool comes to that runs a command: the tool, the directory and the arguments give a
  refusal, or a reply and the results that go to the audit trail, if it writes there. -/
  command : String → String → Json →
    Except (String × String) (Option (List (String × Json)) × Json)
  /-- What a tool answers that changes nothing of this state. -/
  reply : String → Json → Except (String × String) Json
  /-- The order of the rows with the given keys. -/
  order : List String → List String
  order_perm : ∀ keys, (order keys).Perm keys

/-- What stays the same while the program runs: the search, the map, the mode of the workers and the
environment variables, and the texts that libraries render. -/
structure Config where
  astar : AStar
  layout : TownLayout
  /-- `CLIPTOWN_PER_TASK_WORKERS=1`, and a supervisor is there. -/
  perTaskMode : Bool
  agentSecret : String → String
  worldUrl : String
  /-- `CLIPTOWN_OPERATOR_TOKEN`. -/
  operatorToken : String
  /-- `auth::hash_operator_token`. -/
  hashToken : String → String
  /-- `serde_json::to_string`. -/
  jsonText : Json → String
  /-- The text of a violated constraint. -/
  sqlText : String

namespace LoopState

/-- Push a frame to an agent's worker, if it is registered and its channel takes it. Source: the uses
of `out_bus.get(..)` and `try_send` -/
def push (env : Env) (s : LoopState) (agentId : String) (frame : Json) : LoopState :=
  if agentId ∈ s.outBus ∧ env.trySend agentId frame = .ok then
    { s with frames := s.frames ++ [(agentId, frame)] }
  else s

/-- Change a row of `tasks` without touching its references. -/
def updateTask (s : LoopState) (id : String) (f : TaskRow → TaskRow)
    (hf : ∀ t, (f t).refs = t.refs) : LoopState :=
  { s with db := s.db.updateTask id f hf }

/-- Source: `persist.rs` `append_audit` -/
def appendAudit (env : Env) (s : LoopState) (id : String) (entry : Json) : LoopState :=
  s.updateTask id
    (fun t => { t with auditTrail := t.auditTrail ++ [entry], updatedAt := env.now }) fun _ => rfl

/-- Source: `persist.rs` `append_epistemic` -/
def appendEpistemic (env : Env) (s : LoopState) (id : String) (entry : Json) : LoopState :=
  s.updateTask id
    (fun t => { t with epistemicLog := t.epistemicLog ++ [entry], updatedAt := env.now }) fun _ => rfl

/-- Source: `emit.rs` `emit_system_event` -/
def emitSystemEvent (env : Env) (s : LoopState) (startupId : Option String) (kind : String)
    (payload : Json) (severity : String) : LoopState :=
  { s with
    db := { s.db with
      systemEvents := s.db.systemEvents ++ [⟨startupId, kind, payload, severity, env.now⟩] } }

/-- `UPDATE tasks SET status = ?, updated_at = unixepoch() WHERE id = ?`. -/
def setStatus (env : Env) (s : LoopState) (id : String) (status : TaskStatus) : LoopState :=
  s.updateTask id (fun t => { t with status := status, updatedAt := env.now }) fun _ => rfl

/-- `world.avatars.get_mut(id)` and a new status. -/
def setAvatarStatus (s : LoopState) (agentId : String) (status : AvatarStatus) : LoopState :=
  { s with world := s.world.setAvatar agentId fun a => { a with status := status } }

end LoopState

/-! ### The board that a state shows -/

/-- The card of a row. -/
def TaskRow.card (t : TaskRow) : Card String String where
  status := t.status
  assignee := t.assigneeAgentId
  blockedOn := t.blockedOn
  reviewRound := t.reviewRound

/-- The cards of the table. -/
def Db.card (db : Db) (id : String) : Option (Card String String) :=
  (db.tasks.lookup id).map TaskRow.card

/-- The statuses of the avatars. -/
def statusOf (w : WorldView) (agentId : String) : Option AvatarStatus :=
  (w.avatars.lookup agentId).map AvatarView.status

/-- The board that a state shows. -/
def LoopState.board (s : LoopState) : Board String String where
  card := s.db.card
  avatar := statusOf s.world

/-- A card of the board is the card of a row. -/
theorem Db.card_eq_some_iff {db : Db} {id : String} {c : Card String String} :
    db.card id = some c ↔ ∃ t, db.tasks.lookup id = some t ∧ t.card = c :=
  Option.map_eq_some_iff

section Show

variable {s : LoopState} {env : Env} {id agentId : String} {t : TaskRow} {f : TaskRow → TaskRow}

/-- The rows after an update of one row. -/
theorem lookup_updateTask (s : LoopState) (id : String) (f : TaskRow → TaskRow)
    (hf : ∀ t, (f t).refs = t.refs) (u : String) :
    (s.updateTask id f hf).db.tasks.lookup u =
      if u = id then (s.db.tasks.lookup u).map f else s.db.tasks.lookup u :=
  Table.lookup_modify _ _ _ _

/-- A row that is there shows its card. -/
theorem card_of_lookup (h : s.db.tasks.lookup id = some t) : s.board.card id = some t.card :=
  Db.card_eq_some_iff.mpr ⟨t, h, rfl⟩

/-- Changing one row changes one card. -/
theorem Db.card_modify {db db' : Db} (htasks : db'.tasks = db.tasks.modify id f)
    (h : db.tasks.lookup id = some t) :
    db'.card = Function.update db.card id (some (f t).card) := by
  funext u
  unfold Db.card
  rw [htasks, Table.lookup_modify, Function.update_apply]
  split
  · rename_i heq
    rw [heq, h]
    rfl
  · rfl

/-- An update of a row is a placed card. -/
theorem board_updateTask {c : Card String String} {g : Card String String → Card String String}
    (h : s.board.card id = some c) (hf : ∀ t, (f t).refs = t.refs)
    (hg : ∀ t, (f t).card = g t.card) :
    (s.updateTask id f hf).board = s.board.put id (g c) := by
  obtain ⟨t, ht, rfl⟩ := Db.card_eq_some_iff.mp h
  rw [← hg]
  unfold LoopState.board Board.put
  congr 1
  exact Db.card_modify rfl ht

/-- An update that the card does not show. -/
theorem board_updateTask_of_card (hf : ∀ t, (f t).refs = t.refs)
    (hcard : ∀ t, (f t).card = t.card) : (s.updateTask id f hf).board = s.board := by
  unfold LoopState.board
  congr 1
  funext u
  unfold Db.card
  rw [lookup_updateTask]
  split
  · rw [Option.map_map, show TaskRow.card ∘ f = TaskRow.card from funext hcard]
  · rfl

/-- A granted update that touches references is a placed card. -/
theorem board_relinkTask {db' : Db} (h : s.db.tasks.lookup id = some t)
    (hdb : s.db.relinkTask id f = some db') :
    ({ s with db := db' } : LoopState).board = s.board.put id (f t).card := by
  unfold Db.relinkTask at hdb
  split at hdb
  · obtain rfl := Option.some.inj hdb
    unfold LoopState.board Board.put
    congr 1
    exact Db.card_modify rfl h
  · exact absurd hdb (by simp)

/-- A granted insert is a new card, whose blocker exists. -/
theorem board_insertTask {db' : Db} (hdb : s.db.insertTask id t = some db') :
    s.board.card id = none ∧ (∀ u ∈ t.blockedOn, (s.board.card u).isSome) ∧
      ({ s with db := db' } : LoopState).board = s.board.put id t.card := by
  unfold Db.insertTask at hdb
  split at hdb
  · rename_i hnew
    obtain rfl := Option.some.inj hdb
    refine ⟨?_, fun u hu => ?_, ?_⟩
    · simp [LoopState.board, Db.card, hnew.1]
    · simpa [LoopState.board, Db.card] using hnew.2.blocker u hu
    · unfold LoopState.board Board.put
      congr 1
      funext u
      unfold Db.card
      simp only [Table.lookup_insert_eq, Function.update_apply]
      split <;> rfl
  · exact absurd hdb (by simp)

/-- A message does not show. -/
theorem board_insertMessage {db' : Db} {m : Message} (hdb : s.db.insertMessage id m = some db') :
    ({ s with db := db' } : LoopState).board = s.board := by
  unfold Db.insertMessage at hdb
  split at hdb
  · obtain rfl := Option.some.inj hdb
    rfl
  · exact absurd hdb (by simp)

@[simp]
theorem board_push (agentId : String) (frame : Json) :
    (s.push env agentId frame).board = s.board := by
  unfold LoopState.push
  split <;> rfl

/-- A loop over what does not show does not show. -/
theorem board_foldl {ι : Type*} {f : LoopState → ι → LoopState}
    (hf : ∀ s i, (f s i).board = s.board) (l : List ι) :
    ∀ s : LoopState, (l.foldl f s).board = s.board := by
  induction l with
  | nil =>
      intro s
      rfl
  | cons i l ih =>
      intro s
      exact (ih (f s i)).trans (hf s i)

@[simp]
theorem board_appendAudit (id : String) (entry : Json) :
    (s.appendAudit env id entry).board = s.board :=
  board_updateTask_of_card _ fun _ => rfl

@[simp]
theorem board_appendEpistemic (id : String) (entry : Json) :
    (s.appendEpistemic env id entry).board = s.board :=
  board_updateTask_of_card _ fun _ => rfl

@[simp]
theorem board_emitSystemEvent (startupId : Option String) (kind : String) (payload : Json)
    (severity : String) : (s.emitSystemEvent env startupId kind payload severity).board = s.board :=
  rfl

/-- A change of status is a placed card. -/
theorem board_setStatus {c : Card String String} (h : s.board.card id = some c)
    (status : TaskStatus) :
    (s.setStatus env id status).board = s.board.put id { c with status := status } :=
  board_updateTask (g := fun c => { c with status := status }) h _ fun _ => rfl

/-- A change of an avatar that its status does not show. -/
theorem statusOf_setAvatar {w : WorldView} {g : AvatarView → AvatarView}
    (hg : ∀ a, (g a).status = a.status) : statusOf (w.setAvatar agentId g) = statusOf w := by
  funext x
  unfold statusOf
  by_cases hx : x = agentId
  · rw [hx, WorldView.lookup_setAvatar_self, Option.map_map,
      show AvatarView.status ∘ g = AvatarView.status from funext hg]
  · rw [WorldView.lookup_setAvatar_ne w hx]

/-- A planned move does not show. -/
theorem statusOf_startMove (A : AStar) (w : WorldView) (paths : PathStore) (L : TownLayout)
    (G : RoomGraph) (agentId room : String) (target : Tile) :
    statusOf (startMove A w paths L G agentId room target).2.1 = statusOf w := by
  rcases startMove_world A w paths L G agentId room target with h | ⟨t, h⟩
  · rw [h]
  · rw [h]
    exact statusOf_setAvatar fun _ => rfl

/-- Taking steps does not show. -/
theorem statusOf_stepAll (w : WorldView) (paths : PathStore) :
    statusOf (stepAll w paths).1 = statusOf w := by
  funext x
  unfold statusOf
  cases hp : paths.lookup x with
  | none => rw [(stepAll_of_none hp).1]
  | some q =>
      cases ha : w.avatars.lookup x with
      | none => rw [(stepAll_of_no_avatar hp ha).1]
      | some a =>
          rw [(stepAll_of_some hp ha).1]
          rcases q with _ | ⟨s, _ | ⟨s', rest⟩⟩ <;> rfl

/-- A new status of an avatar is a mark on the board. -/
@[simp]
theorem board_setAvatarStatus (agentId : String) (status : AvatarStatus) :
    (s.setAvatarStatus agentId status).board = s.board.mark agentId status := by
  unfold LoopState.board Board.mark
  congr 1
  funext x
  rw [Function.update_apply]
  unfold statusOf LoopState.setAvatarStatus
  split
  · rename_i heq
    rw [heq, WorldView.lookup_setAvatar_self, Option.map_map, Option.map_map]
    rfl
  · rw [WorldView.lookup_setAvatar_ne _ ‹_›]

end Show

end Cliptown.Task
