import Cliptown.Task.State
import Cliptown.Worker.Workdir

/-!
# A new startup

* `NewStartup` — what a freshly created startup consists of: its suite, and its three agents.
* `NewStartup.state` — the state that shows it and nothing else.
-/

namespace Cliptown.Task

open Cliptown.Lib Cliptown.Town Cliptown.World Cliptown.Worker

/-- Where the desk of a role stands in the suite. Source: `api_startups.rs` `HOME_DESK_OFFSETS` -/
def homeDeskOffset : String → Tile
  | "founder" => (1, 1)
  | "engineer" => (3, 1)
  | "designer" => (5, 1)
  | _ => (1, 1)

/-- A startup that is created: the ids are minted. Source: `api_startups.rs` `create_startup` -/
structure NewStartup where
  id : String
  budgetCapUsd : ℚ
  suiteId : String
  suite : Bounds
  founderId : String
  engineerId : String
  designerId : String
  founderBackend : String
  engineerBackend : String
  designerBackend : String
  /-- No minted id is the operator's. -/
  ids : operatorAvatarId ∉ [founderId, engineerId, designerId]

namespace NewStartup

variable (n : NewStartup)

/-- The role, id, backend and manager of each agent. -/
def agents : List (String × String × String × Option String) :=
  [("founder", n.founderId, n.founderBackend, none),
    ("engineer", n.engineerId, n.engineerBackend, some n.founderId),
    ("designer", n.designerId, n.designerBackend, some n.founderId)]

/-- The row of an agent. -/
def agentRow (a : String × String × String × Option String) : Agent where
  startupId := n.id
  role := a.1
  backend := a.2.2.1
  managerId := a.2.2.2
  isPeerReviewer := false

/-- The avatar of an agent, idle at its desk. -/
def avatarView (a : String × String × String × Option String) : AvatarView where
  agentId := a.2.1
  startupId := n.id
  role := a.1
  currentPos := Tile.shift (n.suite.x, n.suite.y) (homeDeskOffset a.1)
  targetPos := none
  roomId := n.suiteId
  status := .idle

/-- The row of the startup; the settings have their defaults. -/
def startupRow : Startup where
  budgetCapUsd := n.budgetCapUsd
  budgetSpentUsd := 0
  workspacePath := workspacePath n.id
  autoStealEnabled := false
  autoStealAfterSecs := 60
  autoRecoveryEnabled := false
  autoRecoveryMaxAttempts := 2

/-- The table of the agents. -/
def agentTable : Table String Agent :=
  Table.ofList (n.agents.map fun a => (a.2.1, n.agentRow a))

/-- No agent has the id of the operator's avatar. -/
theorem lookup_operator : n.agentTable.lookup operatorAvatarId = none := by
  by_contra h
  obtain ⟨row, hrow⟩ := Option.ne_none_iff_exists'.mp h
  obtain ⟨a, ha, heq⟩ := List.mem_map.mp (Table.mem_of_lookup_ofList hrow)
  apply n.ids
  simp only [agents, List.mem_cons, List.not_mem_nil, or_false] at ha
  rcases ha with rfl | rfl | rfl <;> simp [← (Prod.mk.inj heq).1]

/-- The operator that the migrations seed. Source: `migrations/0003_operators.sql` -/
def seededAdmin : Operator where
  name := "default-admin"
  role := .admin
  token := some "dev-token"
  tokenHash := none

/-- The state that shows the startup and nothing else. -/
def state : LoopState where
  world := ⟨Table.ofList (n.agents.map fun a => (a.2.1, n.avatarView a))⟩
  paths := ∅
  outBus := []
  db :=
    { startups := Table.ofList [(n.id, n.startupRow)]
      agents := n.agentTable
      tasks := ∅
      messages := ∅
      systemEvents := []
      operators := Table.ofList [("op_default", seededAdmin)]
      actionLocks := ∅
      skills := .empty
      taskRefs := by simp
      agentIds := n.lookup_operator }
  frames := []

/-- Every avatar is idle. -/
theorem status_of_lookup {agentId : String} {a : AvatarView}
    (h : n.state.world.avatars.lookup agentId = some a) : a.status = .idle := by
  obtain ⟨x, -, heq⟩ := List.mem_map.mp (Table.mem_of_lookup_ofList h)
  rw [← (Prod.mk.inj heq).2]
  rfl

/-- The avatars are those of the agents, in the same places. -/
theorem agent_of_avatar {key : String} {avatar : AvatarView} {agent : Agent}
    (havatar : n.state.world.avatars.lookup key = some avatar)
    (hagent : n.state.db.agents.lookup key = some agent) :
    agent.startupId = avatar.startupId ∧ agent.role = avatar.role := by
  have havatar' := (Table.lookup_ofList_map n.avatarView n.agents key).symm.trans havatar
  have hagent' := (Table.lookup_ofList_map n.agentRow n.agents key).symm.trans hagent
  obtain ⟨a, ha, rfl⟩ := Option.map_eq_some_iff.mp havatar'
  obtain ⟨a', ha', rfl⟩ := Option.map_eq_some_iff.mp hagent'
  obtain rfl := Option.some.inj (ha.symm.trans ha')
  exact ⟨rfl, rfl⟩

/-- The id of an avatar is its key. -/
theorem agentId_of_lookup {key : String} {avatar : AvatarView}
    (havatar : n.state.world.avatars.lookup key = some avatar) : avatar.agentId = key := by
  obtain ⟨x, -, heq⟩ := List.mem_map.mp (Table.mem_of_lookup_ofList havatar)
  obtain ⟨rfl, rfl⟩ := Prod.mk.inj heq
  rfl

end NewStartup

end Cliptown.Task
