import Cliptown.Lib.Runs
import Cliptown.Lib.Table
import Cliptown.Worker.Args
import Mathlib.Data.Finset.Erase
import Mathlib.Data.Finset.Insert

/-!
# The supervisor of the workers

A call of `spawn_agent` spawns a child and starts a loop, which waits for the child and spawns it again when it
fails. The loops and `dissolve_startup` share a table of process ids and a set of tombstones, each behind a lock of
its own.

* `Child`, `Watch` — a child, and where a call and its loop are.
* `AgentSupervisor` — the two tables.
* `WatchStep` — the next step of a call or its loop.
* `Dissolve`, `SupervisorStep`, `supervisorSystem` — any number of calls and one dissolution, in any order of steps.
* `WatchStep.frame`, `WatchStep.watchful`, `WatchStep.quiet` — what a step of a loop leaves as it is.
* `Entered` — the entry of a loop in the table.

A step is what is done between two points where others may come in: under a lock, or at a system call.
-/

namespace Cliptown.Worker

open Cliptown.Lib

/-! ### Children -/

/-- A child runs, and may have been signalled, or it has exited. -/
inductive ChildStatus where
  | running (signalled : Bool)
  | exited (success : Bool)
  deriving DecidableEq, Repr

/-- Source: `tokio::process::Child` -/
structure Child where
  pid : ℕ
  status : ChildStatus
  deriving DecidableEq, Repr

namespace Child

/-- A child as the system has spawned it. -/
def spawned (pid : ℕ) : Child :=
  ⟨pid, .running false⟩

/-- It has not exited. -/
def Running (c : Child) : Prop :=
  ∃ signalled, c.status = .running signalled

/-- It has been signalled and has not exited. -/
def Signalled (c : Child) : Prop :=
  c.status = .running true

/-- It exits. -/
def exit (success : Bool) (c : Child) : Child :=
  { c with status := .exited success }

/-- A signal to a process id. Source: `agent_supervisor.rs` `send_signal` -/
def signal (pid : ℕ) (c : Child) : Child :=
  match c.status with
  | .running signalled => { c with status := .running (signalled || c.pid = pid) }
  | .exited _ => c

@[simp]
theorem pid_exit (success : Bool) (c : Child) : (c.exit success).pid = c.pid :=
  rfl

@[simp]
theorem pid_signal (pid : ℕ) (c : Child) : (c.signal pid).pid = c.pid := by
  unfold signal
  split <;> rfl

/-- A child that has exited does not run. -/
theorem not_running_exit (success : Bool) (c : Child) : ¬ (c.exit success).Running := by
  rintro ⟨signalled, h⟩
  exact absurd h (by simp [exit])

/-- A signal reaches the children of its process id, and makes none run. -/
theorem running_signal {pid : ℕ} {c : Child} (h : (c.signal pid).Running) :
    c.Running ∧ (c.Signalled ∨ c.pid = pid → (c.signal pid).Signalled) := by
  unfold Running Signalled signal at *
  cases hstatus : c.status with
  | running signalled => exact ⟨⟨signalled, rfl⟩, fun h => by rcases h with h | h <;> simp_all⟩
  | exited success =>
      obtain ⟨signalled, h⟩ := h
      simp only [hstatus] at h
      exact absurd h (by simp)

end Child

/-! ### Calls and their loops -/

/-- Where a call of `spawn_agent`, or the loop that it has started, is. `failures` counts the exits so far that were
not clean. Source: `agent_supervisor.rs` `spawn_agent`, `watch_loop` -/
inductive Watch where
  /-- Not called yet. -/
  | idle
  /-- The child is spawned, and its entry not inserted. -/
  | inserting (child : Child)
  /-- In `child.wait()`. -/
  | waiting (failures : ℕ) (child : Child)
  /-- The child has exited; before the first look at the tombstones. -/
  | exited (failures : ℕ) (success : Bool)
  /-- In the sleep after a failure; before the second look at the tombstones. -/
  | sleeping (failures : ℕ)
  /-- Before the child is spawned again. -/
  | respawning (failures : ℕ)
  /-- The child is spawned again, and its process id not recorded. -/
  | recording (failures : ℕ) (child : Child)
  /-- Before the entry is removed. -/
  | removing
  /-- The call has failed, or the loop has returned. -/
  | done
  deriving DecidableEq, Repr

namespace Watch

/-- The child, unless it is known to have exited. -/
def child : Watch → Option Child
  | .inserting c | .waiting _ c | .recording _ c => some c
  | _ => none

/-- Something happens to the child. -/
def mapChild (f : Child → Child) : Watch → Watch
  | .inserting c => .inserting (f c)
  | .waiting failures c => .waiting failures (f c)
  | .recording failures c => .recording failures (f c)
  | w => w

/-- After a look at the tombstones that has found none. -/
def afterExit (backoffMs : List ℕ) (failures : ℕ) (success : Bool) : Watch :=
  if success then .removing
  else if backoffMs.length < failures + 1 then .removing
  else .sleeping (failures + 1)

/-- The call has been made, and its loop has not returned. -/
def Active : Watch → Prop
  | .idle | .done => False
  | _ => True

/-- The loop will look at the tombstones again. -/
def Watchful : Watch → Prop
  | .waiting .. | .exited .. | .sleeping _ | .respawning _ | .recording .. => True
  | _ => False

/-- It will, before it spawns anything. -/
def Quiet : Watch → Prop
  | .waiting .. | .exited .. | .sleeping _ => True
  | _ => False

/-- The entry has been inserted and not been removed. -/
def Listed : Watch → Prop
  | .removing => True
  | w => w.Watchful

/-- The process id that the entry shows. -/
def recorded : Watch → Option ℕ
  | .waiting _ c => some c.pid
  | _ => none

end Watch

/-! ### The tables -/

/-- Source: `agent_supervisor.rs` `AgentEntry` -/
structure AgentEntry where
  pid : Option ℕ
  startupId : String
  deriving DecidableEq, Repr

/-- Source: `agent_supervisor.rs` `AgentSupervisor` -/
structure AgentSupervisor where
  agents : Table String AgentEntry
  tombstones : Finset String

namespace AgentSupervisor

/-- Source: `spawn_agent` -/
def insertAgent (sup : AgentSupervisor) (cfg : SpawnConfig) (pid : ℕ) : AgentSupervisor :=
  { sup with agents := sup.agents.insert cfg.agentId ⟨some pid, cfg.startupId⟩ }

/-- Source: the end of `watch_loop` -/
def recordPid (sup : AgentSupervisor) (agentId : String) (pid : ℕ) : AgentSupervisor :=
  { sup with agents := sup.agents.modify agentId fun e => { e with pid := some pid } }

/-- Source: `remove_agent` -/
def removeAgent (sup : AgentSupervisor) (agentId : String) : AgentSupervisor :=
  { sup with agents := sup.agents.erase agentId }

/-- Source: `take_tombstone` -/
def takeTombstone (sup : AgentSupervisor) (agentId : String) : AgentSupervisor :=
  { sup with tombstones := sup.tombstones.erase agentId }

/-- Source: `set_tombstone` -/
def setTombstone (sup : AgentSupervisor) (agentId : String) : AgentSupervisor :=
  { sup with tombstones := insert agentId sup.tombstones }

/-- The agents of a startup with their process ids. Source: `dissolve_startup`, `targets` -/
def targets (sup : AgentSupervisor) (startupId : String) : List (String × Option ℕ) :=
  (sup.agents.entries.filter fun e => e.2.startupId = startupId).map fun e => (e.1, e.2.pid)

/-- The process ids that the targets have now. Source: `dissolve_startup`, `stragglers` -/
def stragglers (sup : AgentSupervisor) (targets : List (String × Option ℕ)) : List ℕ :=
  targets.filterMap fun t => (sup.agents.lookup t.1).bind AgentEntry.pid

/-- An agent of the startup is a target. -/
theorem mem_targets {sup : AgentSupervisor} {startupId agentId : String} {e : AgentEntry}
    (h : sup.agents.lookup agentId = some e) (hstartup : e.startupId = startupId) :
    (agentId, e.pid) ∈ sup.targets startupId := by
  refine List.mem_map.mpr ⟨⟨agentId, e⟩, List.mem_filter.mpr ⟨?_, by simpa using hstartup⟩, rfl⟩
  exact AList.mem_lookup_iff.mp h

end AgentSupervisor

/-! ### Steps of a loop -/

/-- The next step of a call or its loop, and what it does to the tables. A child that could not be spawned again leaves
the loop with the exit that it has seen. Source: `agent_supervisor.rs` `spawn_agent`, `watch_loop` -/
inductive WatchStep (cfg : SpawnConfig) (backoffMs : List ℕ) :
    AgentSupervisor × Watch → AgentSupervisor × Watch → Prop
  | spawn {sup : AgentSupervisor} (pid : ℕ) : WatchStep cfg backoffMs (sup, .idle) (sup, .inserting (.spawned pid))
  | spawnFails {sup : AgentSupervisor} : WatchStep cfg backoffMs (sup, .idle) (sup, .done)
  | insert {sup : AgentSupervisor} {c : Child} :
      WatchStep cfg backoffMs (sup, .inserting c) (sup.insertAgent cfg c.pid, .waiting 0 c)
  | exit {sup : AgentSupervisor} {w : Watch} {c : Child} (success : Bool) :
      w.child = some c → c.Running → WatchStep cfg backoffMs (sup, w) (sup, w.mapChild (Child.exit success))
  | wait {sup : AgentSupervisor} {failures : ℕ} {c : Child} {success : Bool} : c.status = .exited success →
      WatchStep cfg backoffMs (sup, .waiting failures c) (sup, .exited failures success)
  | terminated {sup : AgentSupervisor} {failures : ℕ} {success : Bool} : cfg.agentId ∈ sup.tombstones →
      WatchStep cfg backoffMs (sup, .exited failures success) (sup.takeTombstone cfg.agentId, .removing)
  | check {sup : AgentSupervisor} {failures : ℕ} {success : Bool} : cfg.agentId ∉ sup.tombstones →
      WatchStep cfg backoffMs (sup, .exited failures success) (sup, .afterExit backoffMs failures success)
  | cancelled {sup : AgentSupervisor} {failures : ℕ} : cfg.agentId ∈ sup.tombstones →
      WatchStep cfg backoffMs (sup, .sleeping failures) (sup.takeTombstone cfg.agentId, .removing)
  | wake {sup : AgentSupervisor} {failures : ℕ} : cfg.agentId ∉ sup.tombstones →
      WatchStep cfg backoffMs (sup, .sleeping failures) (sup, .respawning failures)
  | respawn {sup : AgentSupervisor} {failures : ℕ} (pid : ℕ) :
      WatchStep cfg backoffMs (sup, .respawning failures) (sup, .recording failures (.spawned pid))
  | respawnFails {sup : AgentSupervisor} {failures : ℕ} :
      WatchStep cfg backoffMs (sup, .respawning failures) (sup, .exited failures false)
  | record {sup : AgentSupervisor} {failures : ℕ} {c : Child} :
      WatchStep cfg backoffMs (sup, .recording failures c) (sup.recordPid cfg.agentId c.pid, .waiting failures c)
  | remove {sup : AgentSupervisor} :
      WatchStep cfg backoffMs (sup, .removing) (sup.removeAgent cfg.agentId, .done)

/-! ### The dissolution -/

/-- Where `dissolve_startup` is. `left` is what is left of the loop that it is in. -/
inductive Dissolve where
  /-- Not called yet. -/
  | idle
  /-- Before the snapshot of the table. -/
  | called
  /-- Before the tombstones of `left`. -/
  | burying (targets left : List (String × Option ℕ))
  /-- Before the SIGTERM to `left`. -/
  | terminating (targets left : List (String × Option ℕ))
  /-- In the sleep. -/
  | grace (targets : List (String × Option ℕ))
  /-- Before the SIGKILL to `left`. -/
  | killing (left : List ℕ)
  | returned
  deriving DecidableEq, Repr

/-- The tables, the calls with their loops, and the dissolution; `early` are the calls that had spawned their child
when it was called. -/
structure SupervisorState (ι : Type*) where
  sup : AgentSupervisor
  watch : ι → Watch
  dissolve : Dissolve
  early : Set ι

/-- A step of a call or its loop or of its child, or a step of the dissolution. -/
inductive SupervisorLabel (ι : Type*) where
  | watch (i : ι)
  | dissolve

variable {ι : Type*}

namespace SupervisorState

/-- A signal to a process id. -/
def signal (s : SupervisorState ι) (pid : ℕ) : SupervisorState ι :=
  { s with watch := fun i => (s.watch i).mapChild (Child.signal pid) }

/-- Every child that has been signalled has exited. -/
def SignalledExited (s : SupervisorState ι) : Prop :=
  ∀ i c, (s.watch i).child = some c → ¬ c.Signalled

end SupervisorState

/-- The next step of the dissolution. The order of a hash map is any. Source: `agent_supervisor.rs`
`dissolve_startup` -/
inductive DissolveStep (startupId : String) : SupervisorState ι → SupervisorState ι → Prop
  | call {s : SupervisorState ι} : s.dissolve = .idle →
      DissolveStep startupId s { s with dissolve := .called, early := {i | s.watch i ≠ .idle} }
  | snapshot {s : SupervisorState ι} {targets : List (String × Option ℕ)} : s.dissolve = .called →
      targets.Perm (s.sup.targets startupId) →
      DissolveStep startupId s { s with dissolve := .burying targets targets }
  | bury {s : SupervisorState ι} {targets left : List (String × Option ℕ)} {t : String × Option ℕ} :
      s.dissolve = .burying targets (t :: left) →
      DissolveStep startupId s { s with sup := s.sup.setTombstone t.1, dissolve := .burying targets left }
  | buried {s : SupervisorState ι} {targets : List (String × Option ℕ)} : s.dissolve = .burying targets [] →
      DissolveStep startupId s { s with dissolve := .terminating targets targets }
  | terminate {s : SupervisorState ι} {targets left : List (String × Option ℕ)} {agentId : String} {pid : ℕ} :
      s.dissolve = .terminating targets ((agentId, some pid) :: left) →
      DissolveStep startupId s { s.signal pid with dissolve := .terminating targets left }
  | skip {s : SupervisorState ι} {targets left : List (String × Option ℕ)} {agentId : String} :
      s.dissolve = .terminating targets ((agentId, none) :: left) →
      DissolveStep startupId s { s with dissolve := .terminating targets left }
  | terminated {s : SupervisorState ι} {targets : List (String × Option ℕ)} : s.dissolve = .terminating targets [] →
      DissolveStep startupId s { s with dissolve := .grace targets }
  | reread {s : SupervisorState ι} {targets : List (String × Option ℕ)} : s.dissolve = .grace targets →
      DissolveStep startupId s { s with dissolve := .killing (s.sup.stragglers targets) }
  | kill {s : SupervisorState ι} {left : List ℕ} {pid : ℕ} : s.dissolve = .killing (pid :: left) →
      DissolveStep startupId s { s.signal pid with dissolve := .killing left }
  | killed {s : SupervisorState ι} : s.dissolve = .killing [] →
      DissolveStep startupId s { s with dissolve := .returned }

/-- A step of one call, or of the dissolution. -/
inductive SupervisorStep (cfgs : ι → SpawnConfig) (backoffMs : List ℕ) (startupId : String) :
    SupervisorState ι → SupervisorLabel ι → SupervisorState ι → Prop
  | watch {s : SupervisorState ι} {i : ι} {sup : AgentSupervisor} {watch : ι → Watch} :
      WatchStep (cfgs i) backoffMs (s.sup, s.watch i) (sup, watch i) → (∀ j, j ≠ i → watch j = s.watch j) →
      SupervisorStep cfgs backoffMs startupId s (.watch i) { s with sup, watch }
  | dissolve {s t : SupervisorState ι} : DissolveStep startupId s t →
      SupervisorStep cfgs backoffMs startupId s .dissolve t

/-- The runs: at first nothing has been called. -/
def supervisorSystem (cfgs : ι → SpawnConfig) (backoffMs : List ℕ) (startupId : String) :
    System (SupervisorState ι) (SupervisorLabel ι) where
  init s := s = ⟨⟨∅, ∅⟩, fun _ => .idle, .idle, ∅⟩
  step := SupervisorStep cfgs backoffMs startupId

/-! ### What a step leaves as it is -/

namespace Watch

variable {w : Watch} {f : Child → Child}

@[simp]
theorem active_mapChild : (w.mapChild f).Active ↔ w.Active := by
  cases w <;> rfl

@[simp]
theorem watchful_mapChild : (w.mapChild f).Watchful ↔ w.Watchful := by
  cases w <;> rfl

@[simp]
theorem quiet_mapChild : (w.mapChild f).Quiet ↔ w.Quiet := by
  cases w <;> rfl

@[simp]
theorem listed_mapChild : (w.mapChild f).Listed ↔ w.Listed := by
  cases w <;> rfl

@[simp]
theorem mapChild_eq_idle : w.mapChild f = .idle ↔ w = .idle := by
  cases w <;> simp [mapChild]

@[simp]
theorem child_mapChild : (w.mapChild f).child = w.child.map f := by
  cases w <;> rfl

theorem recorded_mapChild (hf : ∀ c, (f c).pid = c.pid) : (w.mapChild f).recorded = w.recorded := by
  cases w with
  | waiting failures c => exact congrArg some (hf c)
  | _ => rfl

/-- Its entry is in the table. -/
theorem Watchful.listed (h : w.Watchful) : w.Listed := by
  cases w <;> trivial

theorem Watchful.ne_removing (h : w.Watchful) : w ≠ .removing := by
  rintro rfl
  exact h

theorem Watchful.ne_done (h : w.Watchful) : w ≠ .done := by
  rintro rfl
  exact h

/-- A child that a quiet loop waits for is the one that the entry shows. -/
theorem Quiet.recorded (h : w.Quiet) {c : Child} (hc : w.child = some c) : w.recorded = some c.pid := by
  cases w with
  | waiting failures c' =>
      obtain rfl := Option.some.inj hc
      rfl
  | exited failures success => exact absurd hc (by simp [child])
  | sleeping failures => exact absurd hc (by simp [child])
  | _ => exact h.elim

/-- A loop that is waiting, or has seen its child exit. -/
theorem watchful_of_ne (hidle : w ≠ .idle) (hinserting : ∀ c, w ≠ .inserting c) (hremoving : w ≠ .removing)
    (hdone : w ≠ .done) : w.Watchful := by
  cases w with
  | idle => exact absurd rfl hidle
  | inserting c => exact absurd rfl (hinserting c)
  | removing => exact absurd rfl hremoving
  | done => exact absurd rfl hdone
  | _ => trivial

/-- After a look that has found none, the loop returns or sleeps. -/
theorem afterExit_cases (backoffMs : List ℕ) (failures : ℕ) (success : Bool) :
    afterExit backoffMs failures success = .removing ∨
      afterExit backoffMs failures success = .sleeping (failures + 1) := by
  unfold afterExit
  split
  · exact .inl rfl
  · split
    · exact .inl rfl
    · exact .inr rfl

end Watch

namespace WatchStep

variable {cfg : SpawnConfig} {backoffMs : List ℕ} {sup sup' : AgentSupervisor} {w w' : Watch}

/-- Only a loop that has not returned changes the tables. -/
theorem active (h : WatchStep cfg backoffMs (sup, w) (sup', w')) : w.Active ∨ w = .idle ∧ sup' = sup := by
  cases h with
  | spawn pid => exact .inr ⟨rfl, rfl⟩
  | spawnFails => exact .inr ⟨rfl, rfl⟩
  | exit success hc _ =>
      refine .inl ?_
      cases w with
      | inserting _ | waiting _ _ | recording _ _ => trivial
      | _ => exact absurd hc (by simp [Watch.child])
  | _ => exact .inl trivial

/-- A call that takes a step has been made. -/
theorem ne_idle (h : WatchStep cfg backoffMs (sup, w) (sup', w')) : w' ≠ .idle := by
  cases h with
  | exit success hc _ =>
      rw [Ne, Watch.mapChild_eq_idle]
      rintro rfl
      exact absurd hc (by simp [Watch.child])
  | @check _ failures success _ => rcases Watch.afterExit_cases backoffMs failures success with h | h <;> simp [h]
  | _ => simp

/-- **The frame**: it leaves the other agents alone. -/
theorem frame (h : WatchStep cfg backoffMs (sup, w) (sup', w')) {agentId : String} (hne : agentId ≠ cfg.agentId) :
    sup'.agents.lookup agentId = sup.agents.lookup agentId ∧
      (agentId ∈ sup'.tombstones ↔ agentId ∈ sup.tombstones) := by
  cases h with
  | insert => exact ⟨AList.lookup_insert_ne hne, Iff.rfl⟩
  | terminated _ => exact ⟨rfl, by simp [AgentSupervisor.takeTombstone, hne]⟩
  | cancelled _ => exact ⟨rfl, by simp [AgentSupervisor.takeTombstone, hne]⟩
  | record => exact ⟨Table.lookup_modify_ne _ hne _, Iff.rfl⟩
  | remove => exact ⟨AList.lookup_erase_ne hne, Iff.rfl⟩
  | _ => exact ⟨rfl, Iff.rfl⟩

/-- A loop sets no tombstone. -/
theorem mem_tombstones (h : WatchStep cfg backoffMs (sup, w) (sup', w')) {agentId : String}
    (hmem : agentId ∈ sup'.tombstones) : agentId ∈ sup.tombstones := by
  cases h with
  | terminated _ => exact Finset.mem_of_mem_erase hmem
  | cancelled _ => exact Finset.mem_of_mem_erase hmem
  | _ => exact hmem

/-- A loop that would look at the tombstones again does so still, or ends. -/
theorem watchful (h : WatchStep cfg backoffMs (sup, w) (sup', w')) (hw : w.Watchful) :
    w'.Watchful ∨ w' = .removing := by
  cases h with
  | exit success _ _ => exact .inl (Watch.watchful_mapChild.mpr hw)
  | terminated _ => exact .inr rfl
  | cancelled _ => exact .inr rfl
  | @check _ failures success _ =>
      rcases Watch.afterExit_cases backoffMs failures success with h | h
      · exact .inr h
      · rw [h]
        exact .inl trivial
  | spawn _ | spawnFails | insert | remove => exact hw.elim
  | _ => exact .inl trivial

/-- A loop that has found no tombstone, or has not looked, leaves none behind when it ends. -/
theorem notMem_of_removing (h : WatchStep cfg backoffMs (sup, w) (sup', .removing)) :
    cfg.agentId ∉ sup'.tombstones := by
  generalize hw' : Watch.removing = w' at h
  cases h with
  | @exit sup w c success hc _ =>
      cases w with
      | inserting _ | waiting _ _ | recording _ _ => exact absurd hw' (by simp [Watch.mapChild])
      | _ => exact absurd hc (by simp [Watch.child])
  | terminated _ => exact Finset.notMem_erase _ _
  | cancelled _ => exact Finset.notMem_erase _ _
  | check hnone => exact hnone
  | _ => exact absurd hw' (by simp)

/-- A loop that takes a tombstone ends. -/
theorem taken (h : WatchStep cfg backoffMs (sup, w) (sup', w')) (hmem : cfg.agentId ∈ sup.tombstones) :
    cfg.agentId ∈ sup'.tombstones ∨ w' = .removing := by
  cases h with
  | terminated _ => exact .inr rfl
  | cancelled _ => exact .inr rfl
  | _ => exact .inl hmem

/-- A loop that is about to end has one more step, and one that has ended has none. -/
theorem ends (h : WatchStep cfg backoffMs (sup, w) (sup', w')) : (w = .removing → w' = .done) ∧ w ≠ .done := by
  cases h with
  | exit success hc _ =>
      constructor <;> rintro rfl <;> exact absurd hc (by simp [Watch.child])
  | remove => exact ⟨fun _ => rfl, by simp⟩
  | _ => exact ⟨fun h => absurd h (by simp), by simp⟩

/-- It spawns nothing before. -/
theorem quiet (h : WatchStep cfg backoffMs (sup, w) (sup', w')) (hw : w.Quiet)
    (hmem : cfg.agentId ∈ sup'.tombstones) : w'.Quiet := by
  cases h with
  | exit success _ _ => exact Watch.quiet_mapChild.mpr hw
  | terminated _ => exact absurd hmem (Finset.notMem_erase _ _)
  | cancelled _ => exact absurd hmem (Finset.notMem_erase _ _)
  | check hnone => exact absurd hmem hnone
  | wake hnone => exact absurd hmem hnone
  | spawn _ | spawnFails | insert | respawn _ | respawnFails | record | remove => exact hw.elim
  | _ => trivial

/-- A child that runs after the step of a quiet loop ran before. -/
theorem running (h : WatchStep cfg backoffMs (sup, w) (sup', w')) (hw : w.Quiet) {c : Child}
    (hc : w'.child = some c) (hrunning : c.Running) : w.child = some c := by
  cases h with
  | exit success _ _ =>
      rw [Watch.child_mapChild] at hc
      obtain ⟨c', -, rfl⟩ := Option.map_eq_some_iff.mp hc
      exact absurd hrunning (Child.not_running_exit success c')
  | check _ =>
      rcases Watch.afterExit_cases backoffMs _ _ with h | h <;> rw [h] at hc <;> exact absurd hc (by simp [Watch.child])
  | spawn _ | spawnFails | insert | respawn _ | respawnFails | record | remove => exact hw.elim
  | _ => exact absurd hc (by simp [Watch.child])

end WatchStep

/-- The table has the entry of the loop, with the process id that it has recorded. -/
def Entered (cfg : SpawnConfig) (sup : AgentSupervisor) (w : Watch) : Prop :=
  w.Listed → ∃ e, sup.agents.lookup cfg.agentId = some e ∧ e.startupId = cfg.startupId ∧
    ∀ pid, w.recorded = some pid → e.pid = some pid

theorem Entered.of_lookup {cfg : SpawnConfig} {sup sup' : AgentSupervisor} {w : Watch} (h : Entered cfg sup w)
    (hkept : sup'.agents.lookup cfg.agentId = sup.agents.lookup cfg.agentId) : Entered cfg sup' w := by
  intro hw
  rw [hkept]
  exact h hw

theorem Entered.mapChild {cfg : SpawnConfig} {sup : AgentSupervisor} {w : Watch} {f : Child → Child}
    (h : Entered cfg sup w) (hf : ∀ c, (f c).pid = c.pid) : Entered cfg sup (w.mapChild f) := by
  intro hw
  rw [Watch.recorded_mapChild hf]
  exact h (Watch.listed_mapChild.mp hw)

/-- **The entry of a loop**, as long as nobody else writes it. -/
theorem Entered.watchStep {cfg : SpawnConfig} {backoffMs : List ℕ} {sup sup' : AgentSupervisor} {w w' : Watch}
    (h : Entered cfg sup w) (hstep : WatchStep cfg backoffMs (sup, w) (sup', w')) : Entered cfg sup' w' := by
  -- a step that only loses the process id
  have hkept : w.Listed → w'.recorded = none → Entered cfg sup w' := by
    rintro hw hnone -
    obtain ⟨e, he, hstartup, -⟩ := h hw
    exact ⟨e, he, hstartup, fun pid hpid => absurd (hnone.symm.trans hpid) (by simp)⟩
  cases hstep with
  | spawn pid => exact fun hw => hw.elim
  | spawnFails => exact fun hw => hw.elim
  | insert => exact fun _ => ⟨_, AList.lookup_insert _, rfl, fun pid hpid => hpid⟩
  | exit success _ _ => exact h.mapChild (Child.pid_exit success)
  | check _ =>
      rcases Watch.afterExit_cases backoffMs _ _ with hw | hw <;> rw [hw] at hkept ⊢ <;> exact hkept trivial rfl
  | record =>
      intro _
      obtain ⟨e, he, hstartup, -⟩ := h trivial
      refine ⟨{ e with pid := some _ }, ?_, hstartup, fun pid hpid => hpid⟩
      exact (Table.lookup_modify_self _ _ _).trans (by rw [he]; rfl)
  | remove => exact fun hw => hw.elim
  | _ => exact hkept trivial rfl

end Cliptown.Worker
