import Cliptown.Suite.Mirror

/-!
# Restarts

The process may stop at any moment, and it boots again on the same database. What it keeps in memory is lost then.

* `seedIfEmpty`, `boot` — the database and the memory of a process that has booted.
* `ServerState`, `serverSystem` — any number of lives of the process, each with requests of its own.
* `Rehydrated` — what a restart is to bring back: the avatars of the agents of the active startups, and the owners of
  the suites.
* `Lives` — the invariant: the database is allocated in every life.
* `rehydrated_restart_iff` — in every run, a restart brings that back exactly when no startup is active.
-/

namespace Cliptown.Suite

open Cliptown.Lib Cliptown.Town Cliptown.World Cliptown.Task Cliptown.Console

variable {ι : Type*}

/-! ### Boot -/

/-- The database of a file, which is empty before the first boot. Source: `storage.rs` `open`, `seed.rs`
`seed_if_empty` -/
def seedIfEmpty (file : Option TownDb) : TownDb :=
  file.getD seededTown

/-- What the loop is sent about avatars and suites. Source: `main.rs` `main`, where it is sent the catalog of the
backends and nothing else -/
def bootMessages : List SuiteMessage :=
  []

/-- A process that has booted: the world is the default one, and so is the layout. Source: `main.rs` `main`, up to the
first request -/
def boot (sqlText : String) (requests : ι → SuiteRequest) (file : Option TownDb) : MirrorState ι where
  clients := ⟨seedIfEmpty file, fun i => .asking ((requests i).request sqlText)⟩
  sent := ∅
  queue := bootMessages
  layout := defaultTown
  world := ⟨∅⟩

/-! ### Lives of the process -/

/-- How often the process has restarted, and the process. -/
structure ServerState (ι : Type*) where
  restarts : ℕ
  process : MirrorState ι

/-- A step of the process, or a restart. -/
inductive ServerLabel (ι : Type*) where
  | process (l : MirrorLabel ι)
  | restart

section Server

variable (sqlText : String) (requests : ℕ → ι → SuiteRequest)

/-- The process stops and boots again. A transaction that has not committed is rolled back. -/
def ServerState.restart (s : ServerState ι) : ServerState ι where
  restarts := s.restarts + 1
  process := boot sqlText (requests (s.restarts + 1)) (some s.process.db)

/-- The steps: those of the process with the requests of its life, and restarts at any moment. -/
inductive ServerStep : ServerState ι → ServerLabel ι → ServerState ι → Prop
  | process {s : ServerState ι} {l : MirrorLabel ι} {process : MirrorState ι} :
      MirrorStep sqlText (requests s.restarts) s.process l process →
        ServerStep s (.process l) { s with process }
  | restart {s : ServerState ι} : ServerStep s .restart (s.restart sqlText requests)

/-- The runs, from the first boot on. -/
def serverSystem : System (ServerState ι) (ServerLabel ι) where
  init s := s = ⟨0, boot sqlText (requests 0) none⟩
  step := ServerStep sqlText requests

end Server

/-! ### What a restart is to bring back -/

/-- **Rehydration**: once every message has arrived, every agent of an active startup has its avatar, and every suite
the owner that it has in its row. -/
structure Rehydrated (s : MirrorState ι) : Prop where
  avatars : ∀ id row, s.db.db.agents.lookup id = some row → s.db.statuses.lookup row.startupId = some .active →
    ∃ a, s.drained.2.avatars.lookup id = some a ∧ a.identity = (id, row.startupId, row.role)
  suites : ∀ r row, s.db.rooms.lookup r = some row → ownerIn s.drained.1 r = row.privateToStartupId

section Boot

variable {sqlText : String} {requests : ι → SuiteRequest} {d : TownDb}

/-- A process that has booted knows of no startup. -/
theorem drained_boot (file : Option TownDb) : (boot sqlText requests file).drained = (defaultTown, ⟨∅⟩) :=
  rfl

/-- **A boot** on a database that is allocated brings everything back when there is nothing to bring back. -/
theorem rehydrated_boot_iff (h : Allocated d) :
    Rehydrated (boot sqlText requests (some d)) ↔ ∀ S, d.statuses.lookup S ≠ some .active := by
  constructor
  · intro hrehydrated S hactive
    obtain ⟨r, ⟨row, hrow, howner⟩, -⟩ := h.active S hactive
    have hsuite := hrehydrated.suites r row hrow
    rw [drained_boot, ownerIn_defaultTown, howner] at hsuite
    exact absurd hsuite (by simp)
  · intro hnone
    refine ⟨fun id row _ hactive => absurd hactive (hnone row.startupId), fun r row hrow => ?_⟩
    rw [drained_boot, ownerIn_defaultTown]
    rcases howner : row.privateToStartupId with _ | S
    · rfl
    · exact absurd (h.owner S r ⟨row, hrow, howner⟩).1 (hnone S)

end Boot

/-! ### Every life -/

section Lives

variable {sqlText : String} {requests : ℕ → ι → SuiteRequest} {s t : ServerState ι} {l : ServerLabel ι}

/-- The database is allocated, and the handlers of this life are where their requests lead. -/
structure Lives (sqlText : String) (requests : ℕ → ι → SuiteRequest) (s : ServerState ι) : Prop where
  allocated : Allocated s.process.db
  sound : s.process.clients.Sound TownDb.Later fun i => (requests s.restarts i).request sqlText

/-- Handlers that have not started. -/
theorem sound_boot (requests : ι → SuiteRequest) (file : Option TownDb) :
    (boot sqlText requests file).clients.Sound TownDb.Later fun i => (requests i).request sqlText := by
  have hstart : (clientSystem (fun _ => True) fun i => (requests i).request sqlText).Reachable
      (boot sqlText requests file).clients := .init ⟨trivial, fun _ => rfl⟩
  exact .of_reachable (upward_later requests) hstart

/-- **One step**: a commit keeps the allocation, and a restart keeps the database. -/
theorem Lives.step (h : Lives sqlText requests s) (hst : ServerStep sqlText requests s l t) :
    Lives sqlText requests t := by
  cases hst with
  | process hprocess =>
      cases hprocess with
      | @request i clients hstep =>
          obtain ⟨hsound, hdb⟩ := h.sound.step (upward_later _) hstep
          refine ⟨?_, hsound⟩
          rcases hdb with ⟨hsame, -⟩ | ⟨outcome, -, hcommits⟩
          · have hkept : MirrorState.db { s.process with clients } = s.process.db := hsame
            rw [hkept]
            exact h.allocated
          · exact allocated_of_commits h.allocated hcommits
      | send _ _ _ => exact ⟨h.allocated, h.sound⟩
      | deliver _ => exact ⟨h.allocated, h.sound⟩
  | restart => exact ⟨h.allocated, sound_boot _ _⟩

theorem Lives.of_reachable (h : (serverSystem sqlText requests).Reachable s) : Lives sqlText requests s := by
  refine h.invariant ?_ fun s l t hs hst => hs.step hst
  rintro s rfl
  exact ⟨.of_fresh seededTown_fresh, sound_boot _ _⟩

/-- **Rehydration**, in every run: a restart brings back the avatars and the owners of the suites exactly when no
startup is active. -/
theorem rehydrated_restart_iff (h : (serverSystem sqlText requests).Reachable s) :
    Rehydrated (s.restart sqlText requests).process ↔ ∀ S, s.process.db.statuses.lookup S ≠ some .active :=
  rehydrated_boot_iff (Lives.of_reachable h).allocated

end Lives

/-! ### A startup before a restart -/

/-- The steps of the handlers, in a run of the server. -/
theorem reachable_handlers {sqlText : String} {requests : ℕ → ι → SuiteRequest} {s : ServerState ι} {is : List ι}
    {c c' : Clients ι TownDb Outcome} (hrun : Run (suiteSystem sqlText (requests s.restarts)).step c is c') :
    (serverSystem sqlText requests).Reachable { s with process := { s.process with clients := c } } →
      (serverSystem sqlText requests).Reachable { s with process := { s.process with clients := c' } } := by
  induction hrun with
  | nil _ => exact fun h => h
  | @cons c c₁ _ i _ hst _ ih =>
      intro h
      exact ih (h.step (l := .process (.request i)) (.process (.request hst)))

/-- Two requests in each life: one creates a startup, and the other dissolves it. -/
def createAndDissolve : ℕ → Bool → SuiteRequest
  | _, false => .create (some sampleAdmin) sampleRequest sampleMinted
  | _, true => .delete (some sampleAdmin) "s-1"

/-- The first boot for these requests. -/
def firstBoot : ServerState Bool :=
  ⟨0, boot "sql" (createAndDissolve 0) none⟩

/-- The startup is created and dissolved. -/
theorem reachable_dissolved :
    ∃ s : ServerState Bool, (serverSystem "sql" createAndDissolve).Reachable s ∧
      s.process.db = (((createAndDissolve 0 true).request "sql").exec
        (((createAndDissolve 0 false).request "sql").exec seededTown).2).2 := by
  have hfree : firstBoot.process.clients.Free false := by
    rintro (_ | _) hj
    · exact absurd rfl hj
    · exact fun hwriting => hwriting
  obtain ⟨is, c, hcreate, hdb, hdone, hothers⟩ := run_exec hfree rfl
  have hasking : c.client true = .asking ((createAndDissolve 0 true).request "sql") := hothers true (by decide)
  have hfree' : c.Free true := by
    rintro (_ | _) hj
    · rw [hdone]
      exact fun hwriting => hwriting
    · exact absurd rfl hj
  obtain ⟨is', c', hdissolve, hdb', -⟩ := run_exec hfree' hasking
  refine ⟨_, reachable_handlers (s := firstBoot) (hcreate.trans hdissolve) (.init rfl), hdb'.trans ?_⟩
  rw [hdb]
  rfl

/-- A restart when the only startup is dissolved. -/
theorem rehydrated_restart_dissolved :
    ∃ s : ServerState Bool, (serverSystem "sql" createAndDissolve).Reachable s ∧
      s.process.db.statuses.lookup "s-1" = some .dissolved ∧
        Rehydrated (s.restart "sql" createAndDissolve).process := by
  obtain ⟨s, hreachable, hdb⟩ := reachable_dissolved
  refine ⟨s, hreachable, ?_, (rehydrated_restart_iff hreachable).mpr fun S => ?_⟩
  · rw [hdb]
    decide +kernel
  · have hstatuses : s.process.db.statuses = AList.singleton "s-1" .dissolved := by
      rw [hdb]
      rfl
    rw [hstatuses]
    intro hactive
    exact absurd (Table.lookup_singleton_iff.mp hactive).2 (by decide)

/-- One request in each life: it creates a startup. -/
def createOnce : ℕ → Unit → SuiteRequest :=
  fun _ _ => .create (some sampleAdmin) sampleRequest sampleMinted

/-- The first boot. -/
def firstLife : ServerState Unit :=
  ⟨0, boot "sql" (createOnce 0) none⟩

/-- **Not after a startup was created**: its suite is private to nobody after a restart, and its agents have no
avatars. -/
theorem not_rehydrated_restart :
    ¬ ∀ (requests : ℕ → Unit → SuiteRequest) (s : ServerState Unit), (serverSystem "sql" requests).Reachable s →
      Rehydrated (s.restart "sql" requests).process := by
  intro h
  have hfree : firstLife.process.clients.Free () := fun j hj => absurd rfl hj
  obtain ⟨is, c, hrun, hdb, -⟩ := run_exec hfree rfl
  have hreachable : (serverSystem "sql" createOnce).Reachable
      { firstLife with process := { firstLife.process with clients := c } } :=
    reachable_handlers (s := firstLife) hrun (.init rfl)
  have hrow : c.db.rooms.lookup "suite_1" = some ⟨"office", .ok ⟨0, 0, 7, 6⟩, some "s-1"⟩ := by
    rw [hdb]
    rfl
  have hsuite := (h createOnce _ hreachable).suites "suite_1" _ hrow
  exact absurd ((ownerIn_defaultTown "suite_1").symm.trans hsuite) (by simp)

end Cliptown.Suite
