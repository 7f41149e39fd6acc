import Cliptown.Adapter.Sessions
import Cliptown.Lib.Runs

/-!
# A supervised session

The worker's supervisor spawns a CLI through an adapter, waits for it, and spawns it again when it has failed. It can
be stopped at any time.

* `SpawnResult`, `Supervisor` — a child of the adapter, and the supervisor with the children that it has had.
* `SessionEvent`, `Supervisor.step`, `sessionSystem` — what the loop of `start` awaits, what the children do, and the
  calls of `start` and `stop`, in any order in which they can happen.
* `Covered`, `StopKeeps` — nothing is spawned after a stop, and then every child has been killed or has exited.
* `Reached` — when a stop reaches all children: none comes alive after it, and none but the current one runs at it.
* `stop_effective_iff` — the runs in which a stop does what it should are those in which it reaches all children.
-/

namespace Cliptown.Worker

open Cliptown.Lib Cliptown.Adapter

/-! ### The supervisor -/

/-- A child of the adapter. Source: `adapters/core` `SpawnResult` -/
structure SpawnResult where
  exited : Bool
  killed : Bool
  deriving DecidableEq, Repr

namespace SpawnResult

/-- It has been sent a signal, or it has exited. -/
def Ended (c : SpawnResult) : Prop :=
  c.killed ∨ c.exited

instance (c : SpawnResult) : Decidable c.Ended :=
  inferInstanceAs (Decidable (_ ∨ _))

/-- Source: `kill` -/
def kill (c : SpawnResult) : SpawnResult :=
  { c with killed := true }

/-- It exits. -/
def exit (c : SpawnResult) : SpawnResult :=
  { c with exited := true }

@[simp]
theorem ended_kill (c : SpawnResult) : c.kill.Ended :=
  .inl rfl

@[simp]
theorem ended_exit (c : SpawnResult) : c.exit.Ended :=
  .inr rfl

end SpawnResult

/-- What the loop of `start` awaits. -/
inductive SessionPhase where
  /-- It has not been called. -/
  | idle
  | spawning
  | waiting
  /-- The delay is undefined outside of the schedule. -/
  | sleeping (delay : Option ℕ)
  /-- Its promise has settled. -/
  | done
  deriving DecidableEq, Repr

/-- Source: `SupervisorOpts.onDead` -/
structure DeadInfo where
  attempts : ℕ
  lastError : Option String
  deriving DecidableEq, Repr

/-- Source: `supervisor.ts` `Supervisor`, with the children so far, the number of calls of `adapter.spawn` and those of
`onDead`. The current child is one of the children. -/
structure Supervisor where
  current : Option ℕ
  stopped : Bool
  failureCount : ℕ
  lastError : Option String
  phase : SessionPhase
  children : List SpawnResult
  spawns : ℕ
  dead : List DeadInfo
  deriving DecidableEq, Repr

/-- Source: `supervisor.ts` `DEFAULT_BACKOFF_MS` -/
def defaultBackoffMs : List ℕ :=
  [1000, 5000, 30000]

/-- The exit of a child that is not a failure. -/
def Clean (exit : ExitInfo) : Prop :=
  exit.exitCode = 0 ∧ exit.signal.getD "" = ""

instance (exit : ExitInfo) : Decidable (Clean exit) :=
  inferInstanceAs (Decidable (_ ∧ _))

namespace Supervisor

/-- Source: `constructor` -/
def new : Supervisor :=
  ⟨none, false, 0, none, .idle, [], 0, []⟩

/-- The head of the loop: `while (!this.stopped)`, up to the call of `adapter.spawn`. -/
def loopHead (s : Supervisor) : Supervisor :=
  if s.stopped then { s with phase := .done } else { s with phase := .spawning, spawns := s.spawns + 1 }

/-- The error that an exit is reported as. -/
def exitError (exit : ExitInfo) : String :=
  "exit_code=" ++ toString exit.exitCode ++
    match exit.signal with
    | some signal => if signal = "" then "" else " signal=" ++ signal
    | none => ""

/-- The failure path: the failure is counted, and reported as the error that was caught, if any. -/
def counted (exit : ExitInfo) (s : Supervisor) : Supervisor :=
  { s with
    failureCount := s.failureCount + 1
    lastError := some (s.lastError.getD (exitError exit)) }

/-- The loop after the `try`, up to the next `await`. -/
def afterExit (backoff : List ℕ) (exit : ExitInfo) (s : Supervisor) : Supervisor :=
  if s.stopped then { s with phase := .done }
  else if Clean exit then { s with phase := .done }
  else if backoff.length < (s.counted exit).failureCount then
    { s.counted exit with
      dead := s.dead ++ [⟨(s.counted exit).failureCount, (s.counted exit).lastError⟩]
      phase := .done }
  else { s.counted exit with phase := .sleeping backoff[(s.counted exit).failureCount - 1]? }

/-- A child has come, and is waited for. -/
def spawned (exited : Bool) (s : Supervisor) : Supervisor :=
  { s with
    current := some s.children.length
    children := s.children ++ [⟨exited, false⟩]
    phase := .waiting }

/-- Something happens to a child. -/
def mapChild (s : Supervisor) (i : ℕ) (f : SpawnResult → SpawnResult) : Supervisor :=
  { s with children := s.children.modify i f }

end Supervisor

/-- A call, a child that exits, or a promise that settles and lets the loop go on. -/
inductive SessionEvent where
  | start
  | stop
  /-- `adapter.spawn` resolves; the child may have exited by then. -/
  | spawned (exited : Bool)
  | spawnRejected (error : String)
  | exits (i : ℕ)
  | waited (exit : ExitInfo)
  | waitRejected (error : String)
  | slept

/-- An event, where it can happen. Source: `supervisor.ts` `start`, `stop` -/
def Supervisor.step (backoff : List ℕ) (s : Supervisor) : SessionEvent → Option Supervisor
  | .start =>
    match s.phase with
    | .idle => some s.loopHead
    | _ => some s
  | .stop =>
    let s := { s with stopped := true }
    match s.current with
    | some i => some (s.mapChild i .kill)
    | none => some s
  | .spawned exited =>
    match s.phase with
    | .spawning => some (s.spawned exited)
    | _ => none
  | .spawnRejected error =>
    match s.phase with
    | .spawning => some ({ s with lastError := some error }.afterExit backoff ⟨-1, none⟩)
    | _ => none
  | .exits i => some (s.mapChild i .exit)
  | .waited exit =>
    match s.phase with
    | .waiting => some ({ s with current := none }.afterExit backoff exit)
    | _ => none
  | .waitRejected error =>
    match s.phase with
    | .waiting => some ({ s with lastError := some error }.afterExit backoff ⟨-1, none⟩)
    | _ => none
  | .slept =>
    match s.phase with
    | .sleeping _ => some { s with lastError := none }.loopHead
    | _ => none

/-- The runs of a session. -/
def sessionSystem (backoff : List ℕ) : System Supervisor SessionEvent where
  init s := s = .new
  step s e t := s.step backoff e = some t

/-! ### What a stop should do -/

/-- Once the supervisor has been stopped, every child has been killed or has exited. -/
def Covered (s : Supervisor) : Prop :=
  s.stopped → ∀ c ∈ s.children, c.Ended

/-- **A stop is effective** in a step: nothing is spawned after it, and no child is left running that has not been
killed. -/
structure StopKeeps (s : Supervisor) (_ : SessionEvent) (t : Supervisor) : Prop where
  spawns : s.stopped → t.spawns = s.spawns
  covered : Covered t

/-- The stop reaches all children: no spawn that was pending gives one that runs, and when it is called no child but
the current one runs that has not been killed. -/
def Reached (s : Supervisor) : SessionEvent → Prop
  | .stop => ∀ i c, s.children[i]? = some c → s.current ≠ some i → c.Ended
  | .spawned exited => s.stopped → exited
  | _ => True

/-! ### What a step leaves as it is -/

namespace Supervisor

variable {backoff : List ℕ} {s t : Supervisor}

@[simp]
theorem loopHead_stopped (s : Supervisor) : s.loopHead.stopped = s.stopped := by
  unfold loopHead
  split <;> rfl

@[simp]
theorem loopHead_children (s : Supervisor) : s.loopHead.children = s.children := by
  unfold loopHead
  split <;> rfl

theorem loopHead_spawns (h : s.stopped) : s.loopHead.spawns = s.spawns := by
  rw [loopHead, if_pos h]

@[simp]
theorem afterExit_stopped (exit : ExitInfo) (s : Supervisor) : (s.afterExit backoff exit).stopped = s.stopped := by
  unfold afterExit
  split_ifs <;> rfl

@[simp]
theorem afterExit_children (exit : ExitInfo) (s : Supervisor) :
    (s.afterExit backoff exit).children = s.children := by
  unfold afterExit
  split_ifs <;> rfl

@[simp]
theorem afterExit_spawns (exit : ExitInfo) (s : Supervisor) : (s.afterExit backoff exit).spawns = s.spawns := by
  unfold afterExit
  split_ifs <;> rfl

/-- After a stop nothing is spawned, whatever happens. -/
theorem spawns_step {e : SessionEvent} (h : s.step backoff e = some t) (hstopped : s.stopped) :
    t.spawns = s.spawns := by
  cases e with
  | start =>
    simp only [step] at h
    split at h
    · obtain rfl := Option.some.inj h
      exact loopHead_spawns hstopped
    · obtain rfl := Option.some.inj h
      rfl
  | stop =>
    simp only [step] at h
    split at h <;> obtain rfl := Option.some.inj h <;> rfl
  | spawned exited =>
    simp only [step] at h
    split at h
    · obtain rfl := Option.some.inj h
      rfl
    · cases h
  | exits i =>
    obtain rfl := Option.some.inj h
    rfl
  | slept =>
    simp only [step] at h
    split at h
    · obtain rfl := Option.some.inj h
      exact loopHead_spawns (s := { s with lastError := none }) hstopped
    · cases h
  | _ =>
    simp only [step] at h
    split at h
    · obtain rfl := Option.some.inj h
      simp
    · cases h

/-- What a step that neither stops the supervisor nor brings a child does: the supervisor is as stopped as before, and
its children are the same ones, or one of them has exited. -/
theorem step_frame {e : SessionEvent} (h : s.step backoff e = some t) (hstop : e ≠ .stop)
    (hspawned : ∀ exited, e ≠ .spawned exited) :
    t.stopped = s.stopped ∧ (t.children = s.children ∨ ∃ i, t.children = s.children.modify i .exit) := by
  cases e with
  | start =>
    simp only [step] at h
    split at h
    · obtain rfl := Option.some.inj h
      exact ⟨loopHead_stopped s, .inl (loopHead_children s)⟩
    · obtain rfl := Option.some.inj h
      exact ⟨rfl, .inl rfl⟩
  | stop => exact absurd rfl hstop
  | spawned exited => exact absurd rfl (hspawned exited)
  | exits i =>
    obtain rfl := Option.some.inj h
    exact ⟨rfl, .inr ⟨i, rfl⟩⟩
  | _ =>
    simp only [step] at h
    split at h
    · obtain rfl := Option.some.inj h
      simp
    · cases h

end Supervisor

/-! ### When a stop reaches all children -/

section

variable {l : List SpawnResult} {f : SpawnResult → SpawnResult} {i : ℕ}

theorem forall_mem_iff_getElem? {P : SpawnResult → Prop} :
    (∀ c ∈ l, P c) ↔ ∀ (j : ℕ) c, l[j]? = some c → P c := by
  constructor
  · exact fun h j c hc => h c (List.mem_of_getElem? hc)
  · intro h c hc
    obtain ⟨j, hj⟩ := List.mem_iff_getElem?.mp hc
    exact h j c hj

/-- If what happens to a child ends it, the others have to have ended. -/
theorem forall_ended_modify (hf : ∀ c, (f c).Ended) :
    (∀ c ∈ l.modify i f, c.Ended) ↔ ∀ (j : ℕ) c, l[j]? = some c → i ≠ j → c.Ended := by
  rw [forall_mem_iff_getElem?]
  constructor
  · intro h j c hc hne
    exact h j c (by simp [hc, hne])
  · intro h j c hc
    rw [List.getElem?_modify] at hc
    obtain ⟨c', hc', rfl⟩ := Option.map_eq_some_iff.mp hc
    by_cases hij : i = j
    · rw [if_pos hij]
      exact hf c'
    · rw [if_neg hij]
      exact h j c' hc' hij

end

variable {backoff : List ℕ} {s t : Supervisor} {e : SessionEvent}

/-- **One step**: the children are covered after it exactly if the stop reaches all of them. -/
theorem covered_step_iff (h : s.step backoff e = some t) (hs : Covered s) : Covered t ↔ Reached s e := by
  cases e with
  | stop =>
    have hexpand : (∀ c ∈ t.children, c.Ended) ↔ Reached s .stop := by
      simp only [Supervisor.step] at h
      split at h
      · rename_i i hcurrent
        obtain rfl := Option.some.inj h
        exact (forall_ended_modify SpawnResult.ended_kill).trans (by simp [Reached, hcurrent])
      · rename_i hcurrent
        obtain rfl := Option.some.inj h
        exact forall_mem_iff_getElem?.trans (by simp [Reached, hcurrent])
    have hstopped : t.stopped := by
      simp only [Supervisor.step] at h
      split at h <;> obtain rfl := Option.some.inj h <;> rfl
    exact ⟨fun ht => hexpand.mp (ht hstopped), fun hr _ => hexpand.mpr hr⟩
  | spawned exited =>
    simp only [Supervisor.step] at h
    split at h
    · obtain rfl := Option.some.inj h
      constructor
      · intro ht hstopped
        have := ht hstopped ⟨exited, false⟩ (List.mem_append_right _ List.mem_cons_self)
        simpa [SpawnResult.Ended] using this
      · intro hr hstopped c hc
        rcases List.mem_append.mp hc with hc | hc
        · exact hs hstopped c hc
        · rw [List.mem_singleton.mp hc]
          exact .inr (hr hstopped)
    · cases h
  | _ =>
    refine iff_of_true ?_ trivial
    obtain ⟨hstopped, hchildren | ⟨i, hchildren⟩⟩ := Supervisor.step_frame h (by simp) (by simp)
    · intro ht
      rw [hchildren]
      exact hs (hstopped ▸ ht)
    · intro ht
      rw [hchildren, forall_ended_modify SpawnResult.ended_exit]
      exact fun j c hc _ => hs (hstopped ▸ ht) c (List.mem_of_getElem? hc)

theorem stopKeeps_iff (h : s.step backoff e = some t) (hs : Covered s) : StopKeeps s e t ↔ Reached s e := by
  constructor
  · exact fun hkeeps => (covered_step_iff h hs).mp hkeeps.covered
  · exact fun hr => ⟨Supervisor.spawns_step h, (covered_step_iff h hs).mpr hr⟩

/-- **When a stop is effective**: the runs in which it is, in every step, are those in which it reaches all
children. -/
theorem stop_effective_iff (backoff : List ℕ) (es : List SessionEvent) (t : Supervisor) :
    Run ((sessionSystem backoff).restrict Reached).step .new es t ↔
      Run ((sessionSystem backoff).keeping StopKeeps).step .new es t := by
  have hnew : Covered .new := fun h => absurd h Bool.false_ne_true
  refine System.run_restrict_iff_keeping (I := Covered) ?_ ?_ hnew
  · intro s e t h hs
    exact stopKeeps_iff h hs
  · exact fun _ _ _ _ _ hkeeps => hkeeps.covered

/-- A stop while the first spawn is pending does not reach the child. -/
theorem stop_not_effective :
    ¬ ∀ es t, Run (sessionSystem defaultBackoffMs).step .new es t →
      Run ((sessionSystem defaultBackoffMs).keeping StopKeeps).step .new es t := by
  intro h
  have hstart : (sessionSystem defaultBackoffMs).step .new .start
      ⟨none, false, 0, none, .spawning, [], 1, []⟩ := rfl
  have hstop : (sessionSystem defaultBackoffMs).step ⟨none, false, 0, none, .spawning, [], 1, []⟩ .stop
      ⟨none, true, 0, none, .spawning, [], 1, []⟩ := rfl
  have hspawned : (sessionSystem defaultBackoffMs).step ⟨none, true, 0, none, .spawning, [], 1, []⟩ (.spawned false)
      ⟨some 0, true, 0, none, .waiting, [⟨false, false⟩], 1, []⟩ := rfl
  have hcovered : Covered _ := (h _ _ (.cons hstart (.cons hstop (.single hspawned)))).preserves
    (fun _ _ _ _ hstep => hstep.2.covered) fun hstopped => absurd hstopped Bool.false_ne_true
  exact absurd (hcovered rfl _ List.mem_cons_self) (by decide)

end Cliptown.Worker
