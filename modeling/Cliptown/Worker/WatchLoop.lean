import Cliptown.Worker.Session
import Cliptown.Worker.Supervisor

/-!
# The respawn bound

Two loops spawn a process again when it has failed: that of the server for a worker, and that of the worker for a CLI.
Both count the failures against a schedule of delays.

* `ExitStatus`, `Respawn` — how a child ends, and what comes of spawning it again.
* `watchLoop` — the loop of the server, over all that its attempts come to.
* `leading` — the failures before the first success, on which everything depends.
* `watchLoop_spec` — what the loop counts, emits and leaves, from any point where its tombstone is not set.
* `watchLoop_steps` — the loop takes the steps of the supervisor of the server.
* `Counted`, `counted_of_run` — the same for the runs of a session that is not stopped; `exists_session`: there is one
  for all that its attempts may come to.
* `RespawnBound`, `watchLoop_respawnBound` — both loops give up on the same failure.
-/

namespace Cliptown.Worker

open Cliptown.Lib Cliptown.Adapter

/-! ### Exits and attempts -/

/-- Source: `std::process::ExitStatus` -/
inductive ExitStatus where
  | code (n : ℤ)
  | signal (name : String)
  deriving DecidableEq, Repr

/-- Source: `ExitStatus::success` -/
def ExitStatus.success : ExitStatus → Bool
  | .code n => n = 0
  | .signal _ => false

/-- Source: `agent_supervisor.rs` `watch_loop`, `succeeded` -/
def succeeded : Except String ExitStatus → Bool
  | .ok status => status.success
  | .error _ => false

/-- What spawning again comes to: an error, or a child and what waiting for it gives. -/
inductive Respawn where
  | fails (error : String)
  | spawns (pid : ℕ) (waited : Except String ExitStatus)

/-- The attempt does not end in a clean exit. -/
def Respawn.failing : Respawn → Bool
  | .fails _ => true
  | .spawns _ waited => !succeeded waited

/-! ### The loop of the server -/

/-- Source: the event `worker_dead` of `watch_loop` -/
structure WorkerDead where
  startupId : String
  agentId : String
  attempts : ℕ
  deriving DecidableEq, Repr

/-- The tables, what the loop has counted, the delays that it has slept, and the calls of `emit_system_event`. -/
structure WatchState where
  sup : AgentSupervisor
  failures : ℕ
  slept : List ℕ
  emitted : List WorkerDead

/-- What others do to the tables while the loop waits for a child, or sleeps, after so many failures. -/
structure Others where
  waiting : ℕ → AgentSupervisor → AgentSupervisor
  sleeping : ℕ → AgentSupervisor → AgentSupervisor

/-- Where the loop has come with the attempts that were made. -/
inductive LoopEnd where
  | returned
  /-- The schedule was indexed out of its range. -/
  | panicked
  /-- It is about to spawn again. -/
  | respawning
  deriving DecidableEq, Repr

namespace WatchState

/-- A dissolution has been seen. -/
def cancelled (cfg : SpawnConfig) (s : WatchState) : WatchState :=
  { s with sup := (s.sup.takeTombstone cfg.agentId).removeAgent cfg.agentId }

/-- The agent is removed. -/
def removed (cfg : SpawnConfig) (s : WatchState) : WatchState :=
  { s with sup := s.sup.removeAgent cfg.agentId }

/-- A failure is counted. -/
def counted (s : WatchState) : WatchState :=
  { s with failures := s.failures + 1 }

/-- The alert that the worker is dead. -/
def emit (cfg : SpawnConfig) (s : WatchState) : WatchState :=
  { s with emitted := s.emitted ++ [⟨cfg.startupId, cfg.agentId, s.failures⟩] }

/-- A delay passes. -/
def sleep (others : Others) (delay : ℕ) (s : WatchState) : WatchState :=
  { s with slept := s.slept ++ [delay], sup := others.sleeping s.failures s.sup }

/-- The child is waited for again. -/
def wait (others : Others) (s : WatchState) : WatchState :=
  { s with sup := others.waiting s.failures s.sup }

/-- A new child is recorded. -/
def record (cfg : SpawnConfig) (pid : ℕ) (s : WatchState) : WatchState :=
  { s with sup := s.sup.recordPid cfg.agentId pid }

end WatchState

/-- Source: `agent_supervisor.rs` `watch_loop`, after `child.wait()`. Where a child cannot be spawned the loop waits for
the old one again, and `tokio::process::Child::wait` returns what it has returned before. -/
def watchLoop (cfg : SpawnConfig) (backoffMs : List ℕ) (others : Others) :
    List Respawn → Except String ExitStatus → WatchState → WatchState × LoopEnd
  | attempts, exitStatus, s =>
    if cfg.agentId ∈ s.sup.tombstones then (s.cancelled cfg, .returned)
    else if succeeded exitStatus then (s.removed cfg, .returned)
    else if backoffMs.length < s.counted.failures then ((s.counted.emit cfg).removed cfg, .returned)
    else
      match backoffMs[s.counted.failures - 1]? with
      | none => (s.counted, .panicked)
      | some delay =>
        if cfg.agentId ∈ (s.counted.sleep others delay).sup.tombstones then
          ((s.counted.sleep others delay).cancelled cfg, .returned)
        else
          match attempts with
          | [] => (s.counted.sleep others delay, .respawning)
          | .fails _ :: attempts =>
            watchLoop cfg backoffMs others attempts exitStatus ((s.counted.sleep others delay).wait others)
          | .spawns pid waited :: attempts =>
            watchLoop cfg backoffMs others attempts waited
              (((s.counted.sleep others delay).record cfg pid).wait others)

/-- The loop from where the child is spawned again. -/
def goOn (cfg : SpawnConfig) (backoffMs : List ℕ) (others : Others) (attempts : List Respawn)
    (exitStatus : Except String ExitStatus) (s : WatchState) : WatchState × LoopEnd :=
  match attempts with
  | [] => (s, .respawning)
  | .fails _ :: attempts => watchLoop cfg backoffMs others attempts exitStatus (s.wait others)
  | .spawns pid waited :: attempts => watchLoop cfg backoffMs others attempts waited ((s.record cfg pid).wait others)

/-! ### Failures in a row -/

/-- The failures before the first outcome that is none. -/
def leading : List Bool → ℕ
  | true :: outcomes => leading outcomes + 1
  | _ => 0

theorem leading_le_length (outcomes : List Bool) : leading outcomes ≤ outcomes.length := by
  induction outcomes with
  | nil => exact le_rfl
  | cons b outcomes ih => cases b <;> simp [leading, ih]

/-- If all were failures the next ones count. -/
theorem leading_append (a b : List Bool) :
    leading (a ++ b) = if leading a = a.length then a.length + leading b else leading a := by
  induction a with
  | nil => simp [leading]
  | cons x a ih =>
    cases x with
    | false => simp [leading]
    | true =>
      simp only [List.cons_append, leading, ih, List.length_cons, Nat.add_right_cancel_iff]
      split <;> omega

/-- The outcomes that a loop sees. -/
def outcomes (first : Except String ExitStatus) (attempts : List Respawn) : List Bool :=
  (!succeeded first) :: attempts.map Respawn.failing

/-! ### What the loop does -/

/-- Nobody dissolves the startup of the agent: no tombstone is set for it. -/
def NoDissolve (cfg : SpawnConfig) (others : Others) : Prop :=
  ∀ failures sup, cfg.agentId ∉ sup.tombstones →
    cfg.agentId ∉ (others.waiting failures sup).tombstones ∧ cfg.agentId ∉ (others.sleeping failures sup).tombstones

/-- The loop from a point where it has counted no more failures than there are delays: what it has counted in the end,
when it returns, what it emits, and that the agent is removed. -/
structure LoopSpec (cfg : SpawnConfig) (backoffMs : List ℕ) (failing : List Bool) (s : WatchState)
    (r : WatchState × LoopEnd) : Prop where
  failures : r.1.failures = min (backoffMs.length + 1) (s.failures + leading failing)
  notPanicked : r.2 ≠ .panicked
  returned : r.2 = .returned ↔ backoffMs.length < s.failures + leading failing ∨ leading failing < failing.length
  emitted : r.1.emitted = s.emitted ++
    if backoffMs.length < s.failures + leading failing then [⟨cfg.startupId, cfg.agentId, backoffMs.length + 1⟩] else []
  removed : r.2 = .returned → r.1.sup.agents.lookup cfg.agentId = none

variable {cfg : SpawnConfig} {backoffMs : List ℕ} {others : Others}

/-- Where the next failure goes on: one more has been counted before. -/
theorem LoopSpec.of_failing {failing : List Bool} {s t : WatchState} {r : WatchState × LoopEnd}
    (h : LoopSpec cfg backoffMs failing t r) (hfailures : t.failures = s.failures + 1)
    (hemitted : t.emitted = s.emitted) : LoopSpec cfg backoffMs (true :: failing) s r where
  failures := by
    rw [h.failures, hfailures, leading]
    omega
  notPanicked := h.notPanicked
  returned := by
    rw [h.returned, hfailures, leading, List.length_cons]
    omega
  emitted := by
    rw [h.emitted, hfailures, hemitted, leading, Nat.add_right_comm, Nat.add_assoc]
  removed := h.removed

section

variable {attempts : List Respawn} {first : Except String ExitStatus} {s : WatchState}

/-- A clean exit ends the loop. -/
theorem LoopSpec.of_succeeded (hnone : cfg.agentId ∉ s.sup.tombstones) (hfailures : s.failures ≤ backoffMs.length)
    (hfirst : succeeded first = true) :
    LoopSpec cfg backoffMs (outcomes first attempts) s (watchLoop cfg backoffMs others attempts first s) := by
  have heq : watchLoop cfg backoffMs others attempts first s = (s.removed cfg, .returned) := by
    rw [watchLoop, if_neg hnone, if_pos hfirst]
  have hleading : leading (outcomes first attempts) = 0 := by simp [outcomes, hfirst, leading]
  have hlength : 0 < (outcomes first attempts).length := Nat.succ_pos _
  rw [heq]
  refine ⟨?_, by simp, ?_, ?_, fun _ => AList.lookup_erase _ _⟩
  · rw [hleading]
    change s.failures = _
    omega
  · rw [hleading]
    exact iff_of_true rfl (.inr hlength)
  · rw [hleading, if_neg (by omega), List.append_nil]
    rfl

/-- So does the failure after the last delay. -/
theorem LoopSpec.of_dead (hnone : cfg.agentId ∉ s.sup.tombstones) (hfailures : s.failures = backoffMs.length)
    (hfirst : succeeded first = false) :
    LoopSpec cfg backoffMs (outcomes first attempts) s (watchLoop cfg backoffMs others attempts first s) := by
  have heq : watchLoop cfg backoffMs others attempts first s = ((s.counted.emit cfg).removed cfg, .returned) := by
    rw [watchLoop, if_neg hnone, if_neg (by simp [hfirst]), if_pos (by simp [WatchState.counted, hfailures])]
  have hleading : 1 ≤ leading (outcomes first attempts) := by simp [outcomes, hfirst, leading]
  rw [heq]
  refine ⟨?_, by simp, ?_, ?_, fun _ => AList.lookup_erase _ _⟩
  · change s.failures + 1 = _
    omega
  · exact iff_of_true rfl (.inl (by omega))
  · rw [if_pos (by omega), ← hfailures]
    rfl

/-- Any other failure is followed by a delay of the schedule, and another look at the tombstones. -/
theorem watchLoop_of_failing (others : Others) (attempts : List Respawn) (hnone : cfg.agentId ∉ s.sup.tombstones)
    (hfailures : s.failures < backoffMs.length) (hfirst : succeeded first = false) :
    ∃ delay, watchLoop cfg backoffMs others attempts first s =
      if cfg.agentId ∈ (s.counted.sleep others delay).sup.tombstones then
        ((s.counted.sleep others delay).cancelled cfg, .returned)
      else goOn cfg backoffMs others attempts first (s.counted.sleep others delay) := by
  have hdelay : backoffMs[s.counted.failures - 1]? = some backoffMs[s.failures] :=
    List.getElem?_eq_getElem hfailures
  refine ⟨backoffMs[s.failures], ?_⟩
  rw [watchLoop, if_neg hnone, if_neg (by simp [hfirst]), if_neg (by simp [WatchState.counted]; omega), hdelay]
  rfl

end

/-- **The loop**, over all attempts. -/
theorem watchLoop_spec (backoffMs : List ℕ) (hothers : NoDissolve cfg others) (attempts : List Respawn) :
    ∀ (first : Except String ExitStatus) (s : WatchState), cfg.agentId ∉ s.sup.tombstones →
      s.failures ≤ backoffMs.length →
      LoopSpec cfg backoffMs (outcomes first attempts) s (watchLoop cfg backoffMs others attempts first s) := by
  induction attempts with
  | nil =>
    intro first s hnone hle
    by_cases hfirst : succeeded first = true
    · exact .of_succeeded hnone hle hfirst
    rw [Bool.not_eq_true] at hfirst
    rcases Nat.eq_or_lt_of_le hle with hdead | hlt
    · exact .of_dead hnone hdead hfirst
    · obtain ⟨delay, heq⟩ := watchLoop_of_failing others [] hnone hlt hfirst
      have hleading : leading (outcomes first []) = 1 := by simp [outcomes, hfirst, leading]
      have hsup : cfg.agentId ∉ (s.counted.sleep others delay).sup.tombstones := (hothers _ _ hnone).2
      rw [heq, if_neg hsup]
      refine ⟨?_, by simp [goOn], ?_, ?_, by simp [goOn]⟩
      · rw [hleading]
        change s.failures + 1 = _
        omega
      · rw [hleading]
        simp [goOn, outcomes]
        omega
      · rw [hleading, if_neg (by omega), List.append_nil]
        rfl
  | cons attempt attempts ih =>
    intro first s hnone hle
    by_cases hfirst : succeeded first = true
    · exact .of_succeeded hnone hle hfirst
    rw [Bool.not_eq_true] at hfirst
    rcases Nat.eq_or_lt_of_le hle with hdead | hlt
    · exact .of_dead hnone hdead hfirst
    · obtain ⟨delay, heq⟩ := watchLoop_of_failing others (attempt :: attempts) hnone hlt hfirst
      have htomb := (hothers s.counted.failures s.counted.sup hnone).2
      generalize ht : s.counted.sleep others delay = t at heq
      have hsup : cfg.agentId ∉ t.sup.tombstones := ht ▸ htomb
      have hfailures : t.failures = s.failures + 1 := ht ▸ rfl
      have hemitted : t.emitted = s.emitted := ht ▸ rfl
      have hcons : outcomes first (attempt :: attempts) = true :: attempt.failing :: attempts.map Respawn.failing := by
        simp [outcomes, hfirst]
      rw [heq, if_neg hsup, hcons]
      cases attempt with
      | fails error =>
        -- the old child is waited for again, and has failed
        have hsame : outcomes first attempts = (Respawn.fails error).failing :: attempts.map Respawn.failing := by
          simp [outcomes, hfirst, Respawn.failing]
        rw [← hsame]
        exact (ih first (t.wait others) (hothers _ _ hsup).1 (hfailures ▸ hlt)).of_failing hfailures hemitted
      | spawns pid waited =>
        exact (ih waited ((t.record cfg pid).wait others) (hothers _ (t.record cfg pid).sup hsup).1
          (hfailures ▸ hlt)).of_failing hfailures hemitted

/-! ### The loop and the supervisor -/

/-- A step of a call or its loop, or something that others do to the tables meanwhile. -/
def LoopStep (cfg : SpawnConfig) (backoffMs : List ℕ) (others : Others) (x y : AgentSupervisor × Watch) : Prop :=
  WatchStep cfg backoffMs x y ∨
    ∃ failures, y = (others.waiting failures x.1, x.2) ∨ y = (others.sleeping failures x.1, x.2)

/-- Where the supervisor is when the loop has come to an end. -/
def LoopEnd.watch (failures : ℕ) : LoopEnd → Watch
  | .returned => .done
  | _ => .respawning failures

theorem removing_steps (sup : AgentSupervisor) :
    Relation.ReflTransGen (LoopStep cfg backoffMs others) (sup, .removing) (sup.removeAgent cfg.agentId, .done) :=
  .single (.inl .remove)

/-- One turn: the loop returns, or it comes to where the child is spawned again. -/
theorem watchLoop_turn (attempts : List Respawn) (first : Except String ExitStatus) (s : WatchState) :
    (∃ t : WatchState, watchLoop cfg backoffMs others attempts first s = (t, .returned) ∧
      Relation.ReflTransGen (LoopStep cfg backoffMs others) (s.sup, .exited s.failures (succeeded first))
        (t.sup, .done)) ∨
    ∃ t : WatchState, watchLoop cfg backoffMs others attempts first s = goOn cfg backoffMs others attempts first t ∧
      Relation.ReflTransGen (LoopStep cfg backoffMs others) (s.sup, .exited s.failures (succeeded first))
        (t.sup, .respawning t.failures) ∧ succeeded first = false := by
  by_cases hmem : cfg.agentId ∈ s.sup.tombstones
  · refine .inl ⟨s.cancelled cfg, by rw [watchLoop, if_pos hmem], ?_⟩
    exact .head (.inl (.terminated hmem)) (removing_steps _)
  have hcheck : Relation.ReflTransGen (LoopStep cfg backoffMs others) (s.sup, .exited s.failures (succeeded first))
      (s.sup, .afterExit backoffMs s.failures (succeeded first)) := .single (.inl (.check hmem))
  by_cases hfirst : succeeded first = true
  · refine .inl ⟨s.removed cfg, by rw [watchLoop, if_neg hmem, if_pos hfirst], hcheck.trans ?_⟩
    rw [Watch.afterExit, if_pos hfirst]
    exact removing_steps _
  by_cases hdead : backoffMs.length < s.failures + 1
  · refine .inl ⟨(s.counted.emit cfg).removed cfg, ?_, hcheck.trans ?_⟩
    · rw [watchLoop, if_neg hmem, if_neg hfirst, if_pos (by simpa [WatchState.counted] using hdead)]
    · rw [Watch.afterExit, if_neg hfirst, if_pos hdead]
      exact removing_steps _
  have hlt : s.failures < backoffMs.length := by omega
  obtain ⟨delay, heq⟩ := watchLoop_of_failing others attempts hmem hlt (by simpa using hfirst)
  have hsleep : Relation.ReflTransGen (LoopStep cfg backoffMs others) (s.sup, .exited s.failures (succeeded first))
      ((s.counted.sleep others delay).sup, .sleeping (s.failures + 1)) := by
    refine hcheck.tail (.inr ⟨s.failures + 1, .inr ?_⟩)
    rw [Watch.afterExit, if_neg hfirst, if_neg hdead]
    rfl
  by_cases hcancelled : cfg.agentId ∈ (s.counted.sleep others delay).sup.tombstones
  · refine .inl ⟨(s.counted.sleep others delay).cancelled cfg, by rw [heq, if_pos hcancelled], hsleep.trans ?_⟩
    exact .head (.inl (.cancelled hcancelled)) (removing_steps _)
  · exact .inr ⟨s.counted.sleep others delay, by rw [heq, if_neg hcancelled], hsleep.tail (.inl (.wake hcancelled)),
      by simpa using hfirst⟩

/-- **The loop takes the steps of the supervisor**, from the first look at the tombstones on. -/
theorem watchLoop_steps (attempts : List Respawn) :
    ∀ (first : Except String ExitStatus) (s : WatchState),
      Relation.ReflTransGen (LoopStep cfg backoffMs others) (s.sup, .exited s.failures (succeeded first))
        ((watchLoop cfg backoffMs others attempts first s).1.sup,
          (watchLoop cfg backoffMs others attempts first s).2.watch
            (watchLoop cfg backoffMs others attempts first s).1.failures) := by
  induction attempts with
  | nil =>
    intro first s
    rcases watchLoop_turn [] first s with ⟨t, heq, hsteps⟩ | ⟨t, heq, hsteps, -⟩ <;> rw [heq] <;>
      exact hsteps
  | cons attempt attempts ih =>
    intro first s
    rcases watchLoop_turn (attempt :: attempts) first s with ⟨t, heq, hsteps⟩ | ⟨t, heq, hsteps, hfirst⟩
    · rw [heq]
      exact hsteps
    · rw [heq]
      cases attempt with
      | fails error =>
        have hback := (hsteps.tail (.inl .respawnFails)).tail (.inr ⟨t.failures, .inl rfl⟩)
        exact hback.trans (hfirst ▸ ih first (t.wait others))
      | spawns pid waited =>
        have hspawned := (hsteps.tail (.inl (.respawn pid))).tail (.inl .record)
        have hexits := hspawned.tail (.inl (.exit (succeeded waited) rfl ⟨false, rfl⟩))
        have hwaited := (hexits.tail (.inl (.wait rfl))).tail (.inr ⟨t.failures, .inl rfl⟩)
        exact hwaited.trans (ih waited ((t.record cfg pid).wait others))

/-! ### The loop of a session -/

/-- The outcome that an event shows: whether it is a failure. -/
def SessionEvent.shown : SessionEvent → List Bool
  | .spawnRejected _ => [true]
  | .waited exit => [!decide (Clean exit)]
  | .waitRejected _ => [true]
  | _ => []

/-- What a session that is not stopped has counted of the outcomes seen so far. As long as it goes on all of them were
failures, and no more than there are delays; when it has ended there was one more, or a clean exit. -/
structure Counted (backoff : List ℕ) (s : Supervisor) (seen : List Bool) : Prop where
  running : s.stopped = false
  failures : s.failureCount = leading seen
  dead : s.dead.map DeadInfo.attempts = if backoff.length < leading seen then [backoff.length + 1] else []
  going : s.phase ≠ .done → leading seen = seen.length ∧ seen.length ≤ backoff.length
  ended : s.phase = .done → backoff.length < leading seen ∨ leading seen < seen.length

section

variable {backoff : List ℕ} {s t u : Supervisor} {seen : List Bool}

/-- A step that leaves the counters alone, and does not end the session. -/
theorem Counted.of_eq (h : Counted backoff s seen) (hphase : s.phase ≠ .done) (hrunning : t.stopped = s.stopped)
    (hfailures : t.failureCount = s.failureCount) (hdead : t.dead = s.dead) (hgoing : t.phase ≠ .done) :
    Counted backoff t seen :=
  ⟨hrunning.trans h.running, hfailures.trans h.failures, hdead ▸ h.dead, fun _ => h.going hphase,
    fun hdone => absurd hdone hgoing⟩

/-- **One outcome**: it is counted, and the session goes on, or ends. -/
theorem Counted.afterExit (h : Counted backoff s seen) (hgoing : s.phase ≠ .done) (exit : ExitInfo)
    (hrunning : t.stopped = s.stopped) (hfailures : t.failureCount = s.failureCount) (hdead : t.dead = s.dead) :
    Counted backoff (t.afterExit backoff exit) (seen ++ [!decide (Clean exit)]) := by
  obtain ⟨hall, hle⟩ := h.going hgoing
  have hnotDead : ¬ backoff.length < leading seen := by omega
  have hnone : s.dead.map DeadInfo.attempts = [] := by rw [h.dead, if_neg hnotDead]
  have hleading := leading_append seen [!decide (Clean exit)]
  rw [if_pos hall] at hleading
  have hstopped : ¬ t.stopped = true := by simp [hrunning, h.running]
  have hcount : (t.counted exit).failureCount = seen.length + 1 := by
    change t.failureCount + 1 = _
    rw [hfailures, h.failures, hall]
  by_cases hclean : Clean exit
  · have hsame : leading (seen ++ [!decide (Clean exit)]) = seen.length := by
      rw [hleading]
      simp [hclean, leading]
    rw [Supervisor.afterExit, if_neg hstopped, if_pos hclean]
    refine ⟨hrunning.trans h.running, ?_, ?_, fun hphase => absurd rfl hphase, fun _ => .inr ?_⟩
    · exact hfailures.trans (h.failures.trans (hall.trans hsame.symm))
    · rw [hsame, if_neg (by omega)]
      exact (congrArg _ hdead).trans hnone
    · rw [hsame, List.length_append, List.length_singleton]
      omega
  · have hnext : leading (seen ++ [!decide (Clean exit)]) = seen.length + 1 := by
      rw [hleading]
      simp [hclean, leading]
    by_cases hlast : backoff.length < (t.counted exit).failureCount
    · rw [Supervisor.afterExit, if_neg hstopped, if_neg hclean, if_pos hlast]
      refine ⟨hrunning.trans h.running, ?_, ?_, fun hphase => absurd rfl hphase, fun _ => .inl ?_⟩
      · exact hcount.trans hnext.symm
      · rw [hnext, if_pos (by omega), List.map_append, hdead, hnone]
        simp only [List.map_singleton, List.nil_append, List.cons.injEq, and_true]
        omega
      · omega
    · rw [Supervisor.afterExit, if_neg hstopped, if_neg hclean, if_neg hlast]
      refine ⟨hrunning.trans h.running, ?_, ?_, fun _ => ?_, fun hphase => absurd hphase (by simp)⟩
      · exact hcount.trans hnext.symm
      · rw [hnext, if_neg (by omega)]
        exact (congrArg _ hdead).trans hnone
      · rw [hnext, List.length_append, List.length_singleton]
        omega

/-- **One step** of a session that is not stopped. -/
theorem Counted.step {e : SessionEvent} (h : Counted backoff s seen) (hstep : s.step backoff e = some t)
    (hstop : e ≠ .stop) : Counted backoff t (seen ++ e.shown) := by
  have hstopped : ¬ s.stopped = true := by simp [h.running]
  cases e with
  | stop => exact absurd rfl hstop
  | start =>
    simp only [SessionEvent.shown, List.append_nil]
    simp only [Supervisor.step] at hstep
    split at hstep
    · rename_i hphase
      obtain rfl := Option.some.inj hstep
      rw [Supervisor.loopHead, if_neg hstopped]
      exact h.of_eq (by simp [hphase]) rfl rfl rfl (by simp)
    · obtain rfl := Option.some.inj hstep
      exact h
  | spawned exited =>
    simp only [SessionEvent.shown, List.append_nil]
    simp only [Supervisor.step] at hstep
    split at hstep
    · rename_i hphase
      obtain rfl := Option.some.inj hstep
      exact h.of_eq (by simp [hphase]) rfl rfl rfl (by simp [Supervisor.spawned])
    · cases hstep
  | exits i =>
    simp only [SessionEvent.shown, List.append_nil]
    obtain rfl := Option.some.inj hstep
    exact ⟨h.running, h.failures, h.dead, h.going, h.ended⟩
  | slept =>
    simp only [SessionEvent.shown, List.append_nil]
    simp only [Supervisor.step] at hstep
    split at hstep
    · rename_i hphase
      obtain rfl := Option.some.inj hstep
      rw [Supervisor.loopHead, if_neg hstopped]
      exact h.of_eq (by simp [hphase]) rfl rfl rfl (by simp)
    · cases hstep
  | spawnRejected error =>
    simp only [Supervisor.step] at hstep
    split at hstep
    · rename_i hphase
      obtain rfl := Option.some.inj hstep
      exact h.afterExit (by simp [hphase]) ⟨-1, none⟩ rfl rfl rfl
    · cases hstep
  | waited exit =>
    simp only [Supervisor.step] at hstep
    split at hstep
    · rename_i hphase
      obtain rfl := Option.some.inj hstep
      exact h.afterExit (by simp [hphase]) exit rfl rfl rfl
    · cases hstep
  | waitRejected error =>
    simp only [Supervisor.step] at hstep
    split at hstep
    · rename_i hphase
      obtain rfl := Option.some.inj hstep
      exact h.afterExit (by simp [hphase]) ⟨-1, none⟩ rfl rfl rfl
    · cases hstep

/-- **A session that is not stopped** counts what it has seen. -/
theorem counted_of_run {es : List SessionEvent} (h : Run (sessionSystem backoff).step .new es t)
    (hstop : ∀ e ∈ es, e ≠ .stop) : Counted backoff t (es.flatMap SessionEvent.shown) := by
  have hnew : Counted backoff .new [] := ⟨rfl, rfl, rfl, fun _ => ⟨rfl, Nat.zero_le _⟩, fun h => absurd h (by decide)⟩
  exact h.preserves_shown (fun _ e _ _ he hs hstep => hs.step hstep (hstop e he)) [] hnew

/-- The session settles an outcome, from the point where it spawns. -/
theorem exists_settled (backoff : List ℕ) (hrunning : s.stopped = false) (hspawning : s.phase = .spawning)
    {e : SessionEvent} (he : e.shown ≠ []) : ∃ es t, Run (sessionSystem backoff).step s es t ∧ (∀ e' ∈ es, e' ≠ .stop) ∧
      (es.filter fun e' => e'.shown ≠ []) = [e] ∧ t.stopped = false ∧
        (t.phase = .done ∨ ∃ delay, t.phase = .sleeping delay) := by
  have hended : ∀ (u : Supervisor) exit, u.stopped = false → (u.afterExit backoff exit).phase = .done ∨
      ∃ delay, (u.afterExit backoff exit).phase = .sleeping delay := by
    intro u exit hu
    rw [Supervisor.afterExit, if_neg (by simp [hu])]
    split_ifs
    · exact .inl rfl
    · exact .inl rfl
    · exact .inr ⟨_, rfl⟩
  -- a child is spawned first where the outcome is that of waiting
  have hspawned : (sessionSystem backoff).step s (.spawned true) (s.spawned true) := by
    change s.step backoff _ = _
    rw [Supervisor.step, hspawning]
  cases e with
  | spawnRejected error =>
    have hstep : (sessionSystem backoff).step s (.spawnRejected error)
        ({ s with lastError := some error }.afterExit backoff ⟨-1, none⟩) := by
      change s.step backoff _ = _
      rw [Supervisor.step, hspawning]
    exact ⟨_, _, .single hstep, by simp, rfl, (Supervisor.afterExit_stopped _ _).trans hrunning, hended _ _ hrunning⟩
  | waited exit =>
    have hstep : (sessionSystem backoff).step (s.spawned true) (.waited exit)
        ({ s.spawned true with current := none }.afterExit backoff exit) := rfl
    exact ⟨_, _, .cons hspawned (.single hstep), by simp, rfl, (Supervisor.afterExit_stopped _ _).trans hrunning,
      hended _ _ hrunning⟩
  | waitRejected error =>
    have hstep : (sessionSystem backoff).step (s.spawned true) (.waitRejected error)
        ({ s.spawned true with lastError := some error }.afterExit backoff ⟨-1, none⟩) := rfl
    exact ⟨_, _, .cons hspawned (.single hstep), by simp, rfl, (Supervisor.afterExit_stopped _ _).trans hrunning,
      hended _ _ hrunning⟩
  | _ => exact absurd rfl he

/-- The session goes through outcomes until it has ended, or there are no more. -/
theorem exists_outcomes (backoff : List ℕ) (outs : List SessionEvent) : ∀ s : Supervisor, (∀ e ∈ outs, e.shown ≠ []) →
    s.stopped = false → s.phase = .spawning → ∃ es t, Run (sessionSystem backoff).step s es t ∧
      (∀ e ∈ es, e ≠ .stop) ∧ (es.filter fun e => e.shown ≠ []) <+: outs ∧
        (t.phase = .done ∨ (es.filter fun e => e.shown ≠ []) = outs) := by
  induction outs with
  | nil => exact fun s _ _ _ => ⟨[], s, .nil s, by simp, List.prefix_rfl, .inr rfl⟩
  | cons e outs ih =>
    intro s houts hrunning hspawning
    obtain ⟨he, hrest⟩ := List.forall_mem_cons.mp houts
    obtain ⟨es, t, hrun, hstop, hfilter, htrunning, hdone | ⟨delay, hdelay⟩⟩ :=
      exists_settled backoff hrunning hspawning he
    · exact ⟨es, t, hrun, hstop, by rw [hfilter]; simp, .inl hdone⟩
    · have hslept : (sessionSystem backoff).step t .slept { t with
          lastError := none, phase := .spawning, spawns := t.spawns + 1 } := by
        change t.step backoff _ = _
        rw [Supervisor.step, hdelay]
        simp [Supervisor.loopHead, htrunning]
      obtain ⟨es', u, hrun', hstop', hprefix, hend⟩ :=
        ih { t with lastError := none, phase := .spawning, spawns := t.spawns + 1 } hrest htrunning rfl
      have hall : ((es ++ .slept :: es').filter fun e => e.shown ≠ []) =
          e :: es'.filter fun e => e.shown ≠ [] := by
        rw [List.filter_append, hfilter]
        rfl
      refine ⟨es ++ .slept :: es', u, hrun.trans (.cons hslept hrun'), ?_, ?_, ?_⟩
      · intro x hx
        rcases List.mem_append.mp hx with hx | hx
        · exact hstop x hx
        · rcases List.mem_cons.mp hx with rfl | hx
          · simp
          · exact hstop' x hx
      · rw [hall]
        exact (List.prefix_cons_inj e).mpr hprefix
      · rw [hall]
        exact hend.imp_right fun h => by rw [h]

end

/-! ### Both loops -/

/-- What an adapter makes of the exit of its child. Source: `index.ts` `resolve({ exit_code: code ?? -1, signal })` -/
def ExitStatus.info : ExitStatus → ExitInfo
  | .code n => ⟨n, none⟩
  | .signal name => ⟨-1, some name⟩

/-- The event of a session in which a child ends. -/
def waitedEvent : Except String ExitStatus → SessionEvent
  | .ok status => .waited status.info
  | .error e => .waitRejected e

/-- The event of a session that shows what an attempt has come to. -/
def Respawn.event : Respawn → SessionEvent
  | .fails e => .spawnRejected e
  | .spawns _ waited => waitedEvent waited

/-- A child that ends well for the one loop does so for the other. -/
theorem shown_waitedEvent (waited : Except String ExitStatus) :
    (waitedEvent waited).shown = [!succeeded waited] := by
  rcases waited with e | ⟨n⟩ | name
  · rfl
  · by_cases hn : n = 0 <;> simp [waitedEvent, ExitStatus.info, SessionEvent.shown, Clean, succeeded,
      ExitStatus.success, hn]
  · simp [waitedEvent, ExitStatus.info, SessionEvent.shown, Clean, succeeded, ExitStatus.success]

theorem shown_event (attempt : Respawn) : attempt.event.shown = [attempt.failing] := by
  cases attempt with
  | fails e => rfl
  | spawns pid waited => exact shown_waitedEvent waited

/-- The events that the outcomes make in a session. -/
def outcomeEvents (first : Except String ExitStatus) (attempts : List Respawn) : List SessionEvent :=
  waitedEvent first :: attempts.map Respawn.event

theorem flatMap_shown_outcomeEvents (first : Except String ExitStatus) (attempts : List Respawn) :
    (outcomeEvents first attempts).flatMap SessionEvent.shown = outcomes first attempts := by
  have hattempts : (attempts.map Respawn.event).flatMap SessionEvent.shown = attempts.map Respawn.failing := by
    induction attempts with
    | nil => rfl
    | cons attempt attempts ih => rw [List.map_cons, List.flatMap_cons, shown_event, ih]; rfl
  rw [outcomeEvents, List.flatMap_cons, shown_waitedEvent, hattempts]
  rfl

/-- A run of a session that is not stopped sees these outcomes, to its end if it does not end before. -/
structure Sees (backoffMs : List ℕ) (outs : List SessionEvent) (es : List SessionEvent) (t : Supervisor) : Prop where
  run : Run (sessionSystem backoffMs).step .new es t
  notStopped : ∀ e ∈ es, e ≠ .stop
  seen : (es.filter fun e => e.shown ≠ []) <+: outs
  all : t.phase = .done ∨ (es.filter fun e => e.shown ≠ []) = outs

/-- **The respawn bound**: the loop of the server counts at most one failure more than there are delays, and indexes
the schedule in its range. It returns exactly when there is a clean exit or the schedule is used up, emits its alert
exactly when the schedule is used up, and removes the agent before it returns. A session that sees the same outcomes
gives up exactly then too. -/
structure RespawnBound (cfg : SpawnConfig) (backoffMs : List ℕ) (first : Except String ExitStatus)
    (attempts : List Respawn) (r : WatchState × LoopEnd) : Prop where
  failures_le : r.1.failures ≤ backoffMs.length + 1
  notPanicked : r.2 ≠ .panicked
  returned : r.2 = .returned ↔ backoffMs.length < leading (outcomes first attempts) ∨
    leading (outcomes first attempts) < (outcomes first attempts).length
  terminates : backoffMs.length ≤ attempts.length → r.2 = .returned
  emitted : r.1.emitted = if backoffMs.length < leading (outcomes first attempts) then
    [⟨cfg.startupId, cfg.agentId, backoffMs.length + 1⟩] else []
  removed : r.2 = .returned → r.1.sup.agents.lookup cfg.agentId = none
  session : ∀ es t, Sees backoffMs (outcomeEvents first attempts) es t →
    t.dead.map DeadInfo.attempts = r.1.emitted.map WorkerDead.attempts
  exists_session : ∃ es t, Sees backoffMs (outcomeEvents first attempts) es t

/-- What a session has counted does not depend on what it does not see any more. -/
theorem Sees.dead {first : Except String ExitStatus} {attempts : List Respawn} {es : List SessionEvent}
    {t : Supervisor} (h : Sees backoffMs (outcomeEvents first attempts) es t) :
    t.dead.map DeadInfo.attempts =
      if backoffMs.length < leading (outcomes first attempts) then [backoffMs.length + 1] else [] := by
  have hcounted := counted_of_run h.run h.notStopped
  have hfilter : es.flatMap SessionEvent.shown =
      (es.filter fun e => e.shown ≠ []).flatMap SessionEvent.shown := by
    clear h hcounted
    induction es with
    | nil => rfl
    | cons e es ih =>
      by_cases he : e.shown = []
      · rw [List.flatMap_cons, he, List.nil_append, ih, List.filter_cons_of_neg (by simp [he])]
      · rw [List.flatMap_cons, List.filter_cons_of_pos (by simpa using he), List.flatMap_cons, ih]
  obtain ⟨rest, hrest⟩ := h.seen
  have houtcomes : outcomes first attempts =
      es.flatMap SessionEvent.shown ++ rest.flatMap SessionEvent.shown := by
    rw [← flatMap_shown_outcomeEvents, ← hrest, List.flatMap_append, ← hfilter]
  rw [hcounted.dead]
  rcases h.all with hdone | hall
  · have hleading := leading_append (es.flatMap SessionEvent.shown) (rest.flatMap SessionEvent.shown)
    have hlength := leading_le_length (es.flatMap SessionEvent.shown)
    rw [houtcomes, hleading]
    rcases hcounted.ended hdone with hmore | hclean
    · rw [if_pos hmore, if_pos (by split <;> omega)]
    · rw [if_neg (by omega : ¬ leading (es.flatMap SessionEvent.shown) = (es.flatMap SessionEvent.shown).length)]
  · rw [← flatMap_shown_outcomeEvents, ← hall, ← hfilter]

/-- **The loops give up on the same failure**, whatever the schedule, the exits and the attempts, when nobody dissolves
the startup of the agent. -/
theorem watchLoop_respawnBound {cfg : SpawnConfig} {others : Others} {sup : AgentSupervisor}
    (hothers : NoDissolve cfg others) (hsup : cfg.agentId ∉ sup.tombstones) (backoffMs : List ℕ)
    (first : Except String ExitStatus) (attempts : List Respawn) :
    RespawnBound cfg backoffMs first attempts (watchLoop cfg backoffMs others attempts first ⟨sup, 0, [], []⟩) := by
  have hspec := watchLoop_spec backoffMs hothers attempts first ⟨sup, 0, [], []⟩ hsup (Nat.zero_le _)
  have hemitted := hspec.emitted
  have hreturned := hspec.returned
  simp only [Nat.zero_add, List.nil_append] at hemitted hreturned
  refine ⟨?_, hspec.notPanicked, hreturned, ?_, hemitted, hspec.removed, ?_, ?_⟩
  · rw [hspec.failures]
    exact Nat.min_le_left _ _
  · intro henough
    have hlength : (outcomes first attempts).length = attempts.length + 1 := by simp [outcomes]
    have hle := leading_le_length (outcomes first attempts)
    exact hreturned.mpr (by omega)
  · intro es t hsees
    rw [hsees.dead, hemitted]
    split <;> rfl
  · have hstart : (sessionSystem backoffMs).step .new .start
        ⟨none, false, 0, none, .spawning, [], 1, []⟩ := rfl
    obtain ⟨es, t, hrun, hstop, hseen, hall⟩ := exists_outcomes backoffMs (outcomeEvents first attempts)
      ⟨none, false, 0, none, .spawning, [], 1, []⟩ (by
        intro e he
        rcases List.mem_cons.mp he with rfl | he
        · simp [shown_waitedEvent]
        · obtain ⟨attempt, -, rfl⟩ := List.mem_map.mp he
          simp [shown_event]) rfl rfl
    refine ⟨.start :: es, t, .cons hstart hrun, ?_, hseen, hall⟩
    intro e he
    rcases List.mem_cons.mp he with rfl | he
    · simp
    · exact hstop e he

/-- One delay: a child that fails, and cannot be spawned again. -/
theorem watchLoop_respawnBound_gone :
    let cfg : SpawnConfig := ⟨"a1", "s1", "http://world", "secret", "/work", "codex", none⟩
    let r := watchLoop cfg [10] ⟨fun _ sup => sup, fun _ sup => sup⟩ [.fails "No such file"] (.ok (.code 1))
      ⟨AgentSupervisor.insertAgent ⟨∅, ∅⟩ cfg 7, 0, [], []⟩
    RespawnBound cfg [10] (.ok (.code 1)) [.fails "No such file"] r ∧ r.2 = .returned ∧
      r.1.emitted = [⟨"s1", "a1", 2⟩] := by
  intro cfg r
  refine ⟨watchLoop_respawnBound ?_ ?_ [10] _ _, ?_, ?_⟩
  · exact fun _ _ h => ⟨h, h⟩
  · decide
  · decide +kernel
  · decide +kernel

end Cliptown.Worker
