import Cliptown.Lib.Runs
import Mathlib.Logic.Function.Basic

/-!
# Commands with a timeout

The tools of the agents run commands in the directory of a task. A call waits for its child under a timeout, and then
for the two tasks that read what the child writes.

* `fromUtf8Lossy`, `tailToString` — what is kept of an output.
* `Behaviour`, `Os` — what a child does, if it is not killed, and which children commands have.
* `CallState`, `act`, `callStep`, `runCommand` — the call, its tasks and its child, as time passes.
* `Effective` — what the timeout is for: when the wait has timed out the child is killed before anything else is waited
  for, the call returns, and it says that it timed out.
* `timeout_effective_iff` — this holds exactly of the children that end before the timeout; `returns_iff` — a call
  returns exactly when its child ends.

A child is the only one to write to its pipes: they are closed when it is dead.
-/

namespace Cliptown.Sandbox

open Cliptown.Lib

/-! ### What is kept of an output -/

/-- A byte inside a character. -/
def isContinuation (b : UInt8) : Bool :=
  b &&& 0xC0 == 0x80

/-- What may follow the first byte of a longer character: the bounds of the second byte, and how many bytes come after
that. -/
def follows (b : UInt8) : Option (UInt8 × UInt8 × ℕ) :=
  if 0xC2 ≤ b ∧ b ≤ 0xDF then some (0x80, 0xBF, 0)
  else if b = 0xE0 then some (0xA0, 0xBF, 1)
  else if b = 0xED then some (0x80, 0x9F, 1)
  else if 0xE1 ≤ b ∧ b ≤ 0xEF then some (0x80, 0xBF, 1)
  else if b = 0xF0 then some (0x90, 0xBF, 2)
  else if 0xF1 ≤ b ∧ b ≤ 0xF3 then some (0x80, 0xBF, 2)
  else if b = 0xF4 then some (0x80, 0x8F, 2)
  else none

/-- The character of a first byte and the bytes that continue it. -/
def codePoint (b : UInt8) (rest : List UInt8) : Char :=
  Char.ofNat (rest.foldl (fun n c => n * 64 + c.toNat % 64) (b.toNat % (0x40 >>> rest.length)))

/-- The next character, and how many bytes after the first one it takes; what is not valid is replaced. -/
def decodeNext (b : UInt8) (rest : List UInt8) : Char × ℕ :=
  if b < 0x80 then (Char.ofNat b.toNat, 0)
  else
    match follows b, rest with
    | some (low, high, more), c :: rest =>
        let tail := (rest.take more).takeWhile isContinuation
        if ¬ (low ≤ c ∧ c ≤ high) then ('\uFFFD', 0)
        else if tail.length = more then (codePoint b (c :: tail), 1 + more)
        else ('\uFFFD', 1 + tail.length)
    | _, _ => ('\uFFFD', 0)

/-- Decode at most a number of characters. -/
def decodeUpTo : ℕ → List UInt8 → List Char
  | 0, _ => []
  | _, [] => []
  | n + 1, b :: rest =>
      let (c, taken) := decodeNext b rest
      c :: decodeUpTo n (rest.drop taken)

/-- Source: `String::from_utf8_lossy` -/
def fromUtf8Lossy (bytes : List UInt8) : String :=
  .ofList (decodeUpTo bytes.length bytes)

/-- Source: `agent_tools.rs` `TAIL_CAP_BYTES` -/
def tailCapBytes : ℕ :=
  16 * 1024

/-- Source: `agent_tools.rs` `tail_to_string` -/
def tailToString (bytes : List UInt8) : String :=
  fromUtf8Lossy ((bytes.drop (bytes.length - tailCapBytes)).dropWhile isContinuation)

/-! ### Children -/

inductive Stream where
  | stdout
  | stderr
  deriving DecidableEq, Repr

/-- What a child does if it is not killed. -/
structure Behaviour where
  /-- When it ends, if ever, in milliseconds; and what waiting for it then gives: an exit code, none if it was a signal,
  or an error. -/
  ends : Option (ℕ × Except String (Option ℤ))
  /-- What it writes in each millisecond. -/
  writes : Stream → ℕ → List UInt8

/-- The children of commands, by program, arguments and directory; or why they cannot be spawned. -/
structure Os where
  spawn : String → List String → String → Except String Behaviour

/-! ### A call -/

/-- Source: `agent_tools.rs` `CommandOutcome` -/
structure CommandOutcome where
  exitCode : Option ℤ
  stdoutTail : String
  stderrTail : String
  timedOut : Bool
  elapsedMs : ℕ
  deriving DecidableEq, Repr

/-- Source: `agent_tools.rs` `ToolError` -/
inductive ToolError where
  | spawn (message : String)
  | io (message : String)
  deriving DecidableEq, Repr

/-- What a call waits for, with what it has so far. -/
inductive CallPoint where
  /-- The child, under the timeout. -/
  | childWait
  /-- The task that reads the output. -/
  | stdoutTask (exitCode : Option ℤ) (timedOut : Bool)
  /-- The task that reads the errors. -/
  | stderrTask (exitCode : Option ℤ) (timedOut : Bool) (stdoutBytes : List UInt8)
  | returned (result : Except ToolError CommandOutcome)

/-- A call, its child and its two tasks. -/
structure CallState where
  /-- Milliseconds since the child was spawned. -/
  now : ℕ
  /-- The child has ended, or it was killed. -/
  dead : Bool
  written : Stream → List UInt8
  /-- What the tasks have read, once they are done. -/
  buffer : Stream → Option (List UInt8)
  point : CallPoint

namespace CallState

/-- The child is spawned, or the call returns. -/
def start : Except String Behaviour → CallState
  | .ok _ => ⟨0, false, fun _ => [], fun _ => none, .childWait⟩
  | .error e => ⟨0, true, fun _ => [], fun _ => none, .returned (.error (.spawn e))⟩

/-- A millisecond passes. -/
def pass (child : Behaviour) (s : CallState) : CallState :=
  { s with
    now := s.now + 1
    written := fun stream => if s.dead then s.written stream else s.written stream ++ child.writes stream s.now }

end CallState

/-- What can happen at a moment. -/
inductive CallEvent where
  /-- The child ends. -/
  | ends
  /-- A task has read to the end: the pipe is closed. -/
  | reads (stream : Stream)
  /-- The wait is over, or the timeout. -/
  | waited
  | elapsed
  /-- A task is awaited. -/
  | joined (stream : Stream)
  deriving DecidableEq, Repr

def CallEvent.all : List CallEvent :=
  [.ends, .reads .stdout, .reads .stderr, .waited, .elapsed, .joined .stdout, .joined .stderr]

theorem CallEvent.mem_all (e : CallEvent) : e ∈ all := by
  rcases e with _ | ⟨_ | _⟩ | _ | _ | ⟨_ | _⟩ <;> decide

/-- Source: `agent_tools.rs` `run_command`. The child is polled before the timeout, and it is killed when it is dropped:
when the call returns. -/
def act (child : Behaviour) (deadline : ℕ) (s : CallState) : CallEvent → Option CallState
  | .ends =>
      match child.ends with
      | some (e, _) => if s.dead = false ∧ e ≤ s.now then some { s with dead := true } else none
      | none => none
  | .reads stream =>
      if s.dead ∧ s.buffer stream = none then
        some { s with buffer := Function.update s.buffer stream (some (s.written stream)) }
      else none
  | .waited =>
      match s.point, child.ends with
      | .childWait, some (_, status) =>
          if s.dead then
            match status with
            | .ok code => some { s with point := .stdoutTask code false }
            | .error e => some { s with point := .returned (.error (.io e)) }
          else none
      | _, _ => none
  | .elapsed =>
      match s.point with
      | .childWait =>
          if s.dead = false ∧ deadline ≤ s.now then some { s with point := .stdoutTask none true } else none
      | _ => none
  | .joined stream =>
      match stream, s.point, s.buffer stream with
      | .stdout, .stdoutTask code timedOut, some bytes => some { s with point := .stderrTask code timedOut bytes }
      | .stderr, .stderrTask code timedOut out, some bytes =>
          some { s with
            dead := true
            point := .returned (.ok
              { exitCode := code
                stdoutTail := tailToString out
                stderrTail := tailToString bytes
                timedOut := timedOut
                elapsedMs := s.now }) }
      | _, _, _ => none

/-- An event, or a millisecond that passes. -/
inductive CallLabel where
  | event (e : CallEvent)
  | tick
  deriving DecidableEq, Repr

/-- Nothing can happen at the moment. -/
def Idle (child : Behaviour) (deadline : ℕ) (s : CallState) : Prop :=
  ∀ e ∈ CallEvent.all, act child deadline s e |>.isNone

instance (child : Behaviour) (deadline : ℕ) (s : CallState) : Decidable (Idle child deadline s) :=
  inferInstanceAs (Decidable (∀ _ ∈ _, _))

/-- A step: time passes when nothing can happen. -/
def callStep (child : Behaviour) (deadline : ℕ) (s : CallState) : CallLabel → Option CallState
  | .event e => act child deadline s e
  | .tick => if Idle child deadline s then some (s.pass child) else none

/-- A call, over time. Source: `agent_tools.rs` `run_command` -/
def runCommand (os : Os) (program : String) (args : List String) (cwd : String) (timeoutSecs : ℕ) :
    System CallState CallLabel where
  init s := s = .start (os.spawn program args cwd)
  step s l t := ∃ child, os.spawn program args cwd = .ok child ∧ callStep child (1000 * timeoutSecs) s l = some t

/-! ### Effect of the timeout -/

namespace CallPoint

/-- The wait for the child has timed out, and a task is waited for. -/
def TimedOut : CallPoint → Prop
  | .stdoutTask _ timedOut => timedOut = true
  | .stderrTask _ timedOut _ => timedOut = true
  | _ => False

/-- The call has returned. -/
def Returned (p : CallPoint) : Prop :=
  ∃ result, p = .returned result

end CallPoint

/-- From some time on, the call has returned. -/
def Returns (S : System CallState CallLabel) : Prop :=
  ∃ limit, ∀ s, S.Reachable s → limit ≤ s.now → s.point.Returned

/-- **The timeout is effective**: once the wait has timed out, the child is killed before anything else is waited for;
the call returns; and then it says that it timed out. -/
structure Effective (S : System CallState CallLabel) : Prop where
  kills : ∀ s, S.Reachable s → s.point.TimedOut → s.dead
  returns : Returns S
  reports : ∀ s t ls result, S.Reachable s → s.point.TimedOut → Run S.step s ls t → t.point = .returned result →
    ∃ outcome, result = .ok outcome ∧ outcome.timedOut

/-! ### Steps -/

section Steps

variable {child : Behaviour} {deadline : ℕ} {s t : CallState}

/-- What an event does. -/
inductive Acts (child : Behaviour) (deadline : ℕ) (s : CallState) : CallState → Prop
  | ends {e : ℕ} {status : Except String (Option ℤ)} :
      child.ends = some (e, status) → e ≤ s.now → Acts child deadline s { s with dead := true }
  | reads {stream : Stream} : s.dead →
      Acts child deadline s
        { s with buffer := Function.update s.buffer stream (some (s.written stream)) }
  | exited {e : ℕ} {code : Option ℤ} : s.point = .childWait → child.ends = some (e, .ok code) → s.dead →
      Acts child deadline s { s with point := .stdoutTask code false }
  | failed {e : ℕ} {error : String} : s.point = .childWait → child.ends = some (e, .error error) →
      Acts child deadline s { s with point := .returned (.error (.io error)) }
  | elapsed : s.point = .childWait → deadline ≤ s.now →
      Acts child deadline s { s with point := .stdoutTask none true }
  | joinedStdout {code : Option ℤ} {timedOut : Bool} {bytes : List UInt8} :
      s.point = .stdoutTask code timedOut →
      Acts child deadline s { s with point := .stderrTask code timedOut bytes }
  | joinedStderr {code : Option ℤ} {timedOut : Bool} {out : List UInt8} {outcome : CommandOutcome} :
      s.point = .stderrTask code timedOut out → outcome.timedOut = timedOut →
      Acts child deadline s { s with dead := true, point := .returned (.ok outcome) }

theorem acts_of_act {e : CallEvent} (h : act child deadline s e = some t) : Acts child deadline s t := by
  cases e with
  | ends =>
      simp only [act] at h
      split at h
      · rename_i e status hends
        split at h
        · rename_i hlate
          obtain rfl := Option.some.inj h
          exact .ends hends hlate.2
        · exact absurd h (by simp)
      · exact absurd h (by simp)
  | reads stream =>
      simp only [act] at h
      split at h
      · rename_i hread
        obtain rfl := Option.some.inj h
        exact .reads hread.1
      · exact absurd h (by simp)
  | waited =>
      simp only [act] at h
      split at h
      · rename_i e status hpoint hends
        split at h
        · rename_i hdead
          split at h
          · obtain rfl := Option.some.inj h
            exact .exited hpoint hends hdead
          · obtain rfl := Option.some.inj h
            exact .failed hpoint hends
        · exact absurd h (by simp)
      · exact absurd h (by simp)
  | elapsed =>
      simp only [act] at h
      split at h
      · rename_i hpoint
        split at h
        · rename_i hlate
          obtain rfl := Option.some.inj h
          exact .elapsed hpoint hlate.2
        · exact absurd h (by simp)
      · exact absurd h (by simp)
  | joined stream =>
      simp only [act] at h
      split at h
      · rename_i hpoint hbuffer
        obtain rfl := Option.some.inj h
        exact .joinedStdout hpoint
      · rename_i hpoint hbuffer
        obtain rfl := Option.some.inj h
        exact .joinedStderr hpoint rfl
      · exact absurd h (by simp)

theorem idle_iff : Idle child deadline s ↔ ∀ e, act child deadline s e = none :=
  ⟨fun h e => Option.isNone_iff_eq_none.mp (h e e.mem_all), fun h e _ => by simp [h e]⟩

/-- What a step does: something happens, or a millisecond passes while nothing can. -/
theorem callStep_cases {l : CallLabel} (h : callStep child deadline s l = some t) :
    Acts child deadline s t ∨ Idle child deadline s ∧ t = s.pass child := by
  cases l with
  | event e => exact .inl (acts_of_act h)
  | tick =>
      by_cases hidle : Idle child deadline s
      · rw [callStep, if_pos hidle] at h
        exact .inr ⟨hidle, (Option.some.inj h).symm⟩
      · rw [callStep, if_neg hidle] at h
        exact absurd h (by simp)

/-- **A call has something to do** once its child has ended, until it returns. -/
theorem returned_of_idle {e : ℕ} {status : Except String (Option ℤ)} (hends : child.ends = some (e, status))
    (hlate : e ≤ s.now) (hidle : Idle child deadline s) : s.point.Returned := by
  rw [idle_iff] at hidle
  have hdead : s.dead = true := by
    by_contra halive
    have hnone := hidle .ends
    simp [act, hends, hlate, halive] at hnone
  have hread : ∀ stream, ∃ bytes, s.buffer stream = some bytes := by
    intro stream
    by_contra hbuffer
    have hnone := hidle (.reads stream)
    simp [act, hdead, Option.eq_none_iff_forall_ne_some, not_exists.mp hbuffer] at hnone
  cases hpoint : s.point with
  | childWait =>
      have hnone := hidle .waited
      cases status <;> simp [act, hpoint, hends, hdead] at hnone
  | stdoutTask code timedOut =>
      obtain ⟨bytes, hbytes⟩ := hread .stdout
      have hnone := hidle (.joined .stdout)
      simp [act, hpoint, hbytes] at hnone
  | stderrTask code timedOut out =>
      obtain ⟨bytes, hbytes⟩ := hread .stderr
      have hnone := hidle (.joined .stderr)
      simp [act, hpoint, hbytes] at hnone
  | returned result => exact ⟨result, rfl⟩

/-- A call that has returned stays as it is. -/
theorem Acts.returned {result : Except ToolError CommandOutcome} (h : Acts child deadline s t)
    (hs : s.point = .returned result) : t.point = .returned result := by
  cases h with
  | ends hends hlate => exact hs
  | reads hdead => exact hs
  | exited hpoint hends hdead => exact absurd (hs.symm.trans hpoint) (by simp)
  | failed hpoint hends => exact absurd (hs.symm.trans hpoint) (by simp)
  | elapsed hpoint hlate => exact absurd (hs.symm.trans hpoint) (by simp)
  | joinedStdout hpoint => exact absurd (hs.symm.trans hpoint) (by simp)
  | joinedStderr hpoint houtcome => exact absurd (hs.symm.trans hpoint) (by simp)

/-- No time passes in an event. -/
theorem Acts.now (h : Acts child deadline s t) : t.now = s.now := by
  cases h <;> rfl

/-- The wait times out in one way. -/
theorem Acts.timedOut (h : Acts child deadline s t) (ht : t.point.TimedOut) :
    s.point.TimedOut ∨ s.point = .childWait ∧ deadline ≤ s.now := by
  cases h with
  | ends hends hlate => exact .inl ht
  | reads hdead => exact .inl ht
  | exited hpoint hends hdead => exact absurd ht (by simp [CallPoint.TimedOut])
  | failed hpoint hends => exact absurd ht (by simp [CallPoint.TimedOut])
  | elapsed hpoint hlate => exact .inr ⟨hpoint, hlate⟩
  | joinedStdout hpoint =>
      rw [hpoint]
      exact .inl ht
  | joinedStderr hpoint houtcome => exact absurd ht (by simp [CallPoint.TimedOut])

/-- A wait that has timed out is reported. -/
def Reported (p : CallPoint) : Prop :=
  p.TimedOut ∨ ∃ outcome, p = .returned (.ok outcome) ∧ outcome.timedOut

theorem Acts.reported (h : Acts child deadline s t) (hs : Reported s.point) : Reported t.point := by
  rcases hs with hs | ⟨outcome, hs, houtcome⟩
  · cases h with
    | ends hends hlate => exact .inl hs
    | reads hdead => exact .inl hs
    | exited hpoint hends hdead => exact absurd hs (by simp [hpoint, CallPoint.TimedOut])
    | failed hpoint hends => exact absurd hs (by simp [hpoint, CallPoint.TimedOut])
    | elapsed hpoint hlate => exact .inl rfl
    | joinedStdout hpoint =>
        rw [hpoint] at hs
        exact .inl hs
    | joinedStderr hpoint houtcome =>
        rw [hpoint] at hs
        exact .inr ⟨_, rfl, houtcome.trans hs⟩
  · exact .inr ⟨outcome, h.returned hs, houtcome⟩

end Steps

/-! ### Calls over time -/

section Calls

variable {os : Os} {program : String} {args : List String} {cwd : String} {timeoutSecs : ℕ} {child : Behaviour}

/-- A call whose child cannot be spawned has returned. -/
theorem start_of_error {error : String} (hspawn : os.spawn program args cwd = .error error) {s : CallState}
    (h : (runCommand os program args cwd timeoutSecs).Reachable s) :
    s = .start (.error error) := by
  induction h with
  | init hs =>
      rw [← hspawn]
      exact hs
  | step _ hst _ =>
      obtain ⟨child, hchild, -⟩ := hst
      exact absurd (hspawn.symm.trans hchild) (by simp)

/-- **Run rule** for a call whose child is spawned. -/
theorem reachable_invariant (hspawn : os.spawn program args cwd = .ok child) {I : CallState → Prop}
    (hinit : I (.start (.ok child)))
    (hstep : ∀ s l t, I s → callStep child (1000 * timeoutSecs) s l = some t → I t) {s : CallState}
    (h : (runCommand os program args cwd timeoutSecs).Reachable s) : I s := by
  refine h.invariant ?_ ?_
  · rintro s hs
    have hstart : s = .start (os.spawn program args cwd) := hs
    rw [hstart, hspawn]
    exact hinit
  · rintro s l t hs ⟨child', hchild, hst⟩
    obtain rfl := Except.ok.inj (hspawn.symm.trans hchild)
    exact hstep s l t hs hst

/-- Until its child ends, a call may wait; after that it has returned. -/
theorem returned_or_early {e : ℕ} {status : Except String (Option ℤ)}
    (hspawn : os.spawn program args cwd = .ok child) (hends : child.ends = some (e, status)) {s : CallState}
    (h : (runCommand os program args cwd timeoutSecs).Reachable s) : s.point.Returned ∨ s.now ≤ e := by
  refine reachable_invariant (I := fun s => s.point.Returned ∨ s.now ≤ e) hspawn (.inr (Nat.zero_le e)) ?_ h
  rintro s l t hs hst
  rcases hs with ⟨result, hresult⟩ | hearly
  · rcases callStep_cases hst with hacts | ⟨-, rfl⟩
    · exact .inl ⟨result, hacts.returned hresult⟩
    · exact .inl ⟨result, hresult⟩
  · rcases callStep_cases hst with hacts | ⟨hidle, rfl⟩
    · exact .inr (hacts.now.trans_le hearly)
    · by_cases hlate : e ≤ s.now
      · have hreturned := returned_of_idle hends hlate hidle
        exact .inl hreturned
      · exact .inr (Nat.lt_of_not_ge hlate)

/-- A child that ends before the timeout does not let it elapse. -/
theorem not_timedOut {e : ℕ} {status : Except String (Option ℤ)} (hspawn : os.spawn program args cwd = .ok child)
    (hends : child.ends = some (e, status)) (hearly : e < 1000 * timeoutSecs) {s : CallState}
    (h : (runCommand os program args cwd timeoutSecs).Reachable s) : ¬ s.point.TimedOut := by
  induction h with
  | init hs =>
      rw [show _ = CallState.start _ from hs, hspawn]
      exact fun h => h
  | @step s t l hs hst ih =>
      intro ht
      obtain ⟨child', hchild, hst⟩ := hst
      obtain rfl := Except.ok.inj (hspawn.symm.trans hchild)
      rcases callStep_cases hst with hacts | ⟨-, rfl⟩
      · rcases hacts.timedOut ht with hs' | ⟨hpoint, hlate⟩
        · exact ih hs'
        · rcases returned_or_early hspawn hends hs with ⟨result, hresult⟩ | hnow
          · exact absurd (hresult.symm.trans hpoint) (by simp)
          · omega
      · exact ih ht

/-! ### Children that go on -/

/-- The child runs, nothing has been read, and the call is at a point. -/
structure Pending (s : CallState) (point : CallPoint) (now : ℕ) : Prop where
  alive : s.dead = false
  unread : ∀ stream, s.buffer stream = none
  point : s.point = point
  now : s.now = now

/-- Time passes while the call is pending. -/
theorem Pending.pass {s : CallState} {point : CallPoint} {now : ℕ} (h : Pending s point now) :
    Pending (s.pass child) point (now + 1) where
  alive := h.alive
  unread := h.unread
  point := h.point
  now := congrArg Nat.succ h.now

/-- A pending call is idle until its child ends or the timeout elapses. -/
theorem Pending.idle {s : CallState} {point : CallPoint} {now deadline : ℕ} (h : Pending s point now)
    (hends : ∀ e status, child.ends = some (e, status) → now < e) (hwait : point = .childWait → now < deadline) :
    Idle child deadline s := by
  rw [idle_iff]
  intro event
  cases event with
  | ends =>
      rcases hend : child.ends with _ | ⟨e, status⟩
      · simp [act, hend]
      · have hnot : ¬ e ≤ s.now := by
          rw [h.now]
          exact Nat.not_le.mpr (hends e status hend)
        simp [act, hend, hnot]
  | reads stream => simp [act, h.alive]
  | waited =>
      simp only [act]
      split
      · rw [h.alive]
        rfl
      · rfl
  | elapsed =>
      simp only [act]
      split
      · rename_i hpoint
        have hnot : ¬ deadline ≤ s.now := by
          rw [h.now]
          exact Nat.not_le.mpr (hwait (h.point.symm.trans hpoint))
        simp [hnot]
      · rfl
  | joined stream =>
      have hbuffer := h.unread stream
      cases stream <;> simp [act, hbuffer]

variable (hspawn : os.spawn program args cwd = .ok child)

include hspawn

/-- A child that goes on is waited for until the timeout. -/
theorem reachable_childWait (hends : ∀ e status, child.ends = some (e, status) → 1000 * timeoutSecs ≤ e) {n : ℕ}
    (hn : n ≤ 1000 * timeoutSecs) :
    ∃ s, (runCommand os program args cwd timeoutSecs).Reachable s ∧ Pending s .childWait n := by
  induction n with
  | zero =>
      refine ⟨.start (.ok child), .init ?_, rfl, fun _ => rfl, rfl, rfl⟩
      change _ = CallState.start (os.spawn program args cwd)
      rw [hspawn]
  | succ n ih =>
      obtain ⟨s, hs, hpending⟩ := ih (Nat.le_of_succ_le hn)
      have hidle : Idle child (1000 * timeoutSecs) s :=
        hpending.idle (fun e status hend => Nat.lt_of_lt_of_le hn (hends e status hend)) fun _ => hn
      exact ⟨s.pass child, hs.step (l := .tick) ⟨child, hspawn, if_pos hidle⟩, hpending.pass⟩

/-- **It is not killed** before the call waits for what it writes. -/
theorem reachable_alive (hends : ∀ e status, child.ends = some (e, status) → 1000 * timeoutSecs ≤ e) :
    ∃ s, (runCommand os program args cwd timeoutSecs).Reachable s ∧
      Pending s (.stdoutTask none true) (1000 * timeoutSecs) := by
  obtain ⟨s, hs, hpending⟩ := reachable_childWait hspawn hends le_rfl
  refine ⟨{ s with point := .stdoutTask none true },
    hs.step (l := .event .elapsed) ⟨child, hspawn, ?_⟩, hpending.alive, hpending.unread, rfl, hpending.now⟩
  have hlate : 1000 * timeoutSecs ≤ s.now := hpending.now.ge
  simp [callStep, act, hpending.point, hpending.alive, hlate]

variable (timeoutSecs) in
/-- A child that never ends is waited for at any time after that. -/
theorem reachable_stuck (hends : child.ends = none) (n : ℕ) :
    ∃ s, (runCommand os program args cwd timeoutSecs).Reachable s ∧
      Pending s (.stdoutTask none true) (1000 * timeoutSecs + n) := by
  induction n with
  | zero => exact reachable_alive hspawn fun e status hend => absurd (hends.symm.trans hend) (by simp)
  | succ n ih =>
      obtain ⟨s, hs, hpending⟩ := ih
      have hidle : Idle child (1000 * timeoutSecs) s :=
        hpending.idle (fun e status hend => absurd (hends.symm.trans hend) (by simp)) fun hwait =>
          absurd hwait (by simp)
      exact ⟨s.pass child, hs.step (l := .tick) ⟨child, hspawn, if_pos hidle⟩, hpending.pass⟩

end Calls

/-- **A call returns** exactly when its child ends by itself. -/
theorem returns_iff (os : Os) (program : String) (args : List String) (cwd : String) (timeoutSecs : ℕ) :
    Returns (runCommand os program args cwd timeoutSecs) ↔
      ∀ child, os.spawn program args cwd = .ok child → child.ends.isSome := by
  constructor
  · rintro ⟨limit, hlimit⟩ child hspawn
    by_contra hnone
    obtain ⟨s, hs, hpending⟩ := reachable_stuck timeoutSecs hspawn (Option.not_isSome_iff_eq_none.mp hnone) limit
    obtain ⟨result, hresult⟩ := hlimit s hs (by rw [hpending.now]; omega)
    exact absurd (hresult.symm.trans hpending.point) (by simp)
  · intro h
    rcases hspawn : os.spawn program args cwd with error | child
    · refine ⟨0, fun s hs _ => ⟨.error (.spawn error), ?_⟩⟩
      rw [start_of_error hspawn hs]
      rfl
    · obtain ⟨⟨e, status⟩, hends⟩ := Option.isSome_iff_exists.mp (h child hspawn)
      refine ⟨e + 1, fun s hs hlate => ?_⟩
      exact (returned_or_early hspawn hends hs).resolve_right (Nat.not_le.mpr hlate)

/-- **The timeout is effective** exactly when it does not elapse: the child cannot be spawned, or it ends before. -/
theorem timeout_effective_iff (os : Os) (program : String) (args : List String) (cwd : String) (timeoutSecs : ℕ) :
    Effective (runCommand os program args cwd timeoutSecs) ↔
      ∀ child, os.spawn program args cwd = .ok child →
        ∃ e status, child.ends = some (e, status) ∧ e < 1000 * timeoutSecs := by
  constructor
  · intro heffective child hspawn
    by_contra hnone
    have hends : ∀ e status, child.ends = some (e, status) → 1000 * timeoutSecs ≤ e := by
      intro e status hend
      by_contra hearly
      exact hnone ⟨e, status, hend, Nat.not_le.mp hearly⟩
    obtain ⟨s, hs, hpending⟩ := reachable_alive hspawn hends
    have hdead := heffective.kills s hs (by rw [hpending.point]; rfl)
    exact absurd (hpending.alive.symm.trans hdead) (by simp)
  · intro h
    refine ⟨fun s hs htimedOut => ?_, ?_, fun s t ls result hs htimedOut hrun ht => ?_⟩
    · rcases hspawn : os.spawn program args cwd with error | child
      · rw [start_of_error hspawn hs] at htimedOut
        exact absurd htimedOut fun h => h
      · obtain ⟨e, status, hends, hearly⟩ := h child hspawn
        exact absurd htimedOut (not_timedOut hspawn hends hearly hs)
    · refine (returns_iff os program args cwd timeoutSecs).mpr fun child hspawn => ?_
      obtain ⟨e, status, hends, -⟩ := h child hspawn
      rw [hends]
      rfl
    · have hreported : Reported t.point := by
        refine hrun.preserves (I := fun s => Reported s.point) ?_ (.inl htimedOut)
        rintro s l t hs ⟨child, -, hst⟩
        rcases callStep_cases hst with hacts | ⟨-, rfl⟩
        · exact hacts.reported hs
        · exact hs
      rw [ht] at hreported
      rcases hreported with hreported | ⟨outcome, houtcome, htimed⟩
      · exact absurd hreported fun h => h
      · exact ⟨outcome, CallPoint.returned.inj houtcome, htimed⟩

/-! ### A command that goes on -/

/-- A system on which `sleep` never ends. -/
def sleepingOs : Os where
  spawn _ _ _ := .ok ⟨none, fun _ _ => []⟩

/-- **Not of every child**: one that sleeps for ever is never killed, and the call never returns. -/
theorem not_timeout_effective :
    ¬ ∀ (os : Os) (program : String) (args : List String) (cwd : String) (timeoutSecs : ℕ),
      Effective (runCommand os program args cwd timeoutSecs) := by
  intro h
  have hreturns := (h sleepingOs "sleep" ["infinity"] "/tmp" 1).returns
  rw [returns_iff] at hreturns
  exact absurd (hreturns _ rfl) (by simp)

end Cliptown.Sandbox
