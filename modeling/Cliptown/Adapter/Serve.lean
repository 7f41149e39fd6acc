import Cliptown.Lib.Js
import Cliptown.Lib.Runs
import Cliptown.Lib.Utf8

/-!
# Spawning opencode

The opencode adapter writes a configuration, starts a server, waits until the server says where it listens, subscribes
to its events, creates a session and sends the prompt. Each of these can fail.

* `listeningUrl`, `stripSlash` — the line of the server that is waited for.
* `ServeChild`, `Reply`, `SpawnError` — the server's process, the answers to its requests, and the ways to fail.
* `OpencodeSpawn`, `ServeEvent`, `OpencodeSpawn.step`, `spawnSystem` — the call of `spawn`, and what can happen while
  it awaits something.
* `Clean` — a call that has failed leaves no process and no configuration behind.
* `Ready` — the server does not outlive the time that it has, and the file system does what it is asked.
* `spawn_clean_iff` — the runs in which a call that has failed leaves nothing behind are the ready ones.
-/

namespace Cliptown.Adapter

open Cliptown.Lib

/-! ### The line that is waited for -/

/-- What stands before the URL. -/
def listeningText : List Char :=
  "opencode server listening on ".toList

/-- Source: `serve_lifecycle.ts` `LISTENING_RE`, at the start of the text -/
def matchUrl (text : List Char) : Option (List Char) :=
  match text.dropPrefix? (listeningText ++ "http://".toList) with
  | none => none
  | some rest =>
    match rest.takeWhile (!Js.isWhitespace ·) with
    | [] => none
    | host => some ("http://".toList ++ host)

/-- The first match. Source: `serve_lifecycle.ts` `LISTENING_RE.exec` -/
def listeningUrl : List Char → Option (List Char)
  | [] => none
  | c :: text => (matchUrl (c :: text)).or (listeningUrl text)

/-- Source: `replace(/\/$/, "")` -/
def stripSlash (url : List Char) : List Char :=
  if url.getLast? = some '/' then url.dropLast else url

/-! ### The server and its answers -/

/-- The server's process: whether it has exited, whether that has been reported, and whether it has been sent a
signal. -/
structure ServeChild where
  exited : Bool
  reported : Bool
  killed : Bool
  deriving DecidableEq, Repr

namespace ServeChild

/-- A process that has just been started. -/
def running : ServeChild :=
  ⟨false, false, false⟩

/-- It has exited, or it has been sent a signal. -/
def Ended (c : ServeChild) : Prop :=
  c.exited ∨ c.killed

instance (c : ServeChild) : Decidable c.Ended :=
  inferInstanceAs (Decidable (_ ∨ _))

/-- Source: `kill` -/
def kill (c : ServeChild) : ServeChild :=
  { c with killed := true }

/-- The process exits. -/
def exit (c : ServeChild) : ServeChild :=
  { c with exited := true }

/-- The listeners of `exit` have been called. -/
def report (c : ServeChild) : ServeChild :=
  { c with reported := true }

end ServeChild

/-- What comes of a request: `fetch` throws, or there is a response and something comes of its body. -/
inductive Reply (α : Type) where
  | threw (error : String)
  | answered (status : ℕ) (body : Except String α)

/-- Source: `session_client.ts` `createSession`, `sendMessage` -/
def Reply.result {α : Type} (request : String) : Reply α → Except String α
  | .threw error => .error error
  | .answered status body =>
    if 200 ≤ status ∧ status ≤ 299 then body
    else .error (request ++ " failed: status=" ++ toString status)

/-- What `spawn` rejects with. -/
inductive SpawnError where
  | writeFailed (error : String)
  | spawnThrew (error : String)
  | notAnnounced
  /-- The code is null where a signal ended the process. -/
  | exitedBefore (code : Option ℤ)
  | sessionFailed (error : String)
  | messageFailed (error : String)
  | removeFailed (error : String)
  deriving DecidableEq, Repr

/-- Source: `startServe` `opts.readyTimeoutMs ?? 15000`, which `spawn` does not set -/
def readyMs : ℕ :=
  15000

/-- Source: `new Error` -/
def SpawnError.message : SpawnError → String
  | .notAnnounced => "opencode serve did not announce listening URL within " ++ toString readyMs ++ "ms"
  | .exitedBefore code =>
    "opencode serve exited before announcing listening URL (code=" ++ (code.map toString).getD "null" ++ ")"
  | .writeFailed error | .spawnThrew error | .sessionFailed error | .messageFailed error | .removeFailed error =>
    error

/-! ### A call of `spawn` -/

/-- What the call awaits. -/
inductive SpawnPhase where
  /-- The configuration is written. -/
  | writing
  /-- The server has written `buf`, in which there is no URL. -/
  | starting (buf : List Char)
  /-- The health probe is about to look at its deadline. -/
  | checking (url : List Char)
  /-- The health probe awaits its response. -/
  | probing (url : List Char)
  | creating (url : List Char)
  | sending (url : List Char) (sessionId : String)
  /-- `cfg.cleanup()`, after which the error is thrown. -/
  | cleaning (error : SpawnError)
  | rejected (error : SpawnError)
  | resolved
  deriving DecidableEq, Repr

/-- Source: `StartServeOpts.onLog` -/
inductive LogStream where
  | stdout
  | stderr
  deriving DecidableEq, Repr

/-- A call of `spawn`: whether `opencode.json` is there, the server's process, what has been logged, and whether the
server's events are subscribed to. Source: `index.ts` `spawn` -/
structure OpencodeSpawn where
  file : Bool
  child : Option ServeChild
  logged : List (LogStream × List Char)
  subscribed : Bool
  phase : SpawnPhase
  deriving DecidableEq, Repr

/-- What can happen. -/
inductive ServeEvent where
  /-- `writeFile` resolves, and `nodeSpawn` returns or throws. -/
  | written (spawned : Except String Unit)
  /-- `writeFile` rejects, and a file is there or not. -/
  | writeFailed (error : String) (left : Bool)
  | output (stream : LogStream) (chunk : List UInt8)
  /-- The process exits. -/
  | dies
  /-- The listeners of `exit` are called. -/
  | exitEvent (code : Option ℤ)
  | readyTimeout
  /-- The health probe looks at its deadline. -/
  | checked (passed : Bool)
  | probed (ok : Bool)
  | created (reply : Reply String)
  | sent (reply : Reply Unit)
  /-- `rm` resolves. -/
  | removed
  /-- `rm` rejects. -/
  | removeFailed (error : String)

namespace OpencodeSpawn

/-- Before anything has happened. -/
def new : OpencodeSpawn :=
  ⟨false, none, [], false, .writing⟩

/-- Something happens to the process. -/
def mapChild (s : OpencodeSpawn) (f : ServeChild → ServeChild) : OpencodeSpawn :=
  { s with child := s.child.map f }

/-- Source: `serve_lifecycle.ts` `matchListening` -/
def matchListening (s : OpencodeSpawn) (chunk : List Char) : OpencodeSpawn :=
  match s.phase with
  | .starting buf =>
    match listeningUrl (buf ++ chunk) with
    | some url => { s with phase := .checking (stripSlash url) }
    | none => { s with phase := .starting (buf ++ chunk) }
  | _ => s

/-- Source: `child.stdout?.on("data", …)`, `child.stderr?.on("data", …)` -/
def onData (s : OpencodeSpawn) (stream : LogStream) (chunk : List UInt8) : OpencodeSpawn :=
  { s with logged := s.logged ++ [(stream, Utf8.decode chunk)] }.matchListening (Utf8.decode chunk)

/-- Source: `child.on("exit", …)` -/
def onExit (s : OpencodeSpawn) (code : Option ℤ) : OpencodeSpawn :=
  match s.phase with
  | .starting _ => { s.mapChild .report with phase := .cleaning (.exitedBefore code) }
  | _ => s.mapChild .report

/-- Source: `sseCtrl.abort(); serve.kill(); await cfg.cleanup();` -/
def teardown (s : OpencodeSpawn) (error : SpawnError) : OpencodeSpawn :=
  { s.mapChild .kill with subscribed := false, phase := .cleaning error }

/-- An event, where it can happen. Source: `index.ts` `spawn`, `serve_lifecycle.ts` `startServe` -/
def step (s : OpencodeSpawn) : ServeEvent → Option OpencodeSpawn
  | .written spawned =>
    match s.phase, spawned with
    | .writing, .ok () => some { s with file := true, child := some .running, phase := .starting [] }
    | .writing, .error error => some { s with file := true, phase := .cleaning (.spawnThrew error) }
    | _, _ => none
  | .writeFailed error left =>
    match s.phase with
    | .writing => some { s with file := left, phase := .rejected (.writeFailed error) }
    | _ => none
  | .output stream chunk => if s.child.isSome then some (s.onData stream chunk) else none
  | .dies => some (s.mapChild .exit)
  | .exitEvent code =>
    match s.child with
    | some c => if c.exited ∧ ¬ c.reported then some (s.onExit code) else none
    | none => none
  | .readyTimeout =>
    match s.phase with
    | .starting _ => some { s with phase := .cleaning .notAnnounced }
    | _ => none
  | .checked passed =>
    match s.phase with
    | .checking url =>
      if passed then some { s with subscribed := true, phase := .creating url }
      else some { s with phase := .probing url }
    | _ => none
  | .probed ok =>
    match s.phase with
    | .probing url =>
      if ok then some { s with subscribed := true, phase := .creating url }
      else some { s with phase := .checking url }
    | _ => none
  | .created reply =>
    match s.phase with
    | .creating url =>
      match reply.result "createSession" with
      | .ok id => some { s with phase := .sending url id }
      | .error error => some (s.teardown (.sessionFailed error))
    | _ => none
  | .sent reply =>
    match s.phase with
    | .sending _ _ =>
      match reply.result "sendMessage" with
      | .ok () => some { s with phase := .resolved }
      | .error error => some (s.teardown (.messageFailed error))
    | _ => none
  | .removed =>
    match s.phase with
    | .cleaning error => some { s with file := false, phase := .rejected error }
    | _ => none
  | .removeFailed error =>
    match s.phase with
    | .cleaning _ => some { s with phase := .rejected (.removeFailed error) }
    | _ => none

end OpencodeSpawn

/-- The runs of a call of `spawn`. -/
def spawnSystem : System OpencodeSpawn ServeEvent where
  init s := s = .new
  step s e t := s.step e = some t

/-! ### What a failed call leaves behind -/

/-- The server's process, if there is one, has exited or has been sent a signal. -/
def OpencodeSpawn.Ended (s : OpencodeSpawn) : Prop :=
  ∀ c ∈ s.child, c.Ended

/-- When the call has failed, the process has come to its end and the configuration is not there. -/
def Clean (s : OpencodeSpawn) : Prop :=
  ∀ error, s.phase = .rejected error → s.Ended ∧ s.file = false

/-- The server does not outlive the time that it has: when the configuration has been removed after it, the process has
exited. And the configuration is removed, or was not written. -/
def Ready (s : OpencodeSpawn) : ServeEvent → Prop
  | .writeFailed _ left => left = false
  | .removed => s.phase = .cleaning .notAnnounced → ∀ c ∈ s.child, c.exited
  | .removeFailed _ => False
  | _ => True

/-- What is known of the process and of the configuration, by what the call awaits. -/
def Held (s : OpencodeSpawn) : Prop :=
  match s.phase with
  | .writing => s.child = none
  | .starting _ | .cleaning .notAnnounced => s.file = true ∧ ∀ c ∈ s.child, c.killed = false
  | .cleaning _ => s.file = true ∧ s.Ended
  | .rejected _ => s.Ended ∧ s.file = false
  | _ => s.file = true

/-! ### Steps -/

section

variable {s t : OpencodeSpawn} {e : ServeEvent}

theorem ServeChild.ended_kill (c : ServeChild) : c.kill.Ended :=
  .inr rfl

theorem ServeChild.ended_exit (c : ServeChild) : c.exit.Ended :=
  .inl rfl

theorem ServeChild.Ended.report {c : ServeChild} (h : c.Ended) : c.report.Ended :=
  h

@[simp]
theorem OpencodeSpawn.mapChild_phase (s : OpencodeSpawn) (f : ServeChild → ServeChild) :
    (s.mapChild f).phase = s.phase := rfl

@[simp]
theorem OpencodeSpawn.mapChild_file (s : OpencodeSpawn) (f : ServeChild → ServeChild) :
    (s.mapChild f).file = s.file := rfl

/-- What holds of the process after something has happened to it. -/
theorem OpencodeSpawn.forall_mapChild {p q : ServeChild → Prop} {f : ServeChild → ServeChild}
    (hf : ∀ c, p c → q (f c)) (h : ∀ c ∈ s.child, p c) : ∀ c ∈ (s.mapChild f).child, q c := by
  intro c hc
  obtain ⟨c', hc', rfl⟩ := Option.map_eq_some_iff.mp hc
  exact hf c' (h c' hc')

/-- What neither sends a signal nor undoes an exit keeps what is known. -/
theorem Held.mapChild (h : Held s) {f : ServeChild → ServeChild} (hended : ∀ c : ServeChild, c.Ended → (f c).Ended)
    (hkilled : ∀ c : ServeChild, c.killed = false → (f c).killed = false) : Held (s.mapChild f) := by
  unfold Held at h ⊢
  rw [OpencodeSpawn.mapChild_phase]
  split at h
  · exact congrArg (Option.map f) h
  · exact ⟨h.1, OpencodeSpawn.forall_mapChild hkilled h.2⟩
  · exact ⟨h.1, OpencodeSpawn.forall_mapChild hkilled h.2⟩
  · exact ⟨h.1, OpencodeSpawn.forall_mapChild hended h.2⟩
  · exact ⟨OpencodeSpawn.forall_mapChild hended h.1, h.2⟩
  · exact h

/-- The server has written something, with or without the line. -/
theorem Held.matchListening (h : Held s) (chunk : List Char) : Held (s.matchListening chunk) := by
  unfold OpencodeSpawn.matchListening
  split
  · rename_i buf hphase
    simp only [Held, hphase] at h
    cases listeningUrl (buf ++ chunk) with
    | some url => exact h.1
    | none => exact h
  · exact h

/-- What is known does not depend on what has been logged. -/
theorem Held.onData (h : Held s) (stream : LogStream) (chunk : List UInt8) : Held (s.onData stream chunk) := by
  have hlogged : Held { s with logged := s.logged ++ [(stream, Utf8.decode chunk)] } := h
  exact hlogged.matchListening (Utf8.decode chunk)

/-- The process has exited, and this is reported. -/
theorem Held.onExit (h : Held s) (hexited : ∀ c ∈ s.child, c.exited = true) (code : Option ℤ) :
    Held (s.onExit code) := by
  have hreport : Held (s.mapChild .report) := h.mapChild (fun _ => .report) fun _ hc => hc
  unfold OpencodeSpawn.onExit
  cases hphase : s.phase with
  | starting buf =>
    simp only [Held, hphase] at h
    exact ⟨h.1, OpencodeSpawn.forall_mapChild (fun _ hc => .inl hc) hexited⟩
  | _ => exact hreport

/-- A request has failed. -/
theorem OpencodeSpawn.held_teardown (hfile : s.file = true) {error : SpawnError} (herror : error ≠ .notAnnounced) :
    Held (s.teardown error) := by
  have hended : (s.mapChild .kill).Ended :=
    forall_mapChild (p := fun _ => True) (fun c _ => c.ended_kill) fun _ _ => trivial
  cases error with
  | notAnnounced => exact absurd rfl herror
  | _ => exact ⟨hfile, hended⟩

/-- What is known while the configuration is removed. -/
theorem Held.of_cleaning (h : Held s) {error : SpawnError} (hphase : s.phase = .cleaning error) :
    s.file = true ∧ (error ≠ .notAnnounced → s.Ended) := by
  unfold Held at h
  rw [hphase] at h
  cases error with
  | notAnnounced => exact ⟨h.1, fun herror => absurd rfl herror⟩
  | _ => exact ⟨h.1, fun _ => h.2⟩

theorem OpencodeSpawn.step_writeFailed {error : String} {left : Bool}
    (h : s.step (.writeFailed error left) = some t) :
    s.phase = .writing ∧ t = { s with file := left, phase := .rejected (.writeFailed error) } := by
  simp only [step] at h
  split at h
  · exact ⟨‹_›, (Option.some.inj h).symm⟩
  · cases h

theorem OpencodeSpawn.step_removed (h : s.step .removed = some t) :
    ∃ error, s.phase = .cleaning error ∧ t = { s with file := false, phase := .rejected error } := by
  simp only [step] at h
  split at h
  · exact ⟨_, ‹_›, (Option.some.inj h).symm⟩
  · cases h

theorem OpencodeSpawn.step_removeFailed {error : String} (h : s.step (.removeFailed error) = some t) :
    ∃ cause, s.phase = .cleaning cause ∧ t = { s with phase := .rejected (.removeFailed error) } := by
  simp only [step] at h
  split at h
  · exact ⟨_, ‹_›, (Option.some.inj h).symm⟩
  · cases h

/-- **One step** that is ready. -/
theorem held_step (hs : Held s) (h : s.step e = some t) (hready : Ready s e) : Held t := by
  cases e with
  | written spawned =>
    simp only [OpencodeSpawn.step] at h
    split at h
    · obtain rfl := Option.some.inj h
      exact ⟨rfl, fun c hc => by rw [← Option.some.inj hc]; rfl⟩
    · rename_i hphase
      simp only [Held, hphase] at hs
      obtain rfl := Option.some.inj h
      exact ⟨rfl, fun c hc => by simp [hs] at hc⟩
    · cases h
  | writeFailed error left =>
    obtain ⟨hphase, rfl⟩ := OpencodeSpawn.step_writeFailed h
    simp only [Held, hphase] at hs
    exact ⟨fun c hc => by simp [hs] at hc, hready⟩
  | output stream chunk =>
    simp only [OpencodeSpawn.step, Option.ite_none_right_eq_some] at h
    obtain rfl := Option.some.inj h.2
    exact hs.onData stream chunk
  | dies =>
    obtain rfl := Option.some.inj h
    exact hs.mapChild (fun c _ => c.ended_exit) fun _ hc => hc
  | exitEvent code =>
    simp only [OpencodeSpawn.step] at h
    cases hchild : s.child with
    | none => simp [hchild] at h
    | some c =>
      simp only [hchild, Option.ite_none_right_eq_some] at h
      obtain ⟨⟨hexited, -⟩, h⟩ := h
      obtain rfl := Option.some.inj h
      exact hs.onExit (fun c' hc' => by rw [hchild] at hc'; rwa [← Option.some.inj hc']) code
  | readyTimeout =>
    simp only [OpencodeSpawn.step] at h
    split at h
    · rename_i hphase
      simp only [Held, hphase] at hs
      obtain rfl := Option.some.inj h
      exact hs
    · cases h
  | checked passed =>
    simp only [OpencodeSpawn.step] at h
    split at h
    · rename_i hphase
      simp only [Held, hphase] at hs
      cases passed <;> obtain rfl := Option.some.inj h <;> exact hs
    · cases h
  | probed ok =>
    simp only [OpencodeSpawn.step] at h
    split at h
    · rename_i hphase
      simp only [Held, hphase] at hs
      cases ok <;> obtain rfl := Option.some.inj h <;> exact hs
    · cases h
  | created reply =>
    simp only [OpencodeSpawn.step] at h
    split at h
    · rename_i hphase
      simp only [Held, hphase] at hs
      cases hresult : reply.result "createSession" with
      | ok id =>
        simp only [hresult] at h
        obtain rfl := Option.some.inj h
        exact hs
      | error error =>
        simp only [hresult] at h
        obtain rfl := Option.some.inj h
        exact OpencodeSpawn.held_teardown hs (by simp)
    · cases h
  | sent reply =>
    simp only [OpencodeSpawn.step] at h
    split at h
    · rename_i hphase
      simp only [Held, hphase] at hs
      cases hresult : reply.result "sendMessage" with
      | ok =>
        simp only [hresult] at h
        obtain rfl := Option.some.inj h
        exact hs
      | error error =>
        simp only [hresult] at h
        obtain rfl := Option.some.inj h
        exact OpencodeSpawn.held_teardown hs (by simp)
    · cases h
  | removed =>
    obtain ⟨error, hphase, rfl⟩ := OpencodeSpawn.step_removed h
    refine ⟨?_, rfl⟩
    by_cases herror : error = .notAnnounced
    · exact fun c hc => .inl (hready (herror ▸ hphase) c hc)
    · exact (hs.of_cleaning hphase).2 herror
  | removeFailed error => exact hready.elim

/-- What is known of a call that has failed. -/
theorem Held.clean (h : Held s) : Clean s := by
  intro error hphase
  simpa only [Held, hphase] using h

/-- **What is left behind**: after a step that is not ready, a call that has failed has not cleaned up. -/
theorem not_clean_of_not_ready (hs : Held s) (h : s.step e = some t) (hready : ¬ Ready s e) : ¬ Clean t := by
  intro hclean
  cases e with
  | writeFailed error left =>
    obtain ⟨-, rfl⟩ := OpencodeSpawn.step_writeFailed h
    exact hready (hclean _ rfl).2
  | removed =>
    obtain ⟨error, -, rfl⟩ := OpencodeSpawn.step_removed h
    refine hready fun hphase c hc => ?_
    simp only [Held, hphase] at hs
    rcases (hclean _ rfl).1 c hc with hexited | hkilled
    · exact hexited
    · rw [hs.2 c hc] at hkilled
      cases hkilled
  | removeFailed error =>
    obtain ⟨cause, hphase, rfl⟩ := OpencodeSpawn.step_removeFailed h
    have hfile : s.file = true := (hs.of_cleaning hphase).1
    have hgone : s.file = false := (hclean _ rfl).2
    rw [hfile] at hgone
    cases hgone
  | _ => exact hready trivial

end

/-- **When a failed call leaves nothing behind**: the runs in which it does not are those in which the server does not
outlive the time that it has, and the configuration is removed. -/
theorem spawn_clean_iff (es : List ServeEvent) (t : OpencodeSpawn) :
    Run (spawnSystem.restrict Ready).step .new es t ↔ Run (spawnSystem.within Clean).step .new es t := by
  have hiff : ∀ s e t, spawnSystem.step s e t → Held s → (Clean t ↔ Ready s e) := fun s e t h hs =>
    ⟨fun hclean => by_contra fun hready => not_clean_of_not_ready hs h hready hclean,
      fun hready => (held_step hs h hready).clean⟩
  exact System.run_restrict_iff_keeping (K := fun _ _ t => Clean t) hiff
    (fun s e t h hs hclean => held_step hs h ((hiff s e t h hs).mp hclean)) rfl

/-- A server that does not say where it listens: the call fails, and the server goes on. -/
theorem spawn_not_clean :
    ¬ ∀ es t, Run spawnSystem.step .new es t → Run (spawnSystem.within Clean).step .new es t := by
  intro h
  have hrun : Run spawnSystem.step .new [.written (.ok ()), .readyTimeout, .removed]
      ⟨false, some .running, [], false, .rejected .notAnnounced⟩ :=
    .cons rfl (.cons rfl (.single rfl))
  have hclean : ∀ {s es t}, Run (spawnSystem.within Clean).step s es t → Clean s → Clean t :=
    fun hrun hs => hrun.preserves (fun _ _ _ _ hstep => hstep.2) hs
  have hnew : Clean .new := fun error herror => by cases herror
  rcases (hclean (h _ _ hrun) hnew _ rfl).1 _ rfl with hexited | hkilled
  · cases hexited
  · cases hkilled

end Cliptown.Adapter
