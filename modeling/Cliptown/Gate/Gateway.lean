import Cliptown.Gate.McpHttp
import Cliptown.Lib.Mailbox

/-!
# The ways into the world loop

Workers come over sockets and tools over HTTP, any number of them at once. Each socket and each request is a task of
its own, which may be interrupted wherever it waits; all of them reach the loop through its one channel.

* `Phase`, `GateState`, `GateLabel`, `gateSystem` — where each task stands, and what can happen next.
* `greet` — the first frame of a socket.
* `loopServer` — the world loop as a server behind its mailbox.
* `InStep`, `inStep_of_reachable` — a task waits for the loop exactly if it has asked.
* `gate_refines_mail`, `gateway_in_pace` — each message is handled once, in the order in which they come, and each
  answer goes to the task that has asked.
* `gateway_progress` — each message is answered once the loop has come to the end of it and of those before it.
* `gate_refines_messages`, `exchange_dispatched` — the loop behind the gate is the loop of the messages that it handles,
  and answers as that does.
* `Known`, `gateway_authenticated` — the sender of each message has proved who it is.
-/

namespace Cliptown.Gate

open Cliptown.Lib Cliptown.Task Cliptown.World Cliptown.Budget

/-! ### The loop -/

/-- Source: `loop_.rs` `Cmd::RegisterWorker`, `Cmd::UnregisterWorker` -/
inductive BusNotice where
  | registerWorker (agentId : String)
  | unregisterWorker (agentId : String)

/-- The message of the loop that a notice is. -/
def BusNotice.message : BusNotice → LoopMessage
  | .registerWorker agentId => .request (.registerWorker agentId)
  | .unregisterWorker agentId => .request (.unregisterWorker agentId)

/-- The world loop: it answers the messages of agents and is told of workers; whatever else it does comes from
elsewhere. A letter whose handling never ends, such as a command that the loop waits for, is one that is never read.
Source: `loop_.rs` `spawn_with_layout` -/
def loopServer (cfg : Config) (parseText : Json → String) :
    Server BudgetState Env (String × Json) BusNotice Json LoopMessage where
  init st := (messageSystem cfg).init st
  answer env m st := dispatchWorker cfg parseText env st m.1 m.2
  obey n st := n.message.apply cfg st
  own l st := l.apply cfg st

/-! ### Tasks -/

/-- Where the task of a socket or of a request stands. -/
inductive Phase where
  | absent
  | greeting
  | greeted (agentId : String)
  | serving (agentId : String)
  | waiting (agentId : String)
  | leaving (agentId : String)
  | pending (agentId : String) (id msg : Json)
  | calling (agentId : String) (id : Json)
  | closed

/-- The task waits for an answer of the loop. -/
def Phase.Waits : Phase → Prop
  | .waiting _ | .calling _ _ => True
  | _ => False

/-- The task may still post something, and does not wait. -/
def Phase.Free : Phase → Prop
  | .waiting _ | .calling _ _ | .closed => False
  | _ => True

/-- The agent on whose behalf the task acts. -/
def Phase.agent : Phase → Option String
  | .greeted agentId | .serving agentId | .waiting agentId | .leaving agentId | .pending agentId _ _
  | .calling agentId _ => some agentId
  | .absent | .greeting | .closed => none

/-- The loop with its mailbox, and the tasks. -/
structure GateState where
  mail : Mailbox BudgetState ℕ (String × Json) BusNotice Json LoopMessage
  phase : ℕ → Phase

/-- What can happen. The variables of the environment are read when a task looks at a secret. -/
inductive GateLabel where
  | connect (c : ℕ)
  | greet (c : ℕ) (vars : String → Option String) (frame : Option Json)
  | register (c : ℕ)
  | receive (c : ℕ) (msg : Json)
  | deliver (c : ℕ) (sent : Bool)
  | hangUp (c : ℕ)
  | unregister (c : ℕ)
  | request (c : ℕ) (vars : String → Option String) (newUuid : String) (http : HttpRequest)
  | send (c : ℕ)
  | respond (c : ℕ)
  | abandon (c : ℕ)
  | read (env : Env)
  | own (l : LoopMessage)

/-- The agent that greets with the first frame, if it proves who it is; the frame may be no JSON. Source: `http.rs`
`handle_worker`, phase 1 -/
def greet (vars : String → Option String) (db : Db) (frame : Option Json) : Option String := do
  let msg ← frame
  if msg.getStr "type" ≠ some "hello" then none
  let agentId := (msg.getStr "agent_id").getD ""
  match validateAgentSecret vars db agentId ((msg.getStr "secret").getD "") with
  | .ok _ => some agentId
  | .error _ => none

/-- Where a request stands that has been looked at. -/
def HttpAction.phase : HttpAction → Phase
  | .answer _ => .closed
  | .ask agentId id msg => .pending agentId id msg

namespace GateState

variable (g : GateState)

/-- The database. -/
def db : Db :=
  g.mail.server.loop.db

/-- A task goes on. -/
def enter (c : ℕ) (p : Phase) : GateState :=
  { g with phase := Function.update g.phase c p }

end GateState

/-- What the loop does by itself: nothing that an agent has asked for, and no change of the workers. -/
def Inner (l : LoopMessage) : Prop :=
  (∀ agentId, ¬ LoopMessage.SentBy agentId l) ∧ ∀ n : BusNotice, l ≠ n.message

/-- Sockets, requests and the loop in any order. Source: `http.rs` `handle_worker`, `mcp_http.rs` `handle_request` -/
def gateSystem (cfg : Config) (parseText : Json → String) : System GateState GateLabel where
  init g := (∃ st, (messageSystem cfg).init st ∧ g.mail = .fresh st) ∧ ∀ c, g.phase c = .absent
  step g l g' :=
    match l with
    | .connect c => g.phase c = .absent ∧ g' = g.enter c .greeting
    | .greet c vars frame => g.phase c = .greeting ∧
        g' = g.enter c ((greet vars g.db frame).elim .closed .greeted)
    | .register c => ∃ agentId, g.phase c = .greeted agentId ∧
        g' = { g.enter c (.serving agentId) with mail := g.mail.post c (.tell (.registerWorker agentId)) }
    | .receive c msg => ∃ agentId, g.phase c = .serving agentId ∧
        g' = { g.enter c (.waiting agentId) with mail := g.mail.ask c (agentId, msg) }
    | .deliver c sent => ∃ agentId reply, g.phase c = .waiting agentId ∧ g.mail.answers c = some reply ∧
        g' = { g.enter c (if sent then .serving agentId else .leaving agentId) with mail := g.mail.take c reply }
    | .hangUp c => ∃ agentId, g.phase c = .serving agentId ∧ g' = g.enter c (.leaving agentId)
    | .unregister c => ∃ agentId, g.phase c = .leaving agentId ∧
        g' = { g.enter c .closed with mail := g.mail.post c (.tell (.unregisterWorker agentId)) }
    | .request c vars newUuid http => g.phase c = .absent ∧
        g' = g.enter c (handleRequest vars g.db newUuid http).phase
    | .send c => ∃ agentId id msg, g.phase c = .pending agentId id msg ∧
        g' = { g.enter c (.calling agentId id) with mail := g.mail.ask c (agentId, msg) }
    | .respond c => ∃ agentId id reply, g.phase c = .calling agentId id ∧ g.mail.answers c = some reply ∧
        g' = { g.enter c .closed with mail := g.mail.take c reply }
    | .abandon c => (∃ agentId id, g.phase c = .calling agentId id ∨ ∃ msg, g.phase c = .pending agentId id msg) ∧
        g' = g.enter c .closed
    | .read env => g.mail.letters ≠ [] ∧ g' = { g with mail := g.mail.read (loopServer cfg parseText) env }
    | .own l => Inner l ∧ g' = { g with mail := g.mail.own (loopServer cfg parseText) l }

variable {cfg : Config} {parseText : Json → String} {g g' : GateState} {l : GateLabel}

/-! ### Tasks and the mailbox -/

/-- A task waits for the loop exactly if it has asked, unless it has been abandoned. -/
structure InStep (g : GateState) : Prop where
  waits : ∀ c, (g.phase c).Waits → g.mail.waits c = true
  free : ∀ c, (g.phase c).Free → g.mail.waits c = false

/-- A task goes on, and the mailbox with it. -/
theorem InStep.enter {mail : Mailbox BudgetState ℕ (String × Json) BusNotice Json LoopMessage} {c : ℕ} {p : Phase}
    (h : InStep g) (hother : ∀ d, d ≠ c → mail.waits d = g.mail.waits d)
    (hwaits : p.Waits → mail.waits c = true) (hfree : p.Free → mail.waits c = false) :
    InStep { g.enter c p with mail := mail } := by
  constructor
  · intro d hd
    by_cases hdc : d = c
    · subst hdc
      simp only [GateState.enter, Function.update_self] at hd
      exact hwaits hd
    · simp only [GateState.enter, Function.update_of_ne hdc] at hd
      exact (hother d hdc).trans (h.waits d hd)
  · intro d hd
    by_cases hdc : d = c
    · subst hdc
      simp only [GateState.enter, Function.update_self] at hd
      exact hfree hd
    · simp only [GateState.enter, Function.update_of_ne hdc] at hd
      exact (hother d hdc).trans (h.free d hd)

/-- The mailbox goes on, and whoever waits goes on waiting. -/
theorem InStep.mail {mail : Mailbox BudgetState ℕ (String × Json) BusNotice Json LoopMessage} (h : InStep g)
    (hwaits : mail.waits = g.mail.waits) : InStep { g with mail := mail } := by
  constructor
  · intro d hd
    exact (congrFun hwaits d).trans (h.waits d hd)
  · intro d hd
    exact (congrFun hwaits d).trans (h.free d hd)

theorem not_waits_phase (a : HttpAction) : ¬ a.phase.Waits := by
  cases a with
  | answer response => exact id
  | ask agentId callId msg => exact id

/-- Reading a letter makes nobody wait, and releases nobody. -/
theorem waits_read {σ ε κ μ ν ρ ℓ : Type*} [DecidableEq κ] (S : Server σ ε μ ν ρ ℓ) (e : ε)
    (b : Mailbox σ κ μ ν ρ ℓ) : (b.read S e).waits = b.waits := by
  unfold Mailbox.read
  split
  · rfl
  · rfl
  · rfl

/-- What a step of a task is to the mailbox. -/
theorem step_mail (hstep : (gateSystem cfg parseText).step g l g') (h : InStep g) :
    InStep g' ∧ (g'.mail = g.mail ∨ ∃ m, (mailSystem (loopServer cfg parseText)).step g.mail m g'.mail) := by
  cases l with
  | connect c =>
    obtain ⟨hphase, rfl⟩ := hstep
    have hfree := h.free c (by rw [hphase]; trivial)
    exact ⟨h.enter (fun _ _ => rfl) (fun hp => hp.elim) fun _ => hfree, .inl rfl⟩
  | greet c vars frame =>
    obtain ⟨hphase, rfl⟩ := hstep
    have hfree := h.free c (by rw [hphase]; trivial)
    have hnot : ∀ o : Option String, ¬ (o.elim Phase.closed Phase.greeted).Waits := by
      rintro (_ | agentId) hp
      · exact hp.elim
      · exact hp.elim
    exact ⟨h.enter (fun _ _ => rfl) (fun hp => (hnot _ hp).elim) fun _ => hfree, .inl rfl⟩
  | register c =>
    obtain ⟨agentId, hphase, rfl⟩ := hstep
    have hfree := h.free c (by rw [hphase]; trivial)
    exact ⟨h.enter (fun _ _ => rfl) (fun hp => hp.elim) fun _ => hfree,
      .inr ⟨.tell c (.registerWorker agentId), hfree, rfl⟩⟩
  | receive c msg =>
    obtain ⟨agentId, hphase, rfl⟩ := hstep
    have hfree := h.free c (by rw [hphase]; trivial)
    refine ⟨h.enter (fun d hd => ?_) (fun _ => ?_) fun hp => hp.elim, .inr ⟨.ask c (agentId, msg), hfree, rfl⟩⟩
    · exact Function.update_of_ne hd _ _
    · exact Function.update_self _ _ _
  | deliver c sent =>
    obtain ⟨agentId, reply, hphase, hreply, rfl⟩ := hstep
    refine ⟨h.enter (fun d hd => ?_) (fun hp => ?_) fun _ => ?_, .inr ⟨.take c, reply, hreply, rfl⟩⟩
    · exact Function.update_of_ne hd _ _
    · cases sent <;> exact hp.elim
    · exact Function.update_self _ _ _
  | hangUp c =>
    obtain ⟨agentId, hphase, rfl⟩ := hstep
    have hfree := h.free c (by rw [hphase]; trivial)
    exact ⟨h.enter (fun _ _ => rfl) (fun hp => hp.elim) fun _ => hfree, .inl rfl⟩
  | unregister c =>
    obtain ⟨agentId, hphase, rfl⟩ := hstep
    have hfree := h.free c (by rw [hphase]; trivial)
    exact ⟨h.enter (fun _ _ => rfl) (fun hp => hp.elim) fun hp => hp.elim,
      .inr ⟨.tell c (.unregisterWorker agentId), hfree, rfl⟩⟩
  | request c vars newUuid http =>
    obtain ⟨hphase, rfl⟩ := hstep
    have hfree := h.free c (by rw [hphase]; trivial)
    exact ⟨h.enter (fun _ _ => rfl) (fun hp => (not_waits_phase _ hp).elim) fun _ => hfree, .inl rfl⟩
  | send c =>
    obtain ⟨agentId, id, msg, hphase, rfl⟩ := hstep
    have hfree := h.free c (by rw [hphase]; trivial)
    refine ⟨h.enter (fun d hd => ?_) (fun _ => ?_) fun hp => hp.elim, .inr ⟨.ask c (agentId, msg), hfree, rfl⟩⟩
    · exact Function.update_of_ne hd _ _
    · exact Function.update_self _ _ _
  | respond c =>
    obtain ⟨agentId, id, reply, hphase, hreply, rfl⟩ := hstep
    refine ⟨h.enter (fun d hd => ?_) (fun hp => hp.elim) fun hp => hp.elim,
      .inr ⟨.take c, reply, hreply, rfl⟩⟩
    exact Function.update_of_ne hd _ _
  | abandon c =>
    obtain ⟨-, rfl⟩ := hstep
    exact ⟨h.enter (fun _ _ => rfl) (fun hp => hp.elim) fun hp => hp.elim, .inl rfl⟩
  | read env =>
    obtain ⟨hne, rfl⟩ := hstep
    exact ⟨h.mail (waits_read _ _ _), .inr ⟨.read env, hne, rfl⟩⟩
  | own l =>
    obtain ⟨-, rfl⟩ := hstep
    exact ⟨h.mail rfl, .inr ⟨.own l, rfl⟩⟩

theorem inStep_of_reachable (h : (gateSystem cfg parseText).Reachable g) : InStep g := by
  refine h.invariant (I := InStep) ?_ fun g l g' hg hstep => (step_mail hstep hg).1
  rintro g ⟨⟨st, -, hmail⟩, hphase⟩
  constructor
  · intro c hc
    rw [hphase c] at hc
    exact hc.elim
  · intro c _
    rw [hmail]
    rfl

/-- **The gate refines a server behind a mailbox**: its tasks ask one question at a time. -/
theorem gate_refines_mail (cfg : Config) (parseText : Json → String) :
    (gateSystem cfg parseText).Refines (mailSystem (loopServer cfg parseText)) GateState.mail := by
  constructor
  · rintro g ⟨⟨st, hst, hmail⟩, -⟩
    exact ⟨st, hst, hmail⟩
  · intro g l g' hg hstep
    rcases (step_mail hstep (inStep_of_reachable hg)).2 with hsame | ⟨m, hm⟩
    · rw [hsame]
      exact ⟨[], .nil _⟩
    · exact ⟨[m], .single hm⟩

/-- What a task has asked and what it has got, exchange by exchange. -/
theorem gate_dialogue (h : (gateSystem cfg parseText).Reachable g) (c : ℕ) :
    Mailbox.takenBy c g.mail.taken <+: (Mailbox.exchanges c g.mail.served).map Prod.snd ∧
      (Mailbox.exchanges c g.mail.served).map Prod.fst <+: Mailbox.questions c g.mail.posted ∧
      (Mailbox.questions c g.mail.posted).length =
        (Mailbox.takenBy c g.mail.taken).length + (g.mail.waits c).toNat :=
  mail_dialogue ((gate_refines_mail cfg parseText).reachable h) c

/-- **Every message is handled once, in the order in which the messages come, and every answer goes to the task that has
asked**: in each state that is reached, whatever the sockets, the requests and the loop do in whatever order, what has
been posted is what has been handled and what is in the mailbox; the loop is where the handling leads; and of each task,
the answers it has got are those to its own messages, in order, and one message at most is without its answer. -/
theorem gateway_in_pace (h : (gateSystem cfg parseText).Reachable g) :
    g.mail.posted = g.mail.served.filterMap Served.letter ++ g.mail.letters ∧
    (∃ st, (messageSystem cfg).init st ∧ Run (loopServer cfg parseText).step st g.mail.served g.mail.server) ∧
    ∀ c, Mailbox.takenBy c g.mail.taken <+: (Mailbox.exchanges c g.mail.served).map Prod.snd ∧
      (Mailbox.exchanges c g.mail.served).map Prod.fst <+: Mailbox.questions c g.mail.posted ∧
      (Mailbox.questions c g.mail.posted).length =
        (Mailbox.takenBy c g.mail.taken).length + (g.mail.waits c).toNat := by
  have hmail := (gate_refines_mail cfg parseText).reachable h
  exact ⟨mail_order hmail, mail_run hmail, gate_dialogue h⟩

/-! ### Progress -/

/-- **Every message is answered in its turn**: at any later time all messages that had been posted are answered, with
answers that have been got or lie there, or the loop is still at one of the letters that had been posted. -/
theorem gateway_progress {ls : List GateLabel} (h : (gateSystem cfg parseText).Reachable g)
    (hrun : Run (gateSystem cfg parseText).step g ls g') :
    (∀ c, Mailbox.questions c g.mail.posted <+: (Mailbox.exchanges c g'.mail.served).map Prod.fst ∧
      (Mailbox.exchanges c g'.mail.served).map Prod.snd =
        Mailbox.takenBy c g'.mail.taken ++ (g'.mail.answers c).toList) ∨
    ∃ l, g'.mail.letters.head? = some l ∧
      g.mail.posted[(g'.mail.served.filterMap Served.letter).length]? = some l := by
  obtain ⟨ms, hmail⟩ := (gate_refines_mail cfg parseText).run h hrun
  exact mail_progress ((gate_refines_mail cfg parseText).reachable h) hmail

/-! ### What the loop is -/

/-- The messages of the loop behind what a server step has done. -/
theorem serverStep_messages {st st' : BudgetState}
    {e : Served ℕ (String × Json) BusNotice Json LoopMessage}
    (h : (loopServer cfg parseText).step st e st') : ∃ ls, Run (messageSystem cfg).step st ls st' := by
  cases e with
  | answered c m reply =>
    obtain ⟨env, hanswer⟩ := h
    have hst : st' = (dispatchWorker cfg parseText env st m.1 m.2).2 := congrArg Prod.snd hanswer.symm
    rcases dispatchWorker_cases cfg parseText env st m.1 m.2 with hsame | ⟨l, -, hl⟩
    · rw [hst, hsame]
      exact ⟨[], .nil st⟩
    · exact ⟨[l], .single (hst.trans hl)⟩
  | told c n => exact ⟨[n.message], .single h⟩
  | own l => exact ⟨[l], .single h⟩

/-- A step of the gate is steps of the loop, or none. -/
theorem gate_step_messages (hg : (gateSystem cfg parseText).Reachable g)
    (hstep : (gateSystem cfg parseText).step g l g') :
    ∃ ls, Run (messageSystem cfg).step g.mail.server ls g'.mail.server := by
  rcases (step_mail hstep (inStep_of_reachable hg)).2 with hsame | ⟨m, hm⟩
  · rw [hsame]
    exact ⟨[], .nil _⟩
  · rcases step_server hm with hsame | ⟨e, he⟩
    · rw [hsame]
      exact ⟨[], .nil _⟩
    · exact serverStep_messages he

/-- **The loop behind the gate is the loop of the messages that it handles**: what holds in every state that those can
lead to holds whatever comes over sockets and HTTP. -/
theorem gate_refines_messages (cfg : Config) (parseText : Json → String) :
    (gateSystem cfg parseText).Refines (messageSystem cfg) fun g => g.mail.server := by
  constructor
  · rintro g ⟨⟨st, hst, hmail⟩, -⟩
    rw [hmail]
    exact hst
  · exact fun g l g' hg hstep => gate_step_messages hg hstep

/-- **Every answer is one of the loop**, in a state that its messages lead to. -/
theorem exchange_dispatched (h : (gateSystem cfg parseText).Reachable g) {c : ℕ} {m : String × Json} {reply : Json}
    (hmem : (m, reply) ∈ Mailbox.exchanges c g.mail.served) :
    ∃ env st, (messageSystem cfg).Reachable st ∧ reply = (dispatchWorker cfg parseText env st m.1 m.2).1 := by
  obtain ⟨st, hinit, hrun⟩ := mail_run ((gate_refines_mail cfg parseText).reachable h)
  have hserved : Served.answered c m reply ∈ g.mail.served := by
    obtain ⟨e, he, heq⟩ := List.mem_filterMap.mp hmem
    cases e with
    | answered d m' reply' =>
      simp only [Option.ite_none_right_eq_some, Option.some.injEq, Prod.mk.injEq] at heq
      obtain ⟨rfl, rfl, rfl⟩ := heq
      exact he
    | told d n => exact absurd heq (by simp)
    | own l => exact absurd heq (by simp)
  obtain ⟨before, after, hsplit⟩ := List.append_of_mem hserved
  rw [hsplit] at hrun
  obtain ⟨u, hbefore, hrest⟩ := hrun.split
  obtain ⟨v, ⟨env, hanswer⟩, -⟩ := hrest.cons_inv
  refine ⟨env, u, ?_, (congrArg Prod.fst hanswer).symm⟩
  refine hbefore.preserves (I := (messageSystem cfg).Reachable) (fun s e t hs hst => ?_) (.init hinit)
  obtain ⟨ls, hls⟩ := serverStep_messages hst
  exact hs.run hls

/-! ### Who has sent what -/

/-- A task acts on behalf of the agent, or has posted a message of it. -/
def Known (g : GateState) (c : ℕ) (agentId : String) : Prop :=
  (g.phase c).agent = some agentId ∨ ∃ msg, (c, .ask (agentId, msg)) ∈ g.mail.posted

/-- The task is let through as an agent: the agent proves who it is, in the first frame of a socket or in the header of
a request. -/
inductive Lets (g : GateState) (c : ℕ) (agentId : String) : GateLabel → Prop
  | socket {vars : String → Option String} {msg : Json} {secret : String} :
      (msg.getStr "agent_id").getD "" = agentId → (msg.getStr "secret").getD "" = secret →
      Proved vars g.db agentId secret → Lets g c agentId (.greet c vars (some msg))
  | http {vars : String → Option String} {newUuid : String} {http : HttpRequest} {token secret : String} :
      bearer http.authorization = some token → splitOnce ':' token = some (agentId, secret) →
      Proved vars g.db agentId secret → Lets g c agentId (.request c vars newUuid http)

/-- Who greets has proved who it is. -/
theorem greet_eq_some {vars : String → Option String} {db : Db} {frame : Option Json} {agentId : String}
    (h : greet vars db frame = some agentId) : ∃ msg, frame = some msg ∧
      (msg.getStr "agent_id").getD "" = agentId ∧ Proved vars db agentId ((msg.getStr "secret").getD "") := by
  unfold greet at h
  cases frame with
  | none => exact absurd h (by simp)
  | some msg =>
    refine ⟨msg, rfl, ?_⟩
    by_cases htype : msg.getStr "type" = some "hello"
    · simp only [htype, ne_eq, not_true_eq_false, if_false, bind, Option.bind] at h
      split at h
      · rename_i startupId hok
        obtain rfl := Option.some.inj h
        exact ⟨rfl, validateAgentSecret_isOk_iff.mp ⟨startupId, hok⟩⟩
      · exact absurd h (by simp)
    · simp [htype] at h

/-- A message that has just been posted, or had been before. -/
theorem mem_posted_append {posted : List (ℕ × Letter (String × Json) BusNotice)} {c d : ℕ}
    {l : Letter (String × Json) BusNotice} {agentId : String} {msg : Json}
    (h : (c, Letter.ask (agentId, msg)) ∈ posted ++ [(d, l)]) :
    (c, Letter.ask (agentId, msg)) ∈ posted ∨ c = d ∧ l = .ask (agentId, msg) := by
  rcases List.mem_append.mp h with h | h
  · exact .inl h
  · obtain ⟨rfl, rfl⟩ := Prod.mk.inj (List.mem_singleton.mp h)
    exact .inr ⟨rfl, rfl⟩

/-- A task goes on, and has posted what it had posted before, or a message of its own agent. -/
theorem Known.of_enter {mail : Mailbox BudgetState ℕ (String × Json) BusNotice Json LoopMessage} {c d : ℕ} {p : Phase}
    {agentId : String} (h : Known { g.enter d p with mail := mail } c agentId)
    (hagent : ∀ a, p.agent = some a → (g.phase d).agent = some a)
    (hposted : ∀ msg, (c, .ask (agentId, msg)) ∈ mail.posted →
      (c, .ask (agentId, msg)) ∈ g.mail.posted ∨ c = d ∧ (g.phase d).agent = some agentId) : Known g c agentId := by
  rcases h with hphase | ⟨msg, hmsg⟩
  · left
    by_cases hcd : c = d
    · subst hcd
      simp only [GateState.enter, Function.update_self] at hphase
      exact hagent _ hphase
    · simpa only [GateState.enter, Function.update_of_ne hcd] using hphase
  · rcases hposted msg hmsg with hmem | ⟨rfl, hown⟩
    · exact .inr ⟨msg, hmem⟩
    · exact .inl hown

/-- **Whoever is known has been so before, or is let through now.** -/
theorem Known.step {c : ℕ} {agentId : String} (hstep : (gateSystem cfg parseText).step g l g')
    (h : Known g' c agentId) : Known g c agentId ∨ Lets g c agentId l := by
  cases l with
  | connect d =>
    obtain ⟨-, rfl⟩ := hstep
    exact .inl (h.of_enter (fun a ha => absurd ha (by simp [Phase.agent])) fun msg hmsg => .inl hmsg)
  | greet d vars frame =>
    obtain ⟨hphase, rfl⟩ := hstep
    rcases h with hagent | hposted
    · by_cases hcd : c = d
      · subst hcd
        cases hgreet : greet vars g.db frame with
        | none => simp [GateState.enter, hgreet, Phase.agent] at hagent
        | some a =>
          simp only [GateState.enter, hgreet, Function.update_self, Option.elim_some, Phase.agent,
            Option.some.injEq] at hagent
          obtain ⟨msg, rfl, hid, hproved⟩ := greet_eq_some hgreet
          exact .inr (.socket (hid.trans hagent) rfl (hagent ▸ hproved))
      · exact .inl (.inl (by simpa only [GateState.enter, Function.update_of_ne hcd] using hagent))
    · exact .inl (.inr hposted)
  | register d =>
    obtain ⟨a, hphase, rfl⟩ := hstep
    refine .inl (h.of_enter (fun b hb => by rw [hphase]; exact hb) fun msg hmsg => ?_)
    exact (mem_posted_append hmsg).imp_right fun hnew => absurd hnew.2 (by simp)
  | receive d m =>
    obtain ⟨a, hphase, rfl⟩ := hstep
    refine .inl (h.of_enter (fun b hb => by rw [hphase]; exact hb) fun msg hmsg => ?_)
    refine (mem_posted_append hmsg).imp_right fun ⟨hcd, hnew⟩ => ⟨hcd, ?_⟩
    rw [hphase]
    exact congrArg some (Prod.mk.inj (Letter.ask.inj hnew)).1
  | deliver d sent =>
    obtain ⟨a, reply, hphase, -, rfl⟩ := hstep
    refine .inl (h.of_enter (fun b hb => ?_) fun msg hmsg => .inl hmsg)
    rw [hphase]
    cases sent <;> exact hb
  | hangUp d =>
    obtain ⟨a, hphase, rfl⟩ := hstep
    exact .inl (h.of_enter (fun b hb => by rw [hphase]; exact hb) fun msg hmsg => .inl hmsg)
  | unregister d =>
    obtain ⟨a, hphase, rfl⟩ := hstep
    refine .inl (h.of_enter (fun b hb => absurd hb (by simp [Phase.agent])) fun msg hmsg => ?_)
    exact (mem_posted_append hmsg).imp_right fun hnew => absurd hnew.2 (by simp)
  | request d vars newUuid http =>
    obtain ⟨hphase, rfl⟩ := hstep
    rcases h with hagent | hposted
    · by_cases hcd : c = d
      · subst hcd
        cases hrequest : handleRequest vars g.db newUuid http with
        | answer response => simp [GateState.enter, hrequest, HttpAction.phase, Phase.agent] at hagent
        | ask a id msg =>
          simp only [GateState.enter, hrequest, Function.update_self, HttpAction.phase, Phase.agent,
            Option.some.injEq] at hagent
          subst hagent
          obtain ⟨hok, -⟩ := handleRequest_eq_ask_iff.mp hrequest
          obtain ⟨token, secret, htoken, hsplit, hproved⟩ := authenticate_eq_ok_iff.mp hok
          exact .inr (.http htoken hsplit hproved)
      · exact .inl (.inl (by simpa only [GateState.enter, Function.update_of_ne hcd] using hagent))
    · exact .inl (.inr hposted)
  | send d =>
    obtain ⟨a, id, m, hphase, rfl⟩ := hstep
    refine .inl (h.of_enter (fun b hb => by rw [hphase]; exact hb) fun msg hmsg => ?_)
    refine (mem_posted_append hmsg).imp_right fun ⟨hcd, hnew⟩ => ⟨hcd, ?_⟩
    rw [hphase]
    exact congrArg some (Prod.mk.inj (Letter.ask.inj hnew)).1
  | respond d =>
    obtain ⟨a, id, reply, hphase, -, rfl⟩ := hstep
    exact .inl (h.of_enter (fun b hb => absurd hb (by simp [Phase.agent])) fun msg hmsg => .inl hmsg)
  | abandon d =>
    obtain ⟨-, rfl⟩ := hstep
    exact .inl (h.of_enter (fun b hb => absurd hb (by simp [Phase.agent])) fun msg hmsg => .inl hmsg)
  | read env =>
    obtain ⟨hne, rfl⟩ := hstep
    refine .inl (h.imp_right fun ⟨msg, hmsg⟩ => ⟨msg, ?_⟩)
    rcases read_cases (loopServer cfg parseText) env hne with
      ⟨k, m, r, st, rest, -, -, heq⟩ | ⟨k, n, rest, -, heq⟩
    all_goals
      rw [heq] at hmsg
      exact hmsg
  | own l =>
    obtain ⟨-, rfl⟩ := hstep
    exact .inl h

/-- **The sender of every message that the loop handles has proved who it is**: the task that has posted it was let
through as that agent, by the agent's own secret, earlier in the run. -/
theorem gateway_authenticated {ls : List GateLabel} (hinit : (gateSystem cfg parseText).init g)
    (hrun : Run (gateSystem cfg parseText).step g ls g') {c : ℕ} {agentId : String} {msg reply : Json}
    (h : Served.answered c (agentId, msg) reply ∈ g'.mail.served) :
    ∃ before l after u, ls = before ++ l :: after ∧ Run (gateSystem cfg parseText).step g before u ∧
      Lets u c agentId l := by
  obtain ⟨⟨st, hst, hmail⟩, hphase⟩ := hinit
  have hfresh : (gateSystem cfg parseText).init g := ⟨⟨st, hst, hmail⟩, hphase⟩
  have hreachable := (System.Reachable.init hfresh).run hrun
  have hposted : (c, Letter.ask (agentId, msg)) ∈ g'.mail.posted := by
    rw [mail_order ((gate_refines_mail cfg parseText).reachable hreachable)]
    exact List.mem_append_left _ (List.mem_filterMap.mpr ⟨_, h, rfl⟩)
  have hnot : ¬ Known g c agentId := by
    rintro (hagent | ⟨msg', hmsg'⟩)
    · rw [hphase c] at hagent
      exact absurd hagent (by simp [Phase.agent])
    · rw [hmail] at hmsg'
      exact absurd hmsg' List.not_mem_nil
  exact hrun.exists_label (P := fun g => Known g c agentId) (fun s l t hstep ht => ht.step hstep) hnot
    (.inr ⟨msg, hposted⟩)

/-! ### Two workers at once -/

/-- The engineer's greeting. -/
def sampleHello : Json :=
  .obj [("type", .str "hello"), ("v", .int 1), ("agent_id", .str "a-2"), ("startup_id", .str "s-1"),
    ("secret", .str "dev-secret")]

/-- The founder's greeting, and what it sends next. -/
def founderHello : Json :=
  .obj [("type", .str "hello"), ("v", .int 1), ("agent_id", .str "a-1"), ("startup_id", .str "s-1"),
    ("secret", .str "dev-secret")]

def founderStarted : Json :=
  .obj [("type", .str "cli_session_started"), ("v", .int 1), ("task_id", .str "T_1"), ("prompt_hash", .str "h")]

/-- The loop of a fresh startup, without sockets. -/
noncomputable def freshGate : GateState :=
  ⟨.fresh freshBudget, fun _ => .absent⟩

theorem freshGate_init (parseText : Json → String) : (gateSystem sampleConfig parseText).init freshGate :=
  ⟨⟨freshBudget, sampleStartup.init sampleConfig, rfl⟩, fun _ => rfl⟩

/-- Both have greeted. -/
noncomputable def greetedGate : GateState :=
  (((freshGate.enter 0 .greeting).enter 1 .greeting).enter 0 (.greeted "a-2")).enter 1 (.greeted "a-1")

/-- The founder is registered, and has asked. -/
noncomputable def askedGate : GateState :=
  { (greetedGate.enter 1 (.serving "a-1")).enter 1 (.waiting "a-1") with
    mail := (greetedGate.mail.post 1 (.tell (.registerWorker "a-1"))).ask 1 ("a-1", founderStarted) }

/-- So is the engineer, which has sent its greeting again. -/
noncomputable def waitingGate : GateState :=
  { (askedGate.enter 0 (.serving "a-2")).enter 0 (.waiting "a-2") with
    mail := (askedGate.mail.post 0 (.tell (.registerWorker "a-2"))).ask 0 ("a-2", sampleHello) }

/-- The workers of the engineer and of the founder greet, are registered, and send a message. -/
def greetingLabels : List GateLabel :=
  [.connect 0, .connect 1, .greet 0 (fun _ => none) (some sampleHello), .greet 1 (fun _ => none) (some founderHello),
    .register 1, .receive 1 founderStarted, .register 0, .receive 0 sampleHello]

/-- The loop reads what is there. -/
def readingLabels : List GateLabel :=
  List.replicate 4 (.read (sampleEnv 0 "m"))

/-- The loop has answered. -/
noncomputable def answeredGate (parseText : Json → String) : GateState :=
  let read (mail : Mailbox BudgetState ℕ (String × Json) BusNotice Json LoopMessage) :=
    mail.read (loopServer sampleConfig parseText) (sampleEnv 0 "m")
  { waitingGate with mail := read (read (read (read waitingGate.mail))) }

theorem waiting_run (parseText : Json → String) :
    Run (gateSystem sampleConfig parseText).step freshGate greetingLabels waitingGate := by
  have hengineer : greet (fun _ => none) freshBudget.loop.db (some sampleHello) = some "a-2" := by
    decide +kernel
  have hfounder : greet (fun _ => none) freshBudget.loop.db (some founderHello) = some "a-1" := by
    decide +kernel
  let g₁ : GateState := (freshGate.enter 0 .greeting).enter 1 .greeting
  have hgreeted₁ : (gateSystem sampleConfig parseText).step g₁ (.greet 0 (fun _ => none) (some sampleHello))
      (g₁.enter 0 (.greeted "a-2")) := by
    refine ⟨rfl, ?_⟩
    rw [show greet (fun _ => none) g₁.db (some sampleHello) = some "a-2" from hengineer]
    rfl
  have hgreeted₂ : (gateSystem sampleConfig parseText).step (g₁.enter 0 (.greeted "a-2"))
      (.greet 1 (fun _ => none) (some founderHello)) greetedGate := by
    refine ⟨rfl, ?_⟩
    rw [show greet (fun _ => none) (g₁.enter 0 (.greeted "a-2")).db (some founderHello) = some "a-1" from hfounder]
    rfl
  have hasked : Run (gateSystem sampleConfig parseText).step greetedGate [.register 1, .receive 1 founderStarted]
      askedGate := .cons ⟨"a-1", rfl, rfl⟩ (.single ⟨"a-1", rfl, rfl⟩)
  have hwaiting : Run (gateSystem sampleConfig parseText).step askedGate [.register 0, .receive 0 sampleHello]
      waitingGate := .cons ⟨"a-2", rfl, rfl⟩ (.single ⟨"a-2", rfl, rfl⟩)
  exact .cons ⟨rfl, rfl⟩ (.cons ⟨rfl, rfl⟩ (.cons hgreeted₁ (.cons hgreeted₂ (hasked.trans hwaiting))))

theorem reading_run (parseText : Json → String) :
    Run (gateSystem sampleConfig parseText).step waitingGate readingLabels (answeredGate parseText) :=
  .cons ⟨List.cons_ne_nil _ _, rfl⟩ (.cons ⟨List.cons_ne_nil _ _, rfl⟩
    (.cons ⟨List.cons_ne_nil _ _, rfl⟩ (.single ⟨List.cons_ne_nil _ _, rfl⟩)))

/-- The engineer gets its answer first, though the founder has been served first. -/
theorem greeting_run (parseText : Json → String) :
    ∃ g, Run (gateSystem sampleConfig parseText).step freshGate
        (greetingLabels ++ readingLabels ++ [.deliver 0 true, .deliver 1 true]) g ∧
      Served.answered 0 ("a-2", sampleHello) (okReply "hello") ∈ g.mail.served ∧
      g.mail.taken = [(0, okReply "hello"), (1, okReply "stub")] := by
  let g : GateState := answeredGate parseText
  let g' : GateState := { g.enter 0 (.serving "a-2") with mail := g.mail.take 0 (okReply "hello") }
  have hdelivered : Run (gateSystem sampleConfig parseText).step g [.deliver 0 true, .deliver 1 true]
      { g'.enter 1 (.serving "a-1") with mail := g'.mail.take 1 (okReply "stub") } :=
    .cons ⟨"a-2", okReply "hello", rfl, rfl, rfl⟩ (.single ⟨"a-1", okReply "stub", rfl, rfl, rfl⟩)
  refine ⟨_, ((waiting_run parseText).trans (reading_run parseText)).trans hdelivered, ?_, rfl⟩
  exact List.mem_cons_of_mem _ (List.mem_cons_of_mem _ (List.mem_cons_of_mem _ List.mem_cons_self))

/-- Each worker has its answer, and it is the one to its message. -/
theorem gateway_in_pace_greeting : ∃ g : GateState, g.mail.taken = [(0, okReply "hello"), (1, okReply "stub")] ∧
    g.mail.posted = g.mail.served.filterMap Served.letter ++ g.mail.letters ∧
    (∃ st, (messageSystem sampleConfig).init st ∧
      Run (loopServer sampleConfig fun _ => "").step st g.mail.served g.mail.server) ∧
    ∀ c, Mailbox.takenBy c g.mail.taken <+: (Mailbox.exchanges c g.mail.served).map Prod.snd ∧
      (Mailbox.exchanges c g.mail.served).map Prod.fst <+: Mailbox.questions c g.mail.posted ∧
      (Mailbox.questions c g.mail.posted).length =
        (Mailbox.takenBy c g.mail.taken).length + (g.mail.waits c).toNat := by
  obtain ⟨g, hrun, -, htaken⟩ := greeting_run fun _ => ""
  exact ⟨g, htaken, gateway_in_pace ((System.Reachable.init (freshGate_init _)).run hrun)⟩

/-- The engineer has been let through before its message was handled. -/
theorem gateway_authenticated_greeting : ∃ before l after u,
    greetingLabels ++ readingLabels ++ [.deliver 0 true, .deliver 1 true] = before ++ l :: after ∧
    Run (gateSystem sampleConfig fun _ => "").step freshGate before u ∧ Lets u 0 "a-2" l := by
  obtain ⟨g, hrun, hserved, -⟩ := greeting_run fun _ => ""
  exact gateway_authenticated (freshGate_init _) hrun hserved

/-- When the loop has read all letters, both messages are answered. -/
theorem gateway_progress_waiting : (waitingGate.phase 0).Waits ∧ (waitingGate.phase 1).Waits ∧
    ∀ c, Mailbox.questions c waitingGate.mail.posted <+:
        (Mailbox.exchanges c (answeredGate fun _ => "").mail.served).map Prod.fst ∧
      (Mailbox.exchanges c (answeredGate fun _ => "").mail.served).map Prod.snd =
        Mailbox.takenBy c (answeredGate fun _ => "").mail.taken ++
          ((answeredGate fun _ => "").mail.answers c).toList := by
  have hreachable := (System.Reachable.init (freshGate_init fun _ => "")).run (waiting_run _)
  refine ⟨trivial, trivial, (gateway_progress hreachable (reading_run _)).resolve_right ?_⟩
  rintro ⟨l, hhead, -⟩
  have hempty : (answeredGate fun _ => "").mail.letters = [] := rfl
  exact absurd (hempty ▸ hhead) (by simp)

end Cliptown.Gate
