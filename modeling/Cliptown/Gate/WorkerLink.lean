import Cliptown.Gate.Gateway
import Cliptown.Worker.McpCalls

/-!
# A worker and its socket

A worker opens a socket, greets, and then sends calls and reports; the world answers each of its messages, and pushes
frames of its own in between. Meanwhile other sockets and requests reach the same loop.

* `ClientPhase`, `WorkerLink`, `LinkLabel`, `linkSystem` — one worker, its socket in both directions, and the gate.
* `gate_wires`, `gate_phases` — what the gate does to one socket.
* `Stands`, `stands_of_reachable` — what is on the socket before the worker is let through, and afterwards.
* `agent_of_known` — the task of the socket acts for the agent of the greeting.
* `link_connected` — whoever is connected has been let through.
-/

namespace Cliptown.Gate

open Cliptown.Lib Cliptown.Task Cliptown.Town Cliptown.World Cliptown.Console Cliptown.Worker Cliptown.Budget

/-! ### The worker and its socket -/

/-- Why `connect` rejects. -/
inductive ConnectError where
  | openFailed
  | authRejected (frame : Json)
  | closedBeforeAck
  | helloAckTimeout

/-- How far a worker has come with its socket. Source: `ws.ts` `connect` -/
inductive ClientPhase where
  | opening
  | greeting
  | connected
  | rejected (e : ConnectError)
  | gone

/-- The listener of `connect` gets a frame. -/
def ClientPhase.hear (m : Json) : ClientPhase → ClientPhase
  | .greeting =>
    match m.getStr "type" with
    | some "ok" | some "hello_ack" => .connected
    | some "error" | some "auth_error" => .rejected (.authRejected m)
    | _ => .greeting
  | p => p

/-- The socket closes. -/
def ClientPhase.close : ClientPhase → ClientPhase
  | .opening => .rejected .openFailed
  | .greeting => .rejected .closedBeforeAck
  | .connected => .gone
  | p => p

/-- `connect` has resolved. -/
def ClientPhase.Resolved (p : ClientPhase) : Prop :=
  p = .connected ∨ p = .gone

/-- Source: `ws.ts` `HelloPayload` -/
def helloFrame (agentId startupId secret : String) : Json :=
  .obj [("type", .str "hello"), ("v", .int 1), ("agent_id", .str agentId), ("startup_id", .str startupId),
    ("secret", .str secret)]

/-- Source: `mcp.ts` `callOverWS`, `frame` -/
def callFrame (tool : String) (args : Json) (id : String) : Json :=
  .obj [("type", .str "mcp_call"), ("v", .int 1), ("tool", .str tool), ("args", args), ("corr_id", .str id)]

/-- Source: `http.rs` `handle_worker`, `ack` -/
def ackFrame : Json :=
  okReply "hello"

/-- The refusal of a greeting. -/
def refusalFrame : Json :=
  .obj [("type", .str "auth_error")]

/-- What is sent in answer to the first frame. Source: `http.rs` `handle_worker`, phase 1 -/
def greetReplies (vars : String → Option String) (db : Db) (m : Json) : List Json :=
  if (greet vars db (some m)).isSome then [ackFrame]
  else if m.getStr "type" = some "hello" then [refusalFrame]
  else []

/-- The gate, and one worker with its socket: the frames under way in both directions, the frame of each call, and what
has been written to the socket after the greeting. -/
structure WorkerLink where
  gate : GateState
  phase : ClientPhase
  mcp : McpState
  up : List Json
  down : List Json
  asked : List Json
  sent : List Json
  accepted : Bool

/-- What can happen: the gate does something, or it writes a frame to the socket that the loop has pushed; the worker's
socket opens, it gets a frame, makes a call, sends something else, a timer fires, or the socket closes. -/
inductive LinkLabel where
  | gate (l : GateLabel)
  | push (frame : Json)
  | opened
  | message
  | call (now : ℕ) (tool : String) (args : Json)
  | elsewhere
  | report (frame : Json)
  | timeout (i : ℕ)
  | helloTimeout
  | close

namespace GateLabel

variable (c : ℕ)

/-- What a request over HTTP does. -/
def HttpOf : GateLabel → Prop
  | .request d _ _ _ | .send d | .respond d | .abandon d => d = c
  | _ => False

/-- The frame that the task reads from its socket. -/
def reads : GateLabel → Option Json
  | .greet d _ frame => if d = c then frame else none
  | .receive d msg => if d = c then some msg else none
  | _ => none

/-- The message that the task passes on. -/
def passes : GateLabel → List Json
  | .receive d msg => if d = c then [msg] else []
  | _ => []

/-- The answer that the task takes. -/
def takes (g : GateState) : GateLabel → List Json
  | .deliver d _ => if d = c then (g.mail.answers c).toList else []
  | _ => []

/-- The frames that the task writes to its socket. -/
def writes (g : GateState) : GateLabel → List Json
  | .greet d vars (some m) => if d = c then greetReplies vars g.db m else []
  | .deliver d true => if d = c then (g.mail.answers c).toList else []
  | _ => []

/-- The task lets the worker through. -/
def accepts (g : GateState) : GateLabel → Bool
  | .greet d vars frame => decide (d = c) && (Gate.greet vars g.db frame).isSome
  | _ => false

end GateLabel

/-- The worker, its socket `c` and the gate in any order; what a call sends is a text, so that its send does not throw.
Source: `ws.ts` `connect`, `mcp.ts` `callOverWS`, `http.rs` `handle_worker` -/
def linkSystem (cfg : Config) (parseText : Json → String) (num : Js.Numbers) (seed c : ℕ) (hello : Json) :
    System WorkerLink LinkLabel where
  init L := (gateSystem cfg parseText).init L.gate ∧ L.gate.mail.server.loop.frames = [] ∧ L.phase = .opening ∧
    L.mcp = .new ∧ L.up = [] ∧ L.down = [] ∧ L.asked = [] ∧ L.sent = [] ∧ L.accepted = false
  step L l L' :=
    match l with
    | .gate l => ¬ l.HttpOf c ∧ (gateSystem cfg parseText).step L.gate l L'.gate ∧
        L.up = (l.reads c).toList ++ L'.up ∧
        L' = { L with
          gate := L'.gate
          up := L'.up
          down := L.down ++ l.writes c L.gate
          accepted := L.accepted || l.accepts c L.gate }
    | .push frame => (∃ agentId, L.gate.phase c = .serving agentId ∧
          (agentId, frame) ∈ L.gate.mail.server.loop.frames) ∧ L' = { L with down := L.down ++ [frame] }
    | .opened => L.phase = .opening ∧ L.gate.phase c ≠ .absent ∧
        L' = { L with phase := .greeting, up := L.up ++ [hello] }
    | .message => L.phase ≠ .opening ∧ L.phase ≠ .gone ∧ ∃ m, L.down = m :: L'.down ∧
        L' = { L with down := L'.down, phase := L.phase.hear m, mcp := dispatch num m L.mcp.listeners L.mcp }
    | .call now tool args => L.phase.Resolved ∧ L.mcp.step num seed (.call now none) = some L'.mcp ∧
        let frame := callFrame tool args (corrId seed now (L.mcp.counter + 1))
        (L.phase = .connected ∧
            L' = { L with
              mcp := L'.mcp
              asked := L.asked ++ [frame]
              up := L.up ++ [frame]
              sent := L.sent ++ [frame] } ∨
          L.phase = .gone ∧ L' = { L with mcp := L'.mcp, asked := L.asked ++ [frame] })
    | .elsewhere => L.mcp.step num seed .elsewhere = some L'.mcp ∧ L' = { L with mcp := L'.mcp }
    | .report frame => L.phase = .connected ∧ frame.getStr "type" ≠ some "mcp_call" ∧
        L' = { L with up := L.up ++ [frame], sent := L.sent ++ [frame] }
    | .timeout i => L.mcp.step num seed (.timeout i) = some L'.mcp ∧ L' = { L with mcp := L'.mcp }
    | .helloTimeout => L.phase = .greeting ∧ L' = { L with phase := .rejected .helloAckTimeout }
    | .close => L' = { L with phase := L.phase.close }

/-! ### What the gate does to the socket -/

/-- The task has read nothing yet, or has turned the worker away. -/
def Phase.Unheard (p : Phase) : Prop :=
  p = .absent ∨ p = .greeting ∨ p = .closed

section Wires

variable {cfg : Config} {parseText : Json → String} {g g' : GateState} {l : GateLabel} {c : ℕ}

/-- **The messages that the task passes on, and the answers that it takes.** -/
theorem gate_wires (hstep : (gateSystem cfg parseText).step g l g') (hsocket : ¬ l.HttpOf c) :
    (Mailbox.questions c g'.mail.posted).map Prod.snd =
        (Mailbox.questions c g.mail.posted).map Prod.snd ++ l.passes c ∧
      Mailbox.takenBy c g'.mail.taken = Mailbox.takenBy c g.mail.taken ++ l.takes c g := by
  have hread : ∀ env, g.mail.letters ≠ [] → (g.mail.read (loopServer cfg parseText) env).posted = g.mail.posted ∧
      (g.mail.read (loopServer cfg parseText) env).taken = g.mail.taken := by
    intro env hne
    rcases read_cases (loopServer cfg parseText) env hne with ⟨k, m, r, st, rest, -, -, heq⟩ | ⟨k, n, rest, -, heq⟩
    all_goals
      rw [heq]
      exact ⟨rfl, rfl⟩
  cases l with
  | connect d =>
    obtain ⟨-, rfl⟩ := hstep
    simp [GateState.enter, GateLabel.passes, GateLabel.takes]
  | greet d vars frame =>
    obtain ⟨-, rfl⟩ := hstep
    simp [GateState.enter, GateLabel.passes, GateLabel.takes]
  | register d =>
    obtain ⟨agentId, -, rfl⟩ := hstep
    simp [GateLabel.passes, GateLabel.takes, Mailbox.post]
  | receive d msg =>
    obtain ⟨agentId, -, rfl⟩ := hstep
    by_cases hd : d = c <;> simp [hd, GateLabel.passes, GateLabel.takes, Mailbox.ask, Mailbox.post]
  | deliver d sent =>
    obtain ⟨agentId, reply, -, hreply, rfl⟩ := hstep
    by_cases hd : d = c
    · subst hd
      simp [GateLabel.passes, GateLabel.takes, Mailbox.take, hreply]
    · simp [hd, GateLabel.passes, GateLabel.takes, Mailbox.take]
  | hangUp d =>
    obtain ⟨agentId, -, rfl⟩ := hstep
    simp [GateState.enter, GateLabel.passes, GateLabel.takes]
  | unregister d =>
    obtain ⟨agentId, -, rfl⟩ := hstep
    simp [GateLabel.passes, GateLabel.takes, Mailbox.post]
  | request d vars newUuid http =>
    obtain ⟨-, rfl⟩ := hstep
    simp [GateState.enter, GateLabel.passes, GateLabel.takes]
  | send d =>
    obtain ⟨agentId, id, msg, -, rfl⟩ := hstep
    have hd : ¬ d = c := hsocket
    simp [hd, GateLabel.passes, GateLabel.takes, Mailbox.ask, Mailbox.post]
  | respond d =>
    obtain ⟨agentId, id, reply, -, -, rfl⟩ := hstep
    have hd : ¬ d = c := hsocket
    simp [hd, GateLabel.passes, GateLabel.takes, Mailbox.take]
  | abandon d =>
    obtain ⟨-, rfl⟩ := hstep
    simp [GateState.enter, GateLabel.passes, GateLabel.takes]
  | read env =>
    obtain ⟨hne, rfl⟩ := hstep
    simp [GateLabel.passes, GateLabel.takes, hread env hne]
  | own l =>
    obtain ⟨-, rfl⟩ := hstep
    simp [GateLabel.passes, GateLabel.takes, Mailbox.own]

/-- **Where the task of a socket goes next**: it is connected, it looks at the first frame, or it serves an agent. -/
theorem gate_phases (hstep : (gateSystem cfg parseText).step g l g') (hsocket : ¬ l.HttpOf c) :
    g'.phase c = g.phase c ∨ (g.phase c = .absent ∧ g'.phase c = .greeting) ∨
      (∃ vars frame, l = .greet c vars frame ∧ g.phase c = .greeting ∧
        g'.phase c = (greet vars g.db frame).elim .closed .greeted) ∨
      (g.phase c).agent.isSome ∧ g'.phase c ≠ .absent ∧ g'.phase c ≠ .greeting := by
  -- the task of another socket, or of a request
  have hother : ∀ {d p}, ¬ d = c → (g.enter d p).phase c = g.phase c :=
    fun hd => Function.update_of_ne (fun h => hd h.symm) _ _
  have hself : ∀ p, (g.enter c p).phase c = p := fun p => Function.update_self _ _ _
  have hserves : ∀ {d p}, (g.phase d).agent.isSome → p ≠ .absent → p ≠ .greeting →
      (g.enter d p).phase c = g.phase c ∨ (g.phase c = .absent ∧ (g.enter d p).phase c = .greeting) ∨
        (∃ vars frame, l = .greet c vars frame ∧ g.phase c = .greeting ∧
          (g.enter d p).phase c = (greet vars g.db frame).elim .closed .greeted) ∨
        (g.phase c).agent.isSome ∧ (g.enter d p).phase c ≠ .absent ∧ (g.enter d p).phase c ≠ .greeting := by
    intro d p hagent habsent hgreeting
    by_cases hd : d = c
    · subst hd
      rw [hself]
      exact .inr (.inr (.inr ⟨hagent, habsent, hgreeting⟩))
    · exact .inl (hother hd)
  cases l with
  | connect d =>
    obtain ⟨hphase, rfl⟩ := hstep
    by_cases hd : d = c
    · subst hd
      exact .inr (.inl ⟨hphase, hself _⟩)
    · exact .inl (hother hd)
  | greet d vars frame =>
    obtain ⟨hphase, rfl⟩ := hstep
    by_cases hd : d = c
    · subst hd
      exact .inr (.inr (.inl ⟨vars, frame, rfl, hphase, hself _⟩))
    · exact .inl (hother hd)
  | register d =>
    obtain ⟨agentId, hphase, rfl⟩ := hstep
    exact hserves (by rw [hphase]; rfl) nofun nofun
  | receive d msg =>
    obtain ⟨agentId, hphase, rfl⟩ := hstep
    exact hserves (by rw [hphase]; rfl) nofun nofun
  | deliver d sent =>
    obtain ⟨agentId, reply, hphase, -, rfl⟩ := hstep
    cases sent with
    | false => exact hserves (by rw [hphase]; rfl) nofun nofun
    | true => exact hserves (by rw [hphase]; rfl) nofun nofun
  | hangUp d =>
    obtain ⟨agentId, hphase, rfl⟩ := hstep
    exact hserves (by rw [hphase]; rfl) nofun nofun
  | unregister d =>
    obtain ⟨agentId, hphase, rfl⟩ := hstep
    exact hserves (by rw [hphase]; rfl) nofun nofun
  | request d vars newUuid http =>
    obtain ⟨-, rfl⟩ := hstep
    exact .inl (hother hsocket)
  | send d =>
    obtain ⟨agentId, id, msg, -, rfl⟩ := hstep
    exact .inl (hother hsocket)
  | respond d =>
    obtain ⟨agentId, id, reply, -, -, rfl⟩ := hstep
    exact .inl (hother hsocket)
  | abandon d =>
    obtain ⟨-, rfl⟩ := hstep
    exact .inl (hother hsocket)
  | read env =>
    obtain ⟨-, rfl⟩ := hstep
    exact .inl rfl
  | own l =>
    obtain ⟨-, rfl⟩ := hstep
    exact .inl rfl

/-- A task that reads a message, or writes an answer, serves an agent, or looks at a greeting. -/
theorem gate_idle (hstep : (gateSystem cfg parseText).step g l g') (hphase : (g.phase c).agent = none)
    (hgreet : ∀ vars frame, l ≠ .greet c vars frame) :
    l.reads c = none ∧ l.passes c = [] ∧ l.writes c g = [] ∧ l.accepts c g = false := by
  cases l with
  | greet d vars frame =>
    have hd : ¬ d = c := fun h => hgreet vars frame (h ▸ rfl)
    cases frame <;> simp [GateLabel.reads, GateLabel.passes, GateLabel.writes, GateLabel.accepts, hd]
  | receive d msg =>
    obtain ⟨agentId, hserving, -⟩ := hstep
    have hd : ¬ d = c := fun h => by simp [← h, hserving, Phase.agent] at hphase
    simp [GateLabel.reads, GateLabel.passes, GateLabel.writes, GateLabel.accepts, hd]
  | deliver d sent =>
    obtain ⟨agentId, reply, hwaiting, -⟩ := hstep
    have hd : ¬ d = c := fun h => by simp [← h, hwaiting, Phase.agent] at hphase
    cases sent <;> simp [GateLabel.reads, GateLabel.passes, GateLabel.writes, GateLabel.accepts, hd]
  | _ => exact ⟨rfl, rfl, rfl, rfl⟩

end Wires

/-! ### The two ends of the socket -/

section Ends

variable {cfg : Config} {parseText : Json → String} {num : Js.Numbers} {seed c : ℕ} {hello : Json} {L L' : WorkerLink}
  {l : LinkLabel}

/-- The worker has not been let through: its greeting is under way at most, and the answer to it at most refuses it. -/
structure Outside (c : ℕ) (hello : Json) (L : WorkerLink) : Prop where
  phase : (L.gate.phase c).Unheard
  questions : Mailbox.questions c L.gate.mail.posted = []
  client : ¬ L.phase.Resolved
  opening : L.phase = .opening → L.up = []
  up : L.up = [] ∨ L.up = [hello]
  down : ∀ m ∈ L.down, m = refusalFrame
  sent : L.sent = []

/-- The worker has been let through: what it has sent since has been posted, or is under way, in order. -/
structure Inside (c : ℕ) (L : WorkerLink) : Prop where
  phase : L.gate.phase c ≠ .absent ∧ L.gate.phase c ≠ .greeting
  client : L.phase ≠ .opening
  sent : (Mailbox.questions c L.gate.mail.posted).map Prod.snd ++ L.up = L.sent

/-- How the worker stands. -/
def Stands (c : ℕ) (hello : Json) (L : WorkerLink) : Prop :=
  if L.accepted then Inside c L else Outside c hello L

/-- The socket of a worker that is connected does not go back to be opened. -/
theorem ClientPhase.hear_ne_opening {p : ClientPhase} (h : p ≠ .opening) (m : Json) : p.hear m ≠ .opening := by
  unfold ClientPhase.hear
  split
  · split <;> simp
  · exact h

/-- A refusal connects nobody. -/
theorem ClientPhase.not_resolved_hear {p : ClientPhase} (h : ¬ p.Resolved) :
    ¬ (p.hear refusalFrame).Resolved := by
  cases p with
  | greeting => exact fun hr => hr.elim nofun nofun
  | _ => exact h

/-- What the gate does keeps a worker that has been let through so. -/
theorem Inside.gate {l : GateLabel} {g : GateState} {up down : List Json} {accepted : Bool} (h : Inside c L)
    (hsocket : ¬ l.HttpOf c) (hstep : (gateSystem cfg parseText).step L.gate l g)
    (hup : L.up = (l.reads c).toList ++ up) :
    Inside c { L with gate := g, up := up, down := down, accepted := accepted } := by
  have hgreet : ∀ vars frame, l ≠ .greet c vars frame := by
    rintro vars frame rfl
    exact h.phase.2 hstep.1
  have hreads : l.passes c = (l.reads c).toList := by
    cases l with
    | greet d vars frame =>
      have hd : ¬ d = c := fun h => hgreet vars frame (h ▸ rfl)
      simp [GateLabel.passes, GateLabel.reads, hd]
    | receive d msg => by_cases hd : d = c <;> simp [GateLabel.passes, GateLabel.reads, hd]
    | _ => rfl
  refine ⟨?_, h.client, ?_⟩
  · rcases gate_phases hstep hsocket with hsame | ⟨habsent, -⟩ | ⟨vars, frame, -, hgreeting, -⟩ | ⟨-, hphase⟩
    · exact hsame.symm ▸ h.phase
    · exact absurd habsent h.phase.1
    · exact absurd hgreeting h.phase.2
    · exact hphase
  · dsimp only
    rw [(gate_wires hstep hsocket).1, hreads, List.append_assoc, ← hup]
    exact h.sent

/-- The first frame is the greeting, if there is one. -/
theorem Outside.first (h : Outside c hello L) {frame : Option Json} {up : List Json}
    (hup : L.up = frame.toList ++ up) :
    (frame = none ∧ L.up = up) ∨ frame = some hello ∧ L.up = [hello] ∧ up = [] := by
  cases frame with
  | none => exact .inl ⟨rfl, hup⟩
  | some m =>
    rcases h.up with hempty | hsingle
    · rw [hempty] at hup
      simp at hup
    · have hcons := hsingle.symm.trans hup
      simp only [Option.toList_some, List.cons_append, List.nil_append, List.cons.injEq] at hcons
      exact .inr ⟨by rw [hcons.1], hsingle, hcons.2.symm⟩

/-- The gate turns the worker away. -/
theorem Outside.refuse {vars : String → Option String} {frame : Option Json} {up : List Json} (h : Outside c hello L)
    (hup : L.up = frame.toList ++ up) (hgreet : greet vars L.gate.db frame = none) :
    Outside c hello { L with
      gate := L.gate.enter c .closed
      up := up
      down := L.down ++ GateLabel.writes c L.gate (.greet c vars frame)
      accepted := false } := by
  have hrest : up = L.up ∨ up = [] := (h.first hup).imp (fun h => h.2.symm) fun h => h.2.2
  refine ⟨.inr (.inr ?_), h.questions, h.client, fun hopening => ?_, ?_, fun m hm => ?_, h.sent⟩
  · simp [GateState.enter]
  · exact hrest.elim (fun heq => heq.trans (h.opening hopening)) id
  · rcases hrest with rfl | hempty
    · exact h.up
    · exact .inl hempty
  · rcases List.mem_append.mp hm with hm | hm
    · exact h.down m hm
    · cases frame with
      | none => exact absurd hm List.not_mem_nil
      | some f =>
        simp only [GateLabel.writes, if_true, greetReplies, hgreet, Option.isSome_none, Bool.false_eq_true,
          if_false] at hm
        split at hm
        · exact List.mem_singleton.mp hm
        · exact absurd hm List.not_mem_nil

/-- The gate lets the worker through. -/
theorem Outside.admit {vars : String → Option String} {frame : Option Json} {agentId : String} {up down : List Json}
    (h : Outside c hello L) (hup : L.up = frame.toList ++ up) (hgreet : greet vars L.gate.db frame = some agentId) :
    Inside c { L with gate := L.gate.enter c (.greeted agentId), up := up, down := down, accepted := true } := by
  obtain ⟨m, rfl, -⟩ := greet_eq_some hgreet
  rcases h.first hup with ⟨hnone, -⟩ | ⟨-, hone, hempty⟩
  · exact absurd hnone (by simp)
  · refine ⟨?_, fun hopening => ?_, ?_⟩
    · simp [GateState.enter]
    · rw [h.opening hopening] at hone
      exact absurd hone (by simp)
    · change (Mailbox.questions c L.gate.mail.posted).map Prod.snd ++ up = L.sent
      rw [h.questions, hempty, h.sent]
      rfl

/-- What the gate does, until it lets the worker through. -/
theorem Outside.gate {l : GateLabel} {g : GateState} {up : List Json} (h : Outside c hello L) (hsocket : ¬ l.HttpOf c)
    (hstep : (gateSystem cfg parseText).step L.gate l g) (hup : L.up = (l.reads c).toList ++ up) :
    Stands c hello { L with
      gate := g
      up := up
      down := L.down ++ l.writes c L.gate
      accepted := l.accepts c L.gate } := by
  by_cases hgreet : ∃ vars frame, l = .greet c vars frame
  · obtain ⟨vars, frame, rfl⟩ := hgreet
    obtain ⟨-, rfl⟩ := hstep
    have hfirst : L.up = frame.toList ++ up := by simpa [GateLabel.reads] using hup
    cases hgreeted : greet vars L.gate.db frame with
    | none =>
      have haccepts : GateLabel.accepts c L.gate (.greet c vars frame) = false := by
        simp [GateLabel.accepts, hgreeted]
      rw [haccepts]
      exact h.refuse hfirst hgreeted
    | some agentId =>
      have haccepts : GateLabel.accepts c L.gate (.greet c vars frame) = true := by
        simp [GateLabel.accepts, hgreeted]
      rw [haccepts]
      exact h.admit hfirst hgreeted
  · -- nothing is read, and nothing is written
    have hagent : (L.gate.phase c).agent = none := by
      rcases h.phase with hphase | hphase | hphase <;> rw [hphase] <;> rfl
    rw [not_exists] at hgreet
    obtain ⟨hreads, hpasses, hwrites, haccepts⟩ :=
      gate_idle hstep hagent fun vars frame h => hgreet vars ⟨frame, h⟩
    have hwires := (gate_wires hstep hsocket).1
    rw [h.questions, hpasses] at hwires
    rw [hreads] at hup
    obtain rfl : L.up = up := hup
    rw [haccepts, hwrites, List.append_nil]
    refine Outside.mk ?_ (List.map_eq_nil_iff.mp hwires) h.client h.opening h.up h.down h.sent
    rcases gate_phases hstep hsocket with hsame | ⟨-, hphase⟩ | ⟨vars, frame, hl, -⟩ | ⟨hserves, -⟩
    · exact hsame.symm ▸ h.phase
    · exact .inr (.inl hphase)
    · exact absurd ⟨frame, hl⟩ (hgreet vars)
    · simp [hagent] at hserves

/-- What happens to a worker that has been let through, apart from the gate. -/
theorem Inside.step (h : Inside c L) (hstep : (linkSystem cfg parseText num seed c hello).step L l L')
    (hgate : ∀ gl, l ≠ .gate gl) : Inside c L' := by
  obtain ⟨hphase, hclient, hsent⟩ := h
  cases l with
  | gate gl => exact absurd rfl (hgate gl)
  | push frame =>
    rw [hstep.2]
    exact ⟨hphase, hclient, hsent⟩
  | opened => exact absurd hstep.1 hclient
  | message =>
    obtain ⟨-, -, m, -, heq⟩ := hstep
    rw [heq]
    exact ⟨hphase, ClientPhase.hear_ne_opening hclient m, hsent⟩
  | call now tool args =>
    obtain ⟨-, -, ⟨-, heq⟩ | ⟨-, heq⟩⟩ := hstep
    · rw [heq]
      exact ⟨hphase, hclient, by rw [← hsent, List.append_assoc]⟩
    · rw [heq]
      exact ⟨hphase, hclient, hsent⟩
  | elsewhere =>
    rw [hstep.2]
    exact ⟨hphase, hclient, hsent⟩
  | report frame =>
    rw [hstep.2.2]
    exact ⟨hphase, hclient, by rw [← hsent, List.append_assoc]⟩
  | timeout i =>
    rw [hstep.2]
    exact ⟨hphase, hclient, hsent⟩
  | helloTimeout =>
    rw [hstep.2]
    exact ⟨hphase, nofun, hsent⟩
  | close =>
    rw [hstep]
    refine ⟨hphase, ?_, hsent⟩
    cases hp : L.phase with
    | opening => exact absurd hp hclient
    | _ => simp [ClientPhase.close]

/-- What happens to a worker that has not been let through, apart from the gate. -/
theorem Outside.step (h : Outside c hello L) (hstep : (linkSystem cfg parseText num seed c hello).step L l L')
    (hgate : ∀ gl, l ≠ .gate gl) : Outside c hello L' := by
  obtain ⟨hphase, hquestions, hclient, hopening, hup, hdown, hsent⟩ := h
  cases l with
  | gate gl => exact absurd rfl (hgate gl)
  | push frame =>
    obtain ⟨⟨agentId, hserving, -⟩, -⟩ := hstep
    rcases hphase with h | h | h <;> rw [h] at hserving <;> cases hserving
  | opened =>
    obtain ⟨hopen, -, heq⟩ := hstep
    rw [heq]
    refine ⟨hphase, hquestions, fun h => h.elim nofun nofun, nofun, ?_, hdown, hsent⟩
    simp [hopening hopen]
  | message =>
    obtain ⟨hnot, -, m, hm, heq⟩ := hstep
    have hrefusal : m = refusalFrame := hdown m (hm ▸ List.mem_cons_self)
    rw [heq, hrefusal]
    refine ⟨hphase, hquestions, ClientPhase.not_resolved_hear hclient, fun h => ?_, hup, fun f hf => ?_, hsent⟩
    · exact absurd h (ClientPhase.hear_ne_opening hnot refusalFrame)
    · exact hdown f (hm ▸ List.mem_cons_of_mem _ hf)
  | call now tool args => exact absurd hstep.1 hclient
  | elsewhere =>
    rw [hstep.2]
    exact ⟨hphase, hquestions, hclient, hopening, hup, hdown, hsent⟩
  | report frame => exact absurd (.inl hstep.1) hclient
  | timeout i =>
    rw [hstep.2]
    exact ⟨hphase, hquestions, hclient, hopening, hup, hdown, hsent⟩
  | helloTimeout =>
    rw [hstep.2]
    exact ⟨hphase, hquestions, fun h => h.elim nofun nofun, nofun, hup, hdown, hsent⟩
  | close =>
    rw [hstep]
    refine ⟨hphase, hquestions, ?_, fun h => ?_, hup, hdown, hsent⟩
    · cases hp : L.phase with
      | connected => exact absurd (.inl hp) hclient
      | gone => exact absurd (.inr hp) hclient
      | _ => exact fun h => h.elim nofun nofun
    · cases hp : L.phase with
      | opening => exact hopening hp
      | _ => simp [ClientPhase.close, hp] at h

/-- Apart from the gate, nothing lets a worker through. -/
theorem accepted_step (hstep : (linkSystem cfg parseText num seed c hello).step L l L')
    (hgate : ∀ gl, l ≠ .gate gl) : L'.accepted = L.accepted ∧ L'.gate = L.gate := by
  cases l with
  | gate gl => exact absurd rfl (hgate gl)
  | push frame | elsewhere | timeout i | helloTimeout =>
    rw [hstep.2]
    exact ⟨rfl, rfl⟩
  | opened | report frame =>
    rw [hstep.2.2]
    exact ⟨rfl, rfl⟩
  | message =>
    obtain ⟨-, -, m, -, heq⟩ := hstep
    rw [heq]
    exact ⟨rfl, rfl⟩
  | call now tool args =>
    obtain ⟨-, -, ⟨-, heq⟩ | ⟨-, heq⟩⟩ := hstep <;> rw [heq] <;> exact ⟨rfl, rfl⟩
  | close =>
    rw [hstep]
    exact ⟨rfl, rfl⟩

/-- **How a worker stands**, whatever happens. -/
theorem stands_of_reachable (h : (linkSystem cfg parseText num seed c hello).Reachable L) : Stands c hello L := by
  refine h.invariant (I := Stands c hello) ?_ ?_
  · rintro L ⟨⟨⟨st, -, hmail⟩, hphase⟩, -, hopening, -, hup, hdown, -, hsent, haccepted⟩
    unfold Stands
    rw [haccepted, if_neg (by simp)]
    refine ⟨.inl (hphase c), by rw [hmail]; rfl, ?_, fun _ => hup, .inl hup, ?_, hsent⟩
    · rw [hopening]
      exact fun h => h.elim nofun nofun
    · rw [hdown]
      exact fun m hm => absurd hm List.not_mem_nil
  · intro L l L' hL hstep
    unfold Stands at hL
    by_cases hgate : ∃ gl, l = .gate gl
    · obtain ⟨gl, rfl⟩ := hgate
      obtain ⟨hsocket, hg, hup, heq⟩ := hstep
      rw [heq]
      cases haccepted : L.accepted with
      | true =>
        rw [haccepted, if_pos rfl] at hL
        rw [Bool.true_or]
        exact hL.gate hsocket hg hup
      | false =>
        rw [haccepted, if_neg (by simp)] at hL
        rw [Bool.false_or]
        exact hL.gate hsocket hg hup
    · rw [not_exists] at hgate
      unfold Stands
      rw [(accepted_step hstep hgate).1]
      split at hL
      · rename_i haccepted
        rw [if_pos haccepted]
        exact hL.step hstep hgate
      · rename_i haccepted
        rw [if_neg haccepted]
        exact hL.step hstep hgate

/-- The gate goes through what it goes through by itself. -/
theorem gate_reachable (h : (linkSystem cfg parseText num seed c hello).Reachable L) :
    (gateSystem cfg parseText).Reachable L.gate := by
  refine h.invariant (I := fun L => (gateSystem cfg parseText).Reachable L.gate) ?_ ?_
  · rintro L ⟨hinit, -⟩
    exact .init hinit
  · intro L l L' hL hstep
    by_cases hgate : ∃ gl, l = .gate gl
    · obtain ⟨gl, rfl⟩ := hgate
      exact hL.step hstep.2.1
    · rw [not_exists] at hgate
      exact (accepted_step hstep hgate).2 ▸ hL

end Ends

/-! ### Whom the world knows -/

section Known

variable {cfg : Config} {parseText : Json → String} {num : Js.Numbers} {seed c : ℕ} {hello : Json}
  {agentId startupId secret : String} {L L' : WorkerLink}

/-- A task that looks at the first frame has not let the worker through, and gets the greeting. -/
theorem greeting_of_stands (h : Stands c hello L) (hphase : L.gate.phase c = .greeting) {m : Json} {up : List Json}
    (hup : L.up = m :: up) : m = hello := by
  unfold Stands at h
  split at h
  · exact absurd hphase h.phase.2
  · have hfirst : L.up = (some m).toList ++ up := hup
    rcases h.first hfirst with ⟨hnone, -⟩ | ⟨hsome, -⟩
    · exact absurd hnone (by simp)
    · exact Option.some.inj hsome

/-- **The task of the socket acts for the agent of the greeting** alone. -/
theorem agent_of_known (h : (linkSystem cfg parseText num seed c hello).Reachable L) {agentId : String}
    (hknown : Known L.gate c agentId) : agentId = (hello.getStr "agent_id").getD "" := by
  refine h.invariant_of (I := fun L => ∀ agentId, Known L.gate c agentId → agentId = (hello.getStr "agent_id").getD "")
    (fun _ => stands_of_reachable) ?_ ?_ agentId hknown
  · rintro L ⟨⟨⟨st, -, hmail⟩, hphase⟩, -⟩ agentId (hagent | ⟨msg, hmsg⟩)
    · rw [hphase c] at hagent
      cases hagent
    · rw [hmail] at hmsg
      exact absurd hmsg List.not_mem_nil
  · intro L l L' hstands hL hstep agentId hknown
    by_cases hgate : ∃ gl, l = .gate gl
    · obtain ⟨gl, rfl⟩ := hgate
      obtain ⟨hsocket, hg, hup, -⟩ := hstep
      rcases hknown.step hg with hbefore | hlets
      · exact hL agentId hbefore
      · cases hlets with
        | @socket vars msg secret hid =>
          have hfirst : L.up = msg :: L'.up := by simpa [GateLabel.reads] using hup
          rw [← greeting_of_stands hstands hg.1 hfirst, hid]
        | http => exact absurd rfl hsocket
    · rw [not_exists] at hgate
      rw [(accepted_step hstep hgate).2] at hknown
      exact hL agentId hknown

/-- **Whoever is connected has been let through**: `connect` resolves only if the gate has read the worker's own
greeting, with the secret that the agent has to prove itself with. -/
theorem link_connected {ls : List LinkLabel}
    (hinit : (linkSystem cfg parseText num seed c (helloFrame agentId startupId secret)).init L)
    (hrun : Run (linkSystem cfg parseText num seed c (helloFrame agentId startupId secret)).step L ls L')
    (h : L'.phase.Resolved) :
    ∃ before vars after u, ls = before ++ .gate (.greet c vars (some (helloFrame agentId startupId secret))) :: after ∧
      Run (linkSystem cfg parseText num seed c (helloFrame agentId startupId secret)).step L before u ∧
      Proved vars u.gate.db agentId secret := by
  have haccepted : L'.accepted = true := by
    have hstands := stands_of_reachable ((System.Reachable.init hinit).run hrun)
    unfold Stands at hstands
    split at hstands
    · assumption
    · exact absurd h hstands.client
  have hnot : ¬ L.accepted = true := by
    obtain ⟨-, -, -, -, -, -, -, -, hfalse⟩ := hinit
    simp [hfalse]
  obtain ⟨before, l, after, u, rfl, hbefore, vars, m, up, rfl, hphase, hup, hproved⟩ :=
    hrun.exists_label (P := fun L => L.accepted = true)
      (Q := fun L l => ∃ vars m up, l = .gate (.greet c vars (some m)) ∧ L.gate.phase c = .greeting ∧ L.up = m :: up ∧
        Proved vars L.gate.db ((m.getStr "agent_id").getD "") ((m.getStr "secret").getD ""))
      (fun s l t hstep ht => by
        by_cases hgate : ∃ gl, l = .gate gl
        · obtain ⟨gl, rfl⟩ := hgate
          obtain ⟨-, hg, hup, heq⟩ := hstep
          rw [heq, Bool.or_eq_true] at ht
          refine ht.imp_right fun haccepts => ?_
          cases gl with
          | greet d vars frame =>
            rw [GateLabel.accepts, Bool.and_eq_true, decide_eq_true_eq] at haccepts
            obtain ⟨rfl, hsome⟩ := haccepts
            obtain ⟨agentId', hgreet⟩ := Option.isSome_iff_exists.mp hsome
            obtain ⟨m, rfl, hid, hproved⟩ := greet_eq_some hgreet
            exact ⟨vars, m, t.up, rfl, hg.1, by simpa [GateLabel.reads] using hup, hid ▸ hproved⟩
          | _ => cases haccepts
        · rw [not_exists] at hgate
          exact .inl ((accepted_step hstep hgate).1 ▸ ht)) hnot haccepted
  obtain rfl := greeting_of_stands (stands_of_reachable ((System.Reachable.init hinit).run hbefore)) hphase hup
  exact ⟨before, vars, after, u, rfl, hbefore, hproved⟩

end Known

/-! ### An engineer that greets -/

/-- Numbers as they are. -/
def plainNumbers : Js.Numbers :=
  ⟨(· + ·), fun q => toString q.num⟩

/-- The engineer's socket before it opens. -/
noncomputable def freshLink : WorkerLink :=
  ⟨freshGate, .opening, .new, [], [], [], [], false⟩

theorem freshLink_init (num : Js.Numbers) :
    (linkSystem sampleConfig (fun _ => "") num 0 0 (helloFrame "a-2" "s-1" "dev-secret")).init freshLink :=
  ⟨freshGate_init _, rfl, rfl, rfl, rfl, rfl, rfl, rfl, rfl⟩

/-- The engineer connects, and is let through. -/
def openingLabels : List LinkLabel :=
  [.gate (.connect 0), .opened, .gate (.greet 0 (fun _ => none) (some (helloFrame "a-2" "s-1" "dev-secret"))), .message]

/-- The engineer is connected. -/
noncomputable def connectedLink : WorkerLink :=
  { freshLink with
    gate := (freshGate.enter 0 .greeting).enter 0 (.greeted "a-2")
    phase := .connected
    accepted := true }

theorem opening_run (num : Js.Numbers) :
    Run (linkSystem sampleConfig (fun _ => "") num 0 0 (helloFrame "a-2" "s-1" "dev-secret")).step freshLink
      openingLabels connectedLink := by
  have hgreet : greet (fun _ => none) freshBudget.loop.db (some (helloFrame "a-2" "s-1" "dev-secret")) =
      some "a-2" := by
    decide +kernel
  let hello := helloFrame "a-2" "s-1" "dev-secret"
  let L₁ : WorkerLink := { freshLink with gate := freshGate.enter 0 .greeting }
  let L₂ : WorkerLink := { L₁ with phase := .greeting, up := [hello] }
  let L₃ : WorkerLink := { L₂ with
    gate := L₁.gate.enter 0 (.greeted "a-2")
    up := []
    down := [ackFrame]
    accepted := true }
  have hconnect : (linkSystem sampleConfig (fun _ => "") num 0 0 hello).step freshLink (.gate (.connect 0)) L₁ :=
    ⟨id, ⟨rfl, rfl⟩, rfl, rfl⟩
  have hopened : (linkSystem sampleConfig (fun _ => "") num 0 0 hello).step L₁ .opened L₂ :=
    ⟨rfl, nofun, rfl⟩
  have hgreeted : (linkSystem sampleConfig (fun _ => "") num 0 0 hello).step L₂
      (.gate (.greet 0 (fun _ => none) (some hello))) L₃ := by
    have hdb : greet (fun _ => none) L₁.gate.db (some hello) = some "a-2" := hgreet
    refine ⟨id, ⟨rfl, ?_⟩, rfl, ?_⟩
    · rw [show L₂.gate = L₁.gate from rfl, hdb]
      rfl
    · have hwrites : GateLabel.writes 0 L₁.gate (.greet 0 (fun _ => none) (some hello)) = [ackFrame] := by
        simp [GateLabel.writes, greetReplies, hdb]
      have haccepts : GateLabel.accepts 0 L₁.gate (.greet 0 (fun _ => none) (some hello)) = true := by
        simp [GateLabel.accepts, hdb]
      rw [show L₂.gate = L₁.gate from rfl, hwrites, haccepts]
      rfl
  refine .cons hconnect (.cons hopened (.cons hgreeted (.single ⟨nofun, nofun, ackFrame, rfl, ?_⟩)))
  rfl

/-- The engineer is connected, and the gate has read its greeting. -/
theorem link_connected_opening : ∃ before vars after u,
    openingLabels = before ++ .gate (.greet 0 vars (some (helloFrame "a-2" "s-1" "dev-secret"))) :: after ∧
    Run (linkSystem sampleConfig (fun _ => "") plainNumbers 0 0 (helloFrame "a-2" "s-1" "dev-secret")).step freshLink
      before u ∧
    Proved vars u.gate.db "a-2" "dev-secret" :=
  link_connected (freshLink_init plainNumbers) (opening_run plainNumbers) (.inl rfl)

end Cliptown.Gate
