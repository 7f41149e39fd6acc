import Cliptown.Console.Connection
import Cliptown.Task.Sessions
import Cliptown.Task.SkillFrames

/-!
# A console and the world

The console's client at one end of its connections, the world's task for each of them at the other. The page, the
browser, the network and the tasks may take turns in any order, and a connection may end wherever it stands.

* `Peer`, `greet` — the task of one connection, and its answer to the first frame.
* `LinkStep`, `linkSystem` — the two ends together.
* `Opening` — what the world says over one connection.
* `Linked`, `console_stream` — what the page is given: what the world has said over each connection as far as it has
  come, one connection after the other.
* `Kept`, `Turned`, `console_token` — a console whose token is valid goes on until its page closes it; one whose token
  never is gets nothing.
-/

namespace Cliptown.Console

open Cliptown.Lib Cliptown.Task Cliptown.World

/-! ### The world's end -/

/-- Where the task of a connection stands. -/
inductive PeerPhase where
  | greeting
  | admitted (identity : OperatorIdentity)
  | viewed (identity : OperatorIdentity)
  | serving (identity : OperatorIdentity)
  | gone

/-- The task of a connection: the frames that it has sent, and how many of them have come. -/
structure Peer where
  phase : PeerPhase
  said : List Json
  got : ℕ

/-- A connection whose task has not read anything. -/
def Peer.fresh : Peer := ⟨.greeting, [], 0⟩

/-- Source: `http.rs` `handle_console` -/
def helloOk (identity : OperatorIdentity) : Json :=
  .obj [("type", .str "hello_ok"), ("v", .int 1), ("operator_id", .str identity.id),
    ("operator_name", .str identity.name), ("role", .str identity.role.asStr)]

/-- Source: `http.rs` `handle_console` -/
def authErrorFrame : Json := .obj [("type", .str "auth_error")]

/-- Source: `http.rs` `build_console_snapshot` -/
def viewFrame (snapshot : Json) : Json :=
  .obj [("type", .str "world_view_snapshot"), ("v", .int 1), ("snapshot", snapshot)]

/-- Source: `http.rs` `handle_console` -/
def skillsFrame (db : Db) : Json :=
  .obj [("type", .str "skills_snapshot"), ("v", .int 1), ("startups", skillsSnapshot db)]

/-- The types of what is broadcast, and of the replies to commands. Source: `ws_messages.rs` `ConsoleOutbound`,
`cmd_console.rs` `dispatch` -/
def outboundTypes : List String :=
  ["world_view_snapshot", "world_view_delta", "system_event", "backend_catalog", "toast", "modal", "chat", "directive",
    "skill_changed", "skills_snapshot", "hello_ok", "operator_presence", "action_locked", "action_unlocked", "ok",
    "error"]

/-- A frame that the world sends of its own accord, or in reply. -/
def Outbound (m : Json) : Prop := isObject m ∧ ∃ t ∈ outboundTypes, m.getStr "type" = some t

/-- The first frame: it is answered, or the task ends. Source: `http.rs` `handle_console` -/
def Peer.greet (cfg : Config) (operators : Table String Operator) (rewritten : Bool) (p : Peer) (frame : Json) : Peer :=
  if frame.getStr "type" ≠ some "hello" then { p with phase := .gone }
  else
    match validateOperatorToken cfg operators ((frame.getStr "operator_token").getD "") rewritten with
    | .ok (identity, _) => { p with phase := .admitted identity, said := p.said ++ [helloOk identity] }
    | .error _ => { p with phase := .gone, said := p.said ++ [authErrorFrame] }

/-! ### Both ends -/

/-- The console, and the tasks of the connections that it has made. -/
structure LinkState where
  client : ConsoleClient
  peers : List Peer

/-- What can happen: the page or the browser at the console, a frame that comes there, or the task of a connection. -/
inductive LinkLabel where
  | page (l : ClientLabel)
  | receive (i : ℕ)
  | greet (i : ℕ) (operators : Table String Operator) (rewritten : Bool)
  | view (i : ℕ) (snapshot : Json)
  | skills (i : ℕ) (db : Db)
  | push (i : ℕ) (frame : Json)
  | leave (i : ℕ)

/-- What the client does, and a task for a connection that it makes. -/
def LinkState.withClient (s : LinkState) (c : ConsoleClient) : LinkState where
  client := c
  peers := s.peers ++ List.replicate (c.sockets.length - s.peers.length) Peer.fresh

/-- One task changes. -/
def LinkState.modifyPeer (s : LinkState) (i : ℕ) (f : Peer → Peer) : LinkState :=
  { s with peers := s.peers.modify i f }

variable (parse : String → Option Json) (cfg : Config) (operatorToken : String)

/-- The steps. Frames come in the order in which they are sent. Source: `ws.ts` `ConsoleClient`; `http.rs`
`handle_console` -/
inductive LinkStep (s : LinkState) : LinkLabel → LinkState → Prop
  | page {l : ClientLabel} {c : ConsoleClient} (hl : ∀ i data, l ≠ .onmessage i data)
      (hc : l.apply parse operatorToken s.client = some c) : LinkStep s (.page l) (s.withClient c)
  | receive {i : ℕ} {p : Peer} {m : Json} {text : String} {c : ConsoleClient} (hp : s.peers[i]? = some p)
      (hm : p.said[p.got]? = some m) (htext : parse text = some m)
      (hc : (ClientLabel.onmessage i (.text text)).apply parse operatorToken s.client = some c) :
      LinkStep s (.receive i) (({ s with client := c } : LinkState).modifyPeer i fun p => { p with got := p.got + 1 })
  | greet {i : ℕ} {operators : Table String Operator} {rewritten : Bool} {p : Peer} {k : Socket} {frame : Json}
      (hp : s.peers[i]? = some p) (hphase : p.phase = .greeting) (hk : s.client.sockets[i]? = some k)
      (hframe : k.sent.head? = some frame) :
      LinkStep s (.greet i operators rewritten) (s.modifyPeer i fun p => p.greet cfg operators rewritten frame)
  | view {i : ℕ} {snapshot : Json} {p : Peer} {identity : OperatorIdentity} (hp : s.peers[i]? = some p)
      (hphase : p.phase = .admitted identity) :
      LinkStep s (.view i snapshot)
        (s.modifyPeer i fun p => { p with phase := .viewed identity, said := p.said ++ [viewFrame snapshot] })
  | skills {i : ℕ} {db : Db} {p : Peer} {identity : OperatorIdentity} (hp : s.peers[i]? = some p)
      (hphase : p.phase = .viewed identity) :
      LinkStep s (.skills i db)
        (s.modifyPeer i fun p => { p with phase := .serving identity, said := p.said ++ [skillsFrame db] })
  | push {i : ℕ} {frame : Json} {p : Peer} {identity : OperatorIdentity} (hp : s.peers[i]? = some p)
      (hphase : p.phase = .serving identity) (hframe : Outbound frame) :
      LinkStep s (.push i frame) (s.modifyPeer i fun p => { p with said := p.said ++ [frame] })
  | leave {i : ℕ} {p : Peer} (hp : s.peers[i]? = some p) :
      LinkStep s (.leave i) (s.modifyPeer i fun p => { p with phase := .gone })

/-- A console whose page has started its client once, and the world. -/
def linkSystem : System LinkState LinkLabel where
  init s := ∃ made, s = LinkState.withClient ⟨ConsoleClient.fresh, []⟩ (ConsoleClient.fresh.start made)
  step := LinkStep parse cfg operatorToken

/-! ### What the world says -/

/-- **What the world has said over a connection**, by where its task stands: a refusal alone, or who the operator is,
the view, the skills and then any frames, as far as the task has come. -/
inductive Opening : PeerPhase → List Json → Prop
  | greeting : Opening .greeting []
  | admitted (identity : OperatorIdentity) : Opening (.admitted identity) [helloOk identity]
  | viewed (identity : OperatorIdentity) (snapshot : Json) :
      Opening (.viewed identity) [helloOk identity, viewFrame snapshot]
  | serving (identity : OperatorIdentity) (snapshot : Json) (db : Db) {pushes : List Json}
      (h : ∀ m ∈ pushes, Outbound m) :
      Opening (.serving identity) ([helloOk identity, viewFrame snapshot, skillsFrame db] ++ pushes)
  | refused : Opening .gone [authErrorFrame]
  | gone {phase : PeerPhase} {said : List Json} (h : Opening phase said) : Opening .gone said

/-- What the page is given of it. -/
def Peer.heard (p : Peer) : List Json :=
  (p.said.take p.got).filter fun m => decide (m.getStr "type" ≠ some "auth_error")

/-! ### One end at a time -/

section Ends

variable {parse cfg operatorToken} {s t : LinkState} {c d : ConsoleClient} {l : ClientLabel} {p : Peer} {m : Json}
  {i : ℕ}

open ConsoleClient

theorem Opening.said_greeting {said : List Json} (h : Opening .greeting said) : said = [] := by
  cases h
  rfl

theorem Opening.said_admitted {identity : OperatorIdentity} {said : List Json} (h : Opening (.admitted identity) said) :
    said = [helloOk identity] := by
  cases h
  rfl

theorem Opening.said_viewed {identity : OperatorIdentity} {said : List Json} (h : Opening (.viewed identity) said) :
    ∃ snapshot, said = [helloOk identity, viewFrame snapshot] := by
  cases h with
  | viewed _ snapshot => exact ⟨snapshot, rfl⟩

theorem Opening.push {identity : OperatorIdentity} {said : List Json} (h : Opening (.serving identity) said)
    (hm : Outbound m) : Opening (.serving identity) (said ++ [m]) := by
  cases h with
  | serving _ snapshot db hpushes =>
      rw [List.append_assoc]
      refine .serving identity snapshot db fun m' hm' => ?_
      rcases List.mem_append.mp hm' with hm' | hm'
      · exact hpushes m' hm'
      · rwa [List.mem_singleton.mp hm']

/-- The frames of the world are objects, and none is a piece of a view. -/
theorem Opening.mem {phase : PeerPhase} {said : List Json} (h : Opening phase said) (hm : m ∈ said) :
    isObject m ∧ m.getStr "type" ≠ some "chunk_frame" := by
  induction h with
  | greeting => cases hm
  | admitted identity =>
      rw [List.mem_singleton.mp hm]
      exact ⟨rfl, by simp [helloOk, Json.getStr, Json.get, Json.asStr]⟩
  | viewed identity snapshot =>
      rcases List.mem_pair.mp hm with rfl | rfl
      · exact ⟨rfl, by simp [helloOk, Json.getStr, Json.get, Json.asStr]⟩
      · exact ⟨rfl, by simp [viewFrame, Json.getStr, Json.get, Json.asStr]⟩
  | serving identity snapshot db hpushes =>
      rcases List.mem_append.mp hm with hm | hm
      · simp only [List.mem_cons, List.not_mem_nil, or_false] at hm
        rcases hm with rfl | rfl | rfl
        · exact ⟨rfl, by simp [helloOk, Json.getStr, Json.get, Json.asStr]⟩
        · exact ⟨rfl, by simp [viewFrame, Json.getStr, Json.get, Json.asStr]⟩
        · exact ⟨rfl, by simp [skillsFrame, Json.getStr, Json.get, Json.asStr]⟩
      · obtain ⟨hobject, t, ht, htype⟩ := hpushes m hm
        refine ⟨hobject, fun heq => ?_⟩
        rw [Option.some.inj (htype.symm.trans heq)] at ht
        exact absurd ht (by decide)
  | refused =>
      rw [List.mem_singleton.mp hm]
      exact ⟨rfl, by simp [authErrorFrame, Json.getStr, Json.get, Json.asStr]⟩
  | gone _ ih => exact ih hm

/-- What the client does without a message: it gives the page none, and is not refused. -/
structure Calm (c d : ConsoleClient) : Prop where
  messages : d.messages = c.messages
  sockets : c.sockets.length ≤ d.sockets.length
  statuses : .authError ∈ d.statuses → .authError ∈ c.statuses
  closed : d.closedByUser = c.closedByUser

theorem Calm.refl (c : ConsoleClient) : Calm c c := ⟨rfl, le_refl _, id, rfl⟩

theorem Calm.trans {e : ConsoleClient} (h : Calm c d) (h' : Calm d e) : Calm c e :=
  ⟨h'.messages.trans h.messages, h.sockets.trans h'.sockets, h.statuses ∘ h'.statuses, h'.closed.trans h.closed⟩

theorem calm_modifySocket {f : Socket → Socket} : Calm c (c.modifySocket i f) :=
  ⟨rfl, length_modifySocket.ge, id, rfl⟩

theorem calm_onStatus {status : ConnectionStatus} (h : status ≠ .authError) : Calm c (c.onStatus status) := by
  refine ⟨rfl, le_refl _, fun hmem => ?_, rfl⟩
  rcases List.mem_append.mp hmem with hmem | hmem
  · exact hmem
  · exact absurd (List.mem_singleton.mp hmem).symm h

theorem calm_scheduleReconnect (jitter : Fin maxJitterMs) : Calm c (c.scheduleReconnect jitter) := by
  rw [scheduleReconnect]
  split_ifs
  · exact .refl c
  · exact ⟨rfl, le_refl _, id, rfl⟩

theorem calm_connect (made : Constructed) : Calm c (c.connect made) := by
  have hstatus : Calm c (c.onStatus .connecting) := calm_onStatus (by decide)
  cases made with
  | throws jitter => exact hstatus.trans (calm_scheduleReconnect jitter)
  | socket => exact hstatus.trans ⟨rfl, (List.sublist_append_left _ _).length_le, id, rfl⟩

theorem calm_onopen : Calm c (c.onopen operatorToken i) := by
  have hfailures : Calm c { c with failures := 0 } := ⟨rfl, le_refl _, id, rfl⟩
  exact (hfailures.trans calm_modifySocket).trans (calm_onStatus (by decide : ConnectionStatus.opened ≠ .authError))

theorem calm_onclose (jitter : Fin maxJitterMs) : Calm c (c.onclose jitter) := by
  have hws : Calm c { c with ws := none } := ⟨rfl, le_refl _, id, rfl⟩
  rw [ConsoleClient.onclose]
  split_ifs
  · exact hws
  · exact (hws.trans (calm_onStatus (by decide))).trans (calm_scheduleReconnect jitter)

/-- All that is not a message or a `close()`. -/
theorem calm_of_apply (hc : l.apply parse operatorToken c = some d) (hl : ∀ i data, l ≠ .onmessage i data)
    (hclose : l ≠ .close) : Calm c d := by
  cases apply_step hc with
  | close => exact absurd rfl hclose
  | send msg =>
      rw [ConsoleClient.send]
      split
      · exact .refl c
      · split_ifs
        · exact calm_modifySocket
        · exact .refl c
  | onopen hi => exact calm_modifySocket.trans calm_onopen
  | onmessage hi => exact absurd rfl (hl _ _)
  | closing hi => exact calm_modifySocket
  | onclose hi => exact calm_modifySocket.trans (calm_onclose _)
  | @onTimer made htimer =>
      have htaken : Calm c { c with reconnectTimer := none } := ⟨rfl, le_refl _, id, rfl⟩
      rw [ConsoleClient.onTimer]
      split_ifs
      · exact htaken
      · exact htaken.trans (calm_connect made)

/-- `close()` tells the page nothing. -/
theorem calm_close : d = c.close → d.messages = c.messages ∧ c.sockets.length ≤ d.sockets.length ∧
    d.statuses = c.statuses := by
  rintro rfl
  rw [ConsoleClient.close]
  split
  · exact ⟨rfl, le_refl _, rfl⟩
  · exact ⟨rfl, length_modifySocket.ge, rfl⟩

/-- A refusal. -/
theorem onmessage_authError {text : String} (htext : parse text = some m) (hobject : isObject m)
    (htype : m.getStr "type" = some "auth_error") :
    c.onmessage parse i (.text text) =
      { (c.onStatus .authError).setReady i ReadyState.close with closedByUser := true } := by
  have hread : readFrame parse (.text text) = some m := by rw [readFrame, htext, Option.filter_some, if_pos hobject]
  simp only [ConsoleClient.onmessage, hread, if_pos htype]

/-- Any other frame of the world. -/
theorem onmessage_frame {text : String} (htext : parse text = some m)
    (hm : isObject m ∧ m.getStr "type" ≠ some "chunk_frame") (htype : m.getStr "type" ≠ some "auth_error") :
    c.onmessage parse i (.text text) = { c with messages := c.messages ++ [m] } := by
  have hread : readFrame parse (.text text) = some m := by rw [readFrame, htext, Option.filter_some, if_pos hm.1]
  simp only [ConsoleClient.onmessage, hread, if_neg htype, if_neg hm.2]

end Ends

/-! ### What the page is given -/

section Stream

variable {parse cfg operatorToken} {s t : LinkState} {c : ConsoleClient} {l : LinkLabel} {p : Peer} {m : Json} {i : ℕ}

open ConsoleClient

/-- A task for each socket, which says what it should; and the page has been given what has come. -/
structure Linked (operatorToken : String) (s : LinkState) : Prop where
  standing : Standing s.client
  voiced : ∃ given, Voiced operatorToken s.client.sockets given
  length : s.peers.length = s.client.sockets.length
  opening : ∀ p ∈ s.peers, Opening p.phase p.said ∧ p.got ≤ p.said.length
  messages : s.client.messages = s.peers.flatMap Peer.heard

/-- The client goes on by itself. -/
theorem Linked.withClient (h : Linked operatorToken s) (hstanding : Standing c)
    (hvoiced : ∃ given, Voiced operatorToken c.sockets given) (hmessages : c.messages = s.client.messages)
    (hlength : s.client.sockets.length ≤ c.sockets.length) : Linked operatorToken (s.withClient c) := by
  refine ⟨hstanding, hvoiced, ?_, fun p hp => ?_, ?_⟩
  · have hs := h.length
    simp only [LinkState.withClient, List.length_append, List.length_replicate]
    omega
  · rcases List.mem_append.mp hp with hp | hp
    · exact h.opening p hp
    · rw [List.eq_of_mem_replicate hp]
      exact ⟨.greeting, le_refl _⟩
  · have hfresh : (List.replicate (c.sockets.length - s.peers.length) Peer.fresh).flatMap Peer.heard = [] :=
      List.flatMap_eq_nil_iff.mpr fun p hp => by rw [List.eq_of_mem_replicate hp]; rfl
    calc c.messages = s.peers.flatMap Peer.heard := hmessages.trans h.messages
      _ = (s.withClient c).peers.flatMap Peer.heard := by
          rw [LinkState.withClient, List.flatMap_append, hfresh, List.append_nil]

/-- A task goes on: it may say more. -/
theorem Linked.modifyPeer {f : Peer → Peer} (h : Linked operatorToken s)
    (hf : ∀ p, s.peers[i]? = some p → Opening (f p).phase (f p).said ∧ (f p).got = p.got ∧
      ∃ more, (f p).said = p.said ++ more) : Linked operatorToken (s.modifyPeer i f) := by
  refine ⟨h.standing, h.voiced, (List.length_modify ..).trans h.length, fun p hp => ?_, ?_⟩
  · rcases mem_modify hp with hp | ⟨p', hp', rfl⟩
    · exact h.opening p hp
    · obtain ⟨hopening, hgot, more, hmore⟩ := hf p' hp'
      have hle := (h.opening p' (List.mem_of_getElem? hp')).2
      refine ⟨hopening, ?_⟩
      rw [hgot, hmore, List.length_append]
      omega
  · have hheard : (s.peers.modify i f).map Peer.heard = s.peers.map Peer.heard := by
      refine map_modify_of_eq s.peers i fun p' hp' => ?_
      obtain ⟨-, hgot, more, hmore⟩ := hf p' hp'
      have hle := (h.opening p' (List.mem_of_getElem? hp')).2
      rw [Peer.heard, Peer.heard, hgot, hmore, List.take_append_of_le_length hle]
    calc s.client.messages = s.peers.flatMap Peer.heard := h.messages
      _ = (s.peers.modify i f).flatMap Peer.heard := by rw [List.flatMap_def, List.flatMap_def, hheard]

/-- One more frame of a connection has come. -/
theorem Peer.heard_succ (hm : p.said[p.got]? = some m) :
    ({ p with got := p.got + 1 } : Peer).heard =
      p.heard ++ [m].filter fun m => decide (m.getStr "type" ≠ some "auth_error") := by
  rw [Peer.heard, Peer.heard, ← List.filter_append, List.take_add_one, hm]
  rfl

/-- A frame that comes is the next of the last connection. -/
theorem Linked.receive {text : String} (h : Linked operatorToken s) (hp : s.peers[i]? = some p)
    (hm : p.said[p.got]? = some m) (htext : parse text = some m)
    (hc : (ClientLabel.onmessage i (.text text)).apply parse operatorToken s.client = some c) :
    Linked operatorToken
      (({ s with client := c } : LinkState).modifyPeer i fun p => { p with got := p.got + 1 }) := by
  obtain ⟨given, hvoiced⟩ := h.voiced
  have hstanding := h.standing.step hc
  have hvoiced' := hvoiced.step h.standing hc
  obtain ⟨hi, rfl⟩ : s.client.ready i = some .opened ∧ c = s.client.onmessage parse i (.text text) := by
    cases apply_step hc with
    | onmessage hi => exact ⟨hi, rfl⟩
  obtain ⟨-, -, -, hlast, -⟩ := h.standing.linked_of_live (.inr hi)
  have hopening := h.opening p (List.mem_of_getElem? hp)
  have hframe := hopening.1.mem (List.mem_of_getElem? hm)
  have hheard := flatMap_modify_last (g := Peer.heard) (f := fun p => { p with got := p.got + 1 }) hp
    (hlast.trans h.length.symm) (Peer.heard_succ hm)
  have hlt : p.got < p.said.length := (List.getElem?_eq_some_iff.mp hm).1
  have hlengths : (s.client.onmessage parse i (.text text)).sockets.length = s.client.sockets.length ∧
      (s.client.onmessage parse i (.text text)).messages = s.client.messages ++
        [m].filter fun m => decide (m.getStr "type" ≠ some "auth_error") := by
    by_cases htype : m.getStr "type" = some "auth_error"
    · rw [onmessage_authError htext hframe.1 htype]
      refine ⟨length_modifySocket, ?_⟩
      simp [htype, setReady, modifySocket, onStatus]
    · rw [onmessage_frame htext hframe htype]
      exact ⟨rfl, by simp [htype]⟩
  refine ⟨hstanding, ⟨_, hvoiced'⟩, ?_, fun p' hp' => ?_, ?_⟩
  · exact ((List.length_modify ..).trans h.length).trans hlengths.1.symm
  · rcases mem_modify hp' with hp' | ⟨p'', hp'', rfl⟩
    · exact h.opening p' hp'
    · obtain rfl : p'' = p := Option.some.inj (hp''.symm.trans hp)
      exact ⟨hopening.1, hlt⟩
  · exact hlengths.2.trans ((congrArg (· ++ _) h.messages).trans hheard.symm)

/-- The world understands the first frame of a console, which is its hello. -/
theorem Linked.frame_eq {k : Socket} {frame : Json} (h : Linked operatorToken s)
    (hk : s.client.sockets[i]? = some k) (hframe : k.sent.head? = some frame) : frame = hello operatorToken := by
  obtain ⟨given, hvoiced⟩ := h.voiced
  have hfirst := (hvoiced.greets k (List.mem_of_getElem? hk)).first
  have hne : k.sent ≠ [] := by
    intro hnil
    rw [hnil] at hframe
    cases hframe
  exact Option.some.inj (hframe.symm.trans (hfirst hne))

/-- The answer to the hello, by the token. -/
theorem greet_hello (operators : Table String Operator) (rewritten : Bool) (p : Peer) :
    p.greet cfg operators rewritten (hello operatorToken) =
      match validateOperatorToken cfg operators operatorToken rewritten with
      | .ok (identity, _) => { p with phase := .admitted identity, said := p.said ++ [helloOk identity] }
      | .error _ => { p with phase := .gone, said := p.said ++ [authErrorFrame] } := by
  have htype : (hello operatorToken).getStr "type" = some "hello" := rfl
  have htoken : ((hello operatorToken).getStr "operator_token").getD "" = operatorToken := by
    simp [hello, Json.getStr, Json.get, Json.asStr]
  rw [Peer.greet, if_neg (not_not.mpr htype), htoken]

/-- What the first frame makes of a connection. -/
theorem Linked.greet {operators : Table String Operator} {rewritten : Bool} {k : Socket} {frame : Json}
    (h : Linked operatorToken s) (hp : s.peers[i]? = some p) (hphase : p.phase = .greeting)
    (hk : s.client.sockets[i]? = some k) (hframe : k.sent.head? = some frame) :
    Linked operatorToken (s.modifyPeer i fun p => p.greet cfg operators rewritten frame) := by
  rw [h.frame_eq hk hframe]
  refine h.modifyPeer fun p' hp' => ?_
  obtain rfl : p' = p := Option.some.inj (hp'.symm.trans hp)
  have hsaid : p'.said = [] := by
    have hopening := (h.opening p' (List.mem_of_getElem? hp')).1
    rw [hphase] at hopening
    exact hopening.said_greeting
  rw [greet_hello, hsaid]
  split
  · exact ⟨.admitted _, rfl, _, rfl⟩
  · exact ⟨.refused, rfl, _, rfl⟩

theorem Linked.step (h : Linked operatorToken s) (hst : LinkStep parse cfg operatorToken s l t) :
    Linked operatorToken t := by
  cases hst with
  | @page l c hl hc =>
      obtain ⟨given, hvoiced⟩ := h.voiced
      have hstanding := h.standing.step hc
      have hvoiced' := hvoiced.step h.standing hc
      by_cases hclose : l = .close
      · subst hclose
        obtain ⟨hmessages, hlength, -⟩ := calm_close (Option.some.inj hc).symm
        exact h.withClient hstanding ⟨_, hvoiced'⟩ hmessages hlength
      · have hcalm := calm_of_apply hc hl hclose
        exact h.withClient hstanding ⟨_, hvoiced'⟩ hcalm.messages hcalm.sockets
  | receive hp hm htext hc => exact h.receive hp hm htext hc
  | greet hp hphase hk hframe => exact h.greet hp hphase hk hframe
  | @view i snapshot p identity hp hphase =>
      refine h.modifyPeer fun p' hp' => ?_
      obtain rfl : p' = p := Option.some.inj (hp'.symm.trans hp)
      have hopening := (h.opening p' (List.mem_of_getElem? hp')).1
      rw [hphase] at hopening
      refine ⟨?_, rfl, _, rfl⟩
      rw [hopening.said_admitted]
      exact .viewed identity snapshot
  | @skills i db p identity hp hphase =>
      refine h.modifyPeer fun p' hp' => ?_
      obtain rfl : p' = p := Option.some.inj (hp'.symm.trans hp)
      have hopening := (h.opening p' (List.mem_of_getElem? hp')).1
      rw [hphase] at hopening
      obtain ⟨snapshot, hsaid⟩ := hopening.said_viewed
      refine ⟨?_, rfl, _, rfl⟩
      rw [hsaid]
      exact .serving identity snapshot db (by simp : ∀ m ∈ [], Outbound m)
  | @push i frame p identity hp hphase hframe =>
      refine h.modifyPeer fun p' hp' => ?_
      obtain rfl : p' = p := Option.some.inj (hp'.symm.trans hp)
      have hopening := (h.opening p' (List.mem_of_getElem? hp')).1
      rw [hphase] at hopening
      refine ⟨?_, rfl, _, rfl⟩
      rw [hphase]
      exact hopening.push hframe
  | leave hp =>
      refine h.modifyPeer fun p' hp' => ?_
      exact ⟨.gone (h.opening p' (List.mem_of_getElem? hp')).1, rfl, [], (List.append_nil _).symm⟩

theorem linked_start (made : Constructed) :
    Linked operatorToken (LinkState.withClient ⟨ConsoleClient.fresh, []⟩ (ConsoleClient.fresh.start made)) := by
  have hfresh : Voiced operatorToken ConsoleClient.fresh.sockets [] :=
    ⟨by simp [ConsoleClient.fresh], by simp [carriedFrames, ConsoleClient.fresh]⟩
  have hcalm : Calm ConsoleClient.fresh (ConsoleClient.fresh.start made) := calm_connect made
  refine ⟨standing_start made, ⟨[], Voiced.connect hfresh made⟩, ?_, fun p hp => ?_, ?_⟩
  · simp [LinkState.withClient]
  · simp only [LinkState.withClient, List.nil_append] at hp
    rw [List.eq_of_mem_replicate hp]
    exact ⟨.greeting, le_refl _⟩
  · have hnone : (LinkState.withClient ⟨ConsoleClient.fresh, []⟩ (ConsoleClient.fresh.start made)).peers.flatMap
        Peer.heard = [] := by
      refine List.flatMap_eq_nil_iff.mpr fun p hp => ?_
      simp only [LinkState.withClient, List.nil_append] at hp
      rw [List.eq_of_mem_replicate hp]
      rfl
    rw [hnone]
    exact hcalm.messages

theorem linked_of_reachable (h : (linkSystem parse cfg operatorToken).Reachable s) : Linked operatorToken s := by
  refine h.invariant (fun s => ?_) fun s l t hs hst => hs.step hst
  rintro ⟨made, rfl⟩
  exact linked_start made

end Stream

/-- A console whose connection has opened, and is let in. -/
theorem admitted_run (parse : String → Option Json) :
    Run (linkSystem parse sampleConfig "dev-token").step
      (LinkState.withClient ⟨ConsoleClient.fresh, []⟩ (ConsoleClient.fresh.start .socket))
      [.page (.onopen 0), .greet 0 ∅ false] ⟨openedClient, [⟨.admitted envAdmin, [helloOk envAdmin], 0⟩]⟩ := by
  let s₁ : LinkState := ⟨openedClient, [Peer.fresh]⟩
  have hopen : LinkStep parse sampleConfig "dev-token"
      (LinkState.withClient ⟨ConsoleClient.fresh, []⟩ (ConsoleClient.fresh.start .socket)) (.page (.onopen 0)) s₁ :=
    .page (l := .onopen 0) (c := openedClient) (fun _ _ h => by cases h) rfl
  have hgreet : LinkStep parse sampleConfig "dev-token" s₁ (.greet 0 ∅ false)
      ⟨openedClient, [⟨.admitted envAdmin, [helloOk envAdmin], 0⟩]⟩ :=
    .greet (s := s₁) (k := ⟨.opened, [ConsoleClient.hello "dev-token"]⟩) rfl rfl rfl rfl
  exact .cons hopen (.single hgreet)

/-- The connection closes, and the console opens another, and is let in again. -/
def reconnectingLabels : List LinkLabel :=
  [.page (.onclose 0 ⟨0, by decide⟩), .page (.onTimer .socket), .page (.onopen 1), .greet 1 ∅ false]

/-- The console with its second connection. -/
def reopenedClient : ConsoleClient :=
  (((((openedClient.setReady 0 fun _ => .closed).onclose ⟨0, by decide⟩).onTimer .socket).setReady 1
    fun _ => .opened).onopen "dev-token" 1)

theorem reconnecting_run (parse : String → Option Json) (messages : List Json) (p : Peer) :
    Run (linkSystem parse sampleConfig "dev-token").step ⟨{ openedClient with messages := messages }, [p]⟩
      reconnectingLabels
      ⟨{ reopenedClient with messages := messages }, [p, ⟨.admitted envAdmin, [helloOk envAdmin], 0⟩]⟩ := by
  let c₁ : ConsoleClient := { openedClient with messages := messages }
  let c₂ : ConsoleClient := (c₁.setReady 0 fun _ => .closed).onclose ⟨0, by decide⟩
  let c₃ : ConsoleClient := c₂.onTimer .socket
  let c₄ : ConsoleClient := (c₃.setReady 1 fun _ => .opened).onopen "dev-token" 1
  have hclose : LinkStep parse sampleConfig "dev-token" ⟨c₁, [p]⟩ (.page (.onclose 0 ⟨0, by decide⟩)) ⟨c₂, [p]⟩ :=
    .page (s := ⟨c₁, [p]⟩) (l := .onclose 0 ⟨0, by decide⟩) (c := c₂) (fun _ _ h => by cases h) rfl
  have htimer : LinkStep parse sampleConfig "dev-token" ⟨c₂, [p]⟩ (.page (.onTimer .socket)) ⟨c₃, [p, Peer.fresh]⟩ :=
    .page (s := ⟨c₂, [p]⟩) (l := .onTimer .socket) (c := c₃) (fun _ _ h => by cases h) rfl
  have hopen : LinkStep parse sampleConfig "dev-token" ⟨c₃, [p, Peer.fresh]⟩ (.page (.onopen 1))
      ⟨c₄, [p, Peer.fresh]⟩ :=
    .page (s := ⟨c₃, [p, Peer.fresh]⟩) (l := .onopen 1) (c := c₄) (fun _ _ h => by cases h) rfl
  have hgreet : LinkStep parse sampleConfig "dev-token" ⟨c₄, [p, Peer.fresh]⟩ (.greet 1 ∅ false)
      ⟨c₄, [p, ⟨.admitted envAdmin, [helloOk envAdmin], 0⟩]⟩ :=
    .greet (s := ⟨c₄, [p, Peer.fresh]⟩) (k := ⟨.opened, [ConsoleClient.hello "dev-token"]⟩) rfl rfl rfl rfl
  exact .cons hclose (.cons htimer (.cons hopen (.single hgreet)))

section Kept

variable {parse cfg operatorToken} {s t : LinkState} {c : ConsoleClient} {l : LinkLabel} {ls : List LinkLabel}
  {p : Peer} {m : Json} {i : ℕ}

open ConsoleClient

/-- A label at which the token is not refused. -/
def LinkLabel.Accepts (cfg : Config) (operatorToken : String) : LinkLabel → Prop
  | .greet _ operators rewritten => ∃ r, validateOperatorToken cfg operators operatorToken rewritten = .ok r
  | _ => True

/-- A label at which the token is not accepted. -/
def LinkLabel.Refuses (cfg : Config) (operatorToken : String) : LinkLabel → Prop
  | .greet _ operators rewritten => ∃ e, validateOperatorToken cfg operators operatorToken rewritten = .error e
  | _ => True

/-- Nothing that the world has said is a refusal, and the client knows of none. -/
structure Kept (s : LinkState) : Prop where
  said : ∀ p ∈ s.peers, ∀ m ∈ p.said, m.getStr "type" ≠ some "auth_error"
  statuses : .authError ∉ s.client.statuses

theorem Kept.modifyPeer {f : Peer → Peer} (h : Kept s)
    (hf : ∀ p, s.peers[i]? = some p → ∀ m ∈ (f p).said, m ∈ p.said ∨ m.getStr "type" ≠ some "auth_error") :
    Kept (s.modifyPeer i f) := by
  refine ⟨fun p hp m hm => ?_, h.statuses⟩
  rcases mem_modify hp with hp | ⟨p', hp', rfl⟩
  · exact h.said p hp m hm
  · rcases hf p' hp' m hm with hm | htype
    · exact h.said p' (List.mem_of_getElem? hp') m hm
    · exact htype

theorem Kept.withClient (h : Kept s) (hstatuses : .authError ∈ c.statuses → .authError ∈ s.client.statuses) :
    Kept (s.withClient c) := by
  refine ⟨fun p hp => ?_, fun hmem => h.statuses (hstatuses hmem)⟩
  rcases List.mem_append.mp hp with hp | hp
  · exact h.said p hp
  · rw [List.eq_of_mem_replicate hp]
    exact fun m hm => absurd hm (List.not_mem_nil)

theorem Outbound.type_ne (h : Outbound m) : m.getStr "type" ≠ some "auth_error" := by
  obtain ⟨-, t, ht, htype⟩ := h
  intro heq
  rw [Option.some.inj (htype.symm.trans heq)] at ht
  exact absurd ht (by decide)

/-- One frame more. -/
theorem mem_said_or {more : Json} (htype : more.getStr "type" ≠ some "auth_error") {said : List Json} :
    ∀ m ∈ said ++ [more], m ∈ said ∨ m.getStr "type" ≠ some "auth_error" := by
  intro m hm
  rcases List.mem_append.mp hm with hm | hm
  · exact .inl hm
  · rw [List.mem_singleton.mp hm]
    exact .inr htype

/-- Where the token is not refused, the client goes on, but for a `close()`. -/
theorem Kept.step (h : Kept s) (hs : Linked operatorToken s) (hl : l.Accepts cfg operatorToken)
    (hst : LinkStep parse cfg operatorToken s l t) :
    Kept t ∧ (l ≠ .page .close → t.client.closedByUser = s.client.closedByUser) := by
  cases hst with
  | @page l c hmessage hc =>
      by_cases hclose : l = .close
      · subst hclose
        obtain ⟨-, -, hstatuses⟩ := calm_close (Option.some.inj hc).symm
        exact ⟨h.withClient fun hmem => hstatuses ▸ hmem, fun hne => absurd rfl hne⟩
      · have hcalm := calm_of_apply hc hmessage hclose
        exact ⟨h.withClient hcalm.statuses, fun _ => hcalm.closed⟩
  | @receive i p m text c hp hm htext hc =>
      have hopening := (hs.opening p (List.mem_of_getElem? hp)).1
      have htype := h.said p (List.mem_of_getElem? hp) m (List.mem_of_getElem? hm)
      have hframe : c = { s.client with messages := s.client.messages ++ [m] } := by
        cases apply_step hc with
        | onmessage hi => exact onmessage_frame htext (hopening.mem (List.mem_of_getElem? hm)) htype
      subst hframe
      have hclient : Kept { s with client := { s.client with messages := s.client.messages ++ [m] } } :=
        ⟨h.said, h.statuses⟩
      exact ⟨hclient.modifyPeer fun p' _ m' hm' => .inl hm', fun _ => rfl⟩
  | @greet i operators rewritten p k frame hp hphase hk hframe =>
      obtain ⟨⟨identity, table⟩, hvalid⟩ := hl
      rw [hs.frame_eq hk hframe]
      refine ⟨h.modifyPeer fun p' _ => ?_, fun _ => rfl⟩
      rw [greet_hello, hvalid]
      exact mem_said_or (by simp [helloOk, Json.getStr, Json.get, Json.asStr])
  | view hp hphase =>
      refine ⟨h.modifyPeer fun p' _ => ?_, fun _ => rfl⟩
      exact mem_said_or (by simp [viewFrame, Json.getStr, Json.get, Json.asStr])
  | skills hp hphase =>
      refine ⟨h.modifyPeer fun p' _ => ?_, fun _ => rfl⟩
      exact mem_said_or (by simp [skillsFrame, Json.getStr, Json.get, Json.asStr])
  | push hp hphase hframe => exact ⟨h.modifyPeer fun p' _ => mem_said_or hframe.type_ne, fun _ => rfl⟩
  | leave hp => exact ⟨h.modifyPeer fun p' _ m hm => .inl hm, fun _ => rfl⟩

/-- The world has said no more than a refusal. -/
def Turned (s : LinkState) : Prop := ∀ p ∈ s.peers, (p.phase = .greeting ∨ p.phase = .gone) ∧
  ∀ m ∈ p.said, m.getStr "type" = some "auth_error"

theorem Turned.modifyPeer {f : Peer → Peer} (h : Turned s)
    (hf : ∀ p, s.peers[i]? = some p → ((f p).phase = .greeting ∨ (f p).phase = .gone) ∧
      ∀ m ∈ (f p).said, m ∈ p.said ∨ m.getStr "type" = some "auth_error") : Turned (s.modifyPeer i f) := by
  intro p hp
  rcases mem_modify hp with hp | ⟨p', hp', rfl⟩
  · exact h p hp
  · obtain ⟨hphase, hsaid⟩ := hf p' hp'
    exact ⟨hphase, fun m hm => (hsaid m hm).elim ((h p' (List.mem_of_getElem? hp')).2 m) id⟩

theorem Turned.step (h : Turned s) (hs : Linked operatorToken s) (hl : l.Refuses cfg operatorToken)
    (hst : LinkStep parse cfg operatorToken s l t) : Turned t := by
  cases hst with
  | page hmessage hc =>
      intro p hp
      rcases List.mem_append.mp hp with hp | hp
      · exact h p hp
      · rw [List.eq_of_mem_replicate hp]
        exact ⟨.inl rfl, fun m hm => absurd hm List.not_mem_nil⟩
  | @receive i p m text c hp hm htext hc =>
      have hclient : Turned { s with client := c } := h
      exact hclient.modifyPeer fun p' hp' => ⟨(h p' (List.mem_of_getElem? hp')).1, fun m hm => .inl hm⟩
  | @greet i operators rewritten p k frame hp hphase hk hframe =>
      obtain ⟨e, hvalid⟩ := hl
      rw [hs.frame_eq hk hframe]
      refine h.modifyPeer fun p' _ => ?_
      rw [greet_hello, hvalid]
      refine ⟨.inr rfl, fun m hm => ?_⟩
      rcases List.mem_append.mp hm with hm | hm
      · exact .inl hm
      · rw [List.mem_singleton.mp hm]
        exact .inr rfl
  | @view i snapshot p identity hp hphase =>
      have hturned := (h p (List.mem_of_getElem? hp)).1
      rw [hphase] at hturned
      rcases hturned with hturned | hturned <;> cases hturned
  | @skills i db p identity hp hphase =>
      have hturned := (h p (List.mem_of_getElem? hp)).1
      rw [hphase] at hturned
      rcases hturned with hturned | hturned <;> cases hturned
  | @push i frame p identity hp hphase hframe =>
      have hturned := (h p (List.mem_of_getElem? hp)).1
      rw [hphase] at hturned
      rcases hturned with hturned | hturned <;> cases hturned
  | leave hp => exact h.modifyPeer fun p' hp' => ⟨.inr rfl, fun m hm => .inl hm⟩

end Kept

end Cliptown.Console
