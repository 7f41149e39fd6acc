import Cliptown.Console.Reassembly
import Cliptown.Lib.Runs
import Mathlib.Data.List.Flatten

/-!
# The connection of the console

The console's client, the sockets that it makes, and the browser that calls it back: a run starts where the page has
started its client, and any number of `close()` may follow.

* `ConsoleClient` — the fields of the client, its sockets, and what it has told the page.
* `connect`, `scheduleReconnect`, `close`, `send`, `onopen`, `onmessage`, `onclose`, `onTimer` — the client.
* `ClientLabel`, `clientSystem` — what can happen next, by the states of the sockets and the timer.
* `Standing`, `console_standing` — at most one socket that is not closed, none while a timer runs, and one of the two
  as long as the client may go on.
* `Silenced`, `console_silenced` — nothing comes of a client that has been closed or refused.
* `Voiced`, `console_voiced` — each connection begins with the hello; besides, what is sent is what `send` was given,
  in order and at most once.
* `streak`, `console_backoff` — the delay before the next connection, by the failures since the last one that opened.
-/

namespace Cliptown.Console

open Cliptown.Lib

/-! ### Sockets -/

/-- Source: `ws.ts` `ConnectionStatus` -/
inductive ConnectionStatus where
  | connecting
  | opened
  | authError
  | closed
  deriving DecidableEq

/-- The states of a socket of the browser. -/
inductive ReadyState where
  | connecting
  | opened
  | closing
  | closed
  deriving DecidableEq

/-- What `close()` makes of a socket: it is closed later. -/
def ReadyState.close : ReadyState → ReadyState
  | .connecting => .closing
  | .opened => .closing
  | .closing => .closing
  | .closed => .closed

/-- A socket, with the frames that have been sent over it. -/
structure Socket where
  readyState : ReadyState
  sent : List Json

/-- Source: `ws.ts` `BACKOFF_MS` -/
def backoffMs : List ℕ := [500, 1000, 2000, 5000, 10000]

/-- Source: `ws.ts` `MAX_JITTER_MS` -/
def maxJitterMs : ℕ := 250

/-! ### The client -/

/-- The client: a socket is its index among all that were made, a timer is its delay. The last three are the browser's
sockets and the calls of `onStatus` and `onMessage`. Source: `ws.ts` `ConsoleClient` -/
structure ConsoleClient where
  ws : Option ℕ
  closedByUser : Bool
  failures : ℕ
  chunks : Buffers
  reconnectTimer : Option ℕ
  sockets : List Socket
  statuses : List ConnectionStatus
  messages : List Json

/-- What comes of `new WebSocket`: a socket, or an exception, and then a delay with some jitter. -/
inductive Constructed where
  | socket
  | throws (jitter : Fin maxJitterMs)

/-- What a frame holds. -/
inductive FrameData where
  | text (s : String)
  | binary

namespace ConsoleClient

/-- Source: `ws.ts` `constructor` -/
def fresh : ConsoleClient where
  ws := none
  closedByUser := false
  failures := 0
  chunks := ∅
  reconnectTimer := none
  sockets := []
  statuses := []
  messages := []

/-- The state of a socket that was made. -/
def ready (s : ConsoleClient) (i : ℕ) : Option ReadyState := s.sockets[i]?.map Socket.readyState

/-- One socket changes. -/
def modifySocket (s : ConsoleClient) (i : ℕ) (f : Socket → Socket) : ConsoleClient :=
  { s with sockets := s.sockets.modify i f }

/-- The state of one socket changes. -/
def setReady (s : ConsoleClient) (i : ℕ) (f : ReadyState → ReadyState) : ConsoleClient :=
  s.modifySocket i fun k => { k with readyState := f k.readyState }

/-- `ws.send` on an open socket. -/
def sendOn (s : ConsoleClient) (i : ℕ) (msg : Json) : ConsoleClient :=
  s.modifySocket i fun k => { k with sent := k.sent ++ [msg] }

/-- `onStatus` -/
def onStatus (s : ConsoleClient) (status : ConnectionStatus) : ConsoleClient :=
  { s with statuses := s.statuses ++ [status] }

/-- Source: `ws.ts` `scheduleReconnect` -/
def scheduleReconnect (s : ConsoleClient) (jitter : Fin maxJitterMs) : ConsoleClient :=
  if s.closedByUser then s
  else
    let idx := min s.failures (backoffMs.length - 1)
    { s with failures := s.failures + 1, reconnectTimer := some (backoffMs.getD idx 0 + jitter) }

/-- Source: `ws.ts` `connect` -/
def connect (s : ConsoleClient) (made : Constructed) : ConsoleClient :=
  let s := s.onStatus .connecting
  match made with
  | .throws jitter => s.scheduleReconnect jitter
  | .socket => { s with ws := some s.sockets.length, sockets := s.sockets ++ [⟨.connecting, []⟩] }

/-- Source: `ws.ts` `start` -/
def start (s : ConsoleClient) (made : Constructed) : ConsoleClient :=
  connect { s with closedByUser := false } made

/-- Source: `ws.ts` `close` -/
def close (s : ConsoleClient) : ConsoleClient :=
  let s := { s with closedByUser := true, reconnectTimer := none }
  match s.ws with
  | none => s
  | some i => { s.setReady i ReadyState.close with ws := none }

/-- Source: `ws.ts` `send` -/
def send (s : ConsoleClient) (msg : Json) : ConsoleClient :=
  match s.ws with
  | none => s
  | some i => if s.ready i = some .opened then s.sendOn i msg else s

/-- The first frame of a connection. -/
def hello (operatorToken : String) : Json :=
  .obj [("type", .str "hello"), ("v", .int 1), ("operator_token", .str operatorToken)]

/-- Source: `ws.ts` `onopen` -/
def onopen (operatorToken : String) (s : ConsoleClient) (i : ℕ) : ConsoleClient :=
  (({ s with failures := 0 } : ConsoleClient).sendOn i (hello operatorToken)).onStatus .opened

/-- The object that a frame holds, if it holds one. `JSON.parse` is a parameter. Source: `ws.ts` `onmessage` -/
def readFrame (parse : String → Option Json) : FrameData → Option Json
  | .binary => none
  | .text s => (parse s).filter isObject

/-- Source: `ws.ts` `onmessage` -/
def onmessage (parse : String → Option Json) (s : ConsoleClient) (i : ℕ) (data : FrameData) : ConsoleClient :=
  match readFrame parse data with
  | none => s
  | some m =>
    if m.getStr "type" = some "auth_error" then
      { (s.onStatus .authError).setReady i ReadyState.close with closedByUser := true }
    else if m.getStr "type" = some "chunk_frame" then
      let r := handleChunk parse s.chunks m
      { s with chunks := r.1, messages := s.messages ++ r.2.toList }
    else { s with messages := s.messages ++ [m] }

/-- Source: `ws.ts` `onclose` -/
def onclose (s : ConsoleClient) (jitter : Fin maxJitterMs) : ConsoleClient :=
  let s := { s with ws := none }
  if s.closedByUser then s else (s.onStatus .closed).scheduleReconnect jitter

/-- The callback of the timer. Source: `ws.ts` `scheduleReconnect` -/
def onTimer (s : ConsoleClient) (made : Constructed) : ConsoleClient :=
  let s := { s with reconnectTimer := none }
  if s.closedByUser then s else s.connect made

end ConsoleClient

/-! ### Runs -/

/-- What can happen: the page calls `close` or `send`, or the browser calls back. A connection that the other side ends
is `closing` first; `onclose` may also come at once. -/
inductive ClientLabel where
  | close
  | send (msg : Json)
  | onopen (i : ℕ)
  | onmessage (i : ℕ) (data : FrameData)
  | closing (i : ℕ)
  | onclose (i : ℕ) (jitter : Fin maxJitterMs)
  | onTimer (made : Constructed)

variable (parse : String → Option Json) (operatorToken : String)

/-- The client after a label, if the browser lets it happen: a socket opens once, a message comes on an open socket
only, and a socket closes once. -/
def ClientLabel.apply (s : ConsoleClient) : ClientLabel → Option ConsoleClient
  | .close => some s.close
  | .send msg => some (s.send msg)
  | .onopen i =>
    if s.ready i = some .connecting then
      some ((s.setReady i fun _ => .opened).onopen operatorToken i)
    else none
  | .onmessage i data => if s.ready i = some .opened then some (s.onmessage parse i data) else none
  | .closing i =>
    if s.ready i = some .connecting ∨ s.ready i = some .opened then some (s.setReady i fun _ => .closing)
    else none
  | .onclose i jitter =>
    match s.ready i with
    | none => none
    | some .closed => none
    | some _ => some ((s.setReady i fun _ => .closed).onclose jitter)
  | .onTimer made => if s.reconnectTimer.isSome then some (s.onTimer made) else none

/-- A client that its page has started once, and does not start again. Source: `store.ts` `useConsole` -/
def clientSystem : System ConsoleClient ClientLabel where
  init s := ∃ made, s = ConsoleClient.fresh.start made
  step s l t := l.apply parse operatorToken s = some t

/-- The socket is made and not closed. -/
def ConsoleClient.Unclosed (s : ConsoleClient) (i : ℕ) : Prop := ∃ r, s.ready i = some r ∧ r ≠ .closed

/-- The socket may still carry something. -/
def ConsoleClient.Live (s : ConsoleClient) (i : ℕ) : Prop :=
  s.ready i = some .connecting ∨ s.ready i = some .opened

/-- What each label does, where it can happen. -/
inductive ClientStep (s : ConsoleClient) : ClientLabel → ConsoleClient → Prop
  | close : ClientStep s .close s.close
  | send (msg : Json) : ClientStep s (.send msg) (s.send msg)
  | onopen {i : ℕ} (hi : s.ready i = some .connecting) :
      ClientStep s (.onopen i) ((s.setReady i fun _ => .opened).onopen operatorToken i)
  | onmessage {i : ℕ} {data : FrameData} (hi : s.ready i = some .opened) :
      ClientStep s (.onmessage i data) (s.onmessage parse i data)
  | closing {i : ℕ} (hi : s.Live i) : ClientStep s (.closing i) (s.setReady i fun _ => .closing)
  | onclose {i : ℕ} {jitter : Fin maxJitterMs} (hi : s.Unclosed i) :
      ClientStep s (.onclose i jitter) ((s.setReady i fun _ => .closed).onclose jitter)
  | onTimer {made : Constructed} (htimer : s.reconnectTimer.isSome) :
      ClientStep s (.onTimer made) (s.onTimer made)

/-- Where a client stands: it has its last socket, it waits to make another, or it is over. -/
inductive Standing (s : ConsoleClient) : Prop
  | linked (i : ℕ) (hopen : s.closedByUser = false) (hws : s.ws = some i) (htimer : s.reconnectTimer = none)
      (hlast : i + 1 = s.sockets.length) (honly : ∀ j, s.Unclosed j ↔ j = i)
  | waiting (d : ℕ) (hopen : s.closedByUser = false) (hws : s.ws = none) (htimer : s.reconnectTimer = some d)
      (hnone : ∀ j, ¬ s.Unclosed j)
  | ended (hover : s.closedByUser = true) (htimer : s.reconnectTimer = none)
      (hlone : ∀ j k, s.Unclosed j → s.Unclosed k → j = k) (hdead : ∀ j, ¬ s.Live j)

/-! ### The states of the sockets -/

section Ready

variable {parse operatorToken} {s t : ConsoleClient} {i j : ℕ} {f : ReadyState → ReadyState}

namespace ConsoleClient

theorem ready_eq_some {r : ReadyState} : s.ready i = some r ↔ ∃ k, s.sockets[i]? = some k ∧ k.readyState = r :=
  Option.map_eq_some_iff

theorem ready_setReady : (s.setReady i f).ready j = if i = j then (s.ready j).map f else s.ready j := by
  simp only [ready, setReady, modifySocket, List.getElem?_modify]
  cases s.sockets[j]? <;> split_ifs <;> rfl

theorem ready_sendOn {msg : Json} : (s.sendOn i msg).ready j = s.ready j := by
  simp only [ready, sendOn, modifySocket, List.getElem?_modify]
  cases s.sockets[j]? <;> split_ifs <;> rfl

theorem length_modifySocket {g : Socket → Socket} : (s.modifySocket i g).sockets.length = s.sockets.length :=
  List.length_modify ..

theorem Live.unclosed (h : s.Live i) : s.Unclosed i := by
  rcases h with h | h
  · exact ⟨_, h, by decide⟩
  · exact ⟨_, h, by decide⟩

/-- A socket on which `close` has been called is not closed before `onclose`. -/
theorem unclosed_setReady_close : (s.setReady i ReadyState.close).Unclosed j ↔ s.Unclosed j := by
  rw [Unclosed, Unclosed, ready_setReady]
  split_ifs
  · cases s.ready j with
    | none => simp
    | some r => cases r <;> simp [ReadyState.close]
  · rfl

theorem live_setReady_close : (s.setReady i ReadyState.close).Live j ↔ j ≠ i ∧ s.Live j := by
  rw [Live, Live, ready_setReady]
  by_cases hij : i = j
  · subst hij
    cases s.ready i with
    | none => simp
    | some r => cases r <;> simp [ReadyState.close]
  · rw [if_neg hij]
    exact ⟨fun h => ⟨Ne.symm hij, h⟩, And.right⟩

theorem unclosed_setReady_closed : (s.setReady i fun _ => .closed).Unclosed j ↔ j ≠ i ∧ s.Unclosed j := by
  rw [Unclosed, Unclosed, ready_setReady]
  by_cases hij : i = j
  · subst hij
    cases s.ready i <;> simp
  · rw [if_neg hij]
    exact ⟨fun h => ⟨Ne.symm hij, h⟩, And.right⟩

theorem live_setReady_closed (h : (s.setReady i fun _ => .closed).Live j) : s.Live j := by
  have hne : i ≠ j := by
    rintro rfl
    exact (unclosed_setReady_closed.mp h.unclosed).1 rfl
  rwa [Live, ready_setReady, if_neg hne] at h

/-- A socket that opens or begins to close was not closed, and is not closed. -/
theorem unclosed_setReady_of_live {r : ReadyState} (hi : s.Live i) (hr : r ≠ .closed) :
    (s.setReady i fun _ => r).Unclosed j ↔ s.Unclosed j := by
  by_cases hij : i = j
  · subst hij
    refine ⟨fun _ => hi.unclosed, fun ⟨r', hr', _⟩ => ⟨r, ?_, hr⟩⟩
    rw [ready_setReady, if_pos rfl, hr']
    rfl
  · rw [Unclosed, Unclosed, ready_setReady, if_neg hij]

theorem live_setReady_of_live {r : ReadyState} (hi : s.Live i) (h : (s.setReady i fun _ => r).Live j) :
    s.Live j := by
  by_cases hij : i = j
  · exact hij ▸ hi
  · rwa [Live, ready_setReady, if_neg hij] at h

/-- The sockets after one more was made. -/
theorem ready_connect_socket :
    (s.connect .socket).ready j = if j = s.sockets.length then some .connecting else s.ready j := by
  simp only [connect, ready, onStatus, List.getElem?_append]
  split_ifs with h₁ h₂ h₂
  · omega
  · rfl
  · rw [h₂, Nat.sub_self]
    rfl
  · rw [List.getElem?_eq_none (by rw [List.length_singleton]; omega), List.getElem?_eq_none (by omega)]

end ConsoleClient

end Ready

/-! ### The client by its flag -/

section Flag

variable {parse operatorToken} {s t : ConsoleClient}

open ConsoleClient

theorem scheduleReconnect_of_open (jitter : Fin maxJitterMs) (h : s.closedByUser = false) :
    s.scheduleReconnect jitter = { s with
      failures := s.failures + 1
      reconnectTimer := some (backoffMs.getD (min s.failures (backoffMs.length - 1)) 0 + jitter) } := by
  rw [scheduleReconnect, if_neg (by simp [h])]

theorem onclose_of_open (jitter : Fin maxJitterMs) (h : s.closedByUser = false) :
    s.onclose jitter =
      (({ s with ws := none } : ConsoleClient).onStatus .closed).scheduleReconnect jitter := by
  rw [ConsoleClient.onclose, if_neg (by simp [h])]

theorem onclose_of_over (jitter : Fin maxJitterMs) (h : s.closedByUser = true) :
    s.onclose jitter = { s with ws := none } := by
  rw [ConsoleClient.onclose, if_pos h]

theorem onTimer_of_open (made : Constructed) (h : s.closedByUser = false) :
    s.onTimer made = ({ s with reconnectTimer := none } : ConsoleClient).connect made := by
  rw [ConsoleClient.onTimer, if_neg (by simp [h])]

theorem apply_step {l : ClientLabel} (h : l.apply parse operatorToken s = some t) :
    ClientStep parse operatorToken s l t := by
  cases l with
  | close =>
      cases h
      exact .close
  | send msg =>
      cases h
      exact .send msg
  | onopen i =>
      obtain ⟨hi, ht⟩ := Option.ite_none_right_eq_some.mp h
      cases ht
      exact .onopen hi
  | onmessage i data =>
      obtain ⟨hi, ht⟩ := Option.ite_none_right_eq_some.mp h
      cases ht
      exact .onmessage hi
  | closing i =>
      obtain ⟨hi, ht⟩ := Option.ite_none_right_eq_some.mp h
      cases ht
      exact .closing hi
  | onclose i jitter =>
      simp only [ClientLabel.apply] at h
      split at h
      · cases h
      · cases h
      · next r hne hr =>
          cases h
          exact .onclose ⟨r, hr, fun heq => hne heq⟩
  | onTimer made =>
      obtain ⟨htimer, ht⟩ := Option.ite_none_right_eq_some.mp h
      cases ht
      exact .onTimer htimer

end Flag

/-! ### Where a client stands -/

section Standing

variable {parse operatorToken} {s t : ConsoleClient} {i : ℕ}

open ConsoleClient

/-- A change of the sockets that closes none. -/
theorem Standing.mono (h : Standing s) (hclosed : t.closedByUser = s.closedByUser) (hws : t.ws = s.ws)
    (htimer : t.reconnectTimer = s.reconnectTimer) (hlength : t.sockets.length = s.sockets.length)
    (hunclosed : ∀ j, t.Unclosed j ↔ s.Unclosed j) (hlive : ∀ j, t.Live j → s.Live j) : Standing t := by
  cases h with
  | linked i hopen hws' htimer' hlast honly =>
      exact .linked i (hclosed.trans hopen) (hws.trans hws') (htimer.trans htimer') (by rw [hlength, hlast])
        fun j => (hunclosed j).trans (honly j)
  | waiting d hopen hws' htimer' hnone =>
      exact .waiting d (hclosed.trans hopen) (hws.trans hws') (htimer.trans htimer')
        fun j hj => hnone j ((hunclosed j).mp hj)
  | ended hover htimer' hlone hdead =>
      exact .ended (hclosed.trans hover) (htimer.trans htimer')
        (fun j k hj hk => hlone j k ((hunclosed j).mp hj) ((hunclosed k).mp hk))
        fun j hj => hdead j (hlive j hj)

/-- While a socket may carry something, the client has it. -/
theorem Standing.linked_of_live (h : Standing s) (hi : s.Live i) :
    s.closedByUser = false ∧ s.ws = some i ∧ s.reconnectTimer = none ∧ i + 1 = s.sockets.length ∧
      ∀ j, s.Unclosed j ↔ j = i := by
  cases h with
  | linked i' hopen hws htimer hlast honly =>
      obtain rfl := (honly i).mp hi.unclosed
      exact ⟨hopen, hws, htimer, hlast, honly⟩
  | waiting d hopen hws htimer hnone => exact absurd hi.unclosed (hnone i)
  | ended hover htimer hlone hdead => exact absurd hi (hdead i)

/-- With no socket left, the client waits. -/
theorem standing_scheduleReconnect (jitter : Fin maxJitterMs) (hopen : s.closedByUser = false)
    (hws : s.ws = none) (hnone : ∀ j, ¬ s.Unclosed j) : Standing (s.scheduleReconnect jitter) := by
  rw [scheduleReconnect_of_open jitter hopen]
  exact .waiting _ hopen hws rfl hnone

/-- With no socket and no timer left, the client makes a socket, or waits. -/
theorem standing_connect (made : Constructed) (hopen : s.closedByUser = false) (hws : s.ws = none)
    (htimer : s.reconnectTimer = none) (hnone : ∀ j, ¬ s.Unclosed j) : Standing (s.connect made) := by
  cases made with
  | throws jitter => exact standing_scheduleReconnect jitter hopen hws hnone
  | socket =>
      refine .linked s.sockets.length hopen rfl htimer (by simp [connect, onStatus]) fun j => ?_
      rw [Unclosed, ready_connect_socket]
      split_ifs with hj
      · simp [hj]
      · exact ⟨fun h => absurd h (hnone j), fun h => absurd h hj⟩

theorem Standing.close (h : Standing s) : Standing s.close := by
  cases h with
  | linked i hopen hws htimer hlast honly =>
      simp only [ConsoleClient.close, hws]
      refine .ended rfl rfl (fun j k hj hk => ?_) fun j hj => ?_
      · rw [(honly j).mp (unclosed_setReady_close.mp hj), (honly k).mp (unclosed_setReady_close.mp hk)]
      · obtain ⟨hne, hlive⟩ := live_setReady_close.mp hj
        exact hne ((honly j).mp hlive.unclosed)
  | waiting d hopen hws htimer hnone =>
      simp only [ConsoleClient.close, hws]
      exact .ended rfl rfl (fun j _ hj _ => absurd hj (hnone j)) fun j hj => hnone j hj.unclosed
  | ended hover htimer hlone hdead =>
      rw [ConsoleClient.close]
      split
      · exact .ended rfl rfl hlone hdead
      · refine .ended rfl rfl (fun j k hj hk => ?_) fun j hj => ?_
        · exact hlone j k (unclosed_setReady_close.mp hj) (unclosed_setReady_close.mp hk)
        · exact hdead j (live_setReady_close.mp hj).2

theorem Standing.sendOn (h : Standing s) (msg : Json) : Standing (s.sendOn i msg) :=
  h.mono rfl rfl rfl length_modifySocket (fun j => by rw [Unclosed, Unclosed, ready_sendOn])
    fun j hj => by rwa [Live, ready_sendOn] at hj

theorem Standing.send (h : Standing s) (msg : Json) : Standing (s.send msg) := by
  rw [ConsoleClient.send]
  split
  · exact h
  · split
    · exact h.sendOn msg
    · exact h

/-- A socket that opens, or begins to close. -/
theorem Standing.setReady (h : Standing s) (hi : s.Live i) {r : ReadyState} (hr : r ≠ .closed) :
    Standing (s.setReady i fun _ => r) :=
  h.mono rfl rfl rfl length_modifySocket (fun _ => unclosed_setReady_of_live hi hr)
    fun _ => live_setReady_of_live hi

theorem Standing.onopen (h : Standing s) : Standing (s.onopen operatorToken i) :=
  (h.sendOn (hello operatorToken)).mono rfl rfl rfl rfl (fun _ => Iff.rfl) fun _ hj => hj

/-- A refusal ends the client; any other message leaves its sockets alone. -/
theorem Standing.onmessage (h : Standing s) (hi : s.ready i = some .opened) (data : FrameData) :
    Standing (s.onmessage parse i data) := by
  rw [ConsoleClient.onmessage]
  split
  · exact h
  · split_ifs
    · obtain ⟨-, -, htimer, -, honly⟩ := h.linked_of_live (.inr hi)
      refine .ended rfl htimer (fun j k hj hk => ?_) fun j hj => ?_
      · rw [(honly j).mp (unclosed_setReady_close.mp hj), (honly k).mp (unclosed_setReady_close.mp hk)]
      · obtain ⟨hne, hlive⟩ := live_setReady_close.mp hj
        exact hne ((honly j).mp (Live.unclosed hlive))
    · exact h.mono rfl rfl rfl rfl (fun _ => Iff.rfl) fun _ hj => hj
    · exact h.mono rfl rfl rfl rfl (fun _ => Iff.rfl) fun _ hj => hj

/-- The last socket of a client that goes on closes: it waits. -/
theorem Standing.onclose (h : Standing s) (hi : s.Unclosed i) (jitter : Fin maxJitterMs) :
    Standing ((s.setReady i fun _ => .closed).onclose jitter) := by
  cases h with
  | linked i' hopen hws htimer hlast honly =>
      have hnone : ∀ j, ¬ (s.setReady i fun _ => .closed).Unclosed j := by
        intro j hj
        obtain ⟨hne, hunclosed⟩ := unclosed_setReady_closed.mp hj
        exact hne (((honly j).mp hunclosed).trans ((honly i).mp hi).symm)
      rw [onclose_of_open (s := s.setReady i fun _ => .closed) jitter hopen]
      exact standing_scheduleReconnect jitter hopen rfl hnone
  | waiting d hopen hws htimer hnone => exact absurd hi (hnone i)
  | ended hover htimer hlone hdead =>
      rw [onclose_of_over (s := s.setReady i fun _ => .closed) jitter hover]
      refine .ended hover htimer (fun j k hj hk => ?_) fun j hj => hdead j (live_setReady_closed hj)
      exact hlone j k (unclosed_setReady_closed.mp hj).2 (unclosed_setReady_closed.mp hk).2

theorem Standing.onTimer (h : Standing s) (htimer : s.reconnectTimer.isSome) (made : Constructed) :
    Standing (s.onTimer made) := by
  cases h with
  | linked i hopen hws hnone hlast honly => simp [hnone] at htimer
  | waiting d hopen hws htimer' hnone =>
      rw [onTimer_of_open made hopen]
      exact standing_connect made hopen hws rfl hnone
  | ended hover hnone hlone hdead => simp [hnone] at htimer

theorem Standing.step {l : ClientLabel} (h : Standing s) (hst : l.apply parse operatorToken s = some t) :
    Standing t := by
  cases apply_step hst with
  | close => exact h.close
  | send msg => exact h.send msg
  | onopen hi => exact (h.setReady (.inl hi) (by decide)).onopen
  | onmessage hi => exact h.onmessage hi _
  | closing hi => exact h.setReady hi (by decide)
  | onclose hi => exact h.onclose hi _
  | onTimer htimer => exact h.onTimer htimer _

theorem standing_start (made : Constructed) : Standing (ConsoleClient.fresh.start made) :=
  standing_connect made rfl rfl rfl fun j ⟨r, hr, _⟩ => by simp [ready, fresh] at hr

theorem standing_of_reachable (h : (clientSystem parse operatorToken).Reachable s) : Standing s := by
  refine h.invariant (fun s => ?_) fun s l t hs hst => hs.step hst
  rintro ⟨made, rfl⟩
  exact standing_start made

end Standing

/-! ### A client that goes on -/

section Progress

variable {s t : ConsoleClient} {i : ℕ}

open ConsoleClient

/-- Callbacks of the browser. -/
def ClientLabel.OfBrowser : ClientLabel → Prop
  | .close => False
  | .send _ => False
  | _ => True

/-- The client has an open socket. -/
def ConsoleClient.Connected (s : ConsoleClient) : Prop := ∃ i, s.ws = some i ∧ s.ready i = some .opened

/-- Callbacks of the browser lead from the client to an open socket. -/
def CanConnect (s : ConsoleClient) : Prop :=
  ∃ ls t, Run (clientSystem parse operatorToken).step s ls t ∧ (∀ l ∈ ls, l.OfBrowser) ∧ t.Connected

variable {parse operatorToken}

theorem CanConnect.of_step {l : ClientLabel} (hl : l.OfBrowser) (hst : l.apply parse operatorToken s = some t)
    (h : CanConnect parse operatorToken t) : CanConnect parse operatorToken s := by
  obtain ⟨ls, u, hrun, hls, hu⟩ := h
  exact ⟨l :: ls, u, .cons hst hrun, List.forall_mem_cons.mpr ⟨hl, hls⟩, hu⟩

theorem canConnect_of_connecting (hws : s.ws = some i) (hi : s.ready i = some .connecting) :
    CanConnect parse operatorToken s := by
  refine .of_step (l := .onopen i) trivial (if_pos hi) ⟨[], _, .nil _, by simp, i, hws, ?_⟩
  have hready : ((s.setReady i fun _ => .opened).sendOn i (hello operatorToken)).ready i = some .opened := by
    rw [ready_sendOn, ready_setReady, if_pos rfl, hi]
    rfl
  exact hready

theorem canConnect_of_timer (hopen : s.closedByUser = false) (htimer : s.reconnectTimer.isSome) :
    CanConnect parse operatorToken s := by
  refine .of_step (l := .onTimer .socket) trivial (if_pos htimer) ?_
  rw [onTimer_of_open _ hopen]
  refine canConnect_of_connecting rfl ?_
  rw [ready_connect_socket]
  exact if_pos rfl

theorem canConnect_scheduleReconnect (jitter : Fin maxJitterMs) (hopen : s.closedByUser = false) :
    CanConnect parse operatorToken (s.scheduleReconnect jitter) := by
  rw [scheduleReconnect_of_open jitter hopen]
  exact canConnect_of_timer hopen rfl

/-- A client that goes on gets an open socket, whatever has failed before. -/
theorem Standing.canConnect (h : Standing s) (hopen : s.closedByUser = false) :
    CanConnect parse operatorToken s := by
  cases h with
  | linked i _ hws htimer hlast honly =>
      obtain ⟨r, hr, hne⟩ := (honly i).mpr rfl
      cases r with
      | connecting => exact canConnect_of_connecting hws hr
      | opened => exact ⟨[], s, .nil s, by simp, i, hws, hr⟩
      | closing =>
          let jitter : Fin maxJitterMs := ⟨0, by decide⟩
          have hst : (ClientLabel.onclose i jitter).apply parse operatorToken s =
              some ((s.setReady i fun _ => .closed).onclose jitter) := by
            simp only [ClientLabel.apply, hr]
          refine .of_step (l := .onclose i jitter) trivial hst ?_
          rw [onclose_of_open (s := s.setReady i fun _ => .closed) jitter hopen]
          exact canConnect_scheduleReconnect jitter hopen
      | closed => exact absurd rfl hne
  | waiting d _ hws htimer hnone => exact canConnect_of_timer hopen (by rw [htimer]; rfl)
  | ended hover htimer hlone hdead => exact absurd (hopen.symm.trans hover) (by decide)

/-- **One connection at a time, and always another**: of the sockets that were made, at most one is not closed, and none
while a timer runs; as long as the client is neither closed nor refused, a timer runs or the client has a socket that
is not closed, and the browser's callbacks alone can lead to an open one. -/
theorem console_standing (h : (clientSystem parse operatorToken).Reachable s) :
    (∀ i j, s.Unclosed i → s.Unclosed j → i = j) ∧
      (s.reconnectTimer.isSome → ∀ i, ¬ s.Unclosed i) ∧
      (s.closedByUser = false → (s.reconnectTimer.isSome ∨ ∃ i, s.ws = some i ∧ s.Unclosed i) ∧
        CanConnect parse operatorToken s) := by
  have hs := standing_of_reachable h
  refine ⟨?_, ?_, fun hopen => ⟨?_, hs.canConnect hopen⟩⟩
  · intro i j hi hj
    cases hs with
    | linked k hopen hws htimer hlast honly => exact ((honly i).mp hi).trans ((honly j).mp hj).symm
    | waiting d hopen hws htimer hnone => exact absurd hi (hnone i)
    | ended hover htimer hlone hdead => exact hlone i j hi hj
  · intro htimer i hi
    cases hs with
    | linked k hopen hws hnone hlast honly => simp [hnone] at htimer
    | waiting d hopen hws _ hnone => exact hnone i hi
    | ended hover hnone hlone hdead => simp [hnone] at htimer
  · cases hs with
    | linked k _ hws htimer hlast honly => exact .inr ⟨k, hws, (honly k).mpr rfl⟩
    | waiting d _ hws htimer hnone => exact .inl (by rw [htimer]; rfl)
    | ended hover htimer hlone hdead => exact absurd (hopen.symm.trans hover) (by decide)

/-- A client whose first socket has opened. -/
def openedClient : ConsoleClient :=
  ((ConsoleClient.fresh.start .socket).setReady 0 fun _ => .opened).onopen "dev-token" 0

theorem openedClient_run (parse : String → Option Json) :
    Run (clientSystem parse "dev-token").step (ConsoleClient.fresh.start .socket) [.onopen 0] openedClient :=
  .single rfl

theorem reachable_openedClient (parse : String → Option Json) :
    (clientSystem parse "dev-token").Reachable openedClient :=
  have hinit : (clientSystem parse "dev-token").init (ConsoleClient.fresh.start .socket) := ⟨.socket, rfl⟩
  (System.Reachable.init hinit).run (openedClient_run parse)

/-- It has one socket, and may go on. -/
theorem console_standing_opened : openedClient.Unclosed 0 ∧
    (∀ i j, openedClient.Unclosed i → openedClient.Unclosed j → i = j) ∧
    CanConnect (fun _ => none) "dev-token" openedClient := by
  have h := console_standing (reachable_openedClient fun _ => none)
  exact ⟨⟨.opened, rfl, by decide⟩, h.1, (h.2.2 rfl).2⟩

end Progress

/-! ### A client that is over -/

section Silenced

variable {parse operatorToken} {s t : ConsoleClient} {i : ℕ} {l : ClientLabel} {ls : List ClientLabel}

open ConsoleClient

/-- What has come of the client: what it has told the page, and what it has sent over each of its sockets. -/
def ConsoleClient.output (s : ConsoleClient) : List ConnectionStatus × List Json × List (List Json) :=
  (s.statuses, s.messages, s.sockets.map Socket.sent)

/-- A change of one element that a function does not see. -/
theorem map_modify_of_eq {α β : Type*} {g : α → β} {f : α → α} (l : List α) (i : ℕ)
    (h : ∀ a, l[i]? = some a → g (f a) = g a) : (l.modify i f).map g = l.map g := by
  refine List.ext_getElem? fun j => ?_
  rw [List.getElem?_map, List.getElem?_map, List.getElem?_modify]
  by_cases hij : i = j
  · subst hij
    cases hl : l[i]? with
    | none => rfl
    | some a => simp [h a hl]
  · simp [hij]

theorem output_setReady {f : ReadyState → ReadyState} : (s.setReady i f).output = s.output := by
  have hsent : (s.setReady i f).sockets.map Socket.sent = s.sockets.map Socket.sent :=
    map_modify_of_eq s.sockets i fun _ _ => rfl
  rw [output, output, hsent]
  rfl

/-- The client is over, and this is what has come of it. -/
structure Silenced (output : List ConnectionStatus × List Json × List (List Json)) (s : ConsoleClient) : Prop where
  standing : Standing s
  ended : s.closedByUser = true
  output : s.output = output

theorem Silenced.dead {output : List ConnectionStatus × List Json × List (List Json)} (h : Silenced output s) :
    s.reconnectTimer = none ∧ ∀ i, ¬ s.Live i := by
  rcases h.standing with ⟨_, hopen⟩ | ⟨_, hopen⟩ | ⟨_, htimer, _, hdead⟩
  · exact absurd (hopen.symm.trans h.ended) (by decide)
  · exact absurd (hopen.symm.trans h.ended) (by decide)
  · exact ⟨htimer, hdead⟩

/-- What may still happen is that its last socket closes. -/
theorem Silenced.step {output : List ConnectionStatus × List Json × List (List Json)} (h : Silenced output s)
    (hst : l.apply parse operatorToken s = some t) : Silenced output t := by
  obtain ⟨htimer, hdead⟩ := h.dead
  have ht := h.standing.step hst
  cases apply_step hst with
  | close =>
      refine ⟨ht, ?_, ?_⟩
      · rw [ConsoleClient.close]
        split <;> rfl
      · rw [ConsoleClient.close]
        split
        · exact h.output
        · exact output_setReady.trans h.output
  | send msg =>
      have hsend : s.send msg = s := by
        rw [ConsoleClient.send]
        split
        · rfl
        · next i hws => exact if_neg fun hi => hdead i (.inr hi)
      rwa [hsend]
  | onopen hi => exact absurd (.inl hi) (hdead _)
  | onmessage hi => exact absurd (.inr hi) (hdead _)
  | closing hi => exact absurd hi (hdead _)
  | @onclose i jitter hi =>
      have hover : (s.setReady i fun _ => .closed).closedByUser = true := h.ended
      rw [onclose_of_over jitter hover] at ht ⊢
      have houtput : (s.setReady i fun _ => .closed).output = output := output_setReady.trans h.output
      exact ⟨ht, hover, houtput⟩
  | onTimer hsome => simp [htimer] at hsome

/-- **After `close()` and after `auth_error` nothing comes of the client** that is not started again: it makes no
socket, sends nothing, and tells the page nothing, whatever else is called afterwards. -/
theorem console_silenced (h : (clientSystem parse operatorToken).Reachable s)
    (hrun : Run (clientSystem parse operatorToken).step s ls t) (hover : s.closedByUser = true) :
    t.output = s.output :=
  (hrun.preserves (fun _ _ _ hs hst => Silenced.step hs hst)
    ⟨standing_of_reachable h, hover, rfl⟩ : Silenced s.output t).output

/-- The text of a refusal. -/
def refusalText : String := "\x7b\"type\":\"auth_error\"\x7d"

/-- What that text holds; others are none here. -/
def parseRefusal (text : String) : Option Json :=
  if text = refusalText then some (.obj [("type", .str "auth_error")]) else none

/-- A client that was refused, and sends on a closed connection what its page asks for. -/
theorem console_silenced_refused : ∃ s t : ConsoleClient, .authError ∈ s.statuses ∧
    Run (clientSystem parseRefusal "dev-token").step s [.send (.obj []), .onclose 0 ⟨0, by decide⟩, .close] t ∧
      t.output = s.output := by
  let s := openedClient.onmessage parseRefusal 0 (.text refusalText)
  have hs : (clientSystem parseRefusal "dev-token").Reachable s :=
    .step (l := .onmessage 0 (.text refusalText)) (reachable_openedClient parseRefusal) rfl
  have hrun : Run (clientSystem parseRefusal "dev-token").step s
      [.send (.obj []), .onclose 0 ⟨0, by decide⟩, .close] _ := .cons rfl (.cons rfl (.single rfl))
  exact ⟨s, _, by decide, hrun, console_silenced hs hrun rfl⟩

end Silenced

/-! ### What is sent -/

section Voiced

variable {parse operatorToken} {s t : ConsoleClient} {sockets : List Socket} {i : ℕ} {l : ClientLabel}
  {ls : List ClientLabel} {given : List Json}

open ConsoleClient

/-- What `send` is given. -/
def ClientLabel.msgs : ClientLabel → List Json
  | .send msg => [msg]
  | _ => []

/-- What was sent over a socket: nothing before it opens, and then the hello first. -/
structure Greets (operatorToken : String) (k : Socket) : Prop where
  before : k.readyState = .connecting → k.sent = []
  after : k.readyState = .opened → k.sent ≠ []
  first : k.sent ≠ [] → k.sent.head? = some (hello operatorToken)

/-- The frames of all connections, hellos apart. -/
def carriedFrames (sockets : List Socket) : List Json := sockets.flatMap fun k => k.sent.tail

/-- Each socket greets; besides, what was sent is from what `send` was given, in its order. -/
structure Voiced (operatorToken : String) (sockets : List Socket) (given : List Json) : Prop where
  greets : ∀ k ∈ sockets, Greets operatorToken k
  carried : (carriedFrames sockets).Sublist given

theorem Greets.setReady {k : Socket} {r : ReadyState} (h : Greets operatorToken k)
    (hr : r ≠ .connecting ∧ r ≠ .opened) : Greets operatorToken { k with readyState := r } :=
  ⟨fun heq => absurd heq hr.1, fun heq => absurd heq hr.2, h.first⟩

theorem close_ne (r : ReadyState) : r.close ≠ .connecting ∧ r.close ≠ .opened := by
  cases r <;> decide

theorem Greets.append {k : Socket} (h : Greets operatorToken k) (hk : k.readyState = .opened) (msg : Json) :
    Greets operatorToken { k with sent := k.sent ++ [msg] } := by
  have hne := h.after hk
  refine ⟨fun heq => ?_, fun _ => by simp, fun _ => ?_⟩
  · rw [show k.readyState = .connecting from heq] at hk
    cases hk
  · rw [List.head?_append_of_ne_nil _ hne]
    exact h.first hne

/-- Where one element changes. -/
theorem mem_modify {α : Type*} {l : List α} {i : ℕ} {f : α → α} {b : α} (h : b ∈ l.modify i f) :
    b ∈ l ∨ ∃ a, l[i]? = some a ∧ b = f a := by
  obtain ⟨j, hj⟩ := List.mem_iff_getElem?.mp h
  rw [List.getElem?_modify, Option.map_eq_map, Option.map_eq_some_iff] at hj
  obtain ⟨a, ha, rfl⟩ := hj
  split_ifs with hij
  · subst hij
    exact .inr ⟨a, ha, rfl⟩
  · exact .inl (List.mem_of_getElem? ha)

/-- A change of the last element. -/
theorem flatMap_modify_last {α β : Type*} {g : α → List β} {f : α → α} {l : List α} {i : ℕ} {a : α} {bs : List β}
    (hi : l[i]? = some a) (hlast : i + 1 = l.length) (h : g (f a) = g a ++ bs) :
    (l.modify i f).flatMap g = l.flatMap g ++ bs := by
  obtain ⟨hlt, rfl⟩ := List.getElem?_eq_some_iff.mp hi
  have hdrop : l.drop (i + 1) = [] := by rw [hlast, List.drop_length]
  have hl : l = l.take i ++ [l[i]] := by
    conv_lhs => rw [← List.take_append_drop i l, List.drop_eq_getElem_cons hlt, hdrop]
  have hmodify : l.modify i f = l.take i ++ [f l[i]] := by
    rw [List.modify_eq_take_cons_drop hlt, hdrop]
  calc (l.modify i f).flatMap g = (l.take i).flatMap g ++ g l[i] ++ bs := by
        rw [hmodify, List.flatMap_append, List.flatMap_singleton, h, List.append_assoc]
    _ = (l.take i ++ [l[i]]).flatMap g ++ bs := by
        rw [List.flatMap_append, List.flatMap_singleton]
    _ = l.flatMap g ++ bs := by rw [← hl]

/-- A change of one socket that adds nothing to what it carries. -/
theorem Voiced.modify {f : Socket → Socket} (h : Voiced operatorToken sockets given)
    (hf : ∀ k, sockets[i]? = some k → Greets operatorToken (f k) ∧ (f k).sent.tail = k.sent.tail) :
    Voiced operatorToken (sockets.modify i f) given := by
  constructor
  · intro k hk
    rcases mem_modify hk with hk | ⟨k', hk', rfl⟩
    · exact h.greets k hk
    · exact (hf k' hk').1
  · rw [carriedFrames, List.flatMap_def, map_modify_of_eq sockets i fun k hk => (hf k hk).2,
      ← List.flatMap_def]
    exact h.carried

/-- A socket closes, or begins to. -/
theorem Voiced.setReady {f : ReadyState → ReadyState} (h : Voiced operatorToken s.sockets given)
    (hf : ∀ r, f r ≠ .connecting ∧ f r ≠ .opened) : Voiced operatorToken (s.setReady i f).sockets given :=
  h.modify fun k hk => ⟨(h.greets k (List.mem_of_getElem? hk)).setReady (hf k.readyState), rfl⟩

theorem Voiced.mono {given' : List Json} (h : Voiced operatorToken sockets given) :
    Voiced operatorToken sockets (given ++ given') :=
  ⟨h.greets, h.carried.trans (List.sublist_append_left given given')⟩

/-- The hello of a socket that opens. -/
theorem Voiced.onopen (h : Voiced operatorToken s.sockets given) (hi : s.ready i = some .connecting) :
    Voiced operatorToken ((s.setReady i fun _ => .opened).onopen operatorToken i).sockets given := by
  have hsockets : ((s.setReady i fun _ => .opened).onopen operatorToken i).sockets =
      s.sockets.modify i ((fun k : Socket => { k with sent := k.sent ++ [hello operatorToken] }) ∘
        fun k => { k with readyState := .opened }) := List.modify_modify_eq ..
  rw [hsockets]
  refine h.modify fun k hk => ?_
  obtain ⟨k', hk', hconnecting⟩ := ready_eq_some.mp hi
  obtain rfl : k' = k := Option.some.inj (hk'.symm.trans hk)
  have hsent : k'.sent = [] := (h.greets k' (List.mem_of_getElem? hk)).before hconnecting
  exact ⟨⟨fun heq => absurd heq (by simp), fun _ => by simp, fun _ => by simp [hsent]⟩, by simp [hsent]⟩

/-- What `send` puts on the open socket, which is the last one. -/
theorem Voiced.send (h : Voiced operatorToken s.sockets given) (hs : Standing s) (msg : Json) :
    Voiced operatorToken (s.send msg).sockets (given ++ [msg]) := by
  rw [ConsoleClient.send]
  split
  · exact h.mono
  · next i _ =>
      split_ifs with hi
      · obtain ⟨-, -, -, hlast, -⟩ := hs.linked_of_live (.inr hi)
        obtain ⟨k, hk, hopened⟩ := ready_eq_some.mp hi
        have hgreets := h.greets k (List.mem_of_getElem? hk)
        constructor
        · intro k' hk'
          rcases mem_modify hk' with hk' | ⟨k'', hk'', rfl⟩
          · exact h.greets k' hk'
          · obtain rfl : k'' = k := Option.some.inj (hk''.symm.trans hk)
            exact hgreets.append hopened msg
        · have hcarried : carriedFrames (s.sendOn i msg).sockets =
              carriedFrames s.sockets ++ [msg] :=
            flatMap_modify_last (g := fun k : Socket => k.sent.tail) hk hlast
              (List.tail_append_of_ne_nil (hgreets.after hopened))
          rw [hcarried]
          exact h.carried.append (List.Sublist.refl [msg])
      · exact h.mono

theorem sockets_scheduleReconnect (jitter : Fin maxJitterMs) :
    (s.scheduleReconnect jitter).sockets = s.sockets := by
  rw [scheduleReconnect]
  split_ifs <;> rfl

theorem Voiced.connect (h : Voiced operatorToken s.sockets given) (made : Constructed) :
    Voiced operatorToken (s.connect made).sockets given := by
  cases made with
  | throws jitter =>
      have hsockets : (s.connect (.throws jitter)).sockets = s.sockets := sockets_scheduleReconnect jitter
      rwa [hsockets]
  | socket =>
      constructor
      · intro k hk
        rcases List.mem_append.mp hk with hk | hk
        · exact h.greets k hk
        · rw [List.mem_singleton.mp hk]
          exact ⟨fun _ => rfl, fun heq => (by cases heq), fun hne => absurd rfl hne⟩
      · have hcarried : carriedFrames (s.connect .socket).sockets = carriedFrames s.sockets := by
          simp [ConsoleClient.connect, carriedFrames, onStatus]
        rw [hcarried]
        exact h.carried

theorem Voiced.step (h : Voiced operatorToken s.sockets given) (hs : Standing s)
    (hst : l.apply parse operatorToken s = some t) : Voiced operatorToken t.sockets (given ++ l.msgs) := by
  cases apply_step hst with
  | close =>
      rw [ConsoleClient.close]
      split
      · exact h.mono
      · exact (h.setReady close_ne).mono
  | send msg => exact h.send hs msg
  | onopen hi => exact (h.onopen hi).mono
  | onmessage hi =>
      rw [ConsoleClient.onmessage]
      split
      · exact h.mono
      · split_ifs
        · exact (h.setReady close_ne).mono
        · exact h.mono
        · exact h.mono
  | closing hi => exact (h.setReady fun _ => by decide).mono
  | @onclose i jitter hi =>
      rw [ConsoleClient.onclose]
      have hclosed := h.setReady (i := i) (f := fun _ => .closed) fun _ => by decide
      split_ifs
      · exact hclosed.mono
      · rw [sockets_scheduleReconnect]
        exact hclosed.mono
  | @onTimer made htimer =>
      rw [ConsoleClient.onTimer]
      split_ifs
      · exact h.mono
      · exact (Voiced.connect (s := { s with reconnectTimer := none }) h made).mono

/-- **What the client sends**: over each connection the hello comes first; the other frames of all connections are
messages that `send` was given, in the order in which it was, and each at most once. -/
theorem console_voiced {made : Constructed}
    (hrun : Run (clientSystem parse operatorToken).step (ConsoleClient.fresh.start made) ls t) :
    (∀ k ∈ t.sockets, Greets operatorToken k) ∧ (carriedFrames t.sockets).Sublist (ls.flatMap ClientLabel.msgs) := by
  have hstanding := standing_start made
  have hvoiced : Voiced operatorToken (ConsoleClient.fresh.start made).sockets [] :=
    Voiced.connect ⟨by simp [fresh], by simp [carriedFrames, fresh]⟩ made
  have h : Standing t ∧ Voiced operatorToken t.sockets ([] ++ ls.flatMap ClientLabel.msgs) := hrun.preserves_shown
    (J := fun s given => Standing s ∧ Voiced operatorToken s.sockets given)
    (fun s l t given _ hs hst => ⟨hs.1.step hst, hs.2.step hs.1 hst⟩) [] ⟨hstanding, hvoiced⟩
  exact ⟨h.2.greets, by simpa using h.2.carried⟩

/-- What the page sends over an open connection. -/
theorem console_voiced_opened : ∃ t : ConsoleClient,
    t.sockets.map Socket.sent = [[hello "dev-token", .null]] ∧ (carriedFrames t.sockets).Sublist [.null] := by
  have hrun : Run (clientSystem (fun _ => none) "dev-token").step (ConsoleClient.fresh.start .socket)
      [.onopen 0, .send .null] (openedClient.send .null) := (openedClient_run _).trans (.single rfl)
  exact ⟨openedClient.send .null, rfl, (console_voiced hrun).2⟩

end Voiced

/-! ### How long it waits -/

section Backoff

variable {parse operatorToken} {s t : ConsoleClient} {l : ClientLabel} {ls : List ClientLabel} {n : ℕ}
  {made : Constructed}

open ConsoleClient

/-- An attempt that has failed. -/
def Constructed.failed : Constructed → ℕ
  | .throws _ => 1
  | .socket => 0

/-- The failures since the last connection that opened, after one more label. -/
def ClientLabel.streak (n : ℕ) : ClientLabel → ℕ
  | .onopen _ => 0
  | .onclose _ _ => n + 1
  | .onTimer made => n + made.failed
  | _ => n

/-- The failures since the last connection that opened, in a run after an attempt. -/
def streak (made : Constructed) (ls : List ClientLabel) : ℕ := ls.foldl ClientLabel.streak made.failed

/-- The client has counted its failures, and a timer runs as long as they ask for. -/
structure Paced (n : ℕ) (s : ConsoleClient) : Prop where
  failures : s.closedByUser = false → s.failures = n
  delay : ∀ d ∈ s.reconnectTimer, ∃ jitter : Fin maxJitterMs,
    d = backoffMs.getD (min (s.failures - 1) (backoffMs.length - 1)) 0 + jitter

theorem paced_scheduleReconnect (jitter : Fin maxJitterMs) (hopen : s.closedByUser = false)
    (h : s.failures = n) : Paced (n + 1) (s.scheduleReconnect jitter) := by
  rw [scheduleReconnect_of_open jitter hopen]
  refine ⟨fun _ => by rw [h], fun d hd => ⟨jitter, ?_⟩⟩
  cases hd
  rfl

theorem paced_connect (made : Constructed) (hopen : s.closedByUser = false) (htimer : s.reconnectTimer = none)
    (h : s.failures = n) : Paced (n + made.failed) (s.connect made) := by
  cases made with
  | throws jitter => exact paced_scheduleReconnect jitter hopen h
  | socket => exact ⟨fun _ => h, fun d hd => absurd (htimer.symm.trans hd) (by simp)⟩

/-- Where neither the count nor the timer changes. -/
theorem Paced.of_eq (h : Paced n s) (hclosed : t.closedByUser = false → s.closedByUser = false)
    (hfailures : t.failures = s.failures) (htimer : ∀ d ∈ t.reconnectTimer, d ∈ s.reconnectTimer) : Paced n t :=
  ⟨fun hopen => hfailures.trans (h.failures (hclosed hopen)), fun d hd => hfailures ▸ h.delay d (htimer d hd)⟩

theorem Paced.step (h : Paced n s) (hs : Standing s) (hst : l.apply parse operatorToken s = some t) :
    Paced (l.streak n) t := by
  cases apply_step hst with
  | close =>
      rw [ConsoleClient.close]
      split
      · exact h.of_eq (fun hfalse => by cases hfalse) rfl fun d hd => by cases hd
      · exact h.of_eq (fun hfalse => by cases hfalse) rfl fun d hd => by cases hd
  | send msg =>
      rw [ConsoleClient.send]
      split
      · exact h
      · split_ifs
        · exact h.of_eq id rfl fun _ hd => hd
        · exact h
  | onopen hi =>
      obtain ⟨-, -, htimer, -, -⟩ := hs.linked_of_live (.inl hi)
      exact ⟨fun _ => rfl, fun d hd => absurd (htimer.symm.trans hd) (by simp)⟩
  | onmessage hi =>
      rw [ConsoleClient.onmessage]
      split
      · exact h
      · split_ifs
        · exact h.of_eq (fun hfalse => by cases hfalse) rfl fun _ hd => hd
        · exact h.of_eq id rfl fun _ hd => hd
        · exact h.of_eq id rfl fun _ hd => hd
  | closing hi => exact h.of_eq id rfl fun _ hd => hd
  | @onclose i jitter hi =>
      by_cases hopen : s.closedByUser = false
      · rw [onclose_of_open (s := s.setReady i fun _ => .closed) jitter hopen]
        exact paced_scheduleReconnect jitter hopen (h.failures hopen)
      · have hover : s.closedByUser = true := by simpa using hopen
        rw [onclose_of_over (s := s.setReady i fun _ => .closed) jitter hover]
        exact ⟨fun hfalse => absurd hfalse hopen, h.delay⟩
  | @onTimer made htimer =>
      by_cases hopen : s.closedByUser = false
      · rw [onTimer_of_open made hopen]
        exact paced_connect made hopen rfl (h.failures hopen)
      · rw [ConsoleClient.onTimer, if_pos (by simpa using hopen)]
        exact ⟨fun hfalse => absurd hfalse hopen, fun d hd => by cases hd⟩

/-- **The delay before the next connection**: the base that the failures in a row ask for, since the last connection
that opened, and less than the jitter's bound on top; so never more than the last base and the bound. -/
theorem console_backoff {d : ℕ}
    (hrun : Run (clientSystem parse operatorToken).step (ConsoleClient.fresh.start made) ls t)
    (hd : t.reconnectTimer = some d) :
    backoffMs.getD (min (streak made ls - 1) (backoffMs.length - 1)) 0 ≤ d ∧
      d < backoffMs.getD (min (streak made ls - 1) (backoffMs.length - 1)) 0 + maxJitterMs := by
  have hstanding := standing_start made
  have hpaced : Paced (0 + made.failed) (ConsoleClient.fresh.start made) := paced_connect made rfl rfl rfl
  rw [Nat.zero_add] at hpaced
  have h : Standing t ∧ Paced (streak made ([] ++ ls.flatMap fun l => [l])) t := hrun.preserves_shown
    (J := fun s before => Standing s ∧ Paced (streak made before) s)
    (fun s l t before _ hs hst => ⟨hs.1.step hst, by
      rw [streak, List.foldl_append]
      exact hs.2.step hs.1 hst⟩) [] ⟨hstanding, hpaced⟩
  rw [List.nil_append, List.flatMap_singleton'] at h
  have hopen : t.closedByUser = false := by
    rcases h.1 with ⟨_, hopen⟩ | ⟨_, hopen⟩ | ⟨_, hnone⟩
    · exact hopen
    · exact hopen
    · exact absurd (hnone.symm.trans hd) (by simp)
  obtain ⟨jitter, hjitter⟩ := h.2.delay d hd
  rw [h.2.failures hopen] at hjitter
  have hlt := jitter.isLt
  omega

/-- After two failures. -/
theorem console_backoff_second : ∃ t : ConsoleClient, t.reconnectTimer = some 1007 ∧ 1000 ≤ 1007 ∧ 1007 < 1250 := by
  let t := (ConsoleClient.fresh.start (.throws ⟨3, by decide⟩)).onTimer (.throws ⟨7, by decide⟩)
  have hrun : Run (clientSystem (fun _ => none) "dev-token").step (ConsoleClient.fresh.start (.throws ⟨3, by decide⟩))
      [.onTimer (.throws ⟨7, by decide⟩)] t := .single rfl
  have htimer : t.reconnectTimer = some 1007 := rfl
  exact ⟨t, htimer, console_backoff hrun htimer⟩

end Backoff

end Cliptown.Console
