import Cliptown.Lib.Js
import Cliptown.Lib.Window

/-!
# The message log of the console

Chat and directive frames become the messages that a console shows.

* `MessageVM`, `messageId`, `Action.message` — the message of a frame.
* `WorldState`, `reducer`, `stateAfter` — the store of the console, over any sequence of frames and other actions.
* `messages_stateAfter` — the messages of the store are a window of those that have arrived.
* `FrameKind`, `Names`, `Delivers` — which frames deliver a message, under which id, and what it says.
* `ArrivedAt` — the arrival of a message that is still there.
* `MessageLog`, `messageLog_stateAfter` — the ids are distinct, the log is bounded and in the order of the arrivals,
  what is delivered is there, and delivering again what is there changes nothing.

Of the store only the messages are modelled; what the other frames and actions do to the rest of it is left open.
-/

namespace Cliptown.Console

open Cliptown.Lib

/-! ### Messages -/

/-- Source: `store.ts` `MessageVM.kind` -/
inductive MessageKind where
  | chat
  | directive
  deriving DecidableEq, Repr

/-- Source: `store.ts` `MessageVM` -/
structure MessageVM where
  id : String
  ts : ℚ
  startupId : String
  roomId : Option String
  authorId : String
  authorDisplayName : Option String
  body : String
  kind : MessageKind
  recipientId : Option String
  deriving DecidableEq

/-- Source: `store.ts` `MAX_MESSAGES` -/
def maxMessages : ℕ := 500

/-- What the reducer asks for when it runs: `newId()` and `Date.now()`. -/
structure Moment where
  newId : String
  now : ℚ

/-- Source: `store.ts` `Action` -/
inductive Action where
  | status (status : String)
  | msg (msg : Json)
  | localToast (severity body : String) (sticky : Option Bool)
  | clearMintedOperatorToken

variable (num : Js.Numbers)

/-- The id of a message: that of the protocol, then that of the tests, then a new one.
Source: `store.ts` `reducer`, `const id` -/
def messageId (m : Json) (env : Moment) : String :=
  match m.getStr "message_id" with
  | some id => id
  | none =>
    match m.get "id" with
    | some (.str id) => id
    | some (.int n) => num.text n
    | some (.float q) => num.text q
    | _ => env.newId

/-- The message of a frame of one of the two types. Source: `store.ts` `reducer`, `const msg` -/
def messageOf (kind : MessageKind) (m : Json) (env : Moment) : MessageVM where
  id := messageId num m env
  ts := ((m.get "ts").bind Js.asNumber).getD env.now
  startupId := (m.getStr "startup_id").getD ""
  roomId := m.getStr "room_id"
  authorId := (m.getStr "author_id").getD ((m.getStr "from").getD "")
  authorDisplayName := m.getStr "author_display_name"
  body := (m.getStr "body").getD ""
  kind := kind
  recipientId := (m.getStr "to_agent_id").or (m.getStr "recipient_id")

/-- The message that an action delivers, if it is such a frame. -/
def Action.message (env : Moment) : Action → Option MessageVM
  | .msg m =>
    match m.getStr "type" with
    | some "chat" => some (messageOf num .chat m env)
    | some "directive" => some (messageOf num .directive m env)
    | _ => none
  | _ => none

/-! ### The store -/

/-- Source: `store.ts` `WorldState`: the messages, and the rest of it. -/
structure WorldState (ρ : Type) where
  messages : List MessageVM
  rest : ρ

variable {ρ : Type} (others : WorldState ρ → Action → Moment → ρ)

/-- Source: `store.ts` `reducer`. No other case writes the messages. -/
def reducer (state : WorldState ρ) (action : Action) (env : Moment) : WorldState ρ :=
  match action.message num env with
  | some msg =>
    if state.messages.any fun x => x.id = msg.id then state
    else
      let next := state.messages ++ [msg]
      { state with
        messages := if maxMessages < next.length then next.drop (next.length - maxMessages) else next }
  | none => { state with rest := others state action env }

/-- The store after a sequence of actions; it starts without messages. Source: `store.ts` `INITIAL`, `useReducer` -/
def stateAfter (rest : ρ) (actions : List (Action × Moment)) : WorldState ρ :=
  actions.foldl (fun state a => reducer num others state a.1 a.2) ⟨[], rest⟩

variable {num others}

theorem reducer_of_message {state : WorldState ρ} {action : Action} {env : Moment} {msg : MessageVM}
    (h : action.message num env = some msg) :
    (reducer num others state action env).messages = arrive MessageVM.id maxMessages state.messages msg := by
  have hheld : (state.messages.any fun x => x.id = msg.id) = true ↔ msg.id ∈ state.messages.map MessageVM.id := by
    simp
  simp only [reducer, h]
  by_cases hmem : msg.id ∈ state.messages.map MessageVM.id
  · rw [if_pos (hheld.mpr hmem), arrive_of_mem hmem]
  · rw [if_neg (mt hheld.mp hmem), arrive_of_not_mem hmem, keepLast]
    by_cases hlong : maxMessages < (state.messages ++ [msg]).length
    · exact if_pos hlong
    · have hzero : (state.messages ++ [msg]).length - maxMessages = 0 := by omega
      rw [hzero, List.drop_zero]
      exact if_neg hlong

/-- A message whose id is there changes nothing. -/
theorem reducer_of_held {state : WorldState ρ} {action : Action} {env : Moment} {msg : MessageVM}
    (h : action.message num env = some msg) (hheld : msg.id ∈ state.messages.map MessageVM.id) :
    reducer num others state action env = state := by
  simp only [reducer, h]
  exact if_pos (by simpa using hheld)

theorem reducer_of_other {state : WorldState ρ} {action : Action} {env : Moment}
    (h : action.message num env = none) : (reducer num others state action env).messages = state.messages := by
  simp only [reducer, h]

theorem stateAfter_append (rest : ρ) (actions : List (Action × Moment)) (a : Action × Moment) :
    stateAfter num others rest (actions ++ [a]) =
      reducer num others (stateAfter num others rest actions) a.1 a.2 := by
  simp [stateAfter]

/-- **The messages are a window** of those that have arrived. -/
theorem messages_stateAfter (rest : ρ) (actions : List (Action × Moment)) :
    (stateAfter num others rest actions).messages =
      window MessageVM.id maxMessages (actions.map fun a => a.1.message num a.2) := by
  induction actions using List.reverseRecOn with
  | nil => rfl
  | append_singleton actions a ih =>
    rw [stateAfter_append, List.map_append, List.map_singleton]
    cases hmsg : a.1.message num a.2 with
    | none => rw [reducer_of_other hmsg, window_append_none, ih]
    | some msg => rw [reducer_of_message hmsg, window_append_some, ih]

/-! ### What a frame delivers -/

/-- What a field says: the text there, or another one where there is none. -/
inductive Says (m : Json) (key other : String) : String → Prop
  | text {s : String} : m.get key = some (.str s) → Says m key other s
  | absent : (∀ s, m.get key ≠ some (.str s)) → Says m key other other

/-- The kinds of frames that deliver a message. -/
inductive FrameKind (m : Json) : MessageKind → Prop
  | chat : m.get "type" = some (.str "chat") → FrameKind m .chat
  | directive : m.get "type" = some (.str "directive") → FrameKind m .directive

variable (num)

/-- The id under which a frame delivers its message. -/
inductive Names (m : Json) (env : Moment) : String → Prop
  | protocol {id : String} : m.get "message_id" = some (.str id) → Names m env id
  | text {id : String} : (∀ s, m.get "message_id" ≠ some (.str s)) → m.get "id" = some (.str id) → Names m env id
  | number {v : Json} {q : ℚ} : (∀ s, m.get "message_id" ≠ some (.str s)) → m.get "id" = some v →
      Js.asNumber v = some q → Names m env (num.text q)
  | fresh : (∀ s, m.get "message_id" ≠ some (.str s)) →
      (∀ v, m.get "id" = some v → (∀ s, v ≠ .str s) ∧ Js.asNumber v = none) → Names m env env.newId

/-- **What a frame delivers**, said of the frame alone. -/
structure Delivers (m : Json) (env : Moment) (msg : MessageVM) : Prop where
  kind : FrameKind m msg.kind
  id : Names num m env msg.id
  body : Says m "body" "" msg.body
  startupId : Says m "startup_id" "" msg.startupId

variable {num}

theorem getStr_eq_some_iff {m : Json} {key s : String} : m.getStr key = some s ↔ m.get key = some (.str s) := by
  unfold Json.getStr
  cases hget : m.get key with
  | none => simp
  | some v => cases v <;> simp [Json.asStr]

theorem says_getStr (m : Json) (key other : String) : Says m key other ((m.getStr key).getD other) := by
  cases htext : m.getStr key with
  | none => exact .absent fun s hs => absurd (htext.symm.trans (getStr_eq_some_iff.mpr hs)) (by simp)
  | some s => exact .text (getStr_eq_some_iff.mp htext)

/-- The reducer takes the id that the frame names. -/
theorem messageId_eq_iff {m : Json} {env : Moment} {id : String} : messageId num m env = id ↔ Names num m env id := by
  unfold messageId
  cases hprotocol : m.getStr "message_id" with
  | some s =>
    have hget := getStr_eq_some_iff.mp hprotocol
    constructor
    · rintro rfl
      exact .protocol hget
    · rintro (h | ⟨hnone, -⟩ | ⟨hnone, -, -⟩ | ⟨hnone, -⟩)
      · exact Json.str.inj (Option.some.inj (hget.symm.trans h))
      all_goals exact absurd hget (hnone s)
  | none =>
    have hnone : ∀ s, m.get "message_id" ≠ some (.str s) := fun s hs =>
      absurd (hprotocol.symm.trans (getStr_eq_some_iff.mpr hs)) (by simp)
    constructor
    · rintro rfl
      cases hid : m.get "id" with
      | none => exact .fresh hnone fun v hv => absurd (hid.symm.trans hv) (by simp)
      | some v =>
        have hfresh (hv : (∀ s, v ≠ .str s) ∧ Js.asNumber v = none) : Names num m env env.newId :=
          .fresh hnone fun w hw => Option.some.inj (hid.symm.trans hw) ▸ hv
        cases v with
        | str s => exact .text hnone hid
        | int n => exact .number hnone hid rfl
        | float q => exact .number hnone hid rfl
        | null => exact hfresh ⟨by simp, rfl⟩
        | bool b => exact hfresh ⟨by simp, rfl⟩
        | arr items => exact hfresh ⟨by simp, rfl⟩
        | obj fields => exact hfresh ⟨by simp, rfl⟩
    · rintro (h | ⟨-, h⟩ | ⟨-, h, hq⟩ | ⟨-, h⟩)
      · exact absurd h (hnone id)
      · simp only [h]
      · rename_i v q
        simp only [h]
        cases v <;> simp_all [Js.asNumber]
      · cases hid : m.get "id" with
        | none => rfl
        | some v =>
          obtain ⟨htext, hnumber⟩ := h v hid
          cases v <;> simp_all [Js.asNumber]

/-- **The message of a frame** is one that the frame delivers. -/
theorem delivers_of_message {m : Json} {env : Moment} {msg : MessageVM}
    (h : (Action.msg m).message num env = some msg) : Delivers num m env msg := by
  have hdelivers {kind : MessageKind} (hkind : FrameKind m kind) : Delivers num m env (messageOf num kind m env) :=
    ⟨hkind, messageId_eq_iff.mp rfl, says_getStr m "body" "", says_getStr m "startup_id" ""⟩
  simp only [Action.message] at h
  split at h
  · rename_i htype
    exact Option.some.inj h ▸ hdelivers (.chat (getStr_eq_some_iff.mp htype))
  · rename_i htype
    exact Option.some.inj h ▸ hdelivers (.directive (getStr_eq_some_iff.mp htype))
  · cases h

/-- A frame of one of the two types has a message, under the id that it names. -/
theorem exists_message {m : Json} {env : Moment} {kind : MessageKind} {id : String} (hkind : FrameKind m kind)
    (hid : Names num m env id) : ∃ msg, (Action.msg m).message num env = some msg ∧ msg.id = id := by
  refine ⟨messageOf num kind m env, ?_, messageId_eq_iff.mpr hid⟩
  cases hkind with
  | chat htype => simp [Action.message, getStr_eq_some_iff.mpr htype]
  | directive htype => simp [Action.message, getStr_eq_some_iff.mpr htype]

/-- Nothing else has one. -/
theorem message_eq_none {action : Action} {env : Moment}
    (h : ∀ m, action = .msg m → ∀ kind, ¬ FrameKind m kind) : action.message num env = none := by
  cases action with
  | msg m =>
    cases hmsg : (Action.msg m).message num env with
    | none => rfl
    | some msg => exact absurd (delivers_of_message hmsg).kind (h m rfl _)
  | _ => rfl

/-! ### The log -/

variable (num others)

/-- The message came with the frame at the place `k`: then its id was not there, and the message has been there ever
since. -/
structure ArrivedAt (rest : ρ) (actions : List (Action × Moment)) (k : ℕ) (msg : MessageVM) : Prop where
  delivered : ∃ m env, actions[k]? = some (.msg m, env) ∧ Delivers num m env msg
  new : msg.id ∉ (stateAfter num others rest (actions.take k)).messages.map MessageVM.id
  since : ∀ n, k < n → msg ∈ (stateAfter num others rest (actions.take n)).messages

/-- **The message log** after a sequence of actions. -/
structure MessageLog (rest : ρ) (actions : List (Action × Moment)) : Prop where
  nodup : ((stateAfter num others rest actions).messages.map MessageVM.id).Nodup
  length_le : (stateAfter num others rest actions).messages.length ≤ maxMessages
  /-- The messages are in the order of their arrivals. -/
  ordered : ∃ places : List (ℕ × MessageVM), places.map Prod.snd = (stateAfter num others rest actions).messages ∧
    (places.Pairwise fun p q => p.1 < q.1) ∧ ∀ p ∈ places, ArrivedAt num others rest actions p.1 p.2
  /-- What the last frame has delivered is there, under the id that the frame names: the message itself, unless the id
  was there before. -/
  present : ∀ before m env kind id, actions = before ++ [(.msg m, env)] → FrameKind m kind → Names num m env id →
    id ∈ (stateAfter num others rest actions).messages.map MessageVM.id ∧
      (id ∉ (stateAfter num others rest before).messages.map MessageVM.id →
        ∃ msg ∈ (stateAfter num others rest actions).messages, msg.id = id ∧ Delivers num m env msg)
  /-- If the id was there before, nothing has changed. -/
  redelivered : ∀ before m env kind id, actions = before ++ [(.msg m, env)] → FrameKind m kind → Names num m env id →
    id ∈ (stateAfter num others rest before).messages.map MessageVM.id →
      stateAfter num others rest actions = stateAfter num others rest before
  /-- What is no such frame leaves the messages as they are. -/
  other : ∀ before a, actions = before ++ [a] → (∀ m, a.1 = .msg m → ∀ kind, ¬ FrameKind m kind) →
    (stateAfter num others rest actions).messages = (stateAfter num others rest before).messages

variable {num others}

/-- A place of the window is an arrival. -/
theorem arrivedAt_of_arrivals {rest : ρ} {actions : List (Action × Moment)} {places : List (ℕ × MessageVM)}
    (h : Arrivals MessageVM.id maxMessages (actions.map fun a => a.1.message num a.2) places) {p : ℕ × MessageVM}
    (hp : p ∈ places) : ArrivedAt num others rest actions p.1 p.2 := by
  refine ⟨?_, ?_, ?_⟩
  · have harrived := h.arrived p hp
    rw [List.getElem?_map, Option.map_eq_some_iff] at harrived
    obtain ⟨⟨action, env⟩, hat, hmsg⟩ := harrived
    cases action with
    | msg m => exact ⟨m, env, hat, delivers_of_message hmsg⟩
    | _ => cases hmsg
  · rw [messages_stateAfter, List.map_take]
    exact h.new p hp
  · intro n hn
    rw [messages_stateAfter, List.map_take]
    exact h.since p hp n hn

/-- **The log holds what it should**, after every sequence of actions. -/
theorem messageLog_stateAfter (num : Js.Numbers) (others : WorldState ρ → Action → Moment → ρ) (rest : ρ)
    (actions : List (Action × Moment)) : MessageLog num others rest actions where
  nodup := by
    rw [messages_stateAfter]
    exact nodup_window _
  length_le := by
    rw [messages_stateAfter]
    exact length_window_le _
  ordered := by
    obtain ⟨places, h⟩ : ∃ places,
        Arrivals MessageVM.id maxMessages (actions.map fun a => a.1.message num a.2) places := exists_arrivals _
    exact ⟨places, h.entries.trans (messages_stateAfter rest actions).symm, h.ordered,
      fun p hp => arrivedAt_of_arrivals h hp⟩
  present := by
    rintro before m env kind id rfl hkind hid
    obtain ⟨msg, hmsg, rfl⟩ := exists_message hkind hid
    rw [stateAfter_append, reducer_of_message hmsg]
    exact ⟨key_mem_arrive (by decide) _ msg, fun hnew =>
      ⟨msg, mem_arrive (by decide) hnew, rfl, delivers_of_message hmsg⟩⟩
  redelivered := by
    rintro before m env kind id rfl hkind hid hheld
    obtain ⟨msg, hmsg, rfl⟩ := exists_message hkind hid
    rw [stateAfter_append, reducer_of_held hmsg hheld]
  other := by
    rintro before a rfl hnone
    rw [stateAfter_append, reducer_of_other (message_eq_none hnone)]

end Cliptown.Console
