import Cliptown.Lib.Js
import Cliptown.Lib.Runs
import Mathlib.Data.List.Nodup
import Std.Data.String.ToNat

/-!
# Calls over the socket of a worker

A call is sent as a frame with an id of its own, and waits for a frame with the same id. All calls on a handle share
its set of listeners.

* `Settlement`, `PendingCall`, `McpState` — how a call ends, what it keeps, and the calls on one handle.
* `corrId`, `corrId_injective` — the ids, which no two calls of a process share.
* `McpState.cleanup`, `McpState.settle`, `dispatch` — the listener of a call, its promise, and the loop over the
  listeners that a frame makes.
* `McpEvent`, `McpState.step`, `mcpSystem` — calls, frames of any kind and timeouts, in any order.
* `Correlated` — a step settles no call twice, and settles one only by a frame with its id, by its timeout or because
  it could not be sent; and no settled call is listening.
* `calls_correlated_iff` — the runs in which every step does so are those in which no call fails to be sent.
-/

namespace Cliptown.Worker

open Cliptown.Lib

/-! ### Calls -/

/-- What a call is resolved or rejected with. -/
inductive Settlement where
  | resolved (result : Option Json)
  | rejected (message : String) (code : Option Json)
  | unexpected (frame : Json)
  | timedOut
  | sendFailed (error : String)

/-- A call: its id, whether its timer runs, whether its listener has been removed, and how its promise is settled.
Source: `mcp.ts` `callOverWS` -/
structure PendingCall where
  corrId : String
  timer : Bool
  removed : Bool
  settled : Option Settlement

/-- A call that waits. -/
def PendingCall.new (id : String) : PendingCall :=
  ⟨id, true, false, none⟩

/-- The calls on a handle, the listeners of the handle in the order of the set, and the counter of the process.
Source: `mcp.ts` `corrCounter`, `ws.ts` `listeners` -/
structure McpState where
  counter : ℕ
  calls : List PendingCall
  listeners : List ℕ

/-- Source: `mcp.ts` `nextCorrId` -/
def corrId (seed now counter : ℕ) : String :=
  toString seed ++ "-" ++ toString now ++ "-" ++ toString counter

variable (num : Js.Numbers)

/-- What a frame with the id of a call settles it with; none where `new Error` throws.
Source: `mcp.ts` `callOverWS`, `onMsg` -/
def settlementOf (m : Json) : Option Settlement :=
  match m.getStr "type" with
  | some "mcp_reply" => some (.resolved (m.get "result"))
  | some "mcp_error" =>
    (Js.toText num (Js.valueOr (m.get "message") (.str "mcp_error"))).map fun message =>
      .rejected message (m.get "code")
  | _ => some (.unexpected m)

namespace McpState

/-- No call has been made. -/
def new : McpState :=
  ⟨0, [], []⟩

/-- Something happens to a call. -/
def mapCall (s : McpState) (i : ℕ) (f : PendingCall → PendingCall) : McpState :=
  { s with calls := s.calls.modify i f }

/-- The timer has fired, or is cleared. -/
def clearTimer (s : McpState) (i : ℕ) : McpState :=
  s.mapCall i fun c => { c with timer := false }

/-- Source: `mcp.ts` `callOverWS`, `cleanup` -/
def cleanup (s : McpState) (i : ℕ) : McpState :=
  match s.calls[i]? with
  | some c =>
    if c.removed then s
    else { s.mapCall i fun c => { c with removed := true } with listeners := s.listeners.filter (· ≠ i) }
  | none => s

/-- A promise keeps what it is settled with first. -/
def settle (s : McpState) (i : ℕ) (o : Settlement) : McpState :=
  s.mapCall i fun c => { c with settled := c.settled.or (some o) }

end McpState

/-- The listener of a call gets a frame; whether it returns. Source: `mcp.ts` `callOverWS`, `onMsg` -/
def onMsg (m : Json) (i : ℕ) (s : McpState) : McpState × Bool :=
  match s.calls[i]? with
  | none => (s, true)
  | some c =>
    if m.getStr "corr_id" ≠ some c.corrId then (s, true)
    else
      match settlementOf num m with
      | some o => (((s.clearTimer i).cleanup i).settle i o, true)
      | none => ((s.clearTimer i).cleanup i, false)

/-- The loop over the listeners. The iteration over a set goes past what has been removed from it in the meantime, and
a listener that throws ends it. Source: `ws.ts` `connect`, the handler of `message` -/
def dispatch (m : Json) : List ℕ → McpState → McpState
  | [], s => s
  | i :: rest, s =>
    if i ∈ s.listeners then
      match onMsg num m i s with
      | (s, true) => dispatch m rest s
      | (s, false) => s
    else dispatch m rest s

/-- A call on the handle, which may fail to be sent, a call on another handle, a message, which may not be JSON, or the
timer of a call. -/
inductive McpEvent where
  | call (now : ℕ) (sendError : Option String)
  | elsewhere
  | frame (parsed : Option Json)
  | timeout (i : ℕ)

/-- An event, where it can happen. An executor that throws rejects the promise, and does nothing else.
Source: `mcp.ts` `callOverWS`, `ws.ts` `connect` -/
def McpState.step (seed : ℕ) (s : McpState) : McpEvent → Option McpState
  | .call now sendError =>
    let called : McpState :=
      { counter := s.counter + 1
        calls := s.calls ++ [.new (corrId seed now (s.counter + 1))]
        listeners := s.listeners ++ [s.calls.length] }
    match sendError with
    | none => some called
    | some error => some (called.settle s.calls.length (.sendFailed error))
  | .elsewhere => some { s with counter := s.counter + 1 }
  | .frame none => some s
  | .frame (some m) => some (dispatch num m s.listeners s)
  | .timeout i =>
    match s.calls[i]? with
    | some c => if c.timer then some (((s.clearTimer i).cleanup i).settle i .timedOut) else none
    | none => none

/-- The runs of a handle. -/
def mcpSystem (seed : ℕ) : System McpState McpEvent where
  init s := s = .new
  step s e t := s.step num seed e = some t

/-! ### What a step should do -/

/-- After `n` calls, the event is one that settles the call `i` so: a frame with its id, its timeout, or that it could
not be sent. -/
def Settles (n i : ℕ) (id : String) (o : Settlement) : McpEvent → Prop
  | .frame (some m) => m.getStr "corr_id" = some id ∧ settlementOf num m = some o
  | .timeout j => j = i ∧ o = .timedOut
  | .call _ (some error) => n = i ∧ o = .sendFailed error
  | _ => False

/-- **One step** of the calls on a handle. -/
structure Correlated (s : McpState) (e : McpEvent) (t : McpState) : Prop where
  /-- A call keeps its id, and what it is settled with. -/
  once : ∀ (i : ℕ) c, s.calls[i]? = some c → ∃ c', t.calls[i]? = some c' ∧ c'.corrId = c.corrId ∧
    ∀ o, c.settled = some o → c'.settled = some o
  /-- What settles a call is its own. -/
  own : ∀ (i : ℕ) c' o, t.calls[i]? = some c' → c'.settled = some o →
    (∃ c, s.calls[i]? = some c ∧ c.settled = some o) ∨ Settles num s.calls.length i c'.corrId o e
  /-- A settled call is not listening. -/
  unregistered : ∀ (i : ℕ) c', t.calls[i]? = some c' → c'.settled ≠ none → i ∉ t.listeners
  /-- No two calls have one id. -/
  distinct : (t.calls.map PendingCall.corrId).Nodup

/-- The call is sent, if the event is one. -/
def Sent (_ : McpState) : McpEvent → Prop
  | .call _ (some _) => False
  | _ => True

/-! ### Ids -/

theorem notMem_repr_dash (n : ℕ) : '-' ∉ (toString n).toList := by
  intro h
  rw [Nat.toString_eq_repr, Nat.toList_repr] at h
  exact absurd (Nat.isDigit_of_mem_toDigits (by decide) (by decide) h) (by decide)

/-- What comes after the last dash. -/
theorem eq_of_append_dash {a b x y : List Char} (hx : '-' ∉ x) (hy : '-' ∉ y) (h : a ++ '-' :: x = b ++ '-' :: y) :
    x = y := by
  rcases List.append_eq_append_iff.mp h with ⟨z, -, hz⟩ | ⟨z, -, hz⟩
  · cases z with
    | nil => simpa using hz
    | cons c z =>
      rw [List.cons_append, List.cons.injEq] at hz
      exact absurd (hz.2 ▸ List.mem_append_right z List.mem_cons_self) hx
  · cases z with
    | nil => simpa using hz.symm
    | cons c z =>
      rw [List.cons_append, List.cons.injEq] at hz
      exact absurd (hz.2 ▸ List.mem_append_right z List.mem_cons_self) hy

/-- **Ids are as different as the counter**, at whatever time they are made. -/
theorem corrId_injective {seed now now' n n' : ℕ} (h : corrId seed now n = corrId seed now' n') : n = n' := by
  have hlist := congrArg String.toList h
  simp only [corrId, String.toList_append, List.append_assoc] at hlist
  have hdash : (toString seed).toList ++ '-' :: (toString now).toList ++ '-' :: (toString n).toList =
      (toString seed).toList ++ '-' :: (toString now').toList ++ '-' :: (toString n').toList := by simpa using hlist
  have hdigits := eq_of_append_dash (notMem_repr_dash n) (notMem_repr_dash n') hdash
  exact Nat.repr_injective (String.toList_injective hdigits)

/-! ### Listeners and promises -/

/-- No call listens whose listener has been removed or whose promise is settled. -/
def Quiet (s : McpState) : Prop :=
  ∀ (i : ℕ) c, s.calls[i]? = some c → c.removed ∨ c.settled ≠ none → i ∉ s.listeners

/-- The calls have ids of their own, of numbers up to the counter. -/
structure Numbered (seed : ℕ) (s : McpState) : Prop where
  ids : ∀ id ∈ s.calls.map PendingCall.corrId, ∃ now n, n ≤ s.counter ∧ id = corrId seed now n
  distinct : (s.calls.map PendingCall.corrId).Nodup

/-- The calls stay the same ones, and are settled by the event if they were not. -/
structure Moves (e : McpEvent) (s t : McpState) : Prop where
  counter : s.counter ≤ t.counter
  ids : t.calls.map PendingCall.corrId = s.calls.map PendingCall.corrId
  settled : ∀ (i : ℕ) c', t.calls[i]? = some c' → ∃ c, s.calls[i]? = some c ∧ c'.corrId = c.corrId ∧
    (c'.settled = c.settled ∨
      ∃ o, c'.settled = c.settled.or (some o) ∧ Settles num s.calls.length i c.corrId o e)

section

variable {num} {seed : ℕ} {s t u : McpState} {e : McpEvent} {i : ℕ}

theorem Moves.refl (e : McpEvent) (s : McpState) : Moves num e s s :=
  ⟨le_rfl, rfl, fun _ c hc => ⟨c, hc, rfl, .inl rfl⟩⟩

theorem Moves.length_eq (h : Moves num e s t) : t.calls.length = s.calls.length := by
  simpa using congrArg List.length h.ids

theorem Moves.trans (h : Moves num e s t) (h' : Moves num e t u) : Moves num e s u where
  counter := h.counter.trans h'.counter
  ids := h'.ids.trans h.ids
  settled := by
    intro i c₂ hc₂
    obtain ⟨c₁, hc₁, hid₁, h₁⟩ := h'.settled i c₂ hc₂
    obtain ⟨c, hc, hid, h₀⟩ := h.settled i c₁ hc₁
    refine ⟨c, hc, hid₁.trans hid, ?_⟩
    rw [h.length_eq, hid] at h₁
    rcases h₁ with h₁ | ⟨o, h₁, ho⟩
    · rw [h₁]
      exact h₀
    · rcases h₀ with h₀ | ⟨o', h₀, ho'⟩
      · exact .inr ⟨o, by rw [h₁, h₀], ho⟩
      · -- it is settled already, and the second settlement does nothing
        refine .inr ⟨o', ?_, ho'⟩
        rw [h₁, h₀]
        cases c.settled <;> rfl

/-- A listener is removed, and something happens to its call. -/
def McpState.finish (s : McpState) (i : ℕ) (f : PendingCall → PendingCall) : McpState :=
  { s with calls := s.calls.modify i f, listeners := s.listeners.filter (· ≠ i) }

/-- The call has no listener and no timer any more. -/
def PendingCall.close (c : PendingCall) : PendingCall :=
  { c with timer := false, removed := true }

/-- A listener that is removed once is not there. -/
theorem cleanup_clearTimer (hquiet : Quiet s) {c : PendingCall} (hc : s.calls[i]? = some c) :
    (s.clearTimer i).cleanup i = s.finish i .close := by
  have hcleared : (s.clearTimer i).calls[i]? = some { c with timer := false } := by
    simp [McpState.clearTimer, McpState.mapCall, hc]
  have hcalls : (s.calls.modify i fun c => { c with timer := false }).modify i (fun c => { c with removed := true }) =
      s.calls.modify i .close := by
    rw [List.modify_modify_eq]
    rfl
  simp only [McpState.cleanup, hcleared]
  by_cases hremoved : c.removed
  · have hgone : i ∉ s.listeners := hquiet i c hc (.inl hremoved)
    have hfilter : s.listeners.filter (· ≠ i) = s.listeners := by
      rw [List.filter_eq_self]
      exact fun j hj => decide_eq_true (fun h => hgone (h ▸ hj))
    have hsame : s.calls.modify i (fun c => { c with timer := false }) = s.calls.modify i .close := by
      refine List.ext_getElem? fun j => ?_
      by_cases hj : i = j
      · rw [← hj]
        simp [hc, PendingCall.close, hremoved]
      · simp [hj]
    simp only [hremoved, if_true, McpState.clearTimer, McpState.mapCall, McpState.finish, hsame, hfilter]
  · simp only [hremoved, McpState.clearTimer, McpState.mapCall, McpState.finish, hcalls]
    rfl

/-- What is done to a call when its listener is removed: its id stays, and the event settles it, if anything does. -/
theorem McpState.finish_spec (hquiet : Quiet s) {f : PendingCall → PendingCall} (hid : ∀ c, (f c).corrId = c.corrId)
    (hf : ∀ c, s.calls[i]? = some c → (f c).settled = c.settled ∨
      ∃ o, (f c).settled = c.settled.or (some o) ∧ Settles num s.calls.length i c.corrId o e) :
    Moves num e s (s.finish i f) ∧ Quiet (s.finish i f) := by
  have hget : ∀ (j : ℕ) c', (s.finish i f).calls[j]? = some c' →
      ∃ c, s.calls[j]? = some c ∧ c' = if i = j then f c else c := by
    intro j c' hc'
    change (s.calls.modify i f)[j]? = _ at hc'
    rw [List.getElem?_modify] at hc'
    obtain ⟨c, hc, rfl⟩ := Option.map_eq_some_iff.mp hc'
    exact ⟨c, hc, rfl⟩
  refine ⟨⟨le_rfl, ?_, ?_⟩, ?_⟩
  · refine List.ext_getElem? fun j => ?_
    simp only [McpState.finish, List.getElem?_map, List.getElem?_modify]
    cases s.calls[j]? with
    | none => rfl
    | some c => by_cases hj : i = j <;> simp [hj, hid]
  · intro j c' hc'
    obtain ⟨c, hc, rfl⟩ := hget j c' hc'
    by_cases hj : i = j
    · subst hj
      rw [if_pos rfl]
      exact ⟨c, hc, hid c, hf c hc⟩
    · rw [if_neg hj]
      exact ⟨c, hc, rfl, .inl rfl⟩
  · intro j c' hc' hended hmem
    obtain ⟨hmem, hne⟩ := List.mem_filter.mp hmem
    have hj : i ≠ j := fun h => of_decide_eq_true hne h.symm
    obtain ⟨c, hc, rfl⟩ := hget j c' hc'
    rw [if_neg hj] at hended
    exact hquiet j c hc hended hmem

/-- **A listener gets a frame.** -/
theorem onMsg_spec (hquiet : Quiet s) (m : Json) (i : ℕ) :
    Moves num (.frame (some m)) s (onMsg num m i s).1 ∧ Quiet (onMsg num m i s).1 := by
  unfold onMsg
  cases hc : s.calls[i]? with
  | none => exact ⟨.refl _ s, hquiet⟩
  | some c =>
    by_cases hid : m.getStr "corr_id" ≠ some c.corrId
    · simp only [if_pos hid]
      exact ⟨.refl _ s, hquiet⟩
    · simp only [if_neg hid]
      rw [not_not] at hid
      cases ho : settlementOf num m with
      | none =>
        simp only [cleanup_clearTimer hquiet hc]
        exact McpState.finish_spec hquiet (fun _ => rfl) fun _ _ => .inl rfl
      | some o =>
        have hfinish : (s.finish i .close).settle i o =
            s.finish i fun c => { c.close with settled := c.settled.or (some o) } := by
          simp only [McpState.settle, McpState.mapCall, McpState.finish, List.modify_modify_eq]
          rfl
        simp only [cleanup_clearTimer hquiet hc, hfinish]
        refine McpState.finish_spec hquiet (fun _ => rfl) fun c' hc' => .inr ⟨o, rfl, ?_⟩
        obtain rfl : c = c' := Option.some.inj (hc.symm.trans hc')
        exact ⟨hid, ho⟩

/-- **The loop over the listeners**, in whatever order and as far as it goes. -/
theorem dispatch_spec (m : Json) (visit : List ℕ) : ∀ s : McpState, Quiet s →
    Moves num (.frame (some m)) s (dispatch num m visit s) ∧ Quiet (dispatch num m visit s) := by
  induction visit with
  | nil => exact fun s hquiet => ⟨.refl _ s, hquiet⟩
  | cons i rest ih =>
    intro s hquiet
    rw [dispatch]
    by_cases hmem : i ∈ s.listeners
    · rw [if_pos hmem]
      obtain ⟨hmoves, hquiet'⟩ := onMsg_spec hquiet m i
      rcases hon : onMsg num m i s with ⟨t, returns⟩
      rw [hon] at hmoves hquiet'
      cases returns with
      | false => exact ⟨hmoves, hquiet'⟩
      | true => exact ⟨hmoves.trans (ih t hquiet').1, (ih t hquiet').2⟩
    · rw [if_neg hmem]
      exact ih s hquiet

/-! ### Steps -/

/-- The settled calls are those that were settled before, and those that the event has settled. -/
theorem Moves.correlated (h : Moves num e s t) (hnumbered : Numbered seed s) (hquiet : Quiet t) :
    Correlated num s e t where
  once := by
    intro i c hc
    have hlt : i < t.calls.length := h.length_eq ▸ (List.getElem?_eq_some_iff.mp hc).1
    have hc' : t.calls[i]? = some t.calls[i] := List.getElem?_eq_getElem hlt
    obtain ⟨c₀, hc₀, hid, hsettled⟩ := h.settled i _ hc'
    obtain rfl : c = c₀ := Option.some.inj (hc.symm.trans hc₀)
    refine ⟨_, hc', hid, fun o ho => ?_⟩
    rcases hsettled with hsame | ⟨o', hor, -⟩
    · rw [hsame, ho]
    · rw [hor, ho]
      rfl
  own := by
    intro i c' o hc' ho
    obtain ⟨c, hc, hid, hsame | ⟨o', hor, hsettles⟩⟩ := h.settled i c' hc'
    · exact .inl ⟨c, hc, hsame ▸ ho⟩
    · cases hold : c.settled with
      | some x =>
        rw [hold] at hor
        exact .inl ⟨c, hc, hold.trans (hor.symm.trans ho)⟩
      | none =>
        rw [hold] at hor
        obtain rfl : o' = o := Option.some.inj (hor.symm.trans ho)
        exact .inr (hid ▸ hsettles)
  unregistered := fun i c' hc' hsettled => hquiet i c' hc' (.inr hsettled)
  distinct := h.ids ▸ hnumbered.distinct

theorem Moves.numbered (h : Moves num e s t) (hnumbered : Numbered seed s) : Numbered seed t := by
  refine ⟨fun id hid => ?_, h.ids ▸ hnumbered.distinct⟩
  rw [h.ids] at hid
  obtain ⟨now, n, hn, rfl⟩ := hnumbered.ids id hid
  exact ⟨now, n, hn.trans h.counter, rfl⟩

/-- The id of the next call is new. -/
theorem Numbered.notMem (h : Numbered seed s) (now : ℕ) :
    corrId seed now (s.counter + 1) ∉ s.calls.map PendingCall.corrId := by
  intro hmem
  obtain ⟨now', n, hn, heq⟩ := h.ids _ hmem
  have := corrId_injective heq
  omega

/-- A call that is sent. -/
theorem call_spec (hnumbered : Numbered seed s) (hquiet : Quiet s) {now : ℕ}
    (h : s.step num seed (.call now none) = some t) :
    Correlated num s (.call now none) t ∧ Numbered seed t ∧ Quiet t := by
  obtain rfl := Option.some.inj h
  have hnew := hnumbered.notMem now
  have hnodup : ((s.calls ++ [PendingCall.new (corrId seed now (s.counter + 1))]).map PendingCall.corrId).Nodup := by
    rw [List.map_append, List.map_singleton, List.nodup_append]
    refine ⟨hnumbered.distinct, List.nodup_singleton _, ?_⟩
    intro a ha b hb hab
    rw [List.mem_singleton] at hb
    have hid : a = corrId seed now (s.counter + 1) := hab.trans hb
    exact hnew (hid ▸ ha)
  -- a call that is removed or settled is one of those before
  have hold : ∀ (i : ℕ) c', (s.calls ++ [PendingCall.new (corrId seed now (s.counter + 1))])[i]? = some c' →
      c'.removed ∨ c'.settled ≠ none → s.calls[i]? = some c' := by
    intro i c' hc' hended
    by_cases hlt : i < s.calls.length
    · rwa [List.getElem?_append_left hlt] at hc'
    · rw [List.getElem?_append_right (by omega)] at hc'
      have := List.mem_singleton.mp (List.mem_of_getElem? hc')
      rw [this] at hended
      exact absurd hended (by simp [PendingCall.new])
  have hquiet' : Quiet ⟨s.counter + 1, s.calls ++ [.new (corrId seed now (s.counter + 1))],
      s.listeners ++ [s.calls.length]⟩ := by
    intro i c' hc' hended hmem
    have hc := hold i c' hc' hended
    rcases List.mem_append.mp hmem with hmem | hmem
    · exact hquiet i c' hc hended hmem
    · have hlt := (List.getElem?_eq_some_iff.mp hc).1
      rw [List.mem_singleton.mp hmem] at hlt
      omega
  refine ⟨⟨?_, ?_, ?_, hnodup⟩, ⟨?_, hnodup⟩, hquiet'⟩
  · intro i c hc
    have hlt := (List.getElem?_eq_some_iff.mp hc).1
    exact ⟨c, (List.getElem?_append_left hlt).trans hc, rfl, fun o ho => ho⟩
  · intro i c' o hc' ho
    exact .inl ⟨c', hold i c' hc' (.inr (by simp [ho])), ho⟩
  · exact fun i c' hc' hsettled => hquiet' i c' hc' (.inr hsettled)
  · intro id hid
    rw [List.map_append, List.map_singleton] at hid
    rcases List.mem_append.mp hid with hid | hid
    · obtain ⟨now', n, hn, rfl⟩ := hnumbered.ids id hid
      exact ⟨now', n, Nat.le_succ_of_le hn, rfl⟩
    · exact ⟨now, s.counter + 1, le_rfl, List.mem_singleton.mp hid⟩

/-- **One step** in which no call fails to be sent. -/
theorem step_spec (hnumbered : Numbered seed s) (hquiet : Quiet s) (h : s.step num seed e = some t)
    (hsent : Sent s e) : Correlated num s e t ∧ Numbered seed t ∧ Quiet t := by
  -- apart from a call, the calls stay the same ones
  have hmoves : Moves num e s t → Quiet t → Correlated num s e t ∧ Numbered seed t ∧ Quiet t :=
    fun hmoves hquiet' => ⟨hmoves.correlated hnumbered hquiet', hmoves.numbered hnumbered, hquiet'⟩
  cases e with
  | call now sendError =>
    cases sendError with
    | none => exact call_spec hnumbered hquiet h
    | some error => exact hsent.elim
  | elsewhere =>
    obtain rfl := Option.some.inj h
    exact hmoves ⟨Nat.le_succ _, rfl, fun _ c hc => ⟨c, hc, rfl, .inl rfl⟩⟩ hquiet
  | frame parsed =>
    cases parsed with
    | none =>
      obtain rfl := Option.some.inj h
      exact hmoves (.refl _ s) hquiet
    | some m =>
      obtain rfl := Option.some.inj h
      obtain ⟨hspec, hquiet'⟩ := dispatch_spec m s.listeners s hquiet
      exact hmoves hspec hquiet'
  | timeout i =>
    simp only [McpState.step] at h
    cases hc : s.calls[i]? with
    | none => simp [hc] at h
    | some c =>
      have hfinish : (s.finish i .close).settle i .timedOut =
          s.finish i fun c => { c.close with settled := c.settled.or (some .timedOut) } := by
        simp only [McpState.settle, McpState.mapCall, McpState.finish, List.modify_modify_eq]
        rfl
      simp only [hc, cleanup_clearTimer hquiet hc, hfinish, Option.ite_none_right_eq_some] at h
      obtain ⟨-, h⟩ := h
      obtain rfl := Option.some.inj h
      have hspec : Moves num (.timeout i) s _ ∧ _ :=
        McpState.finish_spec (f := fun c => { c.close with settled := c.settled.or (some .timedOut) }) hquiet
          (fun _ => rfl) fun _ _ => .inr ⟨.timedOut, rfl, rfl, rfl⟩
      exact hmoves hspec.1 hspec.2

/-- A call that fails to be sent is settled, and listens until its timer fires. -/
theorem not_correlated_of_sendFailed {now : ℕ} {error : String}
    (h : s.step num seed (.call now (some error)) = some t) :
    ¬ Correlated num s (.call now (some error)) t := by
  obtain rfl := Option.some.inj h
  intro hcorrelated
  refine hcorrelated.unregistered s.calls.length
    ⟨corrId seed now (s.counter + 1), true, false, some (.sendFailed error)⟩ ?_ (by simp)
    (List.mem_append_right _ List.mem_cons_self)
  simp [McpState.settle, McpState.mapCall, PendingCall.new]

theorem correlated_iff (hnumbered : Numbered seed s) (hquiet : Quiet s) (h : s.step num seed e = some t) :
    Correlated num s e t ↔ Sent s e := by
  constructor
  · intro hcorrelated
    cases e with
    | call now sendError =>
      cases sendError with
      | none => trivial
      | some error => exact absurd hcorrelated (not_correlated_of_sendFailed h)
    | _ => trivial
  · exact fun hsent => (step_spec hnumbered hquiet h hsent).1

end

/-- **When calls are correlated**: the runs in which every step settles calls as it should, and leaves no settled call
listening, are those in which no call fails to be sent. -/
theorem calls_correlated_iff (num : Js.Numbers) (seed : ℕ) (es : List McpEvent) (t : McpState) :
    Run ((mcpSystem num seed).restrict Sent).step .new es t ↔
      Run ((mcpSystem num seed).keeping (Correlated num)).step .new es t := by
  have hnew : Numbered seed .new ∧ Quiet .new :=
    ⟨⟨fun _ hid => absurd hid List.not_mem_nil, List.nodup_nil⟩, fun _ _ _ _ => List.not_mem_nil⟩
  refine System.run_restrict_iff_keeping (I := fun s => Numbered seed s ∧ Quiet s) ?_ ?_ hnew
  · intro s e t h hs
    exact correlated_iff hs.1 hs.2 h
  · intro s e t h hs hkeeps
    exact (step_spec hs.1 hs.2 h ((correlated_iff hs.1 hs.2 h).mp hkeeps)).2

/-- A call whose arguments cannot be written as JSON: it is rejected, and its listener stays. -/
theorem calls_not_correlated :
    ¬ ∀ es t, Run (mcpSystem ⟨(· + ·), fun q => toString q.num⟩ 1).step .new es t →
      Run ((mcpSystem ⟨(· + ·), fun q => toString q.num⟩ 1).keeping
        (Correlated ⟨(· + ·), fun q => toString q.num⟩)).step .new es t := by
  intro h
  have hcall : (mcpSystem ⟨(· + ·), fun q => toString q.num⟩ 1).step .new (.call 0 (some "cyclic object value"))
      ⟨1, [⟨"1-0-1", true, false, some (.sendFailed "cyclic object value")⟩], [0]⟩ := rfl
  obtain ⟨t, hstep, hnil⟩ := (h _ _ (.single hcall)).cons_inv
  cases hnil
  exact hstep.2.unregistered 0 _ rfl (by simp) List.mem_cons_self

end Cliptown.Worker
