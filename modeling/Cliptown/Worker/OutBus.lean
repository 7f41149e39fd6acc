import Cliptown.Lib.Runs
import Cliptown.Lib.Table

/-!
# The outbound map of the workers

The world loop keeps one sender per agent; a worker connection registers its sender when it opens
and unregisters the agent when it closes.

* `handleBusMsg` — what the loop does with a `RegisterWorker` and an `UnregisterWorker`.
* `busSystem` — any number of connections of any agents, opening and closing at any moment, with
  their messages in the loop's queue.
* `Delivered` — an agent with a registered open connection has the sender of an open connection in
  the map.
* `Solo` — no other registered connection of the agent is open when one of its connections closes,
  unregisters, or is registered after it has closed.
* `delivered_iff_solo` — after runs of such steps, a step keeps `Delivered` if and only if it is one.
-/

namespace Cliptown.Worker

open Cliptown.Lib

/-- A worker connection: one run of `handle_worker` past its hello, for an agent. -/
structure Connection where
  id : ℕ
  agentId : String
  deriving DecidableEq, Repr

/-- The messages of a connection to the world loop; the sender of a connection is named by the
connection. Source: `loop_.rs` `Cmd::RegisterWorker`, `Cmd::UnregisterWorker` -/
inductive BusMsg where
  | registerWorker (agentId : String) (tx : Connection)
  | unregisterWorker (agentId : String)
  deriving DecidableEq, Repr

/-- Source: `loop_.rs`, the arms `RegisterWorker` and `UnregisterWorker` of the world loop -/
def handleBusMsg (outBus : Table String Connection) : BusMsg → Table String Connection
  | .registerWorker agentId tx => outBus.insert agentId tx
  | .unregisterWorker agentId => outBus.erase agentId

/-- The map, the connections, and the messages under way to the loop, oldest first. -/
structure BusState where
  outBus : Table String Connection
  /-- Every connection so far. -/
  seen : List Connection
  /-- The connections whose socket loop still runs. -/
  opened : List Connection
  /-- The connections whose `RegisterWorker` the loop has handled. -/
  registered : List Connection
  queue : List BusMsg

/-- What can happen. -/
inductive BusLabel where
  /-- A connection opens and sends its `RegisterWorker`. -/
  | connect (c : Connection)
  /-- A connection leaves its socket loop and sends its `UnregisterWorker`. -/
  | close (c : Connection)
  /-- The world loop handles the oldest message. -/
  | handle
  deriving DecidableEq, Repr

/-- The connection that a message registers. -/
def BusMsg.registers : BusMsg → List Connection
  | .registerWorker _ tx => [tx]
  | .unregisterWorker _ => []

/-- Connections and the world loop in any order.
Source: `http.rs` `handle_worker`, `loop_.rs` `spawn_with_layout` -/
def busSystem : System BusState BusLabel where
  init s := s = ⟨∅, [], [], [], []⟩
  step s l t :=
    match l with
    | .connect c => c ∉ s.seen ∧
        t = { s with
          seen := c :: s.seen
          opened := c :: s.opened
          queue := s.queue ++ [.registerWorker c.agentId c] }
    | .close c => c ∈ s.opened ∧
        t = { s with
          opened := s.opened.filter (· ≠ c)
          queue := s.queue ++ [.unregisterWorker c.agentId] }
    | .handle => ∃ m rest, s.queue = m :: rest ∧
        t = { s with
          outBus := handleBusMsg s.outBus m
          registered := m.registers ++ s.registered
          queue := rest }

/-- The agent has a registered connection that is open. -/
def Connected (s : BusState) (agentId : String) : Prop :=
  ∃ c ∈ s.registered, c ∈ s.opened ∧ c.agentId = agentId

/-- An agent with a registered open connection has the sender of an open connection in the map. -/
def Delivered (s : BusState) : Prop :=
  ∀ agentId, Connected s agentId → ∃ c ∈ s.outBus.lookup agentId, c ∈ s.opened

/-- Handling an `UnregisterWorker`, or the `RegisterWorker` of a connection that has closed already,
finds no registered open connection of the agent. -/
def BusMsg.Solo (s : BusState) : BusMsg → Prop
  | .registerWorker agentId c => c ∉ s.opened → ¬ Connected s agentId
  | .unregisterWorker agentId => ¬ Connected s agentId

/-- No other registered connection of the agent is open when a connection closes whose sender is in
the map, when an `UnregisterWorker` is handled, and when the `RegisterWorker` of a connection is
handled that has closed already. -/
def Solo (s : BusState) : BusLabel → Prop
  | .connect _ => True
  | .close c => s.outBus.lookup c.agentId = some c →
      ∀ d ∈ s.registered, d ∈ s.opened → d.agentId = c.agentId → d = c
  | .handle => ∀ m ∈ s.queue.head?, m.Solo s

/-! ### Bookkeeping -/

section Bookkeeping

variable {s t : BusState} {l : BusLabel}

/-- Every connection registered or about to be is one that opened, and registers under its own
agent. -/
structure Tracked (s : BusState) : Prop where
  keyed : ∀ agentId, ∀ c ∈ s.outBus.lookup agentId, c.agentId = agentId
  registered : ∀ c ∈ s.registered, c ∈ s.seen
  queued : ∀ agentId c, .registerWorker agentId c ∈ s.queue → c ∈ s.seen ∧ c.agentId = agentId

/-- Every step keeps the bookkeeping. -/
theorem tracked_of_step (hs : Tracked s) (h : busSystem.step s l t) : Tracked t := by
  cases l with
  | connect c =>
      obtain ⟨_, rfl⟩ := h
      refine ⟨hs.keyed, ?_, ?_⟩
      · intro d hd
        exact List.mem_cons_of_mem c (hs.registered d hd)
      · intro agentId d hd
        rcases List.mem_append.mp hd with hd | hd
        · obtain ⟨hseen, hagent⟩ := hs.queued agentId d hd
          exact ⟨List.mem_cons_of_mem c hseen, hagent⟩
        · simp only [List.mem_singleton, BusMsg.registerWorker.injEq] at hd
          obtain ⟨rfl, rfl⟩ := hd
          exact ⟨List.mem_cons_self, rfl⟩
  | close c =>
      obtain ⟨_, rfl⟩ := h
      refine ⟨hs.keyed, hs.registered, ?_⟩
      · intro agentId d hd
        rcases List.mem_append.mp hd with hd | hd
        · exact hs.queued agentId d hd
        · simp at hd
  | handle =>
      obtain ⟨m, rest, hqueue, rfl⟩ := h
      refine ⟨?_, ?_, ?_⟩
      · intro other d hd
        cases m with
        | registerWorker agentId tx =>
            rw [Option.mem_def, handleBusMsg, Table.lookup_insert_eq] at hd
            split at hd
            · rename_i hother
              obtain rfl := Option.some.inj hd
              rw [hother]
              exact (hs.queued agentId tx (by rw [hqueue]; exact List.mem_cons_self)).2
            · exact hs.keyed other d hd
        | unregisterWorker agentId =>
            rw [Option.mem_def, handleBusMsg, Table.lookup_erase_eq] at hd
            split at hd
            · exact absurd hd (by simp)
            · exact hs.keyed other d hd
      · intro d hd
        rcases List.mem_append.mp hd with hd | hd
        · cases m with
          | registerWorker agentId tx =>
              obtain rfl := List.mem_singleton.mp hd
              exact (hs.queued agentId d (by rw [hqueue]; exact List.mem_cons_self)).1
          | unregisterWorker agentId => simp [BusMsg.registers] at hd
        · exact hs.registered d hd
      · intro agentId d hd
        exact hs.queued agentId d (by rw [hqueue]; exact List.mem_cons_of_mem m hd)

/-- The bookkeeping holds in every reachable state. -/
theorem tracked_of_reachable (h : busSystem.Reachable s) : Tracked s := by
  apply h.invariant
  · rintro s rfl
    exact ⟨by simp, by simp, by simp⟩
  · exact fun s l t hs hst => tracked_of_step hs hst

end Bookkeeping

/-! ### Delivery -/

section Delivery

variable {s t : BusState} {l : BusLabel}

/-- **A step keeps delivery if and only if it is solo.** -/
theorem delivered_step_iff (hs : Tracked s) (hd : Delivered s) (h : busSystem.step s l t) :
    Delivered t ↔ Solo s l := by
  cases l with
  | connect c =>
      obtain ⟨hnew, rfl⟩ := h
      refine ⟨fun _ => trivial, fun _ => ?_⟩
      rintro agentId ⟨d, hreg, hopen, hagent⟩
      have hne : d ≠ c := by
        rintro rfl
        exact hnew (hs.registered d hreg)
      have hopen : d ∈ s.opened := (List.mem_cons.mp hopen).resolve_left hne
      obtain ⟨e, he, hmem⟩ := hd agentId ⟨d, hreg, hopen, hagent⟩
      exact ⟨e, he, List.mem_cons_of_mem c hmem⟩
  | close c =>
      obtain ⟨hopenc, rfl⟩ := h
      constructor
      · -- the map holds the sender that closes: no other connection is left to be delivered to
        intro ht hbus d hreg hopen hagent
        by_contra hne
        obtain ⟨e, he, hmem⟩ := ht c.agentId ⟨d, hreg, by simp [hopen, hne], hagent⟩
        obtain rfl : c = e := Option.some.inj (hbus.symm.trans he)
        simp at hmem
      · rintro hsolo agentId ⟨d, hreg, hopen, hagent⟩
        simp only [List.mem_filter, decide_eq_true_eq] at hopen
        obtain ⟨e, he, hmem⟩ := hd agentId ⟨d, hreg, hopen.1, hagent⟩
        have hne : e ≠ c := by
          rintro rfl
          have hkey := hs.keyed agentId e he
          subst hkey
          exact hopen.2 (hsolo he d hreg hopen.1 hagent)
        exact ⟨e, he, by simp [hmem, hne]⟩
  | handle =>
      obtain ⟨m, rest, hqueue, rfl⟩ := h
      have hhead : Solo s .handle ↔ m.Solo s := by simp [Solo, hqueue]
      rw [hhead]
      cases m with
      | registerWorker agentId c =>
          obtain ⟨_, hagentc⟩ := hs.queued agentId c (by rw [hqueue]; exact List.mem_cons_self)
          constructor
          · rintro ht hclosed ⟨d, hreg, hopen, hagent⟩
            obtain ⟨e, he, hmem⟩ := ht agentId ⟨d, List.mem_cons_of_mem c hreg, hopen, hagent⟩
            obtain rfl : c = e := Option.some.inj ((AList.lookup_insert _).symm.trans he)
            exact hclosed hmem
          · rintro hsolo other ⟨d, hreg, hopen, hagent⟩
            by_cases hother : other = agentId
            · subst hother
              refine ⟨c, AList.lookup_insert _, ?_⟩
              by_contra hclosed
              rcases List.mem_cons.mp hreg with rfl | hreg
              · exact hclosed hopen
              · exact hsolo hclosed ⟨d, hreg, hopen, hagent⟩
            · have hne : d ≠ c := by
                rintro rfl
                exact hother (hagent.symm.trans hagentc)
              obtain ⟨e, he, hmem⟩ := hd other
                ⟨d, (List.mem_cons.mp hreg).resolve_left hne, hopen, hagent⟩
              exact ⟨e, (AList.lookup_insert_ne hother).trans he, hmem⟩
      | unregisterWorker agentId =>
          constructor
          · rintro ht ⟨d, hreg, hopen, hagent⟩
            obtain ⟨e, he, _⟩ := ht agentId ⟨d, hreg, hopen, hagent⟩
            rw [Option.mem_def, handleBusMsg, AList.lookup_erase] at he
            exact absurd he (by simp)
          · rintro hsolo other ⟨d, hreg, hopen, hagent⟩
            by_cases hother : other = agentId
            · subst hother
              exact absurd ⟨d, hreg, hopen, hagent⟩ hsolo
            · obtain ⟨e, he, hmem⟩ := hd other ⟨d, hreg, hopen, hagent⟩
              exact ⟨e, (AList.lookup_erase_ne hother).trans he, hmem⟩

/-- **Delivery after reconnects**: it holds after every run of solo steps, and a further step keeps
it if and only if that step is solo. Source: `loop_.rs`, `http.rs` `handle_worker` -/
theorem delivered_iff_solo (h : (busSystem.restrict Solo).Reachable s) :
    Delivered s ∧ ∀ l t, busSystem.step s l t → (Delivered t ↔ Solo s l) := by
  have hd : Delivered s := by
    refine h.invariant_of (J := Tracked) (fun s hs => tracked_of_reachable hs.of_restrict) ?_ ?_
    · rintro s rfl agentId ⟨c, hc, _⟩
      exact absurd hc List.not_mem_nil
    · exact fun s l t hs hd hst => (delivered_step_iff hs hd hst.2).mpr hst.1
  exact ⟨hd, fun l t hst => delivered_step_iff (tracked_of_reachable h.of_restrict) hd hst⟩

end Delivery

/-! ### Overlapping connections -/

/-- Two connections of one agent. -/
def firstConn : Connection := ⟨1, "agent"⟩

/-- The second of them. -/
def secondConn : Connection := ⟨2, "agent"⟩

/-- The state after the first connection has opened and been registered. -/
def oneConnected : BusState :=
  ⟨AList.singleton "agent" firstConn, [firstConn], [firstConn], [firstConn], []⟩

/-- A first connection is a solo run. -/
theorem oneConnected_reachable : (busSystem.restrict Solo).Reachable oneConnected := by
  have hconnect : (busSystem.restrict Solo).Reachable
      ⟨∅, [firstConn], [firstConn], [], [.registerWorker "agent" firstConn]⟩ :=
    .step (l := .connect firstConn) (.init rfl) ⟨trivial, by decide, rfl⟩
  refine .step (l := .handle) hconnect ⟨?_, _, _, rfl, rfl⟩
  intro m hm
  obtain rfl := Option.some.inj hm
  exact fun hclosed => absurd List.mem_cons_self hclosed

/-- The state after it has closed, and the agent is connected again. -/
def reconnected : BusState :=
  ⟨AList.singleton "agent" secondConn, [secondConn, firstConn], [secondConn], [secondConn, firstConn], []⟩

/-- A second connection that opens after the first one has unregistered is a solo run. -/
theorem reconnected_reachable : (busSystem.restrict Solo).Reachable reconnected := by
  have hclose : (busSystem.restrict Solo).Reachable
      ⟨AList.singleton "agent" firstConn, [firstConn], [], [firstConn],
        [.unregisterWorker "agent"]⟩ := by
    refine .step (l := .close firstConn) oneConnected_reachable ⟨?_, by decide, rfl⟩
    exact fun _ d hd _ _ => List.mem_singleton.mp hd
  have hclosed : (busSystem.restrict Solo).Reachable ⟨∅, [firstConn], [], [firstConn], []⟩ := by
    refine .step (l := .handle) hclose ⟨?_, _, _, rfl, rfl⟩
    intro m hm
    obtain rfl := Option.some.inj hm
    rintro ⟨d, -, hopen, -⟩
    exact absurd hopen List.not_mem_nil
  have hconnect : (busSystem.restrict Solo).Reachable ⟨∅, [secondConn, firstConn], [secondConn], [firstConn],
      [.registerWorker "agent" secondConn]⟩ :=
    .step (l := .connect secondConn) hclosed ⟨trivial, by decide, rfl⟩
  refine .step (l := .handle) hconnect ⟨?_, _, _, rfl, rfl⟩
  intro m hm
  obtain rfl := Option.some.inj hm
  exact fun hnew => absurd List.mem_cons_self hnew

/-- After the reconnect, the map holds the sender of the second connection. -/
theorem delivered_after_reconnect :
    Connected reconnected "agent" ∧ reconnected.outBus.lookup "agent" = some secondConn ∧ Delivered reconnected :=
  ⟨⟨secondConn, by decide, by decide, rfl⟩, by decide, (delivered_iff_solo reconnected_reachable).1⟩

/-- The second connection registers before the first one closes: the `UnregisterWorker` of the first
removes the sender of the second. -/
theorem not_delivered_after_overlap : ¬ ∀ s, busSystem.Reachable s → Delivered s := by
  intro h
  have hsecond : busSystem.Reachable ⟨AList.singleton "agent" firstConn, [secondConn, firstConn],
      [secondConn, firstConn], [firstConn], [.registerWorker "agent" secondConn]⟩ :=
    .step (l := .connect secondConn) oneConnected_reachable.of_restrict ⟨by decide, rfl⟩
  have hboth : busSystem.Reachable ⟨AList.singleton "agent" secondConn, [secondConn, firstConn],
      [secondConn, firstConn], [secondConn, firstConn], []⟩ :=
    .step (l := .handle) hsecond ⟨_, _, rfl, rfl⟩
  have hclose : busSystem.Reachable ⟨AList.singleton "agent" secondConn, [secondConn, firstConn],
      [secondConn], [secondConn, firstConn], [.unregisterWorker "agent"]⟩ :=
    .step (l := .close firstConn) hboth ⟨by decide, rfl⟩
  have hd := h ⟨∅, [secondConn, firstConn], [secondConn], [secondConn, firstConn], []⟩
    (.step (l := .handle) hclose ⟨_, _, rfl, rfl⟩)
  obtain ⟨c, hc, -⟩ := hd "agent" ⟨secondConn, by decide, by decide, rfl⟩
  exact absurd hc (Option.not_mem_none c)

end Cliptown.Worker
