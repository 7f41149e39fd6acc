import Cliptown.Lib.Runs
import Cliptown.Lib.Table
import Mathlib.Data.Int.Order.Basic

/-!
# Operator presence

The registry of the operators that are connected to the console, one entry per operator.

* `upsert`, `dropEntry`, `gc` — the operations on the registry.
* `presenceSystem` — any number of console connections: each registers its operator, refreshes the
  entry with heartbeats and drops it when it has closed; the collector runs at any moment at which
  every open connection has refreshed within the time to live.
* `Exact` — when no registration and no drop is pending, an operator is in the registry if and only
  if it has an open connection.
* `Present` — the invariant; `LastTab` — an entry is dropped only when the operator has no other
  open connection.
* `exact_of_lastTab` — presence is exact in every run of such steps.
-/

namespace Cliptown.Console

open Cliptown.Lib

/-- Source: `presence.rs` `PRESENCE_TTL_SECS` -/
def presenceTtlSecs : ℤ := 90

/-- The entry of an operator; the id is the registry's key. Source: `presence.rs` `PresenceEntry` -/
structure PresenceEntry where
  operatorName : String
  role : String
  focusedStartupId : Option String
  lastSeenAt : ℤ
  deriving DecidableEq, Repr

/-- Source: `presence.rs` `PresenceRegistry` -/
abbrev PresenceRegistry := Table String PresenceEntry

/-- Add or refresh an entry; the flag says whether peers have to be told.
Source: `presence.rs` `upsert` -/
def upsert (reg : PresenceRegistry) (operatorId operatorName role : String)
    (focusedStartupId : Option String) (now : ℤ) : PresenceRegistry × Bool :=
  match reg.lookup operatorId with
  | some existing =>
      (reg.modify operatorId fun e => { e with
          lastSeenAt := now, focusedStartupId := focusedStartupId },
        existing.focusedStartupId ≠ focusedStartupId)
  | none => (reg.insert operatorId ⟨operatorName, role, focusedStartupId, now⟩, true)

/-- Source: `presence.rs` `drop_entry` -/
def dropEntry (reg : PresenceRegistry) (operatorId : String) : PresenceRegistry × Bool :=
  (reg.erase operatorId, (reg.lookup operatorId).isSome)

/-- Source: `presence.rs` `gc` -/
def gc (reg : PresenceRegistry) (now : ℤ) : PresenceRegistry × ℕ :=
  let kept := reg.deleteWhere fun _ e => decide (e.lastSeenAt < now - presenceTtlSecs)
  (kept, reg.entries.length - kept.entries.length)

section Operations

variable {reg : PresenceRegistry} {operatorId other name role : String} {focus : Option String}
  {now : ℤ}

/-- After an upsert the entry is there, seen now. -/
theorem lookup_upsert_self (reg : PresenceRegistry) (operatorId name role : String)
    (focus : Option String) (now : ℤ) :
    ∃ e, (upsert reg operatorId name role focus now).1.lookup operatorId = some e ∧
      e.lastSeenAt = now := by
  unfold upsert
  cases hreg : reg.lookup operatorId with
  | none => exact ⟨_, AList.lookup_insert _, rfl⟩
  | some e => exact ⟨_, by rw [Table.lookup_modify_self, hreg]; rfl, rfl⟩

/-- An upsert leaves other operators alone. -/
theorem lookup_upsert_ne (h : other ≠ operatorId) :
    (upsert reg operatorId name role focus now).1.lookup other = reg.lookup other := by
  unfold upsert
  cases reg.lookup operatorId with
  | none => exact AList.lookup_insert_ne h
  | some e => exact Table.lookup_modify_ne _ h _

/-- The collector keeps the entries that it finds fresh, and adds none. -/
theorem lookup_gc (reg : PresenceRegistry) (now : ℤ) (operatorId : String) :
    (gc reg now).1.lookup operatorId =
      (reg.lookup operatorId).bind fun e =>
        if e.lastSeenAt < now - presenceTtlSecs then none else some e := by
  simp [gc]

end Operations

/-! ### The system -/

/-- A console connection past its hello, with the identity captured there. -/
structure ConsoleConn where
  id : ℕ
  operatorId : String
  operatorName : String
  role : String
  deriving DecidableEq, Repr

/-- The registry, the clock, and the connections by what they are about to do. -/
structure PresenceState where
  clock : ℤ
  registry : PresenceRegistry
  /-- Connected, with the upsert still to come. -/
  opening : List ConsoleConn
  /-- In the socket loop, with the time of the last upsert. -/
  live : Table ConsoleConn ℤ
  /-- Past the socket loop, with the drop still to come. -/
  closing : List ConsoleConn

/-- What can happen. -/
inductive PresenceEvent where
  | connect (c : ConsoleConn)
  /-- The upsert on connect. -/
  | register (c : ConsoleConn)
  | heartbeat (c : ConsoleConn) (focusedStartupId : Option String)
  /-- The socket loop ends. -/
  | close (c : ConsoleConn)
  /-- The drop on disconnect. -/
  | drop (c : ConsoleConn)
  | gc
  deriving DecidableEq, Repr

/-- What an event does at the time `s.clock`. -/
def PresenceEvent.Step (s : PresenceState) : PresenceEvent → PresenceState → Prop
  | .connect c, t => t = { s with opening := c :: s.opening }
  | .register c, t => c ∈ s.opening ∧
      t = { s with
        registry := (upsert s.registry c.operatorId c.operatorName c.role none s.clock).1
        opening := s.opening.erase c
        live := s.live.insert c s.clock }
  | .heartbeat c focus, t => (s.live.lookup c).isSome ∧
      t = { s with
        registry := (upsert s.registry c.operatorId c.operatorName c.role focus s.clock).1
        live := s.live.insert c s.clock }
  | .close c, t => (s.live.lookup c).isSome ∧
      t = { s with live := s.live.erase c, closing := c :: s.closing }
  | .drop c, t => c ∈ s.closing ∧
      t = { s with
        registry := (dropEntry s.registry c.operatorId).1
        closing := s.closing.erase c }
  | .gc, t => (∀ c, ∀ refreshed ∈ s.live.lookup c, s.clock - presenceTtlSecs ≤ refreshed) ∧
      t = { s with registry := (Console.gc s.registry s.clock).1 }

/-- Connections and the collector in any order, under a clock that does not go back.
Source: `http.rs` `handle_console`, `loop_.rs` `spawn_with_layout` -/
def presenceSystem : System PresenceState (ℤ × PresenceEvent) where
  init s := s.registry = ∅ ∧ s.opening = [] ∧ s.live = ∅ ∧ s.closing = []
  step s l t := s.clock ≤ l.1 ∧ l.2.Step { s with clock := l.1 } t

/-- The operator has a connection in its socket loop. -/
def HasOpen (s : PresenceState) (operatorId : String) : Prop :=
  ∃ c, (s.live.lookup c).isSome ∧ c.operatorId = operatorId

/-- With nothing pending, the operators present are those with an open connection. -/
def Exact (s : PresenceState) : Prop :=
  s.opening = [] → s.closing = [] →
    ∀ operatorId, (s.registry.lookup operatorId).isSome ↔ HasOpen s operatorId

/-- An entry is dropped only when its operator has no open connection left. -/
def LastTab (s : PresenceState) : ℤ × PresenceEvent → Prop
  | (_, .drop c) => ¬ HasOpen s c.operatorId
  | _ => True

/-! ### The invariant -/

/-- An entry belongs to a connection that is open or about to drop it; an open connection has an
entry seen no earlier than its own last refresh, which is not ahead of the clock. -/
structure Present (s : PresenceState) : Prop where
  owned : ∀ operatorId, (s.registry.lookup operatorId).isSome →
    HasOpen s operatorId ∨ ∃ c ∈ s.closing, c.operatorId = operatorId
  fresh : ∀ c refreshed, s.live.lookup c = some refreshed →
    refreshed ≤ s.clock ∧ ∃ e ∈ s.registry.lookup c.operatorId, refreshed ≤ e.lastSeenAt

section Invariant

variable {s t : PresenceState} {l : ℤ × PresenceEvent}

/-- A refresh by an open connection keeps the invariant. -/
theorem present_refresh (hs : Present s) (c : ConsoleConn) (focus : Option String)
    (opening : List ConsoleConn) :
    Present { s with
      registry := (upsert s.registry c.operatorId c.operatorName c.role focus s.clock).1
      opening := opening
      live := s.live.insert c s.clock } := by
  constructor
  · intro operatorId hsome
    by_cases hop : operatorId = c.operatorId
    · exact .inl ⟨c, by rw [AList.lookup_insert]; rfl, hop.symm⟩
    · rw [lookup_upsert_ne hop] at hsome
      rcases hs.owned operatorId hsome with ⟨d, hd, hagent⟩ | hclosing
      · refine .inl ⟨d, ?_, hagent⟩
        rw [Table.lookup_insert_eq]
        split
        · rfl
        · exact hd
      · exact .inr hclosing
  · intro d refreshed hd
    have hle : refreshed ≤ s.clock := by
      rw [Table.lookup_insert_eq] at hd
      split at hd
      · exact le_of_eq (Option.some.inj hd).symm
      · exact (hs.fresh d refreshed hd).1
    refine ⟨hle, ?_⟩
    by_cases hop : d.operatorId = c.operatorId
    · obtain ⟨e, he, hseen⟩ := lookup_upsert_self s.registry c.operatorId c.operatorName c.role
        focus s.clock
      rw [hop]
      exact ⟨e, he, by rw [hseen]; exact hle⟩
    · rw [lookup_upsert_ne hop]
      have hne : d ≠ c := fun h => hop (by rw [h])
      rw [AList.lookup_insert_ne hne] at hd
      exact (hs.fresh d refreshed hd).2

/-- **Every step that drops no entry of an operator with an open connection keeps the invariant.** -/
theorem present_of_step (hs : Present s) (h : (presenceSystem.restrict LastTab).step s l t) :
    Present t := by
  obtain ⟨hlast, hclock, hstep⟩ := h
  obtain ⟨time, e⟩ := l
  have hs' : Present { s with clock := time } :=
    ⟨hs.owned, fun c r hr => ⟨le_trans (hs.fresh c r hr).1 hclock, (hs.fresh c r hr).2⟩⟩
  cases e with
  | connect c =>
      rw [hstep]
      exact ⟨hs'.owned, hs'.fresh⟩
  | register c =>
      rw [hstep.2]
      exact present_refresh hs' c none _
  | heartbeat c focus =>
      rw [hstep.2]
      exact present_refresh hs' c focus _
  | close c =>
      rw [hstep.2]
      constructor
      · intro operatorId hsome
        rcases hs'.owned operatorId hsome with ⟨d, hd, hop⟩ | ⟨d, hd, hop⟩
        · by_cases hdc : d = c
          · exact .inr ⟨c, List.mem_cons_self, hdc ▸ hop⟩
          · exact .inl ⟨d, by rw [AList.lookup_erase_ne hdc]; exact hd, hop⟩
        · exact .inr ⟨d, List.mem_cons_of_mem c hd, hop⟩
      · intro d refreshed hd
        rw [Table.lookup_erase_eq] at hd
        split at hd
        · exact absurd hd (by simp)
        · exact hs'.fresh d refreshed hd
  | drop c =>
      rw [hstep.2]
      constructor
      · intro operatorId hsome
        simp only [dropEntry, Table.lookup_erase_eq] at hsome
        split at hsome
        · exact absurd hsome (by simp)
        · rename_i hop
          rcases hs'.owned operatorId hsome with hopen | ⟨d, hd, hagent⟩
          · exact .inl hopen
          · have hne : d ≠ c := fun h => hop (by rw [← hagent, h])
            exact .inr ⟨d, (List.mem_erase_of_ne hne).mpr hd, hagent⟩
      · intro d refreshed hd
        obtain ⟨hle, e, he, hseen⟩ := hs'.fresh d refreshed hd
        refine ⟨hle, e, ?_, hseen⟩
        -- the entry of an open connection is not the one dropped
        have hop : d.operatorId ≠ c.operatorId := fun h =>
          hlast ⟨d, Option.isSome_iff_exists.mpr ⟨refreshed, hd⟩, h⟩
        exact (AList.lookup_erase_ne hop).trans he
  | gc =>
      obtain ⟨hfresh, rfl⟩ := hstep
      constructor
      · intro operatorId hsome
        simp only [lookup_gc] at hsome
        apply hs'.owned operatorId
        cases hreg : s.registry.lookup operatorId with
        | none => simp [hreg] at hsome
        | some e => rfl
      · intro d refreshed hd
        obtain ⟨hle, e, he, hseen⟩ := hs'.fresh d refreshed hd
        refine ⟨hle, e, ?_, hseen⟩
        have hlive : ¬ e.lastSeenAt < time - presenceTtlSecs := by
          have := hfresh d refreshed hd
          simp only at this
          omega
        rw [Option.mem_def] at he ⊢
        simp only at he
        rw [lookup_gc, he, Option.bind_some, if_neg hlive]

/-- The invariant makes presence exact. -/
theorem exact_of_present (hs : Present s) : Exact s := by
  intro _ hclosing operatorId
  constructor
  · intro hsome
    rcases hs.owned operatorId hsome with hopen | ⟨c, hc, _⟩
    · exact hopen
    · rw [hclosing] at hc
      exact absurd hc List.not_mem_nil
  · rintro ⟨c, hc, rfl⟩
    obtain ⟨refreshed, hr⟩ := Option.isSome_iff_exists.mp hc
    obtain ⟨e, he, _⟩ := (hs.fresh c refreshed hr).2
    exact Option.isSome_of_mem he

/-- **Presence is exact**, in every run in which an entry is dropped only when its operator has no
open connection left. Source: `presence.rs`, `http.rs` `handle_console` -/
theorem exact_of_lastTab (h : (presenceSystem.restrict LastTab).Reachable s) : Exact s := by
  apply exact_of_present
  apply h.invariant
  · rintro s ⟨hreg, _, hlive, _⟩
    exact ⟨by simp [hreg], by simp [hlive]⟩
  · exact fun s l t hs hst => present_of_step hs hst

end Invariant

/-! ### Two tabs -/

/-- A tab of an operator. -/
def tab (id : ℕ) : ConsoleConn := ⟨id, "op_admin", "Admin", "admin"⟩

/-- What the registry holds of that operator at time 0. -/
def tabEntry : PresenceEntry := ⟨"Admin", "admin", none, 0⟩

/-- The state with one open tab. -/
def oneTab : PresenceState :=
  ⟨0, AList.singleton "op_admin" tabEntry, [], AList.singleton (tab 1) 0, []⟩

/-- Opening a tab. -/
theorem oneTab_reachable : (presenceSystem.restrict LastTab).Reachable oneTab := by
  have hinit : (presenceSystem.restrict LastTab).Reachable ⟨0, ∅, [], ∅, []⟩ :=
    .init ⟨rfl, rfl, rfl, rfl⟩
  have hconnect : (presenceSystem.restrict LastTab).Reachable ⟨0, ∅, [tab 1], ∅, []⟩ :=
    .step (l := (0, .connect (tab 1))) hinit ⟨trivial, le_refl 0, rfl⟩
  exact .step (l := (0, .register (tab 1))) hconnect
    ⟨trivial, le_refl 0, List.mem_cons_self, rfl⟩

/-- The state with two open tabs. -/
def bothTabs : PresenceState :=
  ⟨0, AList.singleton "op_admin" tabEntry, [], (AList.singleton (tab 1) 0 : Table ConsoleConn ℤ).insert (tab 2) 0, []⟩

/-- Opening a second tab. -/
theorem bothTabs_reachable : (presenceSystem.restrict LastTab).Reachable bothTabs := by
  have hconnect : (presenceSystem.restrict LastTab).Reachable
      ⟨0, AList.singleton "op_admin" tabEntry, [tab 2], AList.singleton (tab 1) 0, []⟩ :=
    .step (l := (0, .connect (tab 2))) oneTab_reachable ⟨trivial, le_refl 0, rfl⟩
  exact .step (l := (0, .register (tab 2))) hconnect ⟨trivial, le_refl 0, List.mem_cons_self, rfl⟩

/-- A tab of another operator. -/
def viewerTab : ConsoleConn := ⟨3, "op_viewer", "Viewer", "viewer"⟩

/-- The state in which only that tab is open. -/
def viewerOnly : PresenceState :=
  ⟨0, AList.singleton "op_viewer" ⟨"Viewer", "viewer", none, 0⟩, [], AList.singleton viewerTab 0, []⟩

/-- Where only that tab is open, no tab of the first operator is. -/
theorem not_hasOpen_viewerOnly {s : PresenceState} (h : s.live = viewerOnly.live) : ¬ HasOpen s "op_admin" := by
  rintro ⟨c, hc, hop⟩
  rw [h] at hc
  have hkey : c = viewerTab := List.mem_singleton.mp (AList.mem_keys.mp (AList.lookup_isSome.mp hc))
  rw [hkey] at hop
  exact absurd hop (by decide)

/-- Both tabs close, and then their drops are applied. -/
theorem viewerOnly_reachable : (presenceSystem.restrict LastTab).Reachable viewerOnly := by
  have hconnect : (presenceSystem.restrict LastTab).Reachable { bothTabs with opening := [viewerTab] } :=
    .step (l := (0, .connect viewerTab)) bothTabs_reachable ⟨trivial, le_refl 0, rfl⟩
  have hthree : (presenceSystem.restrict LastTab).Reachable
      { bothTabs with
        registry := bothTabs.registry.insert "op_viewer" ⟨"Viewer", "viewer", none, 0⟩
        live := bothTabs.live.insert viewerTab 0 } :=
    .step (l := (0, .register viewerTab)) hconnect ⟨trivial, le_refl 0, List.mem_cons_self, rfl⟩
  have hfirst : (presenceSystem.restrict LastTab).Reachable
      { bothTabs with
        registry := bothTabs.registry.insert "op_viewer" ⟨"Viewer", "viewer", none, 0⟩
        live := (AList.singleton (tab 2) 0 : Table ConsoleConn ℤ).insert viewerTab 0
        closing := [tab 1] } :=
    .step (l := (0, .close (tab 1))) hthree ⟨trivial, le_refl 0, by decide, rfl⟩
  have hclosed : (presenceSystem.restrict LastTab).Reachable
      { viewerOnly with
        registry := bothTabs.registry.insert "op_viewer" ⟨"Viewer", "viewer", none, 0⟩
        closing := [tab 2, tab 1] } :=
    .step (l := (0, .close (tab 2))) hfirst ⟨trivial, le_refl 0, by decide, rfl⟩
  have hdrop : (presenceSystem.restrict LastTab).Reachable { viewerOnly with closing := [tab 1] } := by
    refine .step (l := (0, .drop (tab 2))) hclosed ⟨?_, le_refl 0, List.mem_cons_self, rfl⟩
    exact not_hasOpen_viewerOnly rfl
  exact .step (l := (0, .drop (tab 1))) hdrop ⟨not_hasOpen_viewerOnly rfl, le_refl 0, List.mem_cons_self, rfl⟩

/-- Once the drops of both tabs are applied, the other operator alone is present. -/
theorem exact_viewerOnly :
    (viewerOnly.registry.lookup "op_admin").isNone ∧ (viewerOnly.registry.lookup "op_viewer").isSome ∧
      Exact viewerOnly :=
  ⟨by decide, by decide, exact_of_lastTab viewerOnly_reachable⟩

/-- Of two open tabs one closes: its drop removes the operator, who is still connected. -/
theorem not_exact_two_tabs : ¬ ∀ s, presenceSystem.Reachable s → Exact s := by
  intro h
  have hclose : presenceSystem.Reachable ⟨0, AList.singleton "op_admin" tabEntry, [],
      AList.singleton (tab 2) 0, [tab 1]⟩ :=
    .step (l := (0, .close (tab 1))) bothTabs_reachable.of_restrict ⟨le_refl 0, by decide, rfl⟩
  have hdrop : presenceSystem.Reachable ⟨0, ∅, [], AList.singleton (tab 2) 0, []⟩ :=
    .step (l := (0, .drop (tab 1))) hclose ⟨le_refl 0, List.mem_cons_self, rfl⟩
  have hmiss := (h _ hdrop rfl rfl "op_admin").mpr ⟨tab 2, by decide, rfl⟩
  exact absurd hmiss (by decide)

end Cliptown.Console
