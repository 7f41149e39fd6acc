import Mathlib.Data.List.Induction
import Mathlib.Data.List.Nodup
import Mathlib.Data.List.TakeDrop
import Mathlib.Order.Basic

/-!
# Windows of a log

A log that keeps its last entries, and of several with one key the first.

* `keepLast` — the end of a list that fits under a cap.
* `arrive`, `window` — an entry is added at the end unless its key is held; what is held after a sequence of arrivals
  and other events.
* `Arrivals` — the held entries, each with the place in the sequence at which it arrived: there its key was not held,
  and it has been held ever since.
* `nodup_window`, `length_window_le`, `exists_arrivals` — the keys of a window are distinct, the window fits under the
  cap, and it is in the order of the arrivals.
* `mem_arrive`, `key_mem_arrive` — what has just arrived is held.

Nothing here names a program: entries and keys are of arbitrary types.
-/

namespace Cliptown.Lib

variable {α β κ : Type*}

/-! ### The end of a list -/

/-- The last `cap` elements. -/
def keepLast (cap : ℕ) (l : List α) : List α :=
  l.drop (l.length - cap)

theorem keepLast_sublist (cap : ℕ) (l : List α) : (keepLast cap l).Sublist l :=
  List.drop_sublist _ _

theorem length_keepLast_le (cap : ℕ) (l : List α) : (keepLast cap l).length ≤ cap := by
  rw [keepLast, List.length_drop]
  omega

/-- Whatever is dropped, the last element is not. -/
theorem mem_keepLast_append {cap : ℕ} (hcap : 0 < cap) (l : List α) (x : α) : x ∈ keepLast cap (l ++ [x]) := by
  rw [keepLast, List.drop_append_of_le_length (by rw [List.length_append, List.length_singleton]; omega)]
  exact List.mem_append_right _ List.mem_cons_self

theorem map_keepLast (f : α → β) (cap : ℕ) (l : List α) : (keepLast cap l).map f = keepLast cap (l.map f) := by
  rw [keepLast, keepLast, List.map_drop, List.length_map]

/-! ### Windows -/

variable [DecidableEq κ] (key : α → κ) (cap : ℕ)

/-- Add an entry, unless one with its key is held. -/
def arrive (held : List α) (x : α) : List α :=
  if key x ∈ held.map key then held else keepLast cap (held ++ [x])

/-- What is held after a sequence of events, some of which are arrivals. -/
def window (events : List (Option α)) : List α :=
  events.foldl (fun held event => event.elim held (arrive key cap held)) []

/-- The entries of a window with the places of their arrivals, in this order: when an entry arrived its key was not
held, and the entry has been held in every window since. -/
structure Arrivals (events : List (Option α)) (held : List (ℕ × α)) : Prop where
  entries : held.map Prod.snd = window key cap events
  ordered : held.Pairwise fun d e => d.1 < e.1
  arrived : ∀ e ∈ held, events[e.1]? = some (some e.2)
  new : ∀ e ∈ held, key e.2 ∉ (window key cap (events.take e.1)).map key
  since : ∀ e ∈ held, ∀ n, e.1 < n → e.2 ∈ window key cap (events.take n)

variable {key cap} {events : List (Option α)} {held : List α} {x : α}

theorem window_append_none (events : List (Option α)) :
    window key cap (events ++ [none]) = window key cap events := by
  simp [window]

theorem window_append_some (events : List (Option α)) (x : α) :
    window key cap (events ++ [some x]) = arrive key cap (window key cap events) x := by
  simp [window]

theorem arrive_of_mem (h : key x ∈ held.map key) : arrive key cap held x = held :=
  if_pos h

theorem arrive_of_not_mem (h : key x ∉ held.map key) : arrive key cap held x = keepLast cap (held ++ [x]) :=
  if_neg h

/-- What has just arrived is held, if its key was not. -/
theorem mem_arrive (hcap : 0 < cap) (h : key x ∉ held.map key) : x ∈ arrive key cap held x := by
  rw [arrive_of_not_mem h]
  exact mem_keepLast_append hcap held x

/-- The key of what has just arrived is held. -/
theorem key_mem_arrive (hcap : 0 < cap) (held : List α) (x : α) : key x ∈ (arrive key cap held x).map key := by
  by_cases h : key x ∈ held.map key
  · rwa [arrive_of_mem h]
  · exact List.mem_map_of_mem (mem_arrive hcap h)

theorem nodup_arrive (hheld : (held.map key).Nodup) : ((arrive key cap held x).map key).Nodup := by
  by_cases h : key x ∈ held.map key
  · rwa [arrive_of_mem h]
  · rw [arrive_of_not_mem h]
    refine ((keepLast_sublist cap (held ++ [x])).map key).nodup ?_
    rw [List.map_append, List.map_singleton, List.nodup_append]
    refine ⟨hheld, List.nodup_singleton _, ?_⟩
    intro a ha b hb hab
    rw [List.mem_singleton] at hb
    exact h (hb ▸ hab ▸ ha)

/-- **The keys of a window are distinct.** -/
theorem nodup_window (events : List (Option α)) : ((window key cap events).map key).Nodup := by
  induction events using List.reverseRecOn with
  | nil => exact List.nodup_nil
  | append_singleton events event ih =>
    cases event with
    | none => rwa [window_append_none]
    | some x =>
      rw [window_append_some]
      exact nodup_arrive ih

/-- **A window fits under its cap.** -/
theorem length_window_le (events : List (Option α)) : (window key cap events).length ≤ cap := by
  induction events using List.reverseRecOn with
  | nil => exact Nat.zero_le cap
  | append_singleton events event ih =>
    cases event with
    | none => rwa [window_append_none]
    | some x =>
      rw [window_append_some]
      by_cases h : key x ∈ (window key cap events).map key
      · rwa [arrive_of_mem h]
      · rw [arrive_of_not_mem h]
        exact length_keepLast_le cap _

/-! ### The order of arrival -/

/-- The place of an arrival is one of the sequence. -/
theorem Arrivals.lt_length {places : List (ℕ × α)} (h : Arrivals key cap events places) {e : ℕ × α}
    (he : e ∈ places) : e.1 < events.length :=
  (List.getElem?_eq_some_iff.mp (h.arrived e he)).1

/-- One more event: entries that were held keep their places, as long as they are held. -/
theorem Arrivals.append {places : List (ℕ × α)} {event : Option α} (h : Arrivals key cap events places)
    {e : ℕ × α} (he : e ∈ places) (hmem : e.2 ∈ window key cap (events ++ [event])) :
    (events ++ [event])[e.1]? = some (some e.2) ∧
      key e.2 ∉ (window key cap ((events ++ [event]).take e.1)).map key ∧
      ∀ n, e.1 < n → e.2 ∈ window key cap ((events ++ [event]).take n) := by
  have hlt := h.lt_length he
  refine ⟨?_, ?_, ?_⟩
  · rw [List.getElem?_append_left hlt]
    exact h.arrived e he
  · rw [List.take_append_of_le_length (Nat.le_of_lt hlt)]
    exact h.new e he
  · intro n hn
    by_cases hlast : n ≤ events.length
    · rw [List.take_append_of_le_length hlast]
      exact h.since e he n hn
    · rw [List.take_of_length_le (by rw [List.length_append, List.length_singleton]; omega)]
      exact hmem

/-- An event that changes nothing leaves the places as they are. -/
theorem Arrivals.append_of_eq {places : List (ℕ × α)} {event : Option α} (h : Arrivals key cap events places)
    (hsame : window key cap (events ++ [event]) = window key cap events) :
    Arrivals key cap (events ++ [event]) places := by
  have hmem : ∀ e ∈ places, e.2 ∈ window key cap (events ++ [event]) := by
    intro e he
    rw [hsame, ← h.entries]
    exact List.mem_map_of_mem he
  exact ⟨hsame ▸ h.entries, h.ordered, fun e he => (h.append he (hmem e he)).1,
    fun e he => (h.append he (hmem e he)).2.1, fun e he => (h.append he (hmem e he)).2.2⟩

/-- An arrival takes its place at the end. -/
theorem Arrivals.append_arrival {places : List (ℕ × α)} (h : Arrivals key cap events places)
    (hnew : key x ∉ (window key cap events).map key) :
    Arrivals key cap (events ++ [some x]) (keepLast cap (places ++ [(events.length, x)])) := by
  have hentries : (keepLast cap (places ++ [(events.length, x)])).map Prod.snd =
      window key cap (events ++ [some x]) := by
    rw [window_append_some, arrive_of_not_mem hnew, map_keepLast, List.map_append, h.entries, List.map_singleton]
  have hsub := keepLast_sublist cap (places ++ [(events.length, x)])
  have hmem : ∀ e ∈ keepLast cap (places ++ [(events.length, x)]), e.2 ∈ window key cap (events ++ [some x]) := by
    intro e he
    rw [← hentries]
    exact List.mem_map_of_mem he
  have hplaces : ∀ e ∈ keepLast cap (places ++ [(events.length, x)]),
      (events ++ [some x])[e.1]? = some (some e.2) ∧
        key e.2 ∉ (window key cap ((events ++ [some x]).take e.1)).map key ∧
        ∀ n, e.1 < n → e.2 ∈ window key cap ((events ++ [some x]).take n) := by
    intro e he
    rcases List.mem_append.mp (hsub.subset he) with hold | hlast
    · exact h.append hold (hmem e he)
    · obtain rfl := List.mem_singleton.mp hlast
      refine ⟨by simp, by rwa [List.take_left], fun n hn => ?_⟩
      rw [List.take_of_length_le (by rw [List.length_append, List.length_singleton]; exact hn)]
      exact hmem _ he
  refine ⟨hentries, ?_, fun e he => (hplaces e he).1, fun e he => (hplaces e he).2.1,
    fun e he => (hplaces e he).2.2⟩
  refine List.Pairwise.sublist hsub (List.pairwise_append.mpr ⟨h.ordered, List.pairwise_singleton _ _, ?_⟩)
  intro d hd e he
  rw [List.mem_singleton.mp he]
  exact h.lt_length hd

/-- **A window is in the order of the arrivals that it holds.** -/
theorem exists_arrivals (events : List (Option α)) : ∃ places, Arrivals key cap events places := by
  induction events using List.reverseRecOn with
  | nil => exact ⟨[], rfl, .nil, by simp, by simp, by simp⟩
  | append_singleton events event ih =>
    obtain ⟨places, h⟩ := ih
    cases event with
    | none => exact ⟨places, h.append_of_eq (window_append_none events)⟩
    | some x =>
      by_cases hx : key x ∈ (window key cap events).map key
      · exact ⟨places, h.append_of_eq (by rw [window_append_some, arrive_of_mem hx])⟩
      · exact ⟨_, h.append_arrival hx⟩

end Cliptown.Lib
