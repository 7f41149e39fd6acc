import Mathlib.Data.List.Infix
import Cliptown.Budget.Pause
import Cliptown.Lib.Levels

/-!
# The thresholds of a budget over all its reports

A report returns the highest threshold that it crosses, and compares nothing but the amounts before and after it.

* `Threshold.share`, `Threshold.Reached` — at which share of the cap a threshold is, and whether it is reached.
* `ReportMessage.returned`, `returnedThresholds` — what a report returns about a startup, and what all of them do.
* `FirstReached` — a report is the first after which a threshold is reached.
* `shares_returnedThresholds` — the thresholds are the levels that the share of the cap crosses.
* `returned_iff` — over all reports of a startup, a threshold is returned by the first report that reaches it,
  unless it reaches a higher one, and so at most once.
-/

namespace Cliptown.Budget

open Cliptown.Lib Cliptown.Task Cliptown.World

/-- The share of the cap at which a threshold is: the higher, the more severe. -/
def Threshold.share : Threshold → ℚ
  | .warn80 => 4 / 5
  | .warn95 => 19 / 20
  | .pause100 => 1

/-- The shares, in the order in which `newlyCrossed` looks at them. -/
def thresholdShares : List ℚ := [1, 19 / 20, 4 / 5]

section Defs

variable (startupId : String) (st : BudgetState)

/-- What the startup has spent. -/
def spentUsd : ℚ :=
  (st.loop.db.startups.lookup startupId).elim 0 Task.Startup.budgetSpentUsd

/-- The cap of the startup. -/
def capUsd : ℚ :=
  (st.loop.db.startups.lookup startupId).elim 0 Task.Startup.budgetCapUsd

/-- The share of the cap that is spent. -/
def spentShare : ℚ :=
  spentUsd startupId st / capUsd startupId st

/-- The startup has spent what the threshold says. -/
def Threshold.Reached : Threshold → Prop
  | .warn80 => 4 / 5 ≤ spentUsd startupId st / capUsd startupId st
  | .warn95 => 19 / 20 ≤ spentUsd startupId st / capUsd startupId st
  | .pause100 => capUsd startupId st ≤ spentUsd startupId st

/-- What `apply_report` returns when a report is charged to the startup. -/
def ReportMessage.returned (m : ReportMessage) : Option Threshold :=
  match st.loop.world.avatars.lookup m.agentId with
  | some avatar =>
      if avatar.startupId = startupId then (applyReport m.env st startupId m.agentId m.report).1.2.2
      else none
  | none => none

end Defs

/-- What the reports of a list return about the startup. -/
def returnedThresholds (startupId : String) : BudgetState → List ReportMessage → List Threshold
  | _, [] => []
  | st, m :: messages =>
      (m.returned startupId st).toList ++ returnedThresholds startupId (m.handle st) messages

/-- The costs of the reports that the agents of the startup send. -/
def chargedCosts (startupId : String) : BudgetState → List ReportMessage → List ℚ
  | _, [] => []
  | st, m :: messages =>
      (if ∃ avatar ∈ st.loop.world.avatars.lookup m.agentId, avatar.startupId = startupId then
        [m.report.cost] else []) ++
        chargedCosts startupId (m.handle st) messages

/-- The report is the first after which the threshold is reached. -/
def FirstReached (startupId : String) (st : BudgetState) (before : List ReportMessage) (m : ReportMessage)
    (t : Threshold) : Prop :=
  (∀ earlier, earlier <+: before → earlier ≠ [] →
      ¬ t.Reached startupId (earlier.foldl ReportMessage.handle st)) ∧
    t.Reached startupId ((before ++ [m]).foldl ReportMessage.handle st)

theorem Threshold.share_injective : Function.Injective Threshold.share := by
  intro t u h
  cases t <;> cases u <;> first | rfl | norm_num [share] at h

theorem thresholdShares_pairwise : thresholdShares.Pairwise (· > ·) := by
  simp only [thresholdShares, List.pairwise_cons, List.mem_cons, List.not_mem_nil, or_false]
  norm_num

theorem mem_thresholdShares {l : ℚ} : l ∈ thresholdShares ↔ ∃ t : Threshold, t.share = l := by
  constructor
  · intro h
    simp only [thresholdShares, List.mem_cons, List.not_mem_nil, or_false] at h
    rcases h with rfl | rfl | rfl
    · exact ⟨.pause100, rfl⟩
    · exact ⟨.warn95, rfl⟩
    · exact ⟨.warn80, rfl⟩
  · rintro ⟨t, rfl⟩
    cases t <;> simp [thresholdShares, Threshold.share]

/-- **What one report returns** is the level that the share of the cap crosses. -/
theorem share_newlyCrossed {prevSpent newSpent cap : ℚ} (hcap : 0 < cap) :
    (newlyCrossed prevSpent newSpent cap).map Threshold.share =
      crossedLevel thresholdShares (prevSpent / cap) (newSpent / cap) := by
  unfold newlyCrossed crossedLevel thresholdShares
  rw [if_neg (not_le.mpr hcap)]
  dsimp only
  by_cases hpause : prevSpent / cap < 1 ∧ 1 ≤ newSpent / cap
  · rw [if_pos hpause, List.find?_cons_of_pos (by simpa using hpause)]
    rfl
  · rw [if_neg hpause, List.find?_cons_of_neg (by simpa using hpause)]
    by_cases hwarn95 : prevSpent / cap < 19 / 20 ∧ 19 / 20 ≤ newSpent / cap
    · rw [if_pos hwarn95, List.find?_cons_of_pos (by simpa using hwarn95)]
      rfl
    · rw [if_neg hwarn95, List.find?_cons_of_neg (by simpa using hwarn95)]
      by_cases hwarn80 : prevSpent / cap < 4 / 5 ∧ 4 / 5 ≤ newSpent / cap
      · rw [if_pos hwarn80, List.find?_cons_of_pos (by simpa using hwarn80)]
        rfl
      · rw [if_neg hwarn80, List.find?_cons_of_neg (by simpa using hwarn80)]
        rfl

section Reports

variable {startupId : String} {st : BudgetState}

/-! ### One report -/

theorem reached_iff (hcap : 0 < capUsd startupId st) (t : Threshold) :
    t.Reached startupId st ↔ t.share ≤ spentShare startupId st := by
  cases t with
  | warn80 => exact Iff.rfl
  | warn95 => exact Iff.rfl
  | pause100 => exact (one_le_div hcap).symm

/-- Where nothing is spent, no threshold is reached. -/
theorem not_reached_of_unspent (hspent : spentUsd startupId st = 0) (hcap : 0 < capUsd startupId st)
    (t : Threshold) : ¬ t.Reached startupId st := by
  rw [reached_iff hcap, spentShare, hspent, zero_div]
  cases t <;> norm_num [Threshold.share]

/-- A report moves no cap. -/
@[simp]
theorem capUsd_handle (m : ReportMessage) : capUsd startupId (m.handle st) = capUsd startupId st := by
  unfold capUsd
  rw [lookup_startups_handle]
  rcases st.loop.db.startups.lookup startupId with _ | row
  · rfl
  · rw [Option.map_some]
    split <;> rfl

/-- A report never takes back what is spent. -/
theorem spentUsd_le_handle (m : ReportMessage) : spentUsd startupId st ≤ spentUsd startupId (m.handle st) := by
  unfold spentUsd
  rw [lookup_startups_handle]
  rcases st.loop.db.startups.lookup startupId with _ | row
  · exact le_refl _
  · rw [Option.map_some]
    split
    · exact le_add_of_nonneg_right (cost_nonneg m.report)
    · exact le_refl _

theorem spentShare_le_handle (hcap : 0 < capUsd startupId st) (m : ReportMessage) :
    spentShare startupId st ≤ spentShare startupId (m.handle st) := by
  unfold spentShare
  rw [capUsd_handle]
  exact div_le_div_of_nonneg_right (spentUsd_le_handle m) hcap.le

/-- **One report**, whoever sends it. -/
theorem share_returned (hcap : 0 < capUsd startupId st) (m : ReportMessage) :
    (m.returned startupId st).map Threshold.share =
      crossedLevel thresholdShares (spentShare startupId st) (spentShare startupId (m.handle st)) := by
  have hhandle := lookup_startups_handle st m startupId
  unfold capUsd at hcap
  rcases hrow : st.loop.db.startups.lookup startupId with _ | row
  · rw [hrow] at hcap
    exact absurd hcap (lt_irrefl 0)
  · rw [hrow] at hcap hhandle
    by_cases hcharged : ∃ avatar ∈ st.loop.world.avatars.lookup m.agentId, avatar.startupId = startupId
    · obtain ⟨avatar, havatar, hstartup⟩ := hcharged
      rw [Option.map_some, if_pos ⟨avatar, havatar, hstartup⟩] at hhandle
      unfold ReportMessage.returned spentShare spentUsd capUsd
      rw [Option.mem_def.mp havatar, hhandle, hrow]
      dsimp only
      rw [if_pos hstartup, threshold_applyReport hrow]
      exact share_newlyCrossed hcap
    · rw [Option.map_some, if_neg hcharged] at hhandle
      have hnone : m.returned startupId st = none := by
        unfold ReportMessage.returned
        rcases havatar : st.loop.world.avatars.lookup m.agentId with _ | avatar
        · rfl
        · exact if_neg fun hstartup => hcharged ⟨avatar, havatar, hstartup⟩
      have hsame : spentShare startupId (m.handle st) = spentShare startupId st := by
        unfold spentShare spentUsd capUsd
        rw [hhandle, hrow]
      rw [hnone, hsame, crossedLevel_self]
      rfl

/-! ### All reports -/

/-- The share that is spent after each report of a list. -/
def spentShares (startupId : String) : BudgetState → List ReportMessage → List ℚ
  | _, [] => []
  | st, m :: messages => spentShare startupId (m.handle st) :: spentShares startupId (m.handle st) messages

/-- **All reports**: the thresholds that are returned are the levels that the share crosses. -/
theorem shares_returnedThresholds (messages : List ReportMessage) : ∀ st : BudgetState,
    0 < capUsd startupId st → (returnedThresholds startupId st messages).map Threshold.share =
      crossedLevels thresholdShares (spentShare startupId st) (spentShares startupId st messages) := by
  induction messages with
  | nil => exact fun _ _ => rfl
  | cons m messages ih =>
      intro st hcap
      have hrest := ih (m.handle st) (by rwa [capUsd_handle])
      unfold returnedThresholds spentShares crossedLevels
      rw [List.map_append, hrest, ← share_returned hcap m]
      cases m.returned startupId st <;> rfl

/-- The share that is spent never falls. -/
theorem isChain_spentShares (messages : List ReportMessage) : ∀ st : BudgetState,
    0 < capUsd startupId st →
      (spentShare startupId st :: spentShares startupId st messages).IsChain (· ≤ ·) := by
  induction messages with
  | nil => exact fun _ _ => List.isChain_singleton _
  | cons m messages ih =>
      intro st hcap
      exact List.isChain_cons_cons.mpr
        ⟨spentShare_le_handle hcap m, ih (m.handle st) (by rwa [capUsd_handle])⟩

/-- The cap after some reports. -/
theorem capUsd_foldl (messages : List ReportMessage) : ∀ st : BudgetState,
    capUsd startupId (messages.foldl ReportMessage.handle st) = capUsd startupId st := by
  induction messages with
  | nil => exact fun _ => rfl
  | cons m messages ih =>
      intro st
      exact (ih (m.handle st)).trans (capUsd_handle m)

/-- What is spent after some reports. -/
theorem spentUsd_foldl (messages : List ReportMessage) : ∀ st : BudgetState,
    0 < capUsd startupId st → spentUsd startupId (messages.foldl ReportMessage.handle st) =
      spentUsd startupId st + (chargedCosts startupId st messages).sum := by
  induction messages with
  | nil => exact fun st _ => (add_zero _).symm
  | cons m messages ih =>
      intro st hcap
      have hone : spentUsd startupId (m.handle st) = spentUsd startupId st +
          (if ∃ avatar ∈ st.loop.world.avatars.lookup m.agentId, avatar.startupId = startupId then [m.report.cost]
            else []).sum := by
        unfold spentUsd
        rw [lookup_startups_handle]
        rcases hrow : st.loop.db.startups.lookup startupId with _ | row
        · exact absurd hcap (by simp [capUsd, hrow])
        · rw [Option.map_some]
          split <;> simp
      rw [List.foldl_cons, ih (m.handle st) (by rwa [capUsd_handle]), hone, chargedCosts, List.sum_append, add_assoc]

/-- What was spent after fewer reports. -/
theorem spentShare_le_of_prefix {earlier messages : List ReportMessage} (h : earlier <+: messages)
    (hcap : 0 < capUsd startupId st) :
    spentShare startupId (earlier.foldl ReportMessage.handle st) ≤
      spentShare startupId (messages.foldl ReportMessage.handle st) := by
  have hgen : ∀ (rest : List ReportMessage) (st : BudgetState), 0 < capUsd startupId st →
      spentShare startupId st ≤ spentShare startupId (rest.foldl ReportMessage.handle st) := by
    intro rest
    induction rest with
    | nil => exact fun _ _ => le_refl _
    | cons m rest ih =>
        intro st hcap
        exact (spentShare_le_handle hcap m).trans (ih (m.handle st) (by rwa [capUsd_handle]))
  obtain ⟨rest, rfl⟩ := h
  rw [List.foldl_append]
  exact hgen rest _ (by rwa [capUsd_foldl])

/-- The thresholds that the reports return rise strictly. -/
theorem pairwise_returnedThresholds (hcap : 0 < capUsd startupId st) (messages : List ReportMessage) :
    (returnedThresholds startupId st messages).Pairwise fun t u => t.share < u.share := by
  have hlevels : (crossedLevels thresholdShares (spentShare startupId st)
      (spentShares startupId st messages)).Pairwise (· < ·) :=
    pairwise_crossedLevels (isChain_spentShares messages st hcap)
  rw [← shares_returnedThresholds messages st hcap] at hlevels
  exact List.pairwise_map.mp hlevels

/-- **The trace of a budget**: from nothing spent under a positive cap, the thresholds that the reports return rise
strictly, so that none is returned twice; a threshold is returned by exactly the first report after which it is
reached, unless that report reaches a higher one; and what is spent are the costs that the reports have charged. -/
theorem returned_iff (hspent : spentUsd startupId st = 0) (hcap : 0 < capUsd startupId st)
    (messages : List ReportMessage) :
    (returnedThresholds startupId st messages).Pairwise (fun t u => t.share < u.share) ∧
      (returnedThresholds startupId st messages).Nodup ∧
        (∀ before, before <+: messages →
          spentUsd startupId (before.foldl ReportMessage.handle st) = (chargedCosts startupId st before).sum) ∧
        ∀ before m after, messages = before ++ m :: after → ∀ t : Threshold,
          m.returned startupId (before.foldl ReportMessage.handle st) = some t ↔
            FirstReached startupId st before m t ∧ ∀ u : Threshold, t.share < u.share →
              ¬ u.Reached startupId ((before ++ [m]).foldl ReportMessage.handle st) := by
  have hrising := pairwise_returnedThresholds hcap messages
  refine ⟨hrising, hrising.imp fun h heq => absurd (congrArg Threshold.share heq) h.ne, fun before _ => ?_, ?_⟩
  · rw [spentUsd_foldl before st hcap, hspent, zero_add]
  rintro before m after - t
  have hcapBefore : ∀ l : List ReportMessage, 0 < capUsd startupId (l.foldl ReportMessage.handle st) :=
    fun l => by rwa [capUsd_foldl]
  have hafter : (before ++ [m]).foldl ReportMessage.handle st =
      m.handle (before.foldl ReportMessage.handle st) := by
    rw [List.foldl_append]
    rfl
  have hreturned : m.returned startupId (before.foldl ReportMessage.handle st) = some t ↔
      (m.returned startupId (before.foldl ReportMessage.handle st)).map Threshold.share = some t.share := by
    rw [← Option.map_some, (Option.map_injective Threshold.share_injective).eq_iff]
  -- the amounts before the report are those after the prefixes of the earlier ones
  have hbefore : ∀ z ∈ before.inits.map fun l => spentShare startupId (l.foldl ReportMessage.handle st),
      z ≤ spentShare startupId (before.foldl ReportMessage.handle st) := by
    intro z hz
    obtain ⟨l, hl, rfl⟩ := List.mem_map.mp hz
    exact spentShare_le_of_prefix ((List.mem_inits _ _).mp hl) hcap
  rw [hreturned, share_returned (hcapBefore before) m, crossedLevel_iff_first thresholdShares_pairwise hbefore,
    FirstReached, hafter, ← hafter, reached_iff (hcapBefore _)]
  constructor
  · rintro ⟨-, hfirst, hreached, hhighest⟩
    refine ⟨⟨fun l hl _ => ?_, hreached⟩, fun u htu => ?_⟩
    · rw [reached_iff (hcapBefore l), not_le]
      exact hfirst _ (List.mem_cons_of_mem _ (List.mem_map.mpr ⟨l, (List.mem_inits _ _).mpr hl, rfl⟩))
    · rw [reached_iff (hcapBefore _), not_le]
      exact hhighest u.share (mem_thresholdShares.mpr ⟨u, rfl⟩) htu
  · rintro ⟨⟨hfirst, hreached⟩, hhighest⟩
    refine ⟨mem_thresholdShares.mpr ⟨t, rfl⟩, fun z hz => ?_, hreached, fun l hl hlt => ?_⟩
    · have hearlier : ∃ l, l <+: before ∧ spentShare startupId (l.foldl ReportMessage.handle st) = z := by
        rcases List.mem_cons.mp hz with rfl | hz
        · exact ⟨before, List.prefix_rfl, rfl⟩
        · obtain ⟨l, hl, rfl⟩ := List.mem_map.mp hz
          exact ⟨l, (List.mem_inits _ _).mp hl, rfl⟩
      obtain ⟨l, hl, rfl⟩ := hearlier
      have hnot : ¬ t.Reached startupId (l.foldl ReportMessage.handle st) := by
        by_cases hnil : l = []
        · subst hnil
          exact not_reached_of_unspent hspent hcap t
        · exact hfirst l hl hnil
      rwa [reached_iff (hcapBefore l), not_le] at hnot
    · obtain ⟨u, rfl⟩ := mem_thresholdShares.mp hl
      have hnot := hhighest u hlt
      rwa [reached_iff (hcapBefore _), not_le] at hnot

end Reports

/-- A startup that may spend a dollar. -/
def cheapBudget : BudgetState := ⟨NewStartup.state { sampleStartup with budgetCapUsd := 1 }, ∅⟩

/-- Two reports of a dollar against a cap of one: the first jumps over two thresholds to the third, and the second
returns none. -/
theorem returned_iff_dollarReports :
    let messages := [dollarReport "e-1" none, dollarReport "e-2" none]
    returnedThresholds "s-1" cheapBudget messages = [.pause100] ∧
      (returnedThresholds "s-1" cheapBudget messages).Nodup ∧
      spentUsd "s-1" (messages.foldl ReportMessage.handle cheapBudget) =
        (chargedCosts "s-1" cheapBudget messages).sum ∧
      (chargedCosts "s-1" cheapBudget messages).sum = 2 := by
  have h := @returned_iff "s-1" cheapBudget (by decide +kernel) (by decide +kernel)
    [dollarReport "e-1" none, dollarReport "e-2" none]
  exact ⟨by decide +kernel, h.2.1, h.2.2.1 _ (List.prefix_refl _), by decide +kernel⟩

end Cliptown.Budget
