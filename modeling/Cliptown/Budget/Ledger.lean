import Cliptown.Budget.Report
import Cliptown.Task.Running

/-!
# The budget ledger

What a startup has spent is kept twice: as a running total in its row, and as the rows of `budget_events`. The
two are written apart, and the second write can be refused.

* `ledgerSum`, `Balanced` — the total of the rows, and that the running total is that.
* `ReportMessage`, `ReportMessage.handle` — the reports of workers, one after the other.
* `ReportMessage.Charges`, `ReportMessage.Bookable` — a report that costs a startup something, and one whose row
  the table takes.
* `balanced_handle_iff` — what one report does to the balance.
* `balanced_iff` — the two totals agree all along exactly if every report that is charged can be booked.
-/

namespace Cliptown.Budget

open Cliptown.Lib Cliptown.Task Cliptown.World

/-- What the rows of `budget_events` add up to for a startup. -/
def ledgerSum (events : Table String BudgetEvent) (startupId : String) : ℚ :=
  events.sum fun e => if e.startupId = startupId then e.costUsd else 0

/-- The startup has spent what its rows add up to. -/
def Balanced (startupId : String) (st : BudgetState) : Prop :=
  ∀ row ∈ st.loop.db.startups.lookup startupId, row.budgetSpentUsd = ledgerSum st.events startupId

/-- A report, and the moment at which it is handled. -/
structure ReportMessage where
  env : Env
  agentId : String
  report : Report

/-- The state after a report. -/
def ReportMessage.handle (st : BudgetState) (m : ReportMessage) : BudgetState :=
  (reportBudget m.env st m.agentId m.report).2

/-- The sender is an avatar of the startup, and the report costs something. -/
def ReportMessage.Charges (startupId : String) (st : BudgetState) (m : ReportMessage) : Prop :=
  (∃ avatar ∈ st.loop.world.avatars.lookup m.agentId, avatar.startupId = startupId) ∧
    (st.loop.db.startups.lookup startupId).isSome ∧ m.report.cost ≠ 0

/-- The sender is an agent, the task exists, if the report names one, and the minted key is new. -/
def ReportMessage.Bookable (st : BudgetState) (m : ReportMessage) : Prop :=
  (st.loop.db.agents.lookup m.agentId).isSome ∧
    (∀ t ∈ m.report.taskId, (st.loop.db.tasks.lookup t).isSome) ∧
      st.events.lookup m.env.newId = none

/-! ### One report -/

section Writes

variable {env : Env} {st : BudgetState} {startupId agentId : String} {r : Report} {row : Task.Startup}

/-- The rows of the startups after the two writes. -/
theorem lookup_startups_applyReport (hrow : st.loop.db.startups.lookup startupId = some row) (u : String) :
    (applyReport env st startupId agentId r).2.loop.db.startups.lookup u =
      if u = startupId then some { row with budgetSpentUsd := row.budgetSpentUsd + r.cost }
      else st.loop.db.startups.lookup u := by
  have hspent : ∀ st' : BudgetState,
      ((recordBudgetEvent st' env.newId (r.row env startupId agentId)).getD st').loop = st'.loop := by
    intro st'
    unfold recordBudgetEvent
    split <;> rfl
  unfold applyReport
  rw [hrow]
  dsimp only
  rw [hspent]
  simp only [Db.updateStartup, Table.lookup_modify]
  split
  · rename_i h
    rw [h, hrow]
    rfl
  · rfl

/-- The rows of `budget_events` after the two writes. -/
theorem events_applyReport (hrow : st.loop.db.startups.lookup startupId = some row) :
    (applyReport env st startupId agentId r).2.events =
      if (st.loop.db.agents.lookup agentId).isSome ∧ (∀ t ∈ r.taskId, (st.loop.db.tasks.lookup t).isSome) ∧
          st.events.lookup env.newId = none then
        st.events.insert env.newId (r.row env startupId agentId)
      else st.events := by
  have hstartup : ((st.loop.db.startups.modify startupId fun s =>
      { s with budgetSpentUsd := row.budgetSpentUsd + r.cost }).lookup startupId).isSome := by
    rw [Table.lookup_modify_self, hrow]
    rfl
  unfold applyReport
  rw [hrow]
  dsimp only
  unfold recordBudgetEvent
  split
  · rename_i hfits
    obtain ⟨hnew, -, hagent, htask⟩ := hfits
    rw [if_pos ⟨hagent agentId rfl, htask, hnew⟩]
    rfl
  · rename_i hfits
    rw [if_neg]
    · rfl
    · rintro ⟨hagent, htask, hnew⟩
      refine hfits ⟨hnew, hstartup, ?_, htask⟩
      rintro a ⟨⟩
      exact hagent

/-- A new row adds its cost to the ledger of its startup. -/
theorem ledgerSum_insert {events : Table String BudgetEvent} {id : String} {e : BudgetEvent}
    (hnew : events.lookup id = none) (u : String) :
    ledgerSum (events.insert id e) u = (if e.startupId = u then e.costUsd else 0) + ledgerSum events u :=
  Table.sum_insert hnew e _

/-- **What one report does to the balance**: it is kept unless the report is charged and cannot be booked. -/
theorem balanced_applyReport_iff (hrow : st.loop.db.startups.lookup startupId = some row) (u : String)
    (hbalanced : Balanced u st) :
    Balanced u (applyReport env st startupId agentId r).2 ↔
      (startupId = u → r.cost ≠ 0 → (st.loop.db.agents.lookup agentId).isSome ∧
        (∀ t ∈ r.taskId, (st.loop.db.tasks.lookup t).isSome) ∧ st.events.lookup env.newId = none) := by
  unfold Balanced
  rw [events_applyReport hrow, lookup_startups_applyReport hrow]
  by_cases hu : u = startupId
  · subst hu
    have hspent := hbalanced row hrow
    rw [if_pos rfl]
    split
    · rename_i hbook
      rw [ledgerSum_insert hbook.2.2]
      constructor
      · exact fun _ _ _ => hbook
      · rintro - row' ⟨⟩
        simp [Report.row, hspent, add_comm]
    · rename_i hbook
      constructor
      · intro h _ hcost
        have hsame : row.budgetSpentUsd + r.cost = ledgerSum st.events u := h _ rfl
        rw [hspent] at hsame
        exact absurd (by linarith) hcost
      · rintro h row' ⟨⟩
        have hcost : r.cost = 0 := by
          by_contra hne
          exact hbook (h rfl hne)
        simp [hspent, hcost]
  · rw [if_neg hu]
    have hother : ∀ events', ledgerSum events' u = ledgerSum st.events u →
        ((∀ row' ∈ st.loop.db.startups.lookup u, row'.budgetSpentUsd = ledgerSum events' u) ↔
          (startupId = u → r.cost ≠ 0 → (st.loop.db.agents.lookup agentId).isSome ∧
            (∀ t ∈ r.taskId, (st.loop.db.tasks.lookup t).isSome) ∧ st.events.lookup env.newId = none)) := by
      intro events' hevents'
      rw [hevents']
      exact ⟨fun _ h => absurd h.symm hu, fun _ => hbalanced⟩
    split
    · rename_i hbook
      apply hother
      rw [ledgerSum_insert hbook.2.2, if_neg (fun h => hu h.symm), zero_add]
    · exact hother _ rfl

end Writes

/-- **What one message does to the balance.** -/
theorem balanced_handle_iff {st : BudgetState} {startupId : String} (m : ReportMessage)
    (hbalanced : Balanced startupId st) :
    Balanced startupId (m.handle st) ↔ (m.Charges startupId st → m.Bookable st) := by
  rcases havatar : st.loop.world.avatars.lookup m.agentId with _ | avatar
  · have hnone : m.handle st = st := reportBudget_of_none havatar m.report
    rw [hnone]
    refine ⟨fun _ hcharges => ?_, fun _ => hbalanced⟩
    obtain ⟨avatar, hmem, -⟩ := hcharges.1
    exact absurd (havatar.symm.trans hmem) (by simp)
  · obtain ⟨s, ⟨frames, events, rfl⟩, heq⟩ := reportBudget_eq m.env havatar m.report
    have hsame : Balanced startupId (m.handle st) ↔
        Balanced startupId (applyReport m.env st avatar.startupId m.agentId m.report).2 := by
      unfold ReportMessage.handle
      rw [heq]
      rfl
    have hsender : (∃ a ∈ st.loop.world.avatars.lookup m.agentId, a.startupId = startupId) ↔
        avatar.startupId = startupId := by
      simp [havatar]
    rw [hsame]
    unfold ReportMessage.Charges ReportMessage.Bookable
    rw [hsender]
    rcases hrow : st.loop.db.startups.lookup avatar.startupId with _ | row
    · have happly : (applyReport m.env st avatar.startupId m.agentId m.report).2 = st := by
        unfold applyReport
        rw [hrow]
      rw [happly]
      refine ⟨?_, fun _ => hbalanced⟩
      rintro - ⟨rfl, hrow', -⟩
      simp [hrow] at hrow'
    · rw [balanced_applyReport_iff hrow startupId hbalanced]
      constructor
      · rintro h ⟨hstartup, -, hcost⟩
        exact h hstartup hcost
      · rintro h hstartup hcost
        refine h ⟨hstartup, ?_, hcost⟩
        rw [← hstartup, hrow]
        rfl

/-! ### Runs -/

/-- **When the two totals agree**: from nothing spent and no rows, they agree after every report of a run exactly
if every report that is charged to the startup can be booked. -/
theorem balanced_iff {st : BudgetState} {startupId : String} {row : Task.Startup}
    (hrow : st.loop.db.startups.lookup startupId = some row) (hspent : row.budgetSpentUsd = 0)
    (hevents : ∀ id e, st.events.lookup id = some e → e.startupId ≠ startupId)
    (messages : List ReportMessage) :
    (∀ before, before <+: messages → Balanced startupId (before.foldl ReportMessage.handle st)) ↔
      LoopMeets ReportMessage.handle (fun st m => m.Charges startupId st → m.Bookable st) messages st := by
  have hbalanced : Balanced startupId st := by
    intro row' hrow'
    obtain rfl := Option.some.inj (hrow.symm.trans hrow')
    rw [hspent]
    refine (Table.sum_eq_zero fun id e he => ?_).symm
    rw [if_neg (hevents id e he)]
  exact (LoopMeets.iff_forall_prefix (fun st m => balanced_handle_iff m) hbalanced).symm

/-- The startup as it was created. -/
def freshBudget : BudgetState := ⟨sampleStartup.state, ∅⟩

/-- The engineer reports a dollar for a task. -/
def dollarReport (newId : String) (taskId : Option String) : ReportMessage where
  env := sampleEnv 1 newId
  agentId := "a-2"
  report := ⟨1000, 1000, "claude-3-5-haiku", taskId, some 1⟩

/-- Two reports that name no task are booked. -/
theorem balanced_iff_dollars :
    Balanced "s-1" ([dollarReport "e-1" none, dollarReport "e-2" none].foldl ReportMessage.handle freshBudget) := by
  have hrow : freshBudget.loop.db.startups.lookup "s-1" = some sampleStartup.startupRow := by
    decide +kernel
  refine (balanced_iff hrow rfl (fun id e h => absurd h (by simp [freshBudget])) _).mpr ?_ _ (List.prefix_refl _)
  exact ⟨fun _ => ⟨by decide +kernel, by simp [dollarReport], by decide +kernel⟩,
    fun _ => ⟨by decide +kernel, by simp [dollarReport], by decide +kernel⟩, trivial⟩

/-- A report for a task that does not exist is charged and not booked. -/
theorem unbalanced_unknown_task :
    ¬ ∀ (st : BudgetState) (startupId : String) (row : Task.Startup),
      st.loop.db.startups.lookup startupId = some row → row.budgetSpentUsd = 0 →
        (∀ id e, st.events.lookup id = some e → e.startupId ≠ startupId) →
          ∀ messages : List ReportMessage, Balanced startupId (messages.foldl ReportMessage.handle st) := by
  intro h
  have hbalanced := h freshBudget "s-1" sampleStartup.startupRow (by decide +kernel) rfl
    (fun id e h => absurd h (by simp [freshBudget])) [dollarReport "e-1" (some "T_9")]
  have hspent : ((dollarReport "e-1" (some "T_9")).handle freshBudget).loop.db.startups.lookup "s-1" =
      some { sampleStartup.startupRow with budgetSpentUsd := 1 } := by
    decide +kernel
  have hledger : ledgerSum ((dollarReport "e-1" (some "T_9")).handle freshBudget).events "s-1" = 0 := by
    decide +kernel
  have hsame : (1 : ℚ) = 0 := (hbalanced _ hspent).trans hledger
  norm_num at hsame

end Cliptown.Budget
