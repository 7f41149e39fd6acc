import Cliptown.Lib.Checks
import Mathlib.Data.Nat.Notation

/-!
# The task state machine

* `TaskStatus`, `Actor`, `Transition` — the statuses of a task and the requests that change them.
* `next` — the status after a request, or a refusal.
* `TaskStatus.Terminal` — the statuses in which the scheduler takes a task to be over.
* `terminal_of_next` — no request about an existing task leaves them.
-/

namespace Cliptown.Task

open Cliptown.Lib

/-- Source: `task_sm.rs` `TaskStatus` -/
inductive TaskStatus where
  | proposed
  | queued
  | inProgress
  | awaitingReview
  | changesRequested
  | done
  | failed
  | escalated
  deriving DecidableEq, Repr

namespace TaskStatus

/-- Source: `mcp_dispatch.rs` `status_to_str`, `cmd_console.rs` `status_to_str` -/
def toStr : TaskStatus → String
  | proposed => "proposed"
  | queued => "queued"
  | inProgress => "in_progress"
  | awaitingReview => "awaiting_review"
  | changesRequested => "changes_requested"
  | done => "done"
  | failed => "failed"
  | escalated => "escalated"

/-- Source: `mcp_dispatch.rs` `parse_status`, `cmd_console.rs` `parse_status` -/
def parse (s : String) : Option TaskStatus :=
  if s = "proposed" then some proposed
  else if s = "queued" then some queued
  else if s = "in_progress" then some inProgress
  else if s = "awaiting_review" then some awaitingReview
  else if s = "changes_requested" then some changesRequested
  else if s = "done" then some done
  else if s = "failed" then some failed
  else if s = "escalated" then some escalated
  else none

/-- **A stored status reads back.** The `CHECK` of the table keeps the column to these strings, so the
model stores the status itself. -/
theorem parse_toStr (s : TaskStatus) : parse s.toStr = some s := by
  cases s <;> decide

/-- The blocking gate and the deadline scan take the task to be over. Source: `scheduler.rs` `tick`,
`is_terminal` -/
def Terminal (s : TaskStatus) : Prop :=
  s = done ∨ s = failed ∨ s = escalated

instance (s : TaskStatus) : Decidable s.Terminal :=
  inferInstanceAs (Decidable (_ ∨ _ ∨ _))

end TaskStatus

/-- Source: `task_sm.rs` `Actor` -/
inductive Actor where
  | manager
  | nonManager
  | operator
  | system
  deriving DecidableEq, Repr

/-- Source: `task_sm.rs` `Transition` -/
inductive Transition where
  | subtaskCreate (caller : Actor)
  | acceptProposal (caller : Actor)
  | rejectProposal (caller : Actor)
  | assignFromQueued
  | taskDoneMcp
  | requestChanges
  | taskAccept
  | operatorForceAccept
  | operatorForceFail
  | fail
  | escalate
  deriving DecidableEq, Repr

/-- The review rounds after which a request for changes escalates. Source: `mcp_dispatch.rs`
`MAX_REVIEW_ROUNDS` -/
def maxReviewRounds : ℕ := 3

/-- The status after a request. Source: `task_sm.rs` `next` -/
def next : TaskStatus → Transition → Except String TaskStatus
  | _, .subtaskCreate .manager => .ok .queued
  | _, .subtaskCreate .operator => .ok .queued
  | _, .subtaskCreate .nonManager => .ok .proposed
  | _, .subtaskCreate .system => .ok .queued
  | .proposed, .acceptProposal _ => .ok .queued
  | .proposed, .rejectProposal _ => .ok .failed
  | .queued, .assignFromQueued => .ok .inProgress
  | .inProgress, .taskDoneMcp => .ok .awaitingReview
  | .changesRequested, .taskDoneMcp => .ok .awaitingReview
  | .awaitingReview, .requestChanges => .ok .changesRequested
  | .awaitingReview, .taskAccept => .ok .done
  | .awaitingReview, .operatorForceAccept => .ok .done
  | s, .operatorForceFail =>
      if s ≠ .done ∧ s ≠ .failed then .ok .failed else .error "illegal transition"
  | s, .fail =>
      if s ≠ .done ∧ s ≠ .failed then .ok .failed else .error "illegal transition"
  | s, .escalate =>
      if s ≠ .done ∧ s ≠ .failed then .ok .escalated else .error "illegal transition"
  | _, _ => .error "illegal transition"

/-- Some request about a task leads from one status to the other. -/
def TaskStatus.Leads (s t : TaskStatus) : Prop :=
  ∃ tr, (∀ caller, tr ≠ .subtaskCreate caller) ∧ next s tr = .ok t

section Next

variable {s t : TaskStatus}

/-- Which requests are granted, and to which status they lead. -/
theorem next_eq_ok_iff {tr : Transition} : next s tr = .ok t ↔
    match tr with
    | .subtaskCreate .nonManager => t = .proposed
    | .subtaskCreate _ => t = .queued
    | .acceptProposal _ => s = .proposed ∧ t = .queued
    | .rejectProposal _ => s = .proposed ∧ t = .failed
    | .assignFromQueued => s = .queued ∧ t = .inProgress
    | .taskDoneMcp => (s = .inProgress ∨ s = .changesRequested) ∧ t = .awaitingReview
    | .requestChanges => s = .awaitingReview ∧ t = .changesRequested
    | .taskAccept | .operatorForceAccept => s = .awaitingReview ∧ t = .done
    | .operatorForceFail | .fail => s ≠ .done ∧ s ≠ .failed ∧ t = .failed
    | .escalate => s ≠ .done ∧ s ≠ .failed ∧ t = .escalated := by
  cases tr with
  | subtaskCreate caller => cases caller <;> simp [next, eq_comm]
  | _ => cases s <;> simp [next, eq_comm]

/-- **The terminal statuses are closed**: no request about a task leaves them. -/
theorem terminal_of_next {tr : Transition} (htr : ∀ caller, tr ≠ .subtaskCreate caller)
    (hs : s.Terminal) (h : next s tr = .ok t) : t.Terminal := by
  unfold TaskStatus.Terminal at *
  cases tr with
  | subtaskCreate caller => exact absurd rfl (htr caller)
  | _ => rcases hs with rfl | rfl | rfl <;> simp_all [next_eq_ok_iff]

/-- No request leads away from a task that is done or failed. -/
theorem TaskStatus.Leads.not_over (h : s.Leads t) : s ≠ .done ∧ s ≠ .failed := by
  obtain ⟨tr, htr, hnext⟩ := h
  rw [next_eq_ok_iff] at hnext
  cases tr with
  | subtaskCreate caller => exact absurd rfl (htr caller)
  | _ => constructor <;> rintro rfl <;> simp at hnext

/-- No request queues a task that is in progress. -/
theorem not_leads_queued : ¬ TaskStatus.Leads .inProgress .queued := by
  rintro ⟨tr, htr, hnext⟩
  rw [next_eq_ok_iff] at hnext
  cases tr with
  | subtaskCreate caller => exact htr caller rfl
  | _ => simp at hnext

end Next

end Cliptown.Task
