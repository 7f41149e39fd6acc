import Cliptown.Task.Admin
import Cliptown.Task.Startup
import Mathlib.Algebra.Order.Floor.Defs
import Mathlib.Data.Rat.Floor

/-!
# Budget reports

What a worker's report of its token use does: the cost is added to what the startup has spent and recorded
as a row of `budget_events`, in two writes, and a threshold that it crosses is announced.

* `pricePerMtok`, `costUsd`, `Report.cost` — what a report costs.
* `newlyCrossed` — the threshold that a report crosses.
* `BudgetState`, `recordBudgetEvent`, `applyReport` — the two writes.
* `pauseStartup`, `warnStartup`, `announce` — what the workers and the consoles are told.
* `reportBudget`, `patchStartup` — the message of a worker, and the request of an operator that moves the cap.

Amounts are rational numbers.
-/

namespace Cliptown.Budget

open Cliptown.Lib Cliptown.Task Cliptown.World Cliptown.Console

/-! ### Costs -/

/-- Dollars for a million tokens, in and out. Source: `budget.rs` `price_per_mtok` -/
def pricePerMtok (modelId : String) : Option (ℚ × ℚ) :=
  match modelId with
  | "claude-3-5-sonnet" | "claude-3-5-sonnet-20241022" => some (3, 15)
  | "claude-3-5-haiku" | "claude-3-5-haiku-20241022" => some (1, 5)
  | "claude-3-opus" | "claude-3-opus-20240229" => some (15, 75)
  | "gpt-4o" | "gpt-4o-2024-08-06" => some (5 / 2, 10)
  | "gpt-4o-mini" => some (3 / 20, 3 / 5)
  | "gpt-5-chatgpt" => some (5 / 4, 10)
  | "opencode-default" => some (1, 5)
  | _ => none

/-- An unknown model costs nothing. Source: `budget.rs` `cost_usd` -/
def costUsd (modelId : String) (inTokens outTokens : UInt64) : ℚ :=
  let (inPrice, outPrice) := (pricePerMtok modelId).getD (0, 0)
  inTokens.toNat / 1000000 * inPrice + outTokens.toNat / 1000000 * outPrice

/-- A report of a worker. Source: `ws_messages.rs` `WorkerInbound::ReportBudget` -/
structure Report where
  inTokens : UInt64
  outTokens : UInt64
  modelId : String
  taskId : Option String
  costUsd : Option ℚ

/-- What the worker read off its tool, unless that is negative, or what the tokens cost. Source: `budget.rs`
`apply_report`, the first lines -/
def Report.cost (r : Report) : ℚ :=
  match r.costUsd with
  | some c => if 0 ≤ c then c else Budget.costUsd r.modelId r.inTokens r.outTokens
  | none => Budget.costUsd r.modelId r.inTokens r.outTokens

/-! ### Thresholds -/

/-- Source: `budget.rs` `Threshold` -/
inductive Threshold where
  | warn80
  | warn95
  | pause100
  deriving DecidableEq, Repr

/-- The highest threshold that is crossed, if there is a cap. Source: `budget.rs` `newly_crossed` -/
def newlyCrossed (prevSpent newSpent cap : ℚ) : Option Threshold :=
  if cap ≤ 0 then none
  else
    let was := prevSpent / cap
    let now := newSpent / cap
    if was < 1 ∧ 1 ≤ now then some .pause100
    else if was < 19 / 20 ∧ 19 / 20 ≤ now then some .warn95
    else if was < 4 / 5 ∧ 4 / 5 ≤ now then some .warn80
    else none

/-! ### The two writes -/

/-- A row of `budget_events`. Source: `migrations/0001_initial.sql` -/
structure BudgetEvent where
  startupId : String
  agentId : Option String
  taskId : Option String
  inTokens : ℤ
  outTokens : ℤ
  costUsd : ℚ
  modelId : String
  ts : ℤ

/-- What the loop owns, with the table of budget events. -/
structure BudgetState where
  loop : LoopState
  events : Table String BudgetEvent

/-- A 64-bit number, read with a sign. Source: `as i64` -/
def asI64 (n : UInt64) : ℤ :=
  n.toBitVec.toInt

/-- The key is new, and the references of the row exist. -/
def BudgetEvent.Fits (st : BudgetState) (id : String) (e : BudgetEvent) : Prop :=
  st.events.lookup id = none ∧ (st.loop.db.startups.lookup e.startupId).isSome ∧
    (∀ a ∈ e.agentId, (st.loop.db.agents.lookup a).isSome) ∧
      ∀ t ∈ e.taskId, (st.loop.db.tasks.lookup t).isSome

instance (st : BudgetState) (id : String) (e : BudgetEvent) : Decidable (e.Fits st id) :=
  inferInstanceAs (Decidable (_ ∧ _ ∧ _ ∧ _))

/-- `INSERT INTO budget_events`: fails on a key that is taken or a dangling reference. Source: `persist.rs`
`record_budget_event` -/
def recordBudgetEvent (st : BudgetState) (id : String) (e : BudgetEvent) : Option BudgetState :=
  if e.Fits st id then some { st with events := st.events.insert id e } else none

/-- The row of a report. -/
def Report.row (r : Report) (env : Env) (startupId agentId : String) : BudgetEvent where
  startupId := startupId
  agentId := some agentId
  taskId := r.taskId
  inTokens := asI64 r.inTokens
  outTokens := asI64 r.outTokens
  costUsd := r.cost
  modelId := r.modelId
  ts := env.now

/-- What is spent, the cap and the threshold that was crossed. The row of the report is dropped when the
table refuses it. Source: `budget.rs` `apply_report` -/
def applyReport (env : Env) (st : BudgetState) (startupId agentId : String) (r : Report) :
    (ℚ × ℚ × Option Threshold) × BudgetState :=
  match st.loop.db.startups.lookup startupId with
  | none => ((0, 0, none), st)
  | some row =>
      let newSpent := row.budgetSpentUsd + r.cost
      let st := { st with loop := { st.loop with
        db := st.loop.db.updateStartup startupId fun s => { s with budgetSpentUsd := newSpent } } }
      let st := (recordBudgetEvent st env.newId (r.row env startupId agentId)).getD st
      ((newSpent, row.budgetCapUsd, newlyCrossed row.budgetSpentUsd newSpent row.budgetCapUsd), st)

/-! ### Announcements -/

/-- The state after frames and events have been sent. -/
def told (s : LoopState) (frames : List (String × Json)) (events : List SystemEvent) :
    LoopState :=
  { s with frames := frames, db := { s.db with systemEvents := events } }

/-- A state that differs from another in the frames and events that were sent. -/
def IsTold (s s' : LoopState) : Prop :=
  ∃ frames events, s' = told s frames events

theorem IsTold.refl (s : LoopState) : IsTold s s :=
  ⟨s.frames, s.db.systemEvents, rfl⟩

theorem IsTold.trans {s s' s'' : LoopState} (h : IsTold s s') (h' : IsTold s' s'') : IsTold s s'' := by
  obtain ⟨frames, events, rfl⟩ := h
  obtain ⟨frames', events', rfl⟩ := h'
  exact ⟨frames', events', rfl⟩

section Announcements

variable (env : Env) (s : LoopState) (startupId : String)

/-- The agents of a startup, in some order. -/
def agentsOf : List String :=
  (env.order s.world.avatars.keys).filter fun id =>
    (s.world.avatars.lookup id).any fun a => a.startupId = startupId

/-- Tell every worker of a startup. -/
def broadcast (frame : Json) : LoopState :=
  (agentsOf env s startupId).foldl (fun s agentId => s.push env agentId frame) s

/-- Source: `protocol.rs` `WorkerOutbound::Pause` -/
def pauseFrame : Json :=
  .obj [("type", .str "pause"), ("v", .int 1), ("reason", .str "budget_exhausted")]

/-- Source: `budget.rs` `pause_startup` -/
def pauseStartup : LoopState :=
  broadcast env s startupId pauseFrame

/-- Source: `budget.rs` `warn_startup` -/
def warnStartup (remainingUsd : ℚ) (percentUsed : ℕ) : LoopState :=
  broadcast env s startupId (.obj [("type", .str "budget_warning"), ("v", .int 1),
    ("remaining_usd", .float remainingUsd), ("percent_used", .int percentUsed)])

/-- The severity of a threshold and the name of its event. -/
def Threshold.event : Threshold → String × String
  | .warn80 => ("warn", "budget_warn_80")
  | .warn95 => ("warn", "budget_warn_95")
  | .pause100 => ("alert", "budget_pause_100")

/-- Source: `budget.rs` `record_threshold_event` -/
def recordThresholdEvent (threshold : Threshold) (spent cap : ℚ) : LoopState :=
  s.emitSystemEvent env (some startupId) threshold.event.2 (.obj [("startup_id", .str startupId),
    ("spent_usd", .float spent), ("cap_usd", .float cap)]) threshold.event.1

/-- A number in 32 bits, from below and cut off. Source: `as u32` -/
def asU32 (q : ℚ) : ℕ :=
  min ⌊q⌋₊ (2 ^ 32 - 1)

/-- What a threshold that was crossed comes to. Source: `cmd_worker.rs` `dispatch`, the threshold of a
report -/
def announce (threshold : Threshold) (spent cap : ℚ) : LoopState :=
  let s := recordThresholdEvent env s startupId threshold spent cap
  match threshold with
  | .warn80 | .warn95 =>
      warnStartup env s startupId (max (cap - spent) 0) (if 0 < cap then asU32 (spent / cap * 100) else 0)
  | .pause100 => pauseStartup env s startupId

/-- The nearest whole number, away from zero when there are two. Source: `f64::round` -/
def roundAway (q : ℚ) : ℤ :=
  if 0 ≤ q then ⌊q + 1 / 2⌋ else ⌈q - 1 / 2⌉

/-- A report whose cost is far from the estimate of its task is noted. Source: `cmd_worker.rs` `dispatch`,
`task_cost_variance` -/
def noteVariance (r : Report) : LoopState :=
  match r.taskId, r.costUsd with
  | some taskId, some actual =>
      match (s.db.tasks.lookup taskId).bind TaskRow.costEstimateUsd with
      | some estimate =>
          let deltaPct := (actual - estimate) / estimate * 100
          if 0 < estimate ∧ 50 ≤ |deltaPct| then
            s.emitSystemEvent env (some startupId) "task_cost_variance" (.obj [("task_id", .str taskId),
              ("estimate_usd", .float estimate), ("actual_usd", .float actual),
              ("delta_pct", .float (roundAway (deltaPct * 100) / 100))])
              (if 0 < deltaPct then "warn" else "info")
          else s
      | none => s
  | _, _ => s

theorem isTold_push (agentId : String) (frame : Json) : IsTold s (s.push env agentId frame) := by
  unfold LoopState.push
  split
  · exact ⟨_, s.db.systemEvents, rfl⟩
  · exact .refl s

theorem isTold_emit (startup : Option String) (kind : String) (payload : Json) (severity : String) :
    IsTold s (s.emitSystemEvent env startup kind payload severity) :=
  ⟨s.frames, _, rfl⟩

theorem isTold_broadcast (frame : Json) : IsTold s (broadcast env s startupId frame) := by
  have hgen : ∀ (l : List String) (s : LoopState),
      IsTold s (l.foldl (fun s agentId => s.push env agentId frame) s) := by
    intro l
    induction l with
    | nil => exact IsTold.refl
    | cons agentId l ih => exact fun s => (isTold_push env s agentId frame).trans (ih _)
  exact hgen _ s

/-- An announcement changes nothing else. -/
theorem isTold_announce (threshold : Threshold) (spent cap : ℚ) :
    IsTold s (announce env s startupId threshold spent cap) := by
  have hevent : IsTold s (recordThresholdEvent env s startupId threshold spent cap) :=
    isTold_emit env s _ _ _ _
  cases threshold
  case warn80 => exact hevent.trans (isTold_broadcast env _ startupId _)
  case warn95 => exact hevent.trans (isTold_broadcast env _ startupId _)
  case pause100 => exact hevent.trans (isTold_broadcast env _ startupId _)

/-- A note changes nothing else. -/
theorem isTold_noteVariance (r : Report) : IsTold s (noteVariance env s startupId r) := by
  unfold noteVariance
  split
  · split
    · dsimp only
      split
      · exact isTold_emit env s _ _ _ _
      · exact .refl s
    · exact .refl s
  · exact .refl s

end Announcements

/-! ### Messages -/

/-- A report of a worker. Source: `cmd_worker.rs` `dispatch`, `WorkerInbound::ReportBudget` -/
def reportBudget (env : Env) (st : BudgetState) (agentId : String) (r : Report) : Json × BudgetState :=
  match st.loop.world.avatars.lookup agentId with
  | none => (.obj [("type", .str "error"), ("reason", .str "unknown_agent")], st)
  | some avatar =>
      let ((newSpent, cap, threshold), st) := applyReport env st avatar.startupId agentId r
      let s := noteVariance env st.loop avatar.startupId r
      let s :=
        match threshold with
        | some t => announce env s avatar.startupId t newSpent cap
        | none => s
      (.obj [("type", .str "ok"), ("kind", .str "report_budget"), ("spent_usd", .float newSpent),
        ("cap_usd", .float cap)], { st with loop := s })

/-- **What a report does**: the two writes, for the startup of the sender, and announcements. -/
theorem reportBudget_eq (env : Env) {st : BudgetState} {agentId : String} {avatar : AvatarView}
    (havatar : st.loop.world.avatars.lookup agentId = some avatar) (r : Report) :
    ∃ s, IsTold (applyReport env st avatar.startupId agentId r).2.loop s ∧
      (reportBudget env st agentId r).2 =
        { (applyReport env st avatar.startupId agentId r).2 with loop := s } := by
  unfold reportBudget
  rw [havatar]
  dsimp only
  rcases applyReport env st avatar.startupId agentId r with ⟨⟨newSpent, cap, threshold⟩, st'⟩
  have hnote := isTold_noteVariance env st'.loop avatar.startupId r
  rcases threshold with _ | t
  · exact ⟨_, hnote, rfl⟩
  · exact ⟨_, hnote.trans (isTold_announce env _ avatar.startupId t newSpent cap), rfl⟩

/-- A report that no avatar sends. -/
theorem reportBudget_of_none {env : Env} {st : BudgetState} {agentId : String}
    (hnone : st.loop.world.avatars.lookup agentId = none) (r : Report) :
    (reportBudget env st agentId r).2 = st := by
  unfold reportBudget
  rw [hnone]

/-- A new cap is a number from zero to a million. Source: `http.rs` `patch_startup` -/
def newCap (budgetCapUsd : Option ℚ) : Option ℚ :=
  budgetCapUsd.filter fun v => 0 ≤ v ∧ v < 1000000

/-- An operator moves the cap of a startup. The identity is what the token of the request stands for, if it
is valid, and the cap is the number in the body, if there is one. Source: `http.rs` `patch_startup` -/
def patchStartup (st : BudgetState) (identity : Option OperatorIdentity) (id : String)
    (budgetCapUsd : Option ℚ) : Response × BudgetState :=
  match identity with
  | none => (refusal 401 "unauthorized", st)
  | some _ =>
      match newCap budgetCapUsd with
      | none => (refusal 400 "missing or invalid budget_cap_usd", st)
      | some cap =>
          match st.loop.db.startups.lookup id with
          | none => (refusal 404 "startup not found", st)
          | some _ =>
              ((200, .obj [("ok", .bool true), ("id", .str id), ("budget_cap_usd", .float cap)]),
                { st with loop := { st.loop with
                  db := st.loop.db.updateStartup id fun s => { s with budgetCapUsd := cap } } })

end Cliptown.Budget
