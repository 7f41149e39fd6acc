import Cliptown.Budget.Ledger

/-!
# The pause of a startup that has used up its budget

Workers are told to pause by the report that takes a startup to its cap. The cap is moved by another request, which
compares nothing.

* `BudgetAction` — a report, or a new cap; `runBudget` — what a list of them leads to.
* `Below`, `Exhausted` — where a startup stands.
* `BudgetAction.Pauses` — the report makes the startup pause; `mem_frames_of_pauses` — its workers are told.
* `PausedSince` — a pause has been issued since the startup was last below its cap.
* `BudgetAction.LowersTo` — a cap is set to a positive amount that is spent already.
* `pausedSince_of_exhausted` — a startup that is exhausted has been told to pause, if that was so whenever the
  cap was lowered to what is spent.
* `missed_of_lowered` — otherwise the next report misses the pause.
-/

namespace Cliptown.Budget

open Cliptown.Lib Cliptown.Task Cliptown.World Cliptown.Console

/-- A report of a worker, or a new cap from an operator. -/
inductive BudgetAction where
  | report (m : ReportMessage)
  | patch (identity : Option OperatorIdentity) (id : String) (budgetCapUsd : Option ℚ)

/-- The state after an action. -/
def BudgetAction.apply (st : BudgetState) : BudgetAction → BudgetState
  | .report m => m.handle st
  | .patch identity id budgetCapUsd => (patchStartup st identity id budgetCapUsd).2

/-- The state after some actions. -/
def runBudget (st : BudgetState) (actions : List BudgetAction) : BudgetState :=
  actions.foldl BudgetAction.apply st

/-- Less is spent than the cap. -/
def Below (startupId : String) (st : BudgetState) : Prop :=
  ∃ row ∈ st.loop.db.startups.lookup startupId, row.budgetSpentUsd < row.budgetCapUsd

/-- There is a cap, and it is spent. -/
def Exhausted (startupId : String) (st : BudgetState) : Prop :=
  ∃ row ∈ st.loop.db.startups.lookup startupId,
    0 < row.budgetCapUsd ∧ row.budgetCapUsd ≤ row.budgetSpentUsd

/-- A report that takes the startup of its sender to the cap, so that `pause_startup` is called. -/
def BudgetAction.Pauses (startupId : String) (st : BudgetState) : BudgetAction → Prop
  | .report m => (∃ avatar ∈ st.loop.world.avatars.lookup m.agentId, avatar.startupId = startupId) ∧
      (applyReport m.env st startupId m.agentId m.report).1.2.2 = some .pause100
  | .patch _ _ _ => False

/-- A pause has been issued, and the startup has not been below its cap since. -/
def PausedSince (startupId : String) (st : BudgetState) (actions : List BudgetAction) : Prop :=
  ∃ before l after, actions = before ++ l :: after ∧ l.Pauses startupId (runBudget st before) ∧
    ∀ after', after' <+: after → ¬ Below startupId (runBudget st (before ++ l :: after'))

/-- An operator sets the cap of the startup to a positive amount that is spent already. -/
def BudgetAction.LowersTo (startupId : String) (st : BudgetState) : BudgetAction → Prop
  | .report _ => False
  | .patch identity id budgetCapUsd => identity.isSome ∧ id = startupId ∧
      ∃ cap ∈ newCap budgetCapUsd, 0 < cap ∧
        ∃ row ∈ st.loop.db.startups.lookup startupId, cap ≤ row.budgetSpentUsd

instance (startupId : String) (st : BudgetState) : Decidable (Exhausted startupId st) :=
  inferInstanceAs (Decidable (∃ _ ∈ _, _))

instance (startupId : String) (st : BudgetState) (l : BudgetAction) : Decidable (l.Pauses startupId st) :=
  match l with
  | .report _ => inferInstanceAs (Decidable (_ ∧ _))
  | .patch _ _ _ => inferInstanceAs (Decidable False)

instance (startupId : String) (st : BudgetState) (l : BudgetAction) :
    Decidable (l.LowersTo startupId st) :=
  match l with
  | .report _ => inferInstanceAs (Decidable False)
  | .patch _ _ _ => inferInstanceAs (Decidable (_ ∧ _ ∧ ∃ _ ∈ _, _ ∧ ∃ _ ∈ _, _))

/-! ### What the workers are told -/

/-- A frame that was sent stays sent. -/
theorem mem_frames_push {env : Env} {s : LoopState} {agentId : String} {frame : Json} {x : String × Json}
    (h : x ∈ s.frames) : x ∈ (s.push env agentId frame).frames := by
  unfold LoopState.push
  split
  · exact List.mem_append_left _ h
  · exact h

/-- The map of the workers does not change. -/
theorem outBus_push (env : Env) (s : LoopState) (agentId : String) (frame : Json) :
    (s.push env agentId frame).outBus = s.outBus := by
  unfold LoopState.push
  split <;> rfl

/-- A broadcast reaches every worker of the startup that is registered and takes the frame. -/
theorem mem_frames_broadcast {env : Env} {s : LoopState} {startupId agentId : String} {avatar : AvatarView}
    {frame : Json} (havatar : s.world.avatars.lookup agentId = some avatar)
    (hstartup : avatar.startupId = startupId) (hbus : agentId ∈ s.outBus)
    (hsend : env.trySend agentId frame = .ok) :
    (agentId, frame) ∈ (broadcast env s startupId frame).frames := by
  have hkeep : ∀ (l : List String) (s : LoopState), (agentId, frame) ∈ s.frames →
      (agentId, frame) ∈ (l.foldl (fun s a => s.push env a frame) s).frames := by
    intro l
    induction l with
    | nil => exact fun s h => h
    | cons a l ih => exact fun s h => ih _ (mem_frames_push h)
  have hgen : ∀ (l : List String) (s : LoopState), agentId ∈ s.outBus → agentId ∈ l →
      (agentId, frame) ∈ (l.foldl (fun s a => s.push env a frame) s).frames := by
    intro l
    induction l with
    | nil => exact fun s _ h => absurd h (by simp)
    | cons a l ih =>
        intro s hbus hmem
        rcases List.mem_cons.mp hmem with rfl | hmem
        · apply hkeep l
          show (agentId, frame) ∈ (s.push env agentId frame).frames
          unfold LoopState.push
          rw [if_pos ⟨hbus, hsend⟩]
          exact List.mem_append_right _ (List.mem_singleton_self _)
        · exact ih _ ((outBus_push env s a frame).symm ▸ hbus) hmem
  apply hgen _ s hbus
  unfold agentsOf
  rw [List.mem_filter]
  refine ⟨(env.order_perm _).mem_iff.mpr ?_, by simp [havatar, hstartup]⟩
  exact AList.mem_keys.mp (AList.lookup_isSome.mp (by simp [havatar]))

/-- The two writes touch the database only. -/
theorem loop_applyReport (env : Env) (st : BudgetState) (startupId agentId : String) (r : Report) :
    ∃ db, (applyReport env st startupId agentId r).2.loop = { st.loop with db := db } := by
  unfold applyReport
  split
  · exact ⟨st.loop.db, rfl⟩
  · dsimp only
    unfold recordBudgetEvent
    split <;> exact ⟨_, rfl⟩

/-- **A pause that is issued reaches the workers**: those that are registered and take the frame. -/
theorem mem_frames_of_pauses {m : ReportMessage} {st : BudgetState} {startupId agentId : String}
    {avatar : AvatarView} (h : (BudgetAction.report m).Pauses startupId st)
    (havatar : st.loop.world.avatars.lookup agentId = some avatar) (hstartup : avatar.startupId = startupId)
    (hbus : agentId ∈ st.loop.outBus) (hsend : m.env.trySend agentId pauseFrame = .ok) :
    (agentId, pauseFrame) ∈ (m.handle st).loop.frames := by
  obtain ⟨⟨sender, hsender, rfl⟩, hthreshold⟩ := h
  obtain ⟨db, hloop⟩ := loop_applyReport m.env st sender.startupId m.agentId m.report
  unfold ReportMessage.handle reportBudget
  rw [Option.mem_def.mp hsender]
  dsimp only
  generalize applyReport m.env st sender.startupId m.agentId m.report = result at hthreshold hloop ⊢
  obtain ⟨⟨newSpent, cap, threshold⟩, st'⟩ := result
  obtain rfl : threshold = some .pause100 := hthreshold
  obtain ⟨frames, events, hnote⟩ := isTold_noteVariance m.env st'.loop sender.startupId m.report
  show (agentId, pauseFrame) ∈ (pauseStartup m.env (recordThresholdEvent m.env
    (noteVariance m.env st'.loop sender.startupId m.report) sender.startupId .pause100 newSpent cap)
    sender.startupId).frames
  have hsame : st'.loop = { st.loop with db := db } := hloop
  rw [hnote, hsame]
  exact mem_frames_broadcast havatar hstartup hbus hsend

/-! ### Steps -/

section Steps

variable {st : BudgetState} {startupId : String}

/-- A cost is never negative. -/
theorem cost_nonneg (r : Report) : 0 ≤ r.cost := by
  have hprice : ∀ modelId : String, ∀ p ∈ pricePerMtok modelId, 0 ≤ p.1 ∧ 0 ≤ p.2 := by
    intro modelId
    unfold pricePerMtok
    split <;> simp <;> norm_num
  have htable : 0 ≤ costUsd r.modelId r.inTokens r.outTokens := by
    unfold costUsd
    rcases h : pricePerMtok r.modelId with _ | p
    · simp
    · obtain ⟨hin, hout⟩ := hprice _ p h
      exact add_nonneg (mul_nonneg (by positivity) hin) (mul_nonneg (by positivity) hout)
  unfold Report.cost
  split
  · split
    · assumption
    · exact htable
  · exact htable

/-- The highest threshold is crossed by the report that takes the startup to the cap. -/
theorem newlyCrossed_pause_iff {prevSpent newSpent cap : ℚ} :
    newlyCrossed prevSpent newSpent cap = some .pause100 ↔
      0 < cap ∧ prevSpent < cap ∧ cap ≤ newSpent := by
  unfold newlyCrossed
  rcases le_or_gt cap 0 with hcap | hcap
  · rw [if_pos hcap]
    exact ⟨fun h => absurd h (by simp), fun h => absurd h.1 (not_lt.mpr hcap)⟩
  · rw [if_neg (not_le.mpr hcap)]
    simp only [div_lt_one hcap, one_le_div hcap]
    constructor
    · intro h
      split at h
      · rename_i hcross
        exact ⟨hcap, hcross⟩
      · split at h
        · exact absurd h (by simp)
        · split at h <;> exact absurd h (by simp)
    · rintro ⟨-, hcross⟩
      rw [if_pos hcross]

/-- **What a report does to the row of a startup**: it adds the cost of a report of one of its agents. -/
theorem lookup_startups_handle (st : BudgetState) (m : ReportMessage) (startupId : String) :
    (m.handle st).loop.db.startups.lookup startupId =
      (st.loop.db.startups.lookup startupId).map fun row =>
        if (∃ avatar ∈ st.loop.world.avatars.lookup m.agentId, avatar.startupId = startupId) then
          { row with budgetSpentUsd := row.budgetSpentUsd + m.report.cost }
        else row := by
  rcases havatar : st.loop.world.avatars.lookup m.agentId with _ | avatar
  · have hnone : m.handle st = st := reportBudget_of_none havatar m.report
    rw [hnone]
    simp
  · obtain ⟨s, ⟨frames, events, rfl⟩, heq⟩ := reportBudget_eq m.env havatar m.report
    have hsame : (m.handle st).loop.db.startups =
        (applyReport m.env st avatar.startupId m.agentId m.report).2.loop.db.startups := by
      unfold ReportMessage.handle
      rw [heq]
      rfl
    rw [hsame]
    rcases hrow : st.loop.db.startups.lookup avatar.startupId with _ | row
    · have happly : (applyReport m.env st avatar.startupId m.agentId m.report).2 = st := by
        unfold applyReport
        rw [hrow]
      rw [happly]
      rcases hrow' : st.loop.db.startups.lookup startupId with _ | row'
      · rfl
      · rw [Option.map_some, if_neg]
        rintro ⟨a, ⟨⟩, rfl⟩
        exact absurd (hrow.symm.trans hrow') (by simp)
    · rw [lookup_startups_applyReport hrow]
      split
      · rename_i h
        subst h
        rw [hrow]
        simp
      · rename_i h
        have hne : ∀ row', (if ∃ a ∈ some avatar, a.startupId = startupId then
            { row' with budgetSpentUsd := row'.budgetSpentUsd + m.report.cost } else row') =
              (row' : Task.Startup) := by
          intro row'
          rw [if_neg]
          rintro ⟨a, ⟨⟩, rfl⟩
          exact h rfl
        simp only [hne, Option.map_id']

/-- The threshold that a report crosses. -/
theorem threshold_applyReport {env : Env} {agentId : String} {r : Report} {row : Task.Startup}
    (hrow : st.loop.db.startups.lookup startupId = some row) :
    (applyReport env st startupId agentId r).1.2.2 =
      newlyCrossed row.budgetSpentUsd (row.budgetSpentUsd + r.cost) row.budgetCapUsd := by
  unfold applyReport
  rw [hrow]

/-- **What a request does to the cap of a startup.** -/
theorem lookup_startups_patchStartup (st : BudgetState) (identity : Option OperatorIdentity) (id : String)
    (budgetCapUsd : Option ℚ) (startupId : String) :
    (patchStartup st identity id budgetCapUsd).2.loop.db.startups.lookup startupId =
        st.loop.db.startups.lookup startupId ∨
      identity.isSome ∧ id = startupId ∧ ∃ cap ∈ newCap budgetCapUsd,
        ∃ row ∈ st.loop.db.startups.lookup startupId,
          (patchStartup st identity id budgetCapUsd).2.loop.db.startups.lookup startupId =
            some { row with budgetCapUsd := cap } := by
  unfold patchStartup
  rcases identity with _ | identity
  · exact .inl rfl
  · rcases hcap : newCap budgetCapUsd with _ | cap
    · exact .inl rfl
    · rcases hrow : st.loop.db.startups.lookup id with _ | row
      · exact .inl rfl
      · by_cases hid : id = startupId
        · subst hid
          refine .inr ⟨rfl, rfl, cap, rfl, row, hrow, ?_⟩
          simp [Db.updateStartup, Table.lookup_modify_self, hrow]
        · refine .inl ?_
          simp [Db.updateStartup, Table.lookup_modify_ne _ (Ne.symm hid)]

/-- A startup that is exhausted is not below its cap. -/
theorem Exhausted.not_below (h : Exhausted startupId st) : ¬ Below startupId st := by
  rintro ⟨row, hrow, hlt⟩
  obtain ⟨row', hrow', -, hle⟩ := h
  obtain rfl := Option.some.inj (hrow.symm.trans hrow')
  exact absurd hle (not_le.mpr hlt)

/-- **One action**: a startup is exhausted after it only if it was before, or the workers are told to pause, or the
cap is lowered to what is spent. -/
theorem exhausted_apply {l : BudgetAction} (h : Exhausted startupId (l.apply st)) :
    Exhausted startupId st ∨ l.Pauses startupId st ∨ l.LowersTo startupId st := by
  obtain ⟨row', hrow', hpos, hle⟩ := h
  cases l with
  | report m =>
      have heq := (lookup_startups_handle st m startupId).symm.trans hrow'
      obtain ⟨row, hrow, heq⟩ := Option.map_eq_some_iff.mp heq
      split at heq
      · rename_i havatar
        subst heq
        rcases le_or_gt row.budgetCapUsd row.budgetSpentUsd with hspent | hspent
        · exact .inl ⟨row, hrow, hpos, hspent⟩
        · refine .inr (.inl ⟨havatar, ?_⟩)
          rw [threshold_applyReport hrow]
          exact newlyCrossed_pause_iff.mpr ⟨hpos, hspent, hle⟩
      · subst heq
        exact .inl ⟨row, hrow, hpos, hle⟩
  | patch identity id budgetCapUsd =>
      rcases lookup_startups_patchStartup st identity id budgetCapUsd startupId with
        hsame | ⟨hidentity, hid, cap, hcap, row, hrow, heq⟩
      · exact .inl ⟨row', hsame.symm.trans hrow', hpos, hle⟩
      · obtain rfl := Option.some.inj (heq.symm.trans hrow')
        exact .inr (.inr ⟨hidentity, hid, cap, hcap, hpos, row, hrow, hle⟩)

/-! ### Runs -/

theorem runBudget_append_singleton (st : BudgetState) (actions : List BudgetAction) (l : BudgetAction) :
    runBudget st (actions ++ [l]) = l.apply (runBudget st actions) := by
  simp [runBudget]

/-- One more action: it issues the pause, or one has been issued before, and the startup is not below its cap. -/
theorem pausedSince_append_iff {actions : List BudgetAction} {l : BudgetAction} :
    PausedSince startupId st (actions ++ [l]) ↔
      (l.Pauses startupId (runBudget st actions) ∨ PausedSince startupId st actions) ∧
        ¬ Below startupId (runBudget st (actions ++ [l])) := by
  constructor
  · rintro ⟨before, l', after, heq, hpauses, hsince⟩
    have hbelow := hsince after List.prefix_rfl
    rw [← heq] at hbelow
    refine ⟨?_, hbelow⟩
    rcases List.eq_nil_or_concat after with rfl | ⟨after₀, l₀, rfl⟩
    · obtain ⟨rfl, hl⟩ := List.append_inj' heq rfl
      obtain rfl : l = l' := by simpa using hl
      exact .inl hpauses
    · rw [List.concat_eq_append, ← List.cons_append, ← List.append_assoc] at heq
      obtain ⟨rfl, -⟩ := List.append_inj' heq rfl
      refine .inr ⟨before, l', after₀, rfl, hpauses, fun after' h => hsince after' (h.trans ?_)⟩
      rw [List.concat_eq_append]
      exact List.prefix_append _ _
  · rintro ⟨hpaused | ⟨before, l', after, rfl, hpauses, hsince⟩, hbelow⟩
    · refine ⟨actions, l, [], rfl, hpaused, fun after' h => ?_⟩
      rw [List.prefix_nil.mp h]
      exact hbelow
    · refine ⟨before, l', after ++ [l], by simp, hpauses, fun after' h => ?_⟩
      rcases List.prefix_concat_iff.mp h with rfl | h
      · simpa using hbelow
      · exact hsince after' h

/-- **A startup that is exhausted has been told to pause**, at or after the last moment at which it was below its
cap, if that was so whenever the cap was lowered to what is spent. -/
theorem pausedSince_of_exhausted (hstart : ¬ Exhausted startupId st) {actions : List BudgetAction}
    (hlowers : ∀ before l, before ++ [l] <+: actions → l.LowersTo startupId (runBudget st before) →
      PausedSince startupId st before) :
    ∀ before, before <+: actions → Exhausted startupId (runBudget st before) →
      PausedSince startupId st before := by
  intro before
  induction before using List.reverseRecOn with
  | nil => exact fun _ h => absurd h hstart
  | append_singleton before l ih =>
      intro hprefix h
      have hbefore : before <+: actions := (List.prefix_append before [l]).trans hprefix
      refine pausedSince_append_iff.mpr ⟨?_, h.not_below⟩
      rw [runBudget_append_singleton] at h
      rcases exhausted_apply h with hexhausted | hpauses | hl
      · exact .inr (ih hbefore hexhausted)
      · exact .inl hpauses
      · exact .inr (hlowers before l hprefix hl)

/-- **The pause is missed otherwise**: when the cap is lowered to what is spent and no pause has been issued, the
next report of an agent of the startup leaves it exhausted, and still none has been. -/
theorem missed_of_lowered {before : List BudgetAction} {l : BudgetAction} {m : ReportMessage}
    (hl : l.LowersTo startupId (runBudget st before)) (hpaused : ¬ PausedSince startupId st before) :
    Exhausted startupId (runBudget st (before ++ [l] ++ [.report m])) ∧
      ¬ PausedSince startupId st (before ++ [l] ++ [.report m]) := by
  have hexhausted : Exhausted startupId (runBudget st (before ++ [l])) ∧
      ¬ l.Pauses startupId (runBudget st before) := by
    cases l with
    | report m => exact hl.elim
    | patch identity id budgetCapUsd =>
        obtain ⟨hidentity, rfl, cap, hcap, hpos, row, hrow, hle⟩ := hl
        refine ⟨⟨{ row with budgetCapUsd := cap }, ?_, hpos, hle⟩, fun h => h⟩
        rw [runBudget_append_singleton]
        obtain ⟨identity, rfl⟩ := Option.isSome_iff_exists.mp hidentity
        simp only [BudgetAction.apply, patchStartup, Option.mem_def.mp hcap, Option.mem_def.mp hrow]
        rw [Option.mem_def]
        simp [Db.updateStartup, Table.lookup_modify_self, Option.mem_def.mp hrow]
  obtain ⟨⟨row, hrow, hpos, hle⟩, hl⟩ := hexhausted
  have hmissed : ¬ PausedSince startupId st (before ++ [l]) := fun h =>
    (pausedSince_append_iff.mp h).1.elim hl hpaused
  have hreport : ¬ (BudgetAction.report m).Pauses startupId (runBudget st (before ++ [l])) := by
    rintro ⟨-, hthreshold⟩
    rw [threshold_applyReport hrow] at hthreshold
    exact absurd hle (not_le.mpr (newlyCrossed_pause_iff.mp hthreshold).2.1)
  refine ⟨?_, fun h => (pausedSince_append_iff.mp h).1.elim hreport hmissed⟩
  rw [runBudget_append_singleton _ (before ++ [l])]
  have hrow' := lookup_startups_handle (runBudget st (before ++ [l])) m startupId
  rw [Option.mem_def.mp hrow, Option.map_some] at hrow'
  refine ⟨_, hrow', ?_⟩
  split
  · exact ⟨hpos, hle.trans (le_add_of_nonneg_right (cost_nonneg m.report))⟩
  · exact ⟨hpos, hle⟩

end Steps

/-- The engineer has reported a dollar, and an operator lowers the cap to half of that. -/
def loweredCap : List BudgetAction :=
  [.report (dollarReport "e-1" none), .patch (some sampleAdmin) "s-1" (some (1 / 2))]

/-- The same reports under a cap that is raised. -/
def raisedCap : List BudgetAction :=
  [.report (dollarReport "e-1" none), .patch (some sampleAdmin) "s-1" (some 2),
    .report (dollarReport "e-2" none)]

/-- The startup, with the worker of its engineer connected. -/
def listeningBudget : BudgetState :=
  { freshBudget with loop := { freshBudget.loop with outBus := ["a-2"] } }

/-- Raising the cap does not lower it to what is spent, so the second report is answered by a pause, and the worker
is told. -/
theorem pausedSince_of_exhausted_raisedCap :
    PausedSince "s-1" listeningBudget raisedCap ∧
      ("a-2", pauseFrame) ∈ (runBudget listeningBudget raisedCap).loop.frames := by
  have hraised : ∀ before l, before ++ [l] <+: raisedCap →
      ¬ l.LowersTo "s-1" (runBudget listeningBudget before) := by
    rintro before l ⟨after, heq⟩
    rcases before with _ | ⟨l₁, _ | ⟨l₂, _ | ⟨l₃, before⟩⟩⟩
    · obtain ⟨rfl, -⟩ := List.cons.inj heq
      decide +kernel
    · obtain ⟨rfl, heq₁⟩ := List.cons.inj heq
      obtain ⟨rfl, -⟩ := List.cons.inj heq₁
      decide +kernel
    · obtain ⟨rfl, heq₁⟩ := List.cons.inj heq
      obtain ⟨rfl, heq₂⟩ := List.cons.inj heq₁
      obtain ⟨rfl, -⟩ := List.cons.inj heq₂
      decide +kernel
    · have hlen := congrArg List.length heq
      simp [raisedCap] at hlen
  have hsplit : raisedCap = raisedCap.take 2 ++ [.report (dollarReport "e-2" none)] := rfl
  refine ⟨pausedSince_of_exhausted (by decide +kernel) (fun before l hl h => absurd h (hraised before l hl))
    raisedCap List.prefix_rfl (by decide +kernel), ?_⟩
  have hpauses : (BudgetAction.report (dollarReport "e-2" none)).Pauses "s-1"
      (runBudget listeningBudget (raisedCap.take 2)) := by
    decide +kernel
  obtain ⟨⟨engineer, hengineer, hstartup⟩, -⟩ := id hpauses
  rw [hsplit, runBudget_append_singleton]
  exact mem_frames_of_pauses hpauses hengineer hstartup (by decide +kernel) rfl

/-- **A lowered cap is reached without a pause.** -/
theorem exhausted_unpaused :
    ¬ ∀ (st : BudgetState) (startupId : String), ¬ Exhausted startupId st →
      ∀ (actions : List BudgetAction) (m : ReportMessage),
        (∀ m, .report m ∈ actions → 0 < m.report.cost) → 0 < m.report.cost →
          Exhausted startupId (runBudget st (actions ++ [.report m])) →
            PausedSince startupId st (actions ++ [.report m]) := by
  intro h
  have hunpaused : ¬ PausedSince "s-1" freshBudget [.report (dollarReport "e-1" none)] := by
    intro hpaused
    have hpaused' : PausedSince "s-1" freshBudget ([] ++ [.report (dollarReport "e-1" none)]) := hpaused
    rcases (pausedSince_append_iff.mp hpaused').1 with hpauses | ⟨_, _, _, heq, -⟩
    · exact absurd hpauses (by decide +kernel)
    · exact absurd heq (by simp)
  have hlowers : BudgetAction.LowersTo "s-1" (runBudget freshBudget [.report (dollarReport "e-1" none)])
      (.patch (some sampleAdmin) "s-1" (some (1 / 2))) := by
    decide +kernel
  obtain ⟨hexhausted, hmissed⟩ := missed_of_lowered hlowers hunpaused
  refine hmissed (h freshBudget "s-1" (by decide +kernel) loweredCap (dollarReport "e-2" none) ?_
    (by decide +kernel) hexhausted)
  intro m hm
  obtain rfl : m = dollarReport "e-1" none := by simpa [loweredCap] using hm
  decide +kernel

end Cliptown.Budget
