import Cliptown.Task.Running

/-!
# Reviews

A review sends a task back, and the assignee reports it again before the next one. The handler asks for
`awaiting_review` in the branch that starts another round, but not in the one that escalates.

* `LoopEvent.RequestsChanges`, `LoopEvent.Submits` — the calls of reviewers and of the assignee that are
  granted.
* `LoopEvent.EscalatesEarly` — a review that escalates a task nobody has reported.
* `Board.Step.awaiting_of` — a task awaits its review only because it was reported.
* `reviews_disciplined` — reviews and reports alternate exactly while nothing is escalated early.
-/

namespace Cliptown.Task

open Cliptown.Lib Cliptown.Town Cliptown.World

/-! ### The board -/

namespace Board

variable {τ α : Type*} [DecidableEq τ] [DecidableEq α] {b b' : Board τ α} {e : BoardEvent τ α} {t u : τ}

/-- The task awaits its review. -/
def Awaiting (b : Board τ α) (t : τ) : Prop :=
  ∃ c, b.card t = some c ∧ c.status = .awaitingReview

omit [DecidableEq α] in
/-- A card with another status is placed: nothing awaits a review that did not. -/
theorem awaiting_put {c : Card τ α} (hc : c.status ≠ .awaitingReview) (h : (b.put t c).Awaiting u) :
    u ≠ t ∧ b.Awaiting u := by
  obtain ⟨d, hd, hstatus⟩ := h
  rw [card_put] at hd
  split at hd
  · obtain rfl := Option.some.inj hd
    exact absurd hstatus hc
  · exact ⟨‹_›, d, hd, hstatus⟩

/-- **A task awaits its review only because it was reported**, or because it did. -/
theorem Step.awaiting_of (h : Step b e b') (hu : b'.Awaiting u) :
    b.Awaiting u ∨ ∃ a, e = .submit u a := by
  cases h with
  | create hnone hstatus =>
      exact .inl (awaiting_put (by rcases hstatus with h | h <;> simp [h]) hu).2
  | @submit t c a =>
      by_cases hut : u = t
      · exact .inr ⟨a, by rw [hut]⟩
      · obtain ⟨d, hd, hstatus⟩ := hu
        rw [card_mark, card_put, if_neg hut] at hd
        exact .inl ⟨d, hd, hstatus⟩
  | steal hcard hstatus => exact .inl (awaiting_put (by simp [hstatus]) hu).2
  | @block t c x hcard =>
      obtain ⟨d, hd, hstatus⟩ := hu
      rw [card_put] at hd
      split at hd
      · rename_i heq
        obtain rfl := Option.some.inj hd
        exact .inl ⟨c, heq ▸ hcard, hstatus⟩
      · exact .inl ⟨d, hd, hstatus⟩
  | possess | unpossess => exact .inl hu
  | dispatch | rollback | fail =>
      obtain ⟨d, hd, hstatus⟩ := hu
      rw [card_mark] at hd
      exact .inl (awaiting_put (by simp) ⟨d, hd, hstatus⟩).2
  | _ => exact .inl (awaiting_put (by simp) hu).2

/-- Plain events report nothing. -/
theorem Plainly.awaiting_of (h : Plainly b b') (hu : b'.Awaiting u) : b.Awaiting u := by
  obtain ⟨es, hrun, hplain⟩ := h
  by_contra hnot
  refine hrun.preserves_of_mem (I := fun b => ¬ b.Awaiting u) (fun b e b' he hb hstep hb' => ?_)
    hnot hu
  rcases hstep.awaiting_of hb' with hawaiting | ⟨a, rfl⟩
  · exact hb hawaiting
  · exact (hplain _ he).elim

/-- A review that starts another round finds the task awaiting it. -/
theorem Step.awaiting_of_requestChanges (h : Step b (.requestChanges t) b') : b.Awaiting t := by
  cases h with
  | requestChanges hcard hstatus => exact ⟨_, hcard, hstatus⟩

/-- A review that escalates finds a task that is neither done nor failed. -/
theorem Step.of_escalate {c : Card τ α} (h : Step b (.escalate t) b') (hc : b.card t = some c) :
    c.status ≠ .done ∧ c.status ≠ .failed := by
  cases h with
  | escalate hcard hdone hfailed =>
      obtain rfl := Option.some.inj (hcard.symm.trans hc)
      exact ⟨hdone, hfailed⟩

/-- A review leaves nothing to review. -/
theorem Step.not_awaiting_of_review (h : Step b e b') (he : e = .requestChanges t ∨ e = .escalate t) :
    ¬ b'.Awaiting t := by
  intro hawaiting
  rcases he with rfl | rfl
  · cases h with
    | requestChanges => exact (awaiting_put (by simp) hawaiting).1 rfl
  · cases h with
    | escalate => exact (awaiting_put (by simp) hawaiting).1 rfl

end Board

/-! ### Calls -/

/-- What a request for changes checks before it looks at the status. -/
structure MayReview (db : Db) (caller : AvatarView) (args : Json) (taskId feedback : String)
    (task : TaskRow) : Prop where
  hasId : args.getStr "task_id" = some taskId
  hasFeedback : args.getStr "feedback" = some feedback
  short : feedback.length ≤ maxBodyLength
  row : db.tasks.lookup taskId = some task
  startup : task.startupId = caller.startupId
  reviewer : (callerIsManagerOfTask db caller task || isPeerReview db caller task) = true
  assignee : task.assigneeAgentId.isSome

/-- A request for changes of a task that takes effect. -/
def LoopEvent.RequestsChanges (cfg : Config) (s : LoopState) (taskId : String) : LoopEvent → Prop
  | .mcp env agentId msg => ∃ caller v s', s.world.avatars.lookup agentId = some caller ∧
      (McpCall.ofJson msg).tool = "task_request_changes" ∧
      (McpCall.ofJson msg).args.getStr "task_id" = some taskId ∧
      handleTaskRequestChanges cfg env s caller (McpCall.ofJson msg).args = .ok (v, s')
  | _ => False

/-- A report of a task by its assignee that is granted. -/
def LoopEvent.Submits (cfg : Config) (s : LoopState) (taskId : String) : LoopEvent → Prop
  | .mcp env agentId msg => ∃ caller task v s', s.world.avatars.lookup agentId = some caller ∧
      s.db.tasks.lookup taskId = some task ∧ task.assigneeAgentId = some caller.agentId ∧
      (McpCall.ofJson msg).tool = "task_done" ∧
      (McpCall.ofJson msg).args.getStr "task_id" = some taskId ∧
      handleTaskDone cfg env s caller (McpCall.ofJson msg).args = (.ok v, s')
  | _ => False

/-- A request for changes of a task that is through its rounds and does not await a review. -/
def LoopEvent.EscalatesEarly (s : LoopState) (taskId : String) : LoopEvent → Prop
  | .mcp _ agentId msg => ∃ caller feedback task, s.world.avatars.lookup agentId = some caller ∧
      (McpCall.ofJson msg).tool = "task_request_changes" ∧
      MayReview s.db caller (McpCall.ofJson msg).args taskId feedback task ∧
      maxReviewRounds ≤ task.reviewRound ∧ task.status ≠ .awaitingReview ∧ task.status ≠ .done ∧
      task.status ≠ .failed
  | _ => False

/-- The task awaits its review. -/
def AwaitsReview (db : Db) (taskId : String) : Prop :=
  ∃ task, db.tasks.lookup taskId = some task ∧ task.status = .awaitingReview

section Calls

variable {cfg : Config} {env : Env} {s s' : LoopState} {caller : AvatarView} {args v : Json}
  {l : LoopEvent} {taskId : String}

theorem awaiting_iff : s.board.Awaiting taskId ↔ AwaitsReview s.db taskId := by
  constructor
  · rintro ⟨c, hc, hstatus⟩
    obtain ⟨task, htask, rfl⟩ := Db.card_eq_some_iff.mp hc
    exact ⟨task, htask, hstatus⟩
  · rintro ⟨task, htask, hstatus⟩
    exact ⟨task.card, card_of_lookup htask, hstatus⟩

/-- A granted request for changes passed its checks, and took one of the two branches. -/
theorem review_of_requestChanges (h : handleTaskRequestChanges cfg env s caller args = .ok (v, s')) :
    ∃ taskId feedback task, MayReview s.db caller args taskId feedback task ∧
      (maxReviewRounds ≤ task.reviewRound ∧ Board.Step s.board (.escalate taskId) s'.board ∨
        task.reviewRound < maxReviewRounds ∧
          Board.Step s.board (.requestChanges taskId) s'.board) := by
  obtain ⟨taskId, task, feedback, assignee, ⟨hid, htask, hstartup⟩, hfeedback, hlength, hreviewer,
    hassignee, h⟩ := handleTaskRequestChanges_eq_ok.mp h
  refine ⟨taskId, feedback, task,
    ⟨hid, hfeedback, hlength, htask, hstartup, hreviewer, by simp [hassignee]⟩, ?_⟩
  split at h
  · rename_i hround
    exact .inl ⟨hround, escalateTask_step htask hround h⟩
  · rename_i hround
    exact .inr ⟨Nat.lt_of_not_le hround, nextRound_step htask h⟩

variable (cfg env) in
/-- What passes the checks is escalated after the last round, unless it is done or failed. -/
theorem requestChanges_of_review {feedback : String} {task : TaskRow}
    (h : MayReview s.db caller args taskId feedback task) (hround : maxReviewRounds ≤ task.reviewRound)
    (hdone : task.status ≠ .done) (hfailed : task.status ≠ .failed) :
    ∃ v s', handleTaskRequestChanges cfg env s caller args = .ok (v, s') := by
  obtain ⟨assignee, hassignee⟩ := Option.isSome_iff_exists.mp h.assignee
  have hnext : next task.status .escalate = .ok .escalated :=
    next_eq_ok_iff.mpr ⟨hdone, hfailed, rfl⟩
  have hescalate : ∃ r, escalateTask env s caller taskId feedback task = .ok r := by
    unfold escalateTask
    rw [hnext]
    exact ⟨_, rfl⟩
  obtain ⟨r, hr⟩ := hescalate
  refine ⟨r.1, r.2, handleTaskRequestChanges_eq_ok.mpr ⟨taskId, task, feedback, assignee,
    ⟨h.hasId, h.row, h.startup⟩, h.hasFeedback, h.short, h.reviewer, hassignee, ?_⟩⟩
  rw [if_pos hround]
  exact hr

/-- The state after a granted request for changes. -/
theorem apply_requestChanges {agentId : String} {msg : Json}
    (hcaller : s.world.avatars.lookup agentId = some caller)
    (htool : (McpCall.ofJson msg).tool = "task_request_changes")
    (h : handleTaskRequestChanges cfg env s caller (McpCall.ofJson msg).args = .ok (v, s')) :
    LoopEvent.apply cfg s (.mcp env agentId msg) = s' := by
  have hcall : callTool cfg env s caller (McpCall.ofJson msg).args "task_request_changes" =
      settle s (handleTaskRequestChanges cfg env s caller (McpCall.ofJson msg).args) := rfl
  show (dispatchMcp cfg env s agentId msg).2 = s'
  rw [state_dispatchMcp msg hcaller, htool, hcall, h]
  rfl

/-- **A request for changes that takes effect** finds the task awaiting its review, or escalates it early,
and leaves nothing to review. -/
theorem not_awaits_of_requestsChanges (h : l.RequestsChanges cfg s taskId) :
    (AwaitsReview s.db taskId ∨ l.EscalatesEarly s taskId) ∧
      ¬ AwaitsReview (l.apply cfg s).db taskId := by
  cases l with
  | mcp env agentId msg =>
      obtain ⟨caller, v, s', hcaller, htool, hid, hok⟩ := h
      rw [apply_requestChanges hcaller htool hok]
      obtain ⟨id, feedback, task, hmay, hstep⟩ := review_of_requestChanges hok
      obtain rfl := Option.some.inj (hmay.hasId.symm.trans hid)
      constructor
      · by_cases hawaits : AwaitsReview s.db id
        · exact .inl hawaits
        · right
          rcases hstep with ⟨hround, hstep⟩ | ⟨-, hstep⟩
          · obtain ⟨hdone, hfailed⟩ := hstep.of_escalate (card_of_lookup hmay.row)
            exact ⟨caller, feedback, task, hcaller, htool, hmay, hround,
              fun hstatus => hawaits ⟨task, hmay.row, hstatus⟩, hdone, hfailed⟩
          · exact absurd (awaiting_iff.mp hstep.awaiting_of_requestChanges) hawaits
      · rw [← awaiting_iff]
        rcases hstep with ⟨-, hstep⟩ | ⟨-, hstep⟩
        · exact hstep.not_awaiting_of_review (.inr rfl)
        · exact hstep.not_awaiting_of_review (.inl rfl)
  | _ => exact h.elim

/-- Early escalations take effect on tasks that do not await a review. -/
theorem requestsChanges_of_early (h : l.EscalatesEarly s taskId) :
    l.RequestsChanges cfg s taskId ∧ ¬ AwaitsReview s.db taskId := by
  cases l with
  | mcp env agentId msg =>
      obtain ⟨caller, feedback, task, hcaller, htool, hmay, hround, hstatus, hdone, hfailed⟩ := h
      obtain ⟨v, s', hok⟩ := requestChanges_of_review cfg env hmay hround hdone hfailed
      refine ⟨⟨caller, v, s', hcaller, htool, hmay.hasId, hok⟩, ?_⟩
      rintro ⟨task', htask', hawaits⟩
      obtain rfl := Option.some.inj (hmay.row.symm.trans htask')
      exact hstatus hawaits
  | _ => exact h.elim

/-- The report behind an event of the board. -/
theorem submits_of_emits {agentId : String} {b : Board String String}
    (h : Emits s l (.submit taskId agentId)) (hstep : Board.Step s.board (.submit taskId agentId) b) :
    l.Submits cfg s taskId := by
  cases h with
  | @mcp env callerId msg caller _ hcaller hissues =>
      generalize htool : (McpCall.ofJson msg).tool = tool at hissues
      cases hissues with
      | plain hplain => exact hplain.elim
      | @submit _ artifactPath task hchecks hok =>
          obtain ⟨hid, -, htask, -, hassignee, -⟩ := taskDoneChecks_eq_ok.mp hchecks
          cases hstep with
          | submit hcard hstatus =>
              obtain rfl := Option.some.inj (hcard.symm.trans (card_of_lookup htask))
              have hnext : next task.status .taskDoneMcp = .ok .awaitingReview :=
                next_eq_ok_iff.mpr ⟨hstatus, rfl⟩
              have hdone : ∃ v s', handleTaskDone cfg env s caller (McpCall.ofJson msg).args =
                  (.ok v, s') := by
                unfold handleTaskDone
                rw [hchecks]
                simp only
                rw [if_pos hok, hnext]
                exact ⟨_, _, rfl⟩
              obtain ⟨v, s', hdone⟩ := hdone
              exact ⟨caller, task, v, s', hcaller, htask, hassignee, htool, hid, hdone⟩
  | console horders =>
      cases horders with
      | plain hplain => exact hplain.elim

variable (cfg) in
/-- **A task comes to await its review by a report** of its assignee. -/
theorem awaits_of_apply (l : LoopEvent) (h : AwaitsReview (l.apply cfg s).db taskId) :
    AwaitsReview s.db taskId ∨ l.Submits cfg s taskId := by
  rw [← awaiting_iff] at h ⊢
  rcases apply_board cfg s l with hplain | ⟨e, hstep, hemits⟩
  · exact .inl (hplain.awaiting_of h)
  · refine (hstep.awaiting_of h).imp_right ?_
    rintro ⟨a, rfl⟩
    exact submits_of_emits hemits hstep

end Calls

/-! ### Runs -/

/-- What is expected of the reviews of a task in a run: between two that take effect its assignee reports it,
and each of them finds it awaiting the review. -/
structure Disciplined (cfg : Config) (s : LoopState) (ls : List LoopEvent) (taskId : String) : Prop where
  reported : ∀ before c between c' after, ls = before ++ c :: (between ++ c' :: after) →
    c.RequestsChanges cfg (runEvents cfg s before) taskId →
      c'.RequestsChanges cfg (runEvents cfg s (before ++ c :: between)) taskId →
        ∃ earlier d later, between = earlier ++ d :: later ∧
          d.Submits cfg (runEvents cfg s (before ++ c :: earlier)) taskId
  awaiting : ∀ before c after, ls = before ++ c :: after →
    c.RequestsChanges cfg (runEvents cfg s before) taskId →
      AwaitsReview (runEvents cfg s before).db taskId

/-- **Reviews are disciplined** in exactly those runs in which no task is escalated early. -/
theorem reviews_disciplined (cfg : Config) (s : LoopState) (ls : List LoopEvent) (taskId : String) :
    Disciplined cfg s ls taskId ↔ ∀ before c after, ls = before ++ c :: after →
      ¬ c.EscalatesEarly (runEvents cfg s before) taskId := by
  constructor
  · intro h before c after hls hearly
    obtain ⟨hrequests, hnot⟩ := requestsChanges_of_early hearly
    exact hnot (h.awaiting before c after hls hrequests)
  · intro h
    have hawaiting : ∀ before c after, ls = before ++ c :: after →
        c.RequestsChanges cfg (runEvents cfg s before) taskId →
          AwaitsReview (runEvents cfg s before).db taskId := by
      intro before c after hls hrequests
      exact (not_awaits_of_requestsChanges hrequests).1.resolve_right (h before c after hls)
    refine ⟨?_, hawaiting⟩
    intro before c between c' after hls hc hc'
    -- the first request leaves nothing to review, the second one finds something
    have hnot := (not_awaits_of_requestsChanges hc).2
    have hfinds := hawaiting (before ++ c :: between) c' after (by rw [hls, List.append_assoc]; rfl) hc'
    have hsplit : ∀ rest, runEvents cfg s (before ++ c :: rest) =
        runEvents cfg (c.apply cfg (runEvents cfg s before)) rest :=
      fun rest => runEvents_append cfg s before (c :: rest)
    rw [hsplit] at hfinds
    obtain ⟨earlier, d, later, u, hbetween, hrun, hsubmits⟩ :=
      (run_runEvents cfg _ between).exists_label (P := fun s => AwaitsReview s.db taskId)
        (Q := fun s l => l.Submits cfg s taskId) (fun s l t hst ht => by
          obtain rfl := hst
          exact awaits_of_apply cfg l ht) hnot hfinds
    refine ⟨earlier, d, later, hbetween, ?_⟩
    rw [hsplit, ← eq_runEvents hrun]
    exact hsubmits

/-- The engineer reports its task. -/
def reportTask (now : ℤ) : LoopEvent :=
  sampleCall now "a-2" "task_done" [("task_id", .str "T_1"),
    ("artifact_path", .str "workspaces/s-1/artifacts/T_1.md"), ("auto_check", .bool false)]

/-- What the founder reads and says when it sends the task back. -/
def sendBackMsg : Json :=
  .obj [("type", .str "mcp_call"), ("tool", .str "task_request_changes"),
    ("args", .obj [("task_id", .str "T_1"), ("feedback", .str "once more")]), ("corr_id", .str "c")]

/-- The founder sends the task back. -/
def sendBack (now : ℤ) (newId : String) : LoopEvent :=
  .mcp (sampleEnv now newId) "a-1" sendBackMsg

/-- The engineer's task is reported and sent back, until the third round is about to start. -/
def threeRounds : List LoopEvent :=
  [sampleCreate 1 "1" (some "a-2"), .registerWorker "a-2", .tick (sampleEnv 2 "t"), reportTask 3,
    sendBack 4 "m-1", reportTask 5, sendBack 6 "m-2", reportTask 7]

/-- **Not in every run**: after the third round the founder sends the task back at once, and it is
escalated. -/
theorem not_reviews_disciplined :
    ¬ ∀ (cfg : Config) (s : LoopState) (ls : List LoopEvent) (taskId : String),
      (loopSystem cfg).init s → Disciplined cfg s ls taskId := by
  intro h
  have hgranted : ∀ (s : LoopState) (now : ℤ) (newId : String),
      (∃ caller ∈ s.world.avatars.lookup "a-1", (handleTaskRequestChanges sampleConfig
        (sampleEnv now newId) s caller (McpCall.ofJson sendBackMsg).args).isOk = true) →
          (sendBack now newId).RequestsChanges sampleConfig s "T_1" := by
    rintro s now newId ⟨caller, hcaller, hok⟩
    cases hr : handleTaskRequestChanges sampleConfig (sampleEnv now newId) s caller
        (McpCall.ofJson sendBackMsg).args with
    | ok r => exact ⟨caller, r.1, r.2, hcaller, rfl, rfl, hr⟩
    | error e =>
        rw [hr] at hok
        exact absurd hok Bool.false_ne_true
  have hdisciplined := h sampleConfig sampleStartup.state
    (threeRounds ++ sendBack 8 "m-3" :: ([] ++ sendBack 9 "m-4" :: [])) "T_1"
    (sampleStartup.init sampleConfig)
  obtain ⟨earlier, d, later, hnil, -⟩ := hdisciplined.reported threeRounds (sendBack 8 "m-3") []
    (sendBack 9 "m-4") [] rfl (hgranted _ 8 "m-3" (by decide +kernel))
    (hgranted _ 9 "m-4" (by decide +kernel))
  exact absurd hnil (by simp)

end Cliptown.Task
