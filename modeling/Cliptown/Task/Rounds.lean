import Cliptown.Task.Recasts
import Cliptown.Task.Reviews
import Cliptown.Task.StatusChanges
import Mathlib.Data.List.DropRight

/-!
# Review rounds

A task counts the rounds of its review. A review that starts another round counts up while there is a round
left, and a recovery counts from the start again; nothing else touches the count.

* `LoopEvent.startsRound`, `recoveredIn` — the two requests, by what they answer and write.
* `roundsSinceRecovery` — how many rounds a run started since the task was created or recovered.
* `Board.Step.round_of`, `round_of_writes` — what the scheduler does to a count; `round_of_request` — what any
  other request does.
* `reviewRound_eq` — the count of a task is that number, and never passes the maximum.
-/

namespace Cliptown.Task

open Cliptown.Lib Cliptown.Town Cliptown.World

/-! ### What is counted -/

/-- A request for changes of the task that is granted, and does not escalate it. -/
def LoopEvent.startsRound (cfg : Config) (s : LoopState) (taskId : String) : LoopEvent → Bool
  | .mcp env agentId msg =>
      let call := McpCall.ofJson msg
      let reply := (dispatchMcp cfg env s agentId msg).1
      decide (call.tool = "task_request_changes" ∧ call.args.getStr "task_id" = some taskId ∧
        (reply.get "result").any fun v => v.getStr "new_status" ≠ some "escalated")
  | _ => false

/-- A write of the pass that recovers, which queues the task again. -/
def Write.recovers (taskId : String) (s : LoopState) (w : Write) : Bool :=
  decide (w.writer = .autoRecovery ∧ statusIn taskId s = some .changesRequested ∧
    statusIn taskId w.after = some .queued)

/-- One of the writes queues the task again. -/
def recoveredIn (taskId : String) : LoopState → List Write → Bool
  | _, [] => false
  | s, w :: ws => w.recovers taskId s || recoveredIn taskId w.after ws

/-- The requests of a run, each with the state in which it is made. -/
def runTrace (cfg : Config) : LoopState → List LoopEvent → List (LoopState × LoopEvent)
  | _, [] => []
  | s, l :: ls => (s, l) :: runTrace cfg (l.apply cfg s) ls

/-- How many rounds were started since the task was created or last recovered. -/
def roundsSinceRecovery (cfg : Config) (s : LoopState) (ls : List LoopEvent) (taskId : String) : ℕ :=
  ((runTrace cfg s ls).rtakeWhile fun e => !recoveredIn taskId e.1 (e.2.writes cfg e.1)).countP
    fun e => e.2.startsRound cfg e.1 taskId

theorem runTrace_concat (cfg : Config) (s : LoopState) (ls : List LoopEvent) (l : LoopEvent) :
    runTrace cfg s (ls ++ [l]) = runTrace cfg s ls ++ [(runEvents cfg s ls, l)] := by
  induction ls generalizing s with
  | nil => rfl
  | cons l' ls ih => exact congrArg _ (ih (l'.apply cfg s))

/-- One more request. -/
theorem roundsSinceRecovery_concat (cfg : Config) (s : LoopState) (ls : List LoopEvent) (l : LoopEvent)
    (taskId : String) : roundsSinceRecovery cfg s (ls ++ [l]) taskId =
      if recoveredIn taskId (runEvents cfg s ls) (l.writes cfg (runEvents cfg s ls)) then 0
      else roundsSinceRecovery cfg s ls taskId +
        if l.startsRound cfg (runEvents cfg s ls) taskId then 1 else 0 := by
  unfold roundsSinceRecovery
  rw [runTrace_concat, List.rtakeWhile_concat]
  by_cases hrecovered :
      recoveredIn taskId (runEvents cfg s ls) (l.writes cfg (runEvents cfg s ls)) = true
  · simp [hrecovered]
  · simp [hrecovered, List.countP_append, List.countP_singleton]

/-! ### The board -/

namespace Board

variable {τ α : Type*} [DecidableEq τ] [DecidableEq α] {b b' : Board τ α} {e : BoardEvent τ α} {u : τ}

/-- The events that create a task or start another round of its review. -/
def Counts : BoardEvent τ α → Prop
  | .create _ _ | .requestChanges _ => True
  | _ => False

/-- **Only a recovery** touches the count of a task that was there, of what else happens to it. -/
theorem Step.round_of {c' : Card τ α} (h : Step b e b') (he : ¬ Counts e) (hc' : b'.card u = some c') :
    ∃ c, b.card u = some c ∧
      ((∃ a, e = .recover u a) ∧ c.status = .changesRequested ∧ c'.status = .queued ∧
          c'.reviewRound = 0 ∨
        c'.reviewRound = c.reviewRound ∧ ∀ t a, e = .recover t a → c' = c) := by
  -- a card is placed that has the count of the one before it
  have hput : ∀ {t : τ} {c d : Card τ α}, b.card t = some c → (b.put t d).card u = some c' →
      d.reviewRound = c.reviewRound → ∃ c, b.card u = some c ∧ c'.reviewRound = c.reviewRound := by
    intro t c d hc hplaced hround
    rw [card_put] at hplaced
    split at hplaced
    · rename_i heq
      obtain rfl := Option.some.inj hplaced
      exact ⟨c, heq ▸ hc, hround⟩
    · exact ⟨c', hplaced, rfl⟩
  have hkept : (∀ t a, e ≠ .recover t a) →
      (∃ c, b.card u = some c ∧ c'.reviewRound = c.reviewRound) → ∃ c, b.card u = some c ∧
        ((∃ a, e = .recover u a) ∧ c.status = .changesRequested ∧ c'.status = .queued ∧
            c'.reviewRound = 0 ∨
          c'.reviewRound = c.reviewRound ∧ ∀ t a, e = .recover t a → c' = c) := by
    rintro hne ⟨c, hc, hround⟩
    exact ⟨c, hc, .inr ⟨hround, fun t a ht => absurd ht (hne t a)⟩⟩
  cases h with
  | create | requestChanges => exact absurd trivial he
  | @recover t c a hcard hstatus =>
      rw [card_put] at hc'
      split at hc'
      · rename_i hut
        subst hut
        obtain rfl := Option.some.inj hc'
        exact ⟨c, hcard, .inl ⟨⟨a, rfl⟩, hstatus, rfl, rfl⟩⟩
      · exact ⟨c', hc', .inr ⟨rfl, fun _ _ _ => rfl⟩⟩
  | possess | unpossess => exact hkept (by simp) ⟨c', hc', rfl⟩
  | dispatch hcard | rollback hcard | submit hcard | fail hcard =>
      rw [card_mark] at hc'
      exact hkept (by simp) (hput hcard hc' rfl)
  | accept hcard | reject hcard | approve hcard | escalate hcard | forceFail hcard | steal hcard
  | block hcard => exact hkept (by simp) (hput hcard hc' rfl)

end Board

section Counts

variable {cfg : Config} {s t : LoopState} {taskId : String}

/-! ### The scheduler -/

/-- What the scheduler makes creates no task and starts no round. -/
theorem not_counts_of_schedules {w : Writer} {e : BoardEvent String String} (h : w.Schedules e) :
    ¬ Board.Counts e := by
  cases e with
  | create | requestChanges => cases w <;> exact h.elim
  | _ => exact id

/-- The status of a row that is there. -/
theorem statusIn_of_lookup {row : TaskRow} (h : s.db.tasks.lookup taskId = some row) :
    statusIn taskId s = some row.status :=
  Option.map_eq_some_iff.mpr ⟨row, h, rfl⟩

/-- A write after which the task has the status it had recovers nothing. -/
theorem not_recovers_of_status {w : Write} (h : statusIn taskId w.after = statusIn taskId s) :
    w.recovers taskId s = false := by
  refine decide_eq_false ?_
  rw [h]
  rintro ⟨-, hbefore, hafter⟩
  exact absurd (hbefore.symm.trans hafter) (by decide)

/-- **A write of the scheduler** leaves the count alone, or recovers the task. -/
theorem BoardWrite.round {w : Write} {row' : TaskRow} (h : BoardWrite Writer.Schedules s w t)
    (hrow' : t.db.tasks.lookup taskId = some row') :
    ∃ row, s.db.tasks.lookup taskId = some row ∧
      row'.reviewRound = if w.recovers taskId s then 0 else row.reviewRound := by
  obtain ⟨rfl, hboard | ⟨e, hstep, hmakes⟩⟩ := h
  · have hcard : s.board.card taskId = some row'.card := by
      rw [← hboard]
      exact card_of_lookup hrow'
    obtain ⟨row, hrow, hsame⟩ := Db.card_eq_some_iff.mp hcard
    have hstatus : row'.status = row.status := congrArg Card.status hsame.symm
    refine ⟨row, hrow, ?_⟩
    rw [not_recovers_of_status]
    · exact congrArg Card.reviewRound hsame.symm
    · rw [statusIn_of_lookup hrow, statusIn_of_lookup hrow', hstatus]
  · obtain ⟨c, hc, hround⟩ := hstep.round_of (not_counts_of_schedules hmakes) (card_of_lookup hrow')
    obtain ⟨row, hrow, rfl⟩ := Db.card_eq_some_iff.mp hc
    refine ⟨row, hrow, ?_⟩
    rcases hround with ⟨⟨a, rfl⟩, hbefore, hafter, hzero⟩ | ⟨hsame, hother⟩
    · have hrecovers : w.recovers taskId s = true := by
        refine decide_eq_true ⟨Writer.Makes.autoRecovery (.inl hmakes), ?_, ?_⟩
        · rw [statusIn_of_lookup hrow]
          exact congrArg some hbefore
        · rw [statusIn_of_lookup hrow']
          exact congrArg some hafter
      rw [hrecovers]
      exact hzero
    · have hnot : w.recovers taskId s = false := by
        by_cases hwriter : w.writer = .autoRecovery
        · -- the pass recovers, but another task
          rw [hwriter] at hmakes
          cases e with
          | recover u a =>
              refine not_recovers_of_status ?_
              rw [statusIn_of_lookup hrow, statusIn_of_lookup hrow']
              exact congrArg (fun c => some (Card.status c)) (hother u a rfl)
          | _ => exact hmakes.elim
        · exact decide_eq_false fun h => hwriter h.1
      rw [hnot]
      exact hsame

/-- **Writes of the scheduler**, one after the other. -/
theorem round_of_writes {ws : List Write} (h : Run (BoardWrite Writer.Schedules) s ws t) :
    ∀ row', t.db.tasks.lookup taskId = some row' → ∃ row, s.db.tasks.lookup taskId = some row ∧
      row'.reviewRound = if recoveredIn taskId s ws then 0 else row.reviewRound := by
  induction h with
  | nil s => exact fun row' hrow' => ⟨row', hrow', rfl⟩
  | @cons s u t w ws hw _ ih =>
      intro row' hrow'
      obtain ⟨rowᵤ, hrowᵤ, hround⟩ := ih row' hrow'
      obtain ⟨row, hrow, hroundᵤ⟩ := hw.round hrowᵤ
      obtain rfl := hw.1
      refine ⟨row, hrow, ?_⟩
      rw [hround, hroundᵤ]
      rw [recoveredIn]
      cases w.recovers taskId s <;> cases recoveredIn taskId w.after ws <;> rfl

/-! ### Other requests -/

/-- Only the scheduler recovers. -/
theorem not_recoveredIn_of_request (l : LoopEvent) (h : ¬ l.Scheduler) :
    recoveredIn taskId s (l.writes cfg s) = false := by
  cases l with
  | tick | autoSteal | autoRecovery => exact absurd trivial h
  | _ => rfl

/-- The result in the answer to a request for changes. -/
theorem reply_requestChanges {env : Env} {agentId : String} {msg : Json} {caller : AvatarView}
    (hcaller : s.world.avatars.lookup agentId = some caller)
    (htool : (McpCall.ofJson msg).tool = "task_request_changes") :
    (dispatchMcp cfg env s agentId msg).1.get "result" =
      (handleTaskRequestChanges cfg env s caller (McpCall.ofJson msg).args).toOption.map Prod.fst := by
  have hcall : callTool cfg env s caller (McpCall.ofJson msg).args "task_request_changes" =
      settle s (handleTaskRequestChanges cfg env s caller (McpCall.ofJson msg).args) := rfl
  unfold dispatchMcp
  rw [hcaller]
  simp only [htool, hcall]
  cases handleTaskRequestChanges cfg env s caller (McpCall.ofJson msg).args with
  | error e => simp [settle, mcpErr, Json.get, Except.toOption]
  | ok r => simp [settle, Json.get, Except.toOption]

/-- A call whose answer starts a round was granted. -/
theorem startsRound_iff {env : Env} {agentId : String} {msg : Json} :
    LoopEvent.startsRound cfg s taskId (.mcp env agentId msg) = true ↔
      ∃ caller v s', s.world.avatars.lookup agentId = some caller ∧
        (McpCall.ofJson msg).tool = "task_request_changes" ∧
        (McpCall.ofJson msg).args.getStr "task_id" = some taskId ∧
        handleTaskRequestChanges cfg env s caller (McpCall.ofJson msg).args = .ok (v, s') ∧
        v.getStr "new_status" ≠ some "escalated" := by
  unfold LoopEvent.startsRound
  simp only [decide_eq_true_eq, Option.any_eq_true]
  constructor
  · rintro ⟨htool, hid, hreply⟩
    cases hcaller : s.world.avatars.lookup agentId with
    | none =>
        unfold dispatchMcp at hreply
        rw [hcaller] at hreply
        exact absurd hreply (by simp [mcpErr, Json.get])
    | some caller =>
        rw [reply_requestChanges hcaller htool] at hreply
        obtain ⟨v, hv, hstatus⟩ := hreply
        obtain ⟨r, hr, rfl⟩ := Option.map_eq_some_iff.mp hv
        cases hok : handleTaskRequestChanges cfg env s caller (McpCall.ofJson msg).args with
        | error e =>
            rw [hok] at hr
            exact absurd hr (by simp [Except.toOption])
        | ok r' =>
            rw [hok] at hr
            obtain rfl := Option.some.inj hr
            exact ⟨caller, r'.1, r'.2, rfl, htool, hid, hok, hstatus⟩
  · rintro ⟨caller, v, s', hcaller, htool, hid, hok, hstatus⟩
    refine ⟨htool, hid, ?_⟩
    rw [reply_requestChanges hcaller htool, hok]
    exact ⟨v, rfl, hstatus⟩

/-- **A call that starts a round** finds one left, and counts up. -/
theorem face_of_startsRound {l : LoopEvent} (h : l.startsRound cfg s taskId = true) :
    ∃ row, s.db.tasks.lookup taskId = some row ∧ row.reviewRound < maxReviewRounds ∧
      (l.apply cfg s).face = Function.update s.face taskId
        (some { row.face with reviewRound := row.reviewRound + 1 }) := by
  cases l with
  | mcp env agentId msg =>
      obtain ⟨caller, v, s', hcaller, htool, hid, hok, hstatus⟩ := startsRound_iff.mp h
      rw [apply_requestChanges hcaller htool hok]
      obtain ⟨id, row, hid', hrow, ⟨hescalated, -⟩ | ⟨-, hround, hface⟩⟩ :=
        handleTaskRequestChanges_face hok
      · exact absurd hescalated hstatus
      · obtain rfl := Option.some.inj (hid.symm.trans hid')
        exact ⟨row, hrow, hround, hface⟩
  | _ => exact absurd h Bool.false_ne_true

variable (cfg s) in
/-- **Any other request** leaves the count alone, or creates the task. -/
theorem round_of_request (l : LoopEvent) (hl : ¬ l.Scheduler)
    (h : l.startsRound cfg s taskId = false) {c' : Face} (hc' : (l.apply cfg s).face taskId = some c') :
    (∃ c, s.face taskId = some c ∧ c'.reviewRound = c.reviewRound) ∨
      s.face taskId = none ∧ c'.reviewRound = 0 := by
  -- the columns of one task are replaced, and its count stays
  have hupdate : ∀ {id : String} {row : TaskRow} {c : Face}, s.db.tasks.lookup id = some row →
      Function.update s.face id (some c) taskId = some c' → c.reviewRound = row.reviewRound →
        ∃ c, s.face taskId = some c ∧ c'.reviewRound = c.reviewRound := by
    intro id row c hrow hc' hround
    rw [Function.update_apply] at hc'
    split at hc'
    · rename_i heq
      obtain rfl := Option.some.inj hc'
      exact ⟨row.face, heq ▸ face_of_lookup hrow, hround⟩
    · exact ⟨c', hc', rfl⟩
  have hnew : ∀ {id : String} {p a : Option String}, s.face id = none →
      Function.update s.face id (some (.new p a)) taskId = some c' →
        (∃ c, s.face taskId = some c ∧ c'.reviewRound = c.reviewRound) ∨
          s.face taskId = none ∧ c'.reviewRound = 0 := by
    intro id p a hnone hc'
    rw [Function.update_apply] at hc'
    split at hc'
    · rename_i heq
      obtain rfl := Option.some.inj hc'
      exact .inr ⟨heq ▸ hnone, rfl⟩
    · exact .inl ⟨c', hc', rfl⟩
  have hrecast := request_face cfg s l hl
  generalize (l.apply cfg s).face = face at hrecast hc'
  cases hrecast with
  | same => exact .inl ⟨c', hc', rfl⟩
  | accept hrow _ => exact .inl (hupdate hrow hc' rfl)
  | create hnone _ _ => exact hnew hnone hc'
  | @tool env agentId msg caller _ hcaller hturns =>
      generalize htool : (McpCall.ofJson msg).tool = tool at hturns
      cases hturns with
      | same => exact .inl ⟨c', hc', rfl⟩
      | subtask _ _ hnone _ => exact hnew hnone hc'
      | accept _ _ hrow _ => exact .inl (hupdate hrow hc' rfl)
      | steal _ hrow _ => exact .inl (hupdate hrow hc' rfl)
      | @nextRound id row s' hid hrow hround hok =>
          -- the call starts a round of another task
          have hne : taskId ≠ id := by
            rintro rfl
            have hstatus : (statusReply taskId .changesRequested).getStr "new_status" ≠ some "escalated" :=
              fun heq => absurd (show some "changes_requested" = some "escalated" from heq) (by decide)
            have hstarts := startsRound_iff.mpr ⟨caller, _, s', hcaller, htool, hid, hok, hstatus⟩
            exact absurd (hstarts.symm.trans h) (by simp)
          rw [Function.update_of_ne hne] at hc'
          exact .inl ⟨c', hc', rfl⟩

variable (cfg) in
/-- A task that is there stays there. -/
theorem lookup_apply_isSome (l : LoopEvent) (h : (s.db.tasks.lookup taskId).isSome) :
    ((l.apply cfg s).db.tasks.lookup taskId).isSome := by
  refine (status_changes cfg s l).preserves
    (I := fun s => (s.db.tasks.lookup taskId).isSome) (fun s w t hs hstep => ?_) h
  obtain ⟨row, hrow⟩ := Option.isSome_iff_exists.mp hs
  obtain ⟨row', hrow', -⟩ := hstep.2 taskId row hrow
  simp [hrow']

/-! ### Runs -/

/-- The count of a task that is there is that of a run; for a task that is not there, nothing was counted. -/
def Counted (n : ℕ) (taskId : String) (s : LoopState) : Prop :=
  match s.db.tasks.lookup taskId with
  | some row => row.reviewRound ≤ maxReviewRounds ∧ row.reviewRound = n
  | none => n = 0

theorem counted_iff {n : ℕ} : Counted n taskId s ↔
    (s.db.tasks.lookup taskId = none → n = 0) ∧
      ∀ row, s.db.tasks.lookup taskId = some row →
        row.reviewRound ≤ maxReviewRounds ∧ row.reviewRound = n := by
  unfold Counted
  cases s.db.tasks.lookup taskId <;> simp

variable (cfg) in
/-- **One request** keeps the count. -/
theorem Counted.apply {n : ℕ} (h : Counted n taskId s) (l : LoopEvent) :
    Counted (if recoveredIn taskId s (l.writes cfg s) then 0
      else n + if l.startsRound cfg s taskId then 1 else 0) taskId (l.apply cfg s) := by
  obtain ⟨hnone, hsome⟩ := counted_iff.mp h
  refine counted_iff.mpr ⟨fun hnone' => ?_, fun row' hrow' => ?_⟩
  · have hgone : s.db.tasks.lookup taskId = none := by
      by_contra hne
      have hsome := lookup_apply_isSome cfg l (Option.isSome_iff_ne_none.mpr hne)
      rw [hnone'] at hsome
      exact absurd hsome (by simp)
    have hstarts : l.startsRound cfg s taskId = false := by
      by_contra hne
      obtain ⟨row, hrow, -⟩ := face_of_startsRound (Bool.eq_true_of_not_eq_false hne)
      exact absurd (hgone.symm.trans hrow) (by simp)
    simp [hstarts, hnone hgone]
  · by_cases hl : l.Scheduler
    · obtain ⟨row, hrow, hround⟩ := round_of_writes (scheduler_writes cfg s l hl) row' hrow'
      obtain ⟨hmax, heq⟩ := hsome row hrow
      have hstarts : l.startsRound cfg s taskId = false := by
        cases l with
        | tick | autoSteal | autoRecovery => rfl
        | _ => exact hl.elim
      rw [hround, hstarts]
      split
      · exact ⟨Nat.zero_le _, rfl⟩
      · exact ⟨hmax, heq⟩
    · rw [not_recoveredIn_of_request l hl]
      cases hstarts : l.startsRound cfg s taskId with
      | true =>
          obtain ⟨row, hrow, hround, hface⟩ := face_of_startsRound hstarts
          have hface' := face_of_lookup hrow'
          rw [hface, Function.update_self] at hface'
          have hcount : row'.reviewRound = row.reviewRound + 1 :=
            congrArg Face.reviewRound (Option.some.inj hface'.symm)
          obtain ⟨-, heq⟩ := hsome row hrow
          simp only [Bool.false_eq_true, if_false, if_true]
          omega
      | false =>
          simp only [Bool.false_eq_true, if_false, Nat.add_zero]
          rcases round_of_request cfg s l hl hstarts (face_of_lookup hrow') with
            ⟨c, hc, hcount⟩ | ⟨hnone', hcount⟩
          · obtain ⟨row, hrow, rfl⟩ := face_eq_some_iff.mp hc
            have hcount' : row'.reviewRound = row.reviewRound := hcount
            rw [hcount']
            exact hsome row hrow
          · have hcount' : row'.reviewRound = 0 := hcount
            rw [hcount', hnone (Option.map_eq_none_iff.mp hnone')]
            exact ⟨Nat.zero_le _, rfl⟩

end Counts

/-- **The count of a task** never passes the maximum, and is the number of rounds that were started since the
task was created or last recovered. -/
theorem reviewRound_eq (cfg : Config) (s : LoopState) (ls : List LoopEvent)
    (hinit : (loopSystem cfg).init s) (taskId : String) (row : TaskRow)
    (hrow : (runEvents cfg s ls).db.tasks.lookup taskId = some row) :
    row.reviewRound ≤ maxReviewRounds ∧
      row.reviewRound = roundsSinceRecovery cfg s ls taskId := by
  have hcounted : Counted (roundsSinceRecovery cfg s ls taskId) taskId (runEvents cfg s ls) := by
    clear hrow
    induction ls using List.reverseRecOn with
    | nil =>
        refine counted_iff.mpr ⟨fun _ => rfl, fun row hrow => ?_⟩
        have hempty : s.db.tasks.lookup taskId = some row := hrow
        rw [hinit.1] at hempty
        exact absurd hempty (by simp)
    | append_singleton ls l ih =>
        rw [roundsSinceRecovery_concat, runEvents_append]
        exact ih.apply cfg l
  exact (counted_iff.mp hcounted).2 row hrow

/-- The engineer's task was sent back twice. -/
theorem reviewRound_eq_threeRounds :
    ∃ row ∈ (runEvents sampleConfig sampleStartup.state threeRounds).db.tasks.lookup "T_1",
      row.reviewRound = 2 ∧ row.reviewRound ≤ maxReviewRounds ∧
        row.reviewRound = roundsSinceRecovery sampleConfig sampleStartup.state threeRounds "T_1" := by
  have hthere : ((runEvents sampleConfig sampleStartup.state threeRounds).db.tasks.lookup "T_1").isSome := by
    decide +kernel
  have htwo : ((runEvents sampleConfig sampleStartup.state threeRounds).db.tasks.lookup "T_1").all
      fun row => row.reviewRound = 2 := by decide +kernel
  obtain ⟨row, hrow⟩ := Option.isSome_iff_exists.mp hthere
  rw [hrow, Option.all_some, decide_eq_true_eq] at htwo
  exact ⟨row, hrow, htwo, reviewRound_eq sampleConfig _ _ (sampleStartup.init sampleConfig) "T_1" row hrow⟩

end Cliptown.Task
