import Cliptown.Task.Overflows

/-!
# Notices are sent once

* `LoopEvent.Edits` — the deadline or the blocker of a task is set, or the task is created with what it has.
* `LoopEvent.Due` — a tick that finds a deadline in the past and the task not over.
* `TaskRow.StampFits` — a stamp is later than the deadline that was announced; it is so in every state.
* `request_overdue`, `run_overdue` — what a request, and a run without edits, announce.
* `request_unblocked`, `run_unblocked` — the same for blockers.
* `notices_once` — both, in either build, as long as no tick overflows.
-/

namespace Cliptown.Task

open Cliptown.Lib Cliptown.Town Cliptown.World Cliptown.Console

/-- A call sets the column of the task, or the task is created. -/
def LoopEvent.Edits (cfg : Config) (s : LoopState) (id key : String) (l : LoopEvent) : Prop :=
  l.Sets cfg s id key ∨ s.db.tasks.lookup id = none ∧ ((l.apply cfg s).db.tasks.lookup id).isSome

/-- A tick that finds the deadline of the task in the past, and the task not over. -/
def LoopEvent.Due (s : LoopState) (id : String) : LoopEvent → Prop
  | .tick env => ∃ t ∈ s.db.tasks.lookup id, ¬ t.status.Terminal ∧ ∃ d ∈ t.deadlineAt, d < env.now
  | _ => False

/-- A tick that finds the blocker of the task over. -/
def LoopEvent.Frees (s : LoopState) (id : String) : LoopEvent → Prop
  | .tick _ => ∃ t ∈ s.db.tasks.lookup id, ∃ b ∈ t.blockedOn, ∃ blocker ∈ s.db.tasks.lookup b,
      blocker.status.Terminal
  | _ => False

instance (s : LoopState) (id : String) (l : LoopEvent) : Decidable (l.Due s id) :=
  match l with
  | .tick _ => inferInstanceAs (Decidable (∃ _ ∈ _, _ ∧ ∃ _ ∈ _, _))
  | .autoSteal _ | .autoRecovery _ | .mcp .. | .console .. | .createTask .. | .registerWorker _
  | .unregisterWorker _ => inferInstanceAs (Decidable False)

/-- No request of a run edits the column of the task. -/
def Unedited (cfg : Config) (s : LoopState) (ls : List LoopEvent) (id key : String) : Prop :=
  ∀ x ∈ runTrace cfg s ls, ¬ x.2.Edits cfg x.1 id key

/-- Some request of a run is a tick that finds the deadline of the task in the past, and the task not over. -/
def FallsDue (cfg : Config) (s : LoopState) (ls : List LoopEvent) (id : String) : Prop :=
  ∃ x ∈ runTrace cfg s ls, x.2.Due x.1 id

instance (cfg : Config) (s : LoopState) (ls : List LoopEvent) (id : String) : Decidable (FallsDue cfg s ls id) :=
  inferInstanceAs (Decidable (∃ _ ∈ _, _))

/-- A stamp is later than the deadline of the row. -/
def TaskRow.StampFits (t : TaskRow) : Prop :=
  ∀ n ∈ t.deadlineNotifiedAt, ∃ d ∈ t.deadlineAt, d < n

/-- How many notices about the blocker of a task are to come. -/
def waiting (id : String) (s : LoopState) : ℕ :=
  if ((s.db.tasks.lookup id).bind TaskRow.blockedOn).isSome then 1 else 0

section Requests

variable {cfg : Config} {s : LoopState} {id : String} {t : TaskRow}

/-! ### Deadlines -/

theorem TaskRow.StampFits.of_none (h : t.deadlineNotifiedAt = none) : t.StampFits := by
  intro n hn
  rw [h] at hn
  exact absurd hn (by simp)

/-- **What is announced** are deadlines that have passed, of tasks that are not over, unless there is a stamp. -/
theorem isSome_overdue_iff (hfit : t.StampFits) (now : ℤ) : (overdue now t).isSome ↔
    (¬ t.status.Terminal ∧ ∃ d ∈ t.deadlineAt, d < now) ∧ t.deadlineNotifiedAt = none := by
  unfold overdue
  constructor
  · intro h
    obtain ⟨d, hd⟩ := Option.isSome_iff_exists.mp h
    obtain ⟨hdeadline, hpast⟩ := Option.filter_eq_some_iff.mp hd
    obtain ⟨hlt, hopen, hstamp⟩ := of_decide_eq_true hpast
    refine ⟨⟨hopen, d, hdeadline, hlt⟩, ?_⟩
    rcases hnotified : t.deadlineNotifiedAt with _ | n
    · rfl
    · obtain ⟨d', hd', hlater⟩ := hfit n hnotified
      obtain rfl := Option.some.inj (hd'.symm.trans hdeadline)
      rw [hnotified] at hstamp
      have hearlier : n < d' := by simpa using hstamp
      omega
  · rintro ⟨⟨hopen, d, hdeadline, hlt⟩, hnone⟩
    refine Option.isSome_iff_exists.mpr ⟨d, Option.filter_eq_some_iff.mpr ⟨hdeadline, ?_⟩⟩
    exact decide_eq_true ⟨hlt, hopen, by rw [hnone]; rfl⟩

/-- A request other than a tick that does not edit the deadline keeps it and its stamp, and sends no notice. -/
theorem request_deadline (ht : s.db.tasks.lookup id = some t) (l : LoopEvent) (hl : ∀ env, l ≠ .tick env)
    (hedit : ¬ l.Edits cfg s id "deadline_at") :
    ∃ t', (l.apply cfg s).db.tasks.lookup id = some t' ∧ t'.deadlineAt = t.deadlineAt ∧
      t'.deadlineNotifiedAt = t.deadlineNotifiedAt ∧
        noticeCount "task_overdue" id (l.apply cfg s) = noticeCount "task_overdue" id s := by
  rcases request_notices cfg s id l hl with h | ⟨hcount, -, t₀, t', ht₀, ht', hcases, -⟩
  · obtain ⟨t', ht', hsame⟩ := h.row ht
    obtain ⟨hdeadline, hstamp⟩ := Prod.mk.inj (Prod.mk.inj hsame).2
    exact ⟨t', ht', hdeadline, hstamp, h.overdue⟩
  · obtain rfl := Option.some.inj (ht.symm.trans ht₀)
    rcases hcases with ⟨hdeadline, hstamp⟩ | ⟨hsets, -⟩
    · exact ⟨t', ht', hdeadline, hstamp, hcount⟩
    · exact absurd (.inl hsets) hedit

/-- **One request**: where the deadline is not edited, a notice is sent exactly if the tick finds it in the past and
there is no stamp, and then there is one. -/
theorem request_overdue (ht : s.db.tasks.lookup id = some t) (hfit : t.StampFits) (l : LoopEvent)
    (hedit : ¬ l.Edits cfg s id "deadline_at") :
    ∃ t', (l.apply cfg s).db.tasks.lookup id = some t' ∧ t'.StampFits ∧
      (t'.deadlineNotifiedAt.isSome ↔ t.deadlineNotifiedAt.isSome ∨ l.Due s id) ∧
      noticeCount "task_overdue" id (l.apply cfg s) = noticeCount "task_overdue" id s +
        if l.Due s id ∧ t.deadlineNotifiedAt = none then 1 else 0 := by
  have hfits : ∀ {t' : TaskRow}, t'.deadlineAt = t.deadlineAt → t'.deadlineNotifiedAt = t.deadlineNotifiedAt →
      t'.StampFits := by
    intro t' hdeadline hstamp
    unfold TaskRow.StampFits
    rw [hdeadline, hstamp]
    exact hfit
  by_cases hl : ∀ env, l ≠ .tick env
  · have hdue : ¬ l.Due s id := by
      cases l with
      | tick env => exact absurd rfl (hl env)
      | _ => exact fun h => h
    obtain ⟨t', ht', hdeadline, hstamp, hcount⟩ := request_deadline ht l hl hedit
    refine ⟨t', ht', hfits hdeadline hstamp, ?_, ?_⟩
    · rw [hstamp]
      exact ⟨.inl, fun h => h.resolve_right hdue⟩
    · rw [hcount, if_neg fun h => hdue h.1, Nat.add_zero]
  · push Not at hl
    obtain ⟨env, rfl⟩ := hl
    have hdue : (LoopEvent.tick env).Due s id ↔ ¬ t.status.Terminal ∧ ∃ d ∈ t.deadlineAt, d < env.now := by
      unfold LoopEvent.Due
      rw [ht]
      simp
    have hsome := isSome_overdue_iff hfit env.now
    rw [← hdue] at hsome
    obtain ⟨t', ht', hdeadline, -, hcases⟩ := tick_notices cfg env ht
    refine ⟨t', ht', ?_⟩
    rcases hcases with ⟨hcount, hstamp, hnone⟩ | ⟨hcount, hstamp, hover⟩
    · have hquiet : ¬ ((LoopEvent.tick env).Due s id ∧ t.deadlineNotifiedAt = none) := by
        rw [← hsome, hnone]
        simp
      refine ⟨hfits hdeadline hstamp, ?_, hcount.trans (by rw [if_neg hquiet, Nat.add_zero])⟩
      rw [hstamp]
      refine ⟨.inl, fun h => ?_⟩
      rcases h with h | h
      · exact h
      · exact Option.isSome_iff_ne_none.mpr fun hnone => hquiet ⟨h, hnone⟩
    · obtain ⟨hdue', hnone⟩ := hsome.mp hover
      obtain ⟨-, d, hd, hlt⟩ := hdue.mp hdue'
      refine ⟨?_, ?_, hcount.trans (by rw [if_pos ⟨hdue', hnone⟩])⟩
      · intro n hn
        rw [hstamp] at hn
        obtain rfl := Option.some.inj hn
        exact ⟨d, hdeadline.trans hd, hlt⟩
      · rw [hstamp]
        exact iff_of_true rfl (.inr hdue')

/-! ### Edits -/

variable (cfg) in
/-- A request does not touch a task that is not there. -/
theorem untouched_of_none (hnone : s.db.tasks.lookup id = none) (l : LoopEvent) :
    Untouched id s (l.apply cfg s) := by
  by_cases hl : ∀ env, l ≠ .tick env
  · rcases request_notices cfg s id l hl with h | ⟨-, -, t, -, ht, -⟩
    · exact h
    · exact absurd (hnone.symm.trans ht) (by simp)
  · push Not at hl
    obtain ⟨env, rfl⟩ := hl
    exact untouched_loopTick hnone

/-- **A deadline that is edited** has not been announced. -/
theorem unstamped_of_edits {l : LoopEvent} (hedit : l.Edits cfg s id "deadline_at") :
    ∃ t', (l.apply cfg s).db.tasks.lookup id = some t' ∧ t'.deadlineNotifiedAt = none := by
  rcases hedit with hsets | ⟨hnone, hsome⟩
  · cases l with
    | mcp env agentId msg =>
        obtain ⟨htool, hid, hkey, caller, hcaller, ⟨v, s'⟩, hok⟩ := hsets
        have hstate : (dispatchMcp cfg env s agentId msg).2 = s' := by
          rw [state_dispatchMcp msg hcaller, htool]
          change (settle s (handleTaskSetBlocking cfg env s caller (McpCall.ofJson msg).args)).2 = s'
          rw [hok]
          rfl
        obtain ⟨taskId, t, -, -, -, hown, -⟩ := handleTaskSetBlocking_eq_ok hok
        obtain rfl := Option.some.inj (hid.symm.trans hown.hasId)
        obtain ⟨t', ht', hnotices⟩ := notices_taskSetBlocking hok hid hown.row
        rw [← isSome_change "deadline_at" Json.asI64] at hkey
        rw [if_pos hkey] at hnotices
        exact ⟨t', by rw [LoopEvent.apply, hstate]; exact ht', (Prod.mk.inj (Prod.mk.inj hnotices).2).2⟩
    | _ => exact hsets.elim
  · obtain ⟨t', ht'⟩ := Option.isSome_iff_exists.mp hsome
    exact ⟨t', ht', (untouched_of_none cfg hnone l).notices.new id t' rfl hnone ht'⟩

/-- **Every stamp fits**, after any request. -/
theorem stampFits_apply (hall : ∀ id t, s.db.tasks.lookup id = some t → t.StampFits) (l : LoopEvent) :
    ∀ id t', (l.apply cfg s).db.tasks.lookup id = some t' → t'.StampFits := by
  intro id t' ht'
  by_cases hedit : l.Edits cfg s id "deadline_at"
  · obtain ⟨t₁, ht₁, hnone⟩ := unstamped_of_edits hedit
    obtain rfl := Option.some.inj (ht₁.symm.trans ht')
    exact .of_none hnone
  · rcases ht : s.db.tasks.lookup id with _ | t
    · exact absurd (.inr ⟨ht, by rw [ht']; rfl⟩) hedit
    · obtain ⟨t₁, ht₁, hfit, -⟩ := request_overdue ht (hall id t ht) l hedit
      obtain rfl := Option.some.inj (ht₁.symm.trans ht')
      exact hfit

theorem stampFits_of_reachable (hs : (loopSystem cfg).Reachable s) :
    ∀ id t, s.db.tasks.lookup id = some t → t.StampFits := by
  refine hs.invariant (I := fun s => ∀ id t, s.db.tasks.lookup id = some t → t.StampFits) ?_ ?_
  · intro s hinit id t ht
    rw [hinit.1] at ht
    exact absurd ht (by simp)
  · rintro s l _ hall rfl
    exact stampFits_apply hall l

/-- **Who announces a deadline**: a tick that finds it in the past, and the task not over. -/
theorem due_of_overdue (hall : ∀ id t, s.db.tasks.lookup id = some t → t.StampFits) {l : LoopEvent}
    (h : noticeCount "task_overdue" id (l.apply cfg s) ≠ noticeCount "task_overdue" id s) : l.Due s id := by
  rcases ht : s.db.tasks.lookup id with _ | t
  · exact absurd (untouched_of_none cfg ht l).overdue h
  · by_cases hedit : l.Edits cfg s id "deadline_at"
    · rcases hedit with hsets | ⟨hnone, -⟩
      · have hl : ∀ env, l ≠ .tick env := by
          rintro env rfl
          exact hsets
        rcases request_notices cfg s id l hl with hkept | ⟨hcount, -⟩
        · exact absurd hkept.overdue h
        · exact absurd hcount h
      · exact absurd (hnone.symm.trans ht) (by simp)
    · obtain ⟨t', -, -, -, hcount⟩ := request_overdue ht (hall id t ht) l hedit
      by_contra hdue
      rw [if_neg fun hboth => hdue hboth.1] at hcount
      exact h hcount

/-! ### Blockers -/

/-- The row decides how many notices are to come. -/
theorem waiting_eq (ht : s.db.tasks.lookup id = some t) : waiting id s = if t.blockedOn.isSome then 1 else 0 := by
  unfold waiting
  rw [ht]
  rfl

/-- **One request**: where the blocker is not edited, a notice is sent exactly if it is forgotten. -/
theorem request_unblocked (l : LoopEvent) (hedit : ¬ l.Edits cfg s id "blocked_on") :
    noticeCount "task_unblocked" id (l.apply cfg s) + waiting id (l.apply cfg s) =
      noticeCount "task_unblocked" id s + waiting id s := by
  rcases ht : s.db.tasks.lookup id with _ | t
  · rcases ht' : (l.apply cfg s).db.tasks.lookup id with _ | t'
    · rw [(untouched_of_none cfg ht l).unblocked]
      unfold waiting
      rw [ht, ht']
    · exact absurd (.inr ⟨ht, by rw [ht']; rfl⟩) hedit
  · have hkept : ∀ {t'}, (l.apply cfg s).db.tasks.lookup id = some t' → t'.blockedOn = t.blockedOn →
        waiting id (l.apply cfg s) = waiting id s := by
      intro t' ht' hsame
      rw [waiting_eq ht', waiting_eq ht, hsame]
    by_cases hl : ∀ env, l ≠ .tick env
    · rcases request_notices cfg s id l hl with h | ⟨-, hcount, t₀, t', ht₀, ht', -, hcases⟩
      · obtain ⟨t', ht', hsame⟩ := h.row ht
        rw [h.unblocked, hkept ht' (Prod.mk.inj hsame).1]
      · obtain rfl := Option.some.inj (ht.symm.trans ht₀)
        rw [hcount, hkept ht' (hcases.resolve_right fun hsets => hedit (.inl hsets))]
    · push Not at hl
      obtain ⟨env, rfl⟩ := hl
      obtain ⟨t', ht', -, ⟨hcount, hsame⟩ | ⟨hcount, hgone, b, hb, -⟩, -⟩ :=
        tick_notices cfg env ht
      · exact congrArg₂ (· + ·) hcount (hkept ht' hsame)
      · rw [waiting_eq ht, hb]
        change noticeCount "task_unblocked" id (loopTick cfg env s) + waiting id (loopTick cfg env s) = _
        rw [waiting_eq ht', hgone, hcount]
        rfl

/-- **Who says that a task waits no longer**: a tick that finds the blocker over. -/
theorem frees_of_unblocked {l : LoopEvent}
    (h : noticeCount "task_unblocked" id (l.apply cfg s) ≠ noticeCount "task_unblocked" id s) : l.Frees s id := by
  rcases ht : s.db.tasks.lookup id with _ | t
  · exact absurd (untouched_of_none cfg ht l).unblocked h
  · by_cases hl : ∀ env, l ≠ .tick env
    · rcases request_notices cfg s id l hl with hkept | ⟨-, hcount, -⟩
      · exact absurd hkept.unblocked h
      · exact absurd hcount h
    · push Not at hl
      obtain ⟨env, rfl⟩ := hl
      obtain ⟨t', -, -, ⟨hcount, -⟩ | ⟨-, -, b, hb, hover⟩, -⟩ := tick_notices cfg env ht
      · exact absurd hcount h
      · obtain ⟨blocker, hblocker⟩ := Option.isSome_iff_exists.mp ((s.db.taskRefs id t ht).blocker b hb)
        exact ⟨t, ht, b, hb, blocker, hblocker, terminal_of_blockerOver hover hblocker⟩

end Requests

section Runs

variable {cfg : Config} {s : LoopState} {id : String} {t : TaskRow}

/-! ### Runs -/

/-- **A run without edits of the deadline**: a notice is sent exactly if some tick finds it in the past, the task not
over, and there was no stamp. -/
theorem run_overdue (ls : List LoopEvent) : ∀ {s : LoopState} {t : TaskRow}, s.db.tasks.lookup id = some t →
    t.StampFits → Unedited cfg s ls id "deadline_at" →
      noticeCount "task_overdue" id (runEvents cfg s ls) = noticeCount "task_overdue" id s +
        if FallsDue cfg s ls id ∧ t.deadlineNotifiedAt = none then 1 else 0 := by
  induction ls with
  | nil =>
      intro s t _ _ _
      have hnone : ¬ FallsDue cfg s [] id := by
        rintro ⟨x, hx, -⟩
        exact absurd hx List.not_mem_nil
      rw [if_neg fun h => hnone h.1]
      rfl
  | cons l ls ih =>
      intro s t ht hfit hedit
      have hfirst := hedit (s, l) List.mem_cons_self
      obtain ⟨t', ht', hfit', hstamp, hcount⟩ := request_overdue ht hfit l hfirst
      have hrest := ih ht' hfit' fun x hx => hedit x (List.mem_cons_of_mem _ hx)
      have hdue : FallsDue cfg s (l :: ls) id ↔ l.Due s id ∨ FallsDue cfg (l.apply cfg s) ls id := by
        change (∃ x ∈ (s, l) :: runTrace cfg (l.apply cfg s) ls, x.2.Due x.1 id) ↔ _
        exact List.exists_mem_cons_iff ..
      have hnone' : t'.deadlineNotifiedAt = none ↔ t.deadlineNotifiedAt = none ∧ ¬ l.Due s id := by
        rw [← Option.not_isSome_iff_eq_none, ← Option.not_isSome_iff_eq_none, hstamp, not_or]
      change noticeCount "task_overdue" id (runEvents cfg (l.apply cfg s) ls) = _
      rw [hrest, hcount, Nat.add_assoc]
      congr 1
      by_cases hnone : t.deadlineNotifiedAt = none
      · by_cases hl : l.Due s id
        · simp [hdue, hnone', hnone, hl]
        · simp [hdue, hnone', hnone, hl]
      · simp [hnone', hnone]

/-- **A run without edits of the blocker**: at most one notice is sent, and none if the task does not wait. -/
theorem run_unblocked (ls : List LoopEvent) : ∀ {s : LoopState}, Unedited cfg s ls id "blocked_on" →
    noticeCount "task_unblocked" id (runEvents cfg s ls) + waiting id (runEvents cfg s ls) =
      noticeCount "task_unblocked" id s + waiting id s := by
  induction ls with
  | nil => exact fun _ => rfl
  | cons l ls ih =>
      intro s hedit
      have hfirst := hedit (s, l) List.mem_cons_self
      exact (ih fun x hx => hedit x (List.mem_cons_of_mem _ hx)).trans (request_unblocked l hfirst)

/-- **Notices are sent once**, in a build with or without overflow checks, as long as no tick overflows. After its
deadline is edited, and until it is edited again, a task is announced once if some tick finds the deadline in the past
and the task not over, and not at all otherwise; no other request announces it. While its blocker is not edited, it is
said at most once that the task waits no longer, if it waits at all, and only a tick says so that finds the blocker
over. -/
theorem notices_once (checks : Bool) (hs : (loopSystem cfg).Reachable s) (id : String) :
    (∀ l : LoopEvent, l.Edits cfg s id "deadline_at" → ∀ ls, Unedited cfg (l.apply cfg s) ls id "deadline_at" →
      Fits checks cfg (l.apply cfg s) ls →
        noticeCount "task_overdue" id (loopRun checks cfg (l.apply cfg s) ls).state =
          noticeCount "task_overdue" id (l.apply cfg s) + if FallsDue cfg (l.apply cfg s) ls id then 1 else 0) ∧
      (∀ l : LoopEvent, Fits checks cfg s [l] →
        noticeCount "task_overdue" id (loopRun checks cfg s [l]).state ≠ noticeCount "task_overdue" id s →
          l.Due s id) ∧
      (∀ ls, Unedited cfg s ls id "blocked_on" → Fits checks cfg s ls →
        noticeCount "task_unblocked" id (loopRun checks cfg s ls).state ≤
          noticeCount "task_unblocked" id s + waiting id s) ∧
      ∀ l : LoopEvent, Fits checks cfg s [l] →
        noticeCount "task_unblocked" id (loopRun checks cfg s [l]).state ≠ noticeCount "task_unblocked" id s →
          l.Frees s id := by
  have hfits := stampFits_of_reachable hs
  refine ⟨fun l hedit ls hunedited hrun => ?_, fun l hrun => ?_, fun ls hunedited hrun => ?_, fun l hrun => ?_⟩
  · obtain ⟨t, ht, hnone⟩ := unstamped_of_edits hedit
    rw [loopRun_eq ls hrun, run_overdue ls ht (.of_none hnone) hunedited]
    simp only [hnone, and_true]
  · rw [loopRun_eq [l] hrun]
    exact due_of_overdue hfits
  · have hcount := run_unblocked ls hunedited
    rw [loopRun_eq ls hrun]
    change noticeCount "task_unblocked" id (runEvents cfg s ls) ≤ _
    omega
  · rw [loopRun_eq [l] hrun]
    exact frees_of_unblocked

end Runs

/-- Ticks edit nothing of a task that is there. -/
theorem unedited_ticks {cfg : Config} {id : String} (key : String) (envs : List Env) : ∀ {s : LoopState},
    (s.db.tasks.lookup id).isSome → Unedited cfg s (envs.map .tick) id key := by
  induction envs with
  | nil => exact fun _ x hx => absurd hx List.not_mem_nil
  | cons env envs ih =>
      intro s hsome x hx
      rcases List.mem_cons.mp hx with rfl | hx
      · rintro (hsets | ⟨hnone, -⟩)
        · exact hsets
        · rw [hnone] at hsome
          exact absurd hsome (by simp)
      · exact ih (lookup_apply_isSome cfg (.tick env) hsome) x hx

/-- The engineer has a task. -/
noncomputable def oneTaskState : LoopState :=
  runEvents sampleConfig sampleStartup.state [sampleCreate 1 "1" (some "a-2")]

/-- The run leads there. -/
theorem reachable_oneTaskState : (loopSystem sampleConfig).Reachable oneTaskState := by
  have hrun : Run (loopSystem sampleConfig).step sampleStartup.state [sampleCreate 1 "1" (some "a-2")]
      oneTaskState := .single rfl
  exact (System.Reachable.init (sampleStartup.init sampleConfig)).run hrun

/-- The task is given a deadline. -/
def deadlineCall (deadline : ℤ) : LoopEvent :=
  sampleCall 2 "a-2" "task_set_blocking" [("task_id", .str "T_1"), ("deadline_at", .int deadline)]

/-- A call that is granted edits the deadline. -/
theorem edits_deadlineCall (deadline : ℤ) (h : ∃ caller ∈ oneTaskState.world.avatars.lookup "a-2",
    (handleTaskSetBlocking sampleConfig (sampleEnv 2 "m") oneTaskState caller (.obj [("task_id", .str "T_1"),
      ("deadline_at", .int deadline)])).toOption.isSome) :
    (deadlineCall deadline).Edits sampleConfig oneTaskState "T_1" "deadline_at" := by
  obtain ⟨caller, hcaller, hok⟩ := h
  rcases hcall : handleTaskSetBlocking sampleConfig (sampleEnv 2 "m") oneTaskState caller
      (.obj [("task_id", .str "T_1"), ("deadline_at", .int deadline)]) with e | r
  · rw [hcall] at hok
    exact absurd hok (by simp [Except.toOption])
  · exact .inl ⟨rfl, rfl, rfl, caller, hcaller, r, hcall⟩

/-- A tick before the deadline has passed, and two after that. -/
def deadlineEnvs : List Env :=
  [sampleEnv 5 "t", sampleEnv 6 "t", sampleEnv 7 "t"]

/-- The deadline is announced once, also in a build with overflow checks. -/
theorem notices_once_deadline :
    noticeCount "task_overdue" "T_1" (loopRun true sampleConfig ((deadlineCall 5).apply sampleConfig oneTaskState)
        (deadlineEnvs.map .tick)).state =
      noticeCount "task_overdue" "T_1" ((deadlineCall 5).apply sampleConfig oneTaskState) + 1 := by
  have hedit := edits_deadlineCall 5 (by decide +kernel)
  have hthere : (((deadlineCall 5).apply sampleConfig oneTaskState).db.tasks.lookup "T_1").isSome := by
    decide +kernel
  have hfits : Fits true sampleConfig ((deadlineCall 5).apply sampleConfig oneTaskState)
      (deadlineEnvs.map .tick) := by
    decide +kernel
  have hdue : FallsDue sampleConfig ((deadlineCall 5).apply sampleConfig oneTaskState)
      (deadlineEnvs.map .tick) "T_1" := by
    decide +kernel
  have honce := (notices_once true reachable_oneTaskState "T_1").1 (deadlineCall 5) hedit (deadlineEnvs.map .tick)
    (unedited_ticks "deadline_at" deadlineEnvs hthere) hfits
  rwa [if_pos hdue] at honce

/-- **Not every deadline**: the smallest `i64` is a deadline, and the first tick that is to announce it ends the loop
of a build with overflow checks. -/
theorem not_notices_once :
    ¬ ∀ (cfg : Config) (s : LoopState) (id : String) (l : LoopEvent) (ls : List LoopEvent),
      (loopSystem cfg).Reachable s → l.Edits cfg s id "deadline_at" →
        Unedited cfg (l.apply cfg s) ls id "deadline_at" →
          noticeCount "task_overdue" id (loopRun true cfg (l.apply cfg s) ls).state =
            noticeCount "task_overdue" id (l.apply cfg s) + if FallsDue cfg (l.apply cfg s) ls id then 1 else 0 := by
  intro h
  have hedit := edits_deadlineCall (-2 ^ 63) (by decide +kernel)
  have hthere : (((deadlineCall (-2 ^ 63)).apply sampleConfig oneTaskState).db.tasks.lookup "T_1").isSome := by
    decide +kernel
  have hdue : FallsDue sampleConfig ((deadlineCall (-2 ^ 63)).apply sampleConfig oneTaskState)
      ([sampleEnv 5 "t"].map .tick) "T_1" := by
    decide +kernel
  have honce := h sampleConfig oneTaskState "T_1" (deadlineCall (-2 ^ 63)) ([sampleEnv 5 "t"].map .tick)
    reachable_oneTaskState hedit (unedited_ticks "deadline_at" _ hthere)
  rw [if_pos hdue] at honce
  have hsilent : noticeCount "task_overdue" "T_1" (loopRun true sampleConfig
      ((deadlineCall (-2 ^ 63)).apply sampleConfig oneTaskState) ([sampleEnv 5 "t"].map .tick)).state =
        noticeCount "task_overdue" "T_1" ((deadlineCall (-2 ^ 63)).apply sampleConfig oneTaskState) := by
    decide +kernel
  omega

end Cliptown.Task
