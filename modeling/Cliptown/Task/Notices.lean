import Cliptown.Task.LoopEffects
import Cliptown.Task.Ready

/-!
# Notices of the scheduler

A tick announces that a deadline has passed, and stamps the row; it announces that a task waits no longer, and forgets
the blocker. What one request does to the notices of one task:

* `noticeCount` — how often a kind of notice was sent about a task.
* `Untouched` — no notice is sent about the task, and its row keeps the columns that notices go by.
* `LoopEvent.Sets` — a call that is granted and has the key; `request_notices` — what requests other than ticks do.
* `Released`, `dispatchLoop_notices` — the part of a tick that forgets blockers.
* `Announced`, `deadlineScan_notices` — the part that announces deadlines.
* `tick_notices` — a tick.
-/

namespace Cliptown.Task

open Cliptown.Lib Cliptown.Town Cliptown.World Cliptown.Console Cliptown.Worker

/-- An event of a kind, about a task. -/
def SystemEvent.Announces (e : SystemEvent) (kind id : String) : Prop :=
  e.kind = kind ∧ e.payload.getStr "task_id" = some id

instance (e : SystemEvent) (kind id : String) : Decidable (e.Announces kind id) :=
  inferInstanceAs (Decidable (_ ∧ _))

/-- How often a kind of notice was sent about a task. -/
def noticeCount (kind id : String) (s : LoopState) : ℕ :=
  s.systemEvents.countP fun e => e.Announces kind id

/-- No notice about the task. -/
def Silent (id : String) (e : SystemEvent) : Prop :=
  ¬ e.Announces "task_overdue" id ∧ ¬ e.Announces "task_unblocked" id

/-- No notice is sent about the task, and its row keeps the columns that notices go by. -/
def Untouched (id : String) : LoopState → LoopState → Prop :=
  Effects (fun _ _ => True) (Silent id) (· = id)

/-- The call of `task_set_blocking` is granted, it is about the task, and it has the key. -/
def LoopEvent.Sets (cfg : Config) (s : LoopState) (id key : String) : LoopEvent → Prop
  | .mcp env agentId msg => (McpCall.ofJson msg).tool = "task_set_blocking" ∧
      (McpCall.ofJson msg).args.getStr "task_id" = some id ∧ ((McpCall.ofJson msg).args.get key).isSome ∧
        ∃ caller, s.world.avatars.lookup agentId = some caller ∧
          ∃ r, handleTaskSetBlocking cfg env s caller (McpCall.ofJson msg).args = .ok r
  | _ => False

section Counts

variable {F : String → Json → Prop} {E : SystemEvent → Prop} {K : String → Prop} {env : Env}
  {s s' s'' : LoopState} {id kind : String} {t : TaskRow}

/-! ### Counts -/

theorem silent_of_unannounced {e : SystemEvent} (h : Unannounced e) : Silent id e :=
  ⟨fun hsays => h.1 hsays.1, fun hsays => h.2 hsays.1⟩

theorem silent_of_unblocks {e : SystemEvent} {other : String} (hne : other ≠ id) (h : Unblocks other e) :
    Silent id e := by
  rcases h with h | ⟨hkind, htask⟩
  · exact silent_of_unannounced h
  · refine ⟨fun hsays => ?_, fun hsays => hne (Option.some.inj (htask.symm.trans hsays.2))⟩
    exact absurd (hkind.symm.trans hsays.1) (by decide)

namespace Untouched

theorem of_effects (h : Effects F E K s s') (hE : ∀ e, E e → Silent id e) (hK : K id) : Untouched id s s' :=
  h.mono (fun _ _ _ => trivial) hE fun _ heq => heq ▸ hK

theorem refl : Untouched id s s :=
  Effects.refl

theorem trans (h : Untouched id s s') (h' : Untouched id s' s'') : Untouched id s s'' :=
  Effects.trans h h'

/-- The row of the task. -/
theorem row (h : Untouched id s s') (ht : s.db.tasks.lookup id = some t) :
    ∃ t', s'.db.tasks.lookup id = some t' ∧ t'.notices = t.notices :=
  h.notices.row id t rfl ht

theorem overdue (h : Untouched id s s') : noticeCount "task_overdue" id s' = noticeCount "task_overdue" id s :=
  h.events.countP_eq fun _ he => decide_eq_false he.1

theorem unblocked (h : Untouched id s s') :
    noticeCount "task_unblocked" id s' = noticeCount "task_unblocked" id s :=
  h.events.countP_eq fun _ he => decide_eq_false he.2

end Untouched

/-- A notice that is sent. -/
theorem noticeCount_emit {startupId : Option String} {severity : String} {payload : Json}
    (htask : payload.getStr "task_id" = some id) (kind' : String) :
    noticeCount kind' id (s.emitSystemEvent env startupId kind payload severity) =
      noticeCount kind' id s + if kind = kind' then 1 else 0 := by
  unfold noticeCount LoopState.emitSystemEvent LoopState.systemEvents
  simp [List.countP_append, List.countP_singleton, SystemEvent.Announces, htask]

end Counts

section Calls

variable {cfg : Config} {env : Env} {s s' : LoopState} {caller : AvatarView} {args v : Json} {id : String}
  {t : TaskRow}

/-! ### Requests other than ticks -/

/-- An entry of the audit trail and an event leave the columns alone. -/
theorem notices_noted {u kind severity : String} {entry payload : Json} {startupId : Option String}
    (ht : s.db.tasks.lookup id = some t) :
    ∃ t', ((s.appendAudit env u entry).emitSystemEvent env startupId kind payload severity).db.tasks.lookup id =
      some t' ∧ t'.notices = t.notices := by
  have hnoted : Effects (fun _ _ => True) AnyEvent Everywhere s
      ((s.appendAudit env u entry).emitSystemEvent env startupId kind payload severity) :=
    Effects.refl.appendAudit.emitSystemEvent trivial
  exact hnoted.notices.row id t trivial ht

/-- The row that the two updates of `task_set_blocking` leave. -/
theorem lookup_writeBlocking {db db' : Db} {blocked : Option (Option String)} {deadline : Option (Option ℤ)}
    {now : ℤ} (h : writeBlocking db id blocked deadline now = some db') (ht : db.tasks.lookup id = some t) :
    db'.tasks.lookup id = some { t with
      blockedOn := blocked.getD t.blockedOn
      deadlineAt := deadline.getD t.deadlineAt
      deadlineNotifiedAt := if deadline.isSome then none else t.deadlineNotifiedAt
      updatedAt := if blocked.isSome ∨ deadline.isSome then now else t.updatedAt } := by
  obtain ⟨db₁, hdb, rfl⟩ := Option.map_eq_some_iff.mp h
  have hblocker : db₁.tasks.lookup id = some { t with
      blockedOn := blocked.getD t.blockedOn
      updatedAt := if blocked.isSome then now else t.updatedAt } := by
    cases blocked with
    | none =>
        obtain rfl := Option.some.inj hdb
        exact ht
    | some b =>
        rw [(lookup_relinkTask hdb).1, Table.lookup_modify_self, ht]
        rfl
  cases deadline with
  | none =>
      refine hblocker.trans ?_
      simp
  | some d =>
      refine (Table.lookup_modify_self _ _ _).trans ?_
      rw [hblocker]
      simp

/-- **What `task_set_blocking` does to the row**: it sets the blocker and the deadline that it is given, and a new
deadline has not been announced. -/
theorem notices_taskSetBlocking (h : handleTaskSetBlocking cfg env s caller args = .ok (v, s'))
    (hid : args.getStr "task_id" = some id) (ht : s.db.tasks.lookup id = some t) :
    ∃ t', s'.db.tasks.lookup id = some t' ∧ t'.notices =
      ((change args "blocked_on" Json.asStr).getD t.blockedOn, (change args "deadline_at" Json.asI64).getD t.deadlineAt,
        if (change args "deadline_at" Json.asI64).isSome then none else t.deadlineNotifiedAt) := by
  obtain ⟨taskId, task, db, rest, payload, hown, -, -, hdb, rfl⟩ := handleTaskSetBlocking_eq_ok h
  obtain rfl := Option.some.inj (hid.symm.trans hown.hasId)
  have hwrite : writeBlocking s.db id (change args "blocked_on" Json.asStr)
      (change args "deadline_at" Json.asI64) env.now =
      some (writeDeadline db id (change args "deadline_at" Json.asI64) env.now) :=
    congrArg (Option.map _) hdb
  have hrow : ({ s with db := writeDeadline db id (change args "deadline_at" Json.asI64) env.now } :
      LoopState).db.tasks.lookup id = some _ := lookup_writeBlocking hwrite ht
  exact notices_noted hrow

/-- A key that is there is a change. -/
theorem isSome_change {α : Type} (key : String) (read : Json → Option α) :
    (change args key read).isSome = (args.get key).isSome := by
  unfold change
  exact Option.isSome_map

/-- What a call keeps that does not have the key. -/
theorem taskSetBlocking_cases (h : handleTaskSetBlocking cfg env s caller args = .ok (v, s'))
    (hid : args.getStr "task_id" = some id) :
    ∃ t t', s.db.tasks.lookup id = some t ∧ s'.db.tasks.lookup id = some t' ∧
      (t'.deadlineAt = t.deadlineAt ∧ t'.deadlineNotifiedAt = t.deadlineNotifiedAt ∨
        (args.get "deadline_at").isSome ∧ t'.deadlineNotifiedAt = none) ∧
      (t'.blockedOn = t.blockedOn ∨ (args.get "blocked_on").isSome) := by
  obtain ⟨taskId, t, -, -, -, hown, -⟩ := handleTaskSetBlocking_eq_ok h
  obtain rfl := Option.some.inj (hid.symm.trans hown.hasId)
  obtain ⟨t', ht', hnotices⟩ := notices_taskSetBlocking h hid hown.row
  obtain ⟨hblocked, hnotices⟩ := Prod.mk.inj hnotices
  obtain ⟨hdeadline, hstamp⟩ := Prod.mk.inj hnotices
  refine ⟨t, t', hown.row, ht', ?_, ?_⟩
  · rw [← isSome_change "deadline_at" Json.asI64]
    rcases hchange : change args "deadline_at" Json.asI64 with _ | d
    · rw [hchange] at hdeadline hstamp
      exact .inl ⟨hdeadline, hstamp⟩
    · rw [hchange] at hstamp
      exact .inr ⟨rfl, hstamp⟩
  · rw [← isSome_change "blocked_on" Json.asStr]
    rcases hchange : change args "blocked_on" Json.asStr with _ | b
    · rw [hchange] at hblocked
      exact .inl hblocked
    · exact .inr rfl

variable (cfg s id) in
/-- **Any request but a tick** sends no notice. Calls that set the deadline or the blocker of the task may change the
columns of its row, and a deadline that is set has not been announced. -/
theorem request_notices (l : LoopEvent) (hl : ∀ env, l ≠ .tick env) :
    Untouched id s (l.apply cfg s) ∨
      noticeCount "task_overdue" id (l.apply cfg s) = noticeCount "task_overdue" id s ∧
      noticeCount "task_unblocked" id (l.apply cfg s) = noticeCount "task_unblocked" id s ∧
      ∃ t t', s.db.tasks.lookup id = some t ∧ (l.apply cfg s).db.tasks.lookup id = some t' ∧
        (t'.deadlineAt = t.deadlineAt ∧ t'.deadlineNotifiedAt = t.deadlineNotifiedAt ∨
          l.Sets cfg s id "deadline_at" ∧ t'.deadlineNotifiedAt = none) ∧
        (t'.blockedOn = t.blockedOn ∨ l.Sets cfg s id "blocked_on") := by
  have hall := apply_effects cfg s l
  cases l with
  | tick env => exact absurd rfl (hl env)
  | mcp env agentId msg =>
      by_cases hretimes : Retimes (McpCall.ofJson msg).args (McpCall.ofJson msg).tool id
      · obtain ⟨htool, hid⟩ := hretimes
        simp only [LoopEvent.apply] at hall ⊢
        rcases hcaller : s.world.avatars.lookup agentId with _ | caller
        · rw [state_dispatchMcp_unknown msg hcaller]
          exact .inl .refl
        · have hstate : (dispatchMcp cfg env s agentId msg).2 =
              (settle s (handleTaskSetBlocking cfg env s caller (McpCall.ofJson msg).args)).2 := by
            rw [state_dispatchMcp msg hcaller, htool]
            rfl
          rcases settle_cases s (handleTaskSetBlocking cfg env s caller (McpCall.ofJson msg).args)
            with hs | ⟨v, s', hok, hs⟩
          · rw [hstate, hs]
            exact .inl .refl
          · have hsets : ∀ {key}, ((McpCall.ofJson msg).args.get key).isSome →
                (LoopEvent.mcp env agentId msg).Sets cfg s id key :=
              fun hkey => ⟨htool, hid, hkey, caller, hcaller, _, hok⟩
            obtain ⟨t, t', ht, ht', hdeadline, hblocked⟩ := taskSetBlocking_cases hok hid
            refine .inr ⟨hall.events.countP_eq fun _ he => decide_eq_false (silent_of_unannounced he).1,
              hall.events.countP_eq fun _ he => decide_eq_false (silent_of_unannounced he).2,
              t, t', ht, by rw [hstate, hs]; exact ht', ?_, ?_⟩
            · exact hdeadline.imp_right fun h => ⟨hsets h.1, h.2⟩
            · exact hblocked.imp_right hsets
      · exact .inl (.of_effects hall (fun _ => silent_of_unannounced) hretimes)
  | _ => exact .inl (.of_effects hall (fun _ => silent_of_unannounced) trivial)

end Calls

section Dispatch

variable {cfg : Config} {env : Env} {s s' s'' : LoopState} {task : QueuedTask} {id : String} {t : TaskRow}

/-! ### The dispatch loop -/

/-- A blocker that is over is forgotten, and a notice is sent. -/
structure Released (id : String) (s s' : LoopState) : Prop where
  row : ∃ t t' b, s.db.tasks.lookup id = some t ∧ s'.db.tasks.lookup id = some t' ∧
    t'.notices = (none, t.deadlineAt, t.deadlineNotifiedAt) ∧
      t.blockedOn = some b ∧ blockerOver s.db (some b) = true
  overdue : noticeCount "task_overdue" id s' = noticeCount "task_overdue" id s
  unblocked : noticeCount "task_unblocked" id s' = noticeCount "task_unblocked" id s + 1

theorem Released.trans_untouched (h : Released id s s') (h' : Untouched id s' s'') : Released id s s'' where
  row := by
    obtain ⟨t, t', b, ht, ht', hnotices, hb⟩ := h.row
    obtain ⟨t'', ht'', hkept⟩ := h'.row ht'
    exact ⟨t, t'', b, ht, ht'', hkept.trans hnotices, hb⟩
  overdue := h'.overdue.trans h.overdue
  unblocked := h'.unblocked.trans h.unblocked

theorem Untouched.trans_released (h : Untouched id s s') (h' : Released id s' s'')
    (ht : s.db.tasks.lookup id = some t)
    (hover : ∀ blockedOn, blockerOver s'.db blockedOn = blockerOver s.db blockedOn) : Released id s s'' where
  row := by
    obtain ⟨t', ht', hsame⟩ := h.row ht
    obtain ⟨t₁, t'', b, ht₁, ht'', hnotices, hb, hgone⟩ := h'.row
    obtain rfl := Option.some.inj (ht'.symm.trans ht₁)
    obtain ⟨hblocked, hrest⟩ := Prod.mk.inj hsame
    exact ⟨t, t'', b, ht, ht'', hnotices.trans (congrArg (Prod.mk none) hrest), hblocked.symm.trans hb,
      (hover (some b)).symm.trans hgone⟩
  overdue := h'.overdue.trans h.overdue
  unblocked := h'.unblocked.trans (congrArg (· + 1) h.unblocked)

/-- A row may forget its blocker. -/
theorem exists_relinkTask (db : Db) (id : String) :
    ∃ db', db.relinkTask id (fun t => { t with blockedOn := none }) = some db' := by
  unfold Db.relinkTask
  rw [dif_pos]
  · exact ⟨_, rfl⟩
  · intro t ht
    have hrefs := db.taskRefs id t ht
    exact ⟨hrefs.startup, hrefs.parent, hrefs.assignee, by simp⟩

/-- **The blocker of a row** is forgotten together with the notice. -/
theorem released_clearBlocker {b : String} (ht : s.db.tasks.lookup task.id = some t)
    (hblocked : t.blockedOn = some b) (htask : task.blockedOn = some b) (hover : blockerOver s.db (some b) = true) :
    Released task.id s (clearBlocker env s task) := by
  obtain ⟨db, hdb⟩ := exists_relinkTask s.db task.id
  have hevents := systemEvents_relinkTask hdb
  have hstate : clearBlocker env s task = LoopState.emitSystemEvent env { s with db := db } (some task.startupId)
      "task_unblocked" (.obj [("task_id", .str task.id), ("blocker_id", .str b)]) "info" := by
    unfold clearBlocker
    rw [htask]
    simp only [hdb, Option.getD_some]
  have hcount : ∀ kind, noticeCount kind task.id { s with db := db } = noticeCount kind task.id s := fun kind => by
    unfold noticeCount LoopState.systemEvents
    rw [hevents]
  refine ⟨⟨t, { t with blockedOn := none }, b, ht, ?_, rfl, hblocked, hover⟩, ?_, ?_⟩
  · rw [hstate]
    change db.tasks.lookup task.id = _
    rw [(lookup_relinkTask hdb).1, Table.lookup_modify_self, ht]
    rfl
  · rw [hstate, noticeCount_emit rfl, hcount]
    rfl
  · rw [hstate, noticeCount_emit rfl, hcount]
    rfl

variable (cfg env) in
/-- **The row of the task itself.** -/
theorem dispatchOne_notices (ht : s.db.tasks.lookup task.id = some t) (htask : t.blockedOn = task.blockedOn) :
    Untouched task.id s (dispatchOne cfg env s task) ∨ Released task.id s (dispatchOne cfg env s task) := by
  unfold dispatchOne
  split
  · exact .inl .refl
  · split
    · rename_i hgate
      have hclear : Untouched task.id s (clearBlocker env s task) ∨
          Released task.id s (clearBlocker env s task) := by
        rcases hblocked : task.blockedOn with _ | b
        · left
          unfold clearBlocker
          rw [hblocked]
          exact .refl
        · exact .inr (released_clearBlocker ht (htask.trans hblocked) hblocked (hblocked ▸ hgate.2))
      have hrest : ∀ {s'}, Untouched task.id (clearBlocker env s task) s' →
          Untouched task.id s s' ∨ Released task.id s s' :=
        fun h => hclear.imp (fun hclear => hclear.trans h) fun hclear => hclear.trans_untouched h
      simp only
      split
      · rename_i room _
        have happroach : Effects TickFrame Unannounced Everywhere (clearBlocker env s task)
            (approach cfg (clearBlocker env s task) task room) := approach_effects task room
        exact hrest (.of_effects happroach (fun _ => silent_of_unannounced) trivial)
      · split
        · exact hrest (.of_effects (assign_effects task) (fun _ => silent_of_unannounced) trivial)
        · exact hclear
    · exact .inl .refl

variable (cfg env) in
/-- The rows of other tasks. -/
theorem untouched_dispatchOne (hne : task.id ≠ id) : Untouched id s (dispatchOne cfg env s task) :=
  .of_effects (dispatchOne_effects cfg env s task) (fun _ => silent_of_unblocks hne) hne.symm

variable (cfg env) in
/-- The loop does not end a task. -/
theorem blockerOver_foldl (blockedOn : Option String) (tasks : List QueuedTask) : ∀ s : LoopState,
    Pending s.board tasks →
      blockerOver (tasks.foldl (dispatchOne cfg env) s).db blockedOn = blockerOver s.db blockedOn := by
  induction tasks with
  | nil => exact fun _ _ => rfl
  | cons task tasks ih =>
      intro s hpending
      exact (ih _ (hpending.tail cfg env)).trans
        (blockerOver_dispatchOne (hpending.fresh task List.mem_cons_self) blockedOn)

variable (cfg env) in
/-- **The loop** sends at most one notice about a task, and that is when it forgets a blocker that is over. -/
theorem foldl_dispatchOne_notices (tasks : List QueuedTask) : ∀ (s : LoopState) (t : TaskRow),
    Pending s.board tasks →
    (∀ task ∈ tasks, ∃ t, s.db.tasks.lookup task.id = some t ∧ t.blockedOn = task.blockedOn) →
    s.db.tasks.lookup id = some t →
      Untouched id s (tasks.foldl (dispatchOne cfg env) s) ∨
        Released id s (tasks.foldl (dispatchOne cfg env) s) := by
  induction tasks with
  | nil => exact fun _ _ _ _ _ => .inl .refl
  | cons task tasks ih =>
      intro s t hpending hrows ht
      have hdistinct := (List.pairwise_cons.mp hpending.distinct).1
      have hfresh := hpending.fresh task List.mem_cons_self
      rw [List.foldl_cons]
      by_cases hid : task.id = id
      · subst hid
        have hrest : Untouched task.id (dispatchOne cfg env s task)
            (tasks.foldl (dispatchOne cfg env) (dispatchOne cfg env s task)) :=
          Effects.foldl _ (fun other hother s => untouched_dispatchOne cfg env (hdistinct other hother).symm) _
        obtain ⟨t, ht, htask⟩ := hrows task List.mem_cons_self
        exact (dispatchOne_notices cfg env ht htask).imp (fun h => h.trans hrest) fun h =>
          h.trans_untouched hrest
      · have hfirst : Untouched id s (dispatchOne cfg env s task) := untouched_dispatchOne cfg env hid
        have hrows' : ∀ other ∈ tasks, ∃ t, (dispatchOne cfg env s task).db.tasks.lookup other.id = some t ∧
            t.blockedOn = other.blockedOn := by
          intro other hother
          obtain ⟨t, ht, hblocked⟩ := hrows other (List.mem_cons_of_mem _ hother)
          obtain ⟨t', ht', hsame⟩ := (untouched_dispatchOne cfg env (hdistinct other hother)).row ht
          exact ⟨t', ht', (Prod.mk.inj hsame).1.trans hblocked⟩
        obtain ⟨t', ht', -⟩ := hfirst.row ht
        exact (ih _ t' (hpending.tail cfg env) hrows' ht').imp (fun h => hfirst.trans h) fun h =>
          hfirst.trans_released h ht fun blockedOn => blockerOver_dispatchOne hfresh blockedOn

end Dispatch

section Scan

variable {env : Env} {s s' : LoopState} {id : String} {t : TaskRow}

/-! ### The deadline scan -/

/-- A deadline that has passed is announced, and the row is stamped. -/
structure Announced (id : String) (now : ℤ) (s s' : LoopState) : Prop where
  row : ∀ t, s.db.tasks.lookup id = some t → ∃ t', s'.db.tasks.lookup id = some t' ∧
    t'.notices = (t.blockedOn, t.deadlineAt, some now)
  overdue : noticeCount "task_overdue" id s' = noticeCount "task_overdue" id s + 1
  unblocked : noticeCount "task_unblocked" id s' = noticeCount "task_unblocked" id s

/-- The row of the task itself. -/
theorem notifyOverdue_announced (id startupId : String) (deadline : ℤ) :
    Announced id env.now s (notifyOverdue env s id startupId deadline) where
  row t ht := by
    refine ⟨{ t with deadlineNotifiedAt := some env.now }, ?_, rfl⟩
    unfold notifyOverdue
    exact (lookup_updateTask _ _ _ _ _).trans (by
      rw [if_pos rfl]
      exact congrArg (Option.map _) ht)
  overdue := noticeCount_emit rfl "task_overdue"
  unblocked := noticeCount_emit rfl "task_unblocked"

/-- The rows of other tasks. -/
theorem untouched_notifyOverdue {other startupId : String} {deadline : ℤ} (hne : other ≠ id) :
    Untouched id s (notifyOverdue env s other startupId deadline) := by
  unfold notifyOverdue
  refine Effects.touch (Effects.refl.emitSystemEvent ⟨fun hsays => hne (Option.some.inj hsays.2), ?_⟩) ?_
  · exact fun hsays => absurd (show "task_overdue" = "task_unblocked" from hsays.1) (by decide)
  · exact fun heq => absurd heq hne

/-- The rows of the scan. -/
def overdueRows (env : Env) (db : Db) : List (String × String × ℤ) :=
  (env.order db.tasks.keys).filterMap fun id =>
    (db.tasks.lookup id).bind fun t => (overdue env.now t).map fun deadline => (id, t.startupId, deadline)

theorem deadlineScan_eq (env : Env) (s : LoopState) : deadlineScan env s =
    (overdueRows env s.db).foldl (fun s row => notifyOverdue env s row.1 row.2.1 row.2.2) s :=
  rfl

/-- The rows of the scan are of different tasks. -/
theorem pairwise_overdueRows (env : Env) (db : Db) :
    (overdueRows env db).Pairwise fun row other => row.1 ≠ other.1 := by
  have hid : ∀ id, ∀ row ∈ (db.tasks.lookup id).bind fun t => (overdue env.now t).map fun deadline =>
      (id, t.startupId, deadline), row.1 = id := by
    intro id row h
    obtain ⟨t, -, hrow⟩ := Option.bind_eq_some_iff.mp h
    obtain ⟨deadline, -, rfl⟩ := Option.map_eq_some_iff.mp hrow
    rfl
  have hnodup : (env.order db.tasks.keys).Nodup :=
    (env.order_perm _).nodup_iff.mpr db.tasks.keys_nodup
  unfold overdueRows
  rw [List.pairwise_filterMap]
  refine hnodup.imp fun {a b} hne row hrow other hother => ?_
  rw [hid a row hrow, hid b other hother]
  exact hne

/-- Whose deadlines have passed and are not announced. -/
theorem mem_overdueRows {db : Db} (ht : db.tasks.lookup id = some t) :
    (∃ row ∈ overdueRows env db, row.1 = id) ↔ (overdue env.now t).isSome := by
  unfold overdueRows
  constructor
  · rintro ⟨row, hrow, rfl⟩
    obtain ⟨u, -, hrow⟩ := List.mem_filterMap.mp hrow
    obtain ⟨t', ht', hrow⟩ := Option.bind_eq_some_iff.mp hrow
    obtain ⟨deadline, hdeadline, rfl⟩ := Option.map_eq_some_iff.mp hrow
    obtain rfl := Option.some.inj (ht.symm.trans ht')
    rw [hdeadline]
    rfl
  · intro h
    obtain ⟨deadline, hdeadline⟩ := Option.isSome_iff_exists.mp h
    have hkey : id ∈ env.order db.tasks.keys := by
      refine (env.order_perm _).mem_iff.mpr (AList.mem_keys.mp (AList.lookup_isSome.mp ?_))
      rw [ht]
      rfl
    refine ⟨(id, t.startupId, deadline), List.mem_filterMap.mpr ⟨id, hkey, ?_⟩, rfl⟩
    rw [ht, Option.bind_some, hdeadline]
    rfl

variable (id) in
/-- The rows of the scan, one after the other. -/
theorem foldl_notifyOverdue_notices (rows : List (String × String × ℤ)) : ∀ s : LoopState,
    (rows.Pairwise fun row other => row.1 ≠ other.1) →
      ((∃ row ∈ rows, row.1 = id) →
        Announced id env.now s (rows.foldl (fun s row => notifyOverdue env s row.1 row.2.1 row.2.2) s)) ∧
      ((∀ row ∈ rows, row.1 ≠ id) →
        Untouched id s (rows.foldl (fun s row => notifyOverdue env s row.1 row.2.1 row.2.2) s)) := by
  have hall : ∀ (rows : List (String × String × ℤ)) (s : LoopState), (∀ row ∈ rows, row.1 ≠ id) →
      Untouched id s (rows.foldl (fun s row => notifyOverdue env s row.1 row.2.1 row.2.2) s) :=
    fun rows s hne => Effects.foldl _ (fun row hrow s => untouched_notifyOverdue (hne row hrow)) s
  induction rows with
  | nil => exact fun s _ => ⟨fun ⟨row, hrow, _⟩ => absurd hrow List.not_mem_nil, hall [] s⟩
  | cons row rows ih =>
      intro s hdistinct
      obtain ⟨hhead, htail⟩ := List.pairwise_cons.mp hdistinct
      refine ⟨fun hsome => ?_, hall (row :: rows) s⟩
      by_cases hid : row.1 = id
      · have hrest := hall rows (notifyOverdue env s row.1 row.2.1 row.2.2) fun other hother =>
          hid ▸ (hhead other hother).symm
        have hfirst : Announced id env.now s (notifyOverdue env s row.1 row.2.1 row.2.2) :=
          hid ▸ notifyOverdue_announced row.1 row.2.1 row.2.2
        refine ⟨fun t ht => ?_, hrest.overdue.trans hfirst.overdue, hrest.unblocked.trans hfirst.unblocked⟩
        obtain ⟨t', ht', hnotices⟩ := hfirst.row t ht
        obtain ⟨t'', ht'', hkept⟩ := hrest.row ht'
        exact ⟨t'', ht'', hkept.trans hnotices⟩
      · have hfirst : Untouched id s (notifyOverdue env s row.1 row.2.1 row.2.2) := untouched_notifyOverdue hid
        have hrest := (ih (notifyOverdue env s row.1 row.2.1 row.2.2) htail).1 <| by
          obtain ⟨other, hother, heq⟩ := hsome
          rcases List.mem_cons.mp hother with rfl | hother
          · exact absurd heq hid
          · exact ⟨other, hother, heq⟩
        refine ⟨fun t ht => ?_, hrest.overdue.trans (congrArg (· + 1) hfirst.overdue),
          hrest.unblocked.trans hfirst.unblocked⟩
        obtain ⟨t', ht', hsame⟩ := hfirst.row ht
        obtain ⟨t'', ht'', hnotices⟩ := hrest.row t' ht'
        obtain ⟨hblocked, hcolumns⟩ := Prod.mk.inj hsame
        exact ⟨t'', ht'', hnotices.trans (by rw [hblocked, (Prod.mk.inj hcolumns).1])⟩

variable (env) in
/-- **The scan** announces a deadline that has passed, unless that was done or the task is over. -/
theorem deadlineScan_notices (ht : s.db.tasks.lookup id = some t) :
    ((overdue env.now t).isSome → Announced id env.now s (deadlineScan env s)) ∧
      (overdue env.now t = none → Untouched id s (deadlineScan env s)) := by
  obtain ⟨hsome, hnone⟩ := foldl_notifyOverdue_notices id (overdueRows env s.db) s
    (pairwise_overdueRows env s.db)
  rw [deadlineScan_eq]
  refine ⟨fun hdue => hsome ((mem_overdueRows ht).mpr hdue), fun hdue => hnone fun row hrow heq => ?_⟩
  have hdue' := (mem_overdueRows ht).mp ⟨row, hrow, heq⟩
  rw [hdue] at hdue'
  exact absurd hdue' (by simp)

end Scan

section Tick

variable {cfg : Config} {env : Env} {s : LoopState} {id : String} {t : TaskRow}

/-! ### A tick -/

/-- The passes. -/
theorem untouched_passes : Untouched id s (autoRecoveryPass env (autoStealPass env s)) := by
  have hsteal : Effects (fun _ _ => True) Unannounced Everywhere s (autoStealPass env s) := autoStealPass_effects
  exact .of_effects (hsteal.trans autoRecoveryPass_effects) (fun _ => silent_of_unannounced) trivial

/-- The movement. -/
theorem untouched_afterMoves : Untouched id s (afterMoves env s) := by
  have hmove : Untouched id s { s with
      world := (stepAll s.world s.paths).1
      paths := (stepAll s.world s.paths).2.1 } := Effects.of_eq rfl rfl rfl
  exact hmove.trans (Effects.foldl _ (fun _ _ _ => Effects.refl.push trivial) _)

variable (cfg env) in
/-- The loop creates no task. -/
theorem lookup_dispatchLoop_eq_none (hnone : s.db.tasks.lookup id = none) :
    (dispatchLoop cfg env s).db.tasks.lookup id = none := by
  have hgen : ∀ (tasks : List QueuedTask) (s : LoopState), Pending s.board tasks →
      (∀ task ∈ tasks, task.id ≠ id) → (tasks.foldl (dispatchOne cfg env) s).board.card id = s.board.card id := by
    intro tasks
    induction tasks with
    | nil => exact fun _ _ _ => rfl
    | cons task tasks ih =>
        intro s hpending hne
        have hframe := (dispatchOne_board cfg env (hpending.fresh task List.mem_cons_self)).frame id
          (hne task List.mem_cons_self).symm
        exact (ih _ (hpending.tail cfg env) fun other hother => hne other (List.mem_cons_of_mem _ hother)).trans
          hframe
  have hcard := hgen (queuedTasks env s.db) s (pending_queuedTasks env s) fun task htask => by
    obtain ⟨t, ht, -⟩ := mem_queuedTasks htask
    rintro rfl
    exact absurd (hnone.symm.trans ht) (by simp)
  rcases ht' : (dispatchLoop cfg env s).db.tasks.lookup id with _ | t'
  · rfl
  · have hsome := hcard.symm.trans (card_of_lookup ht')
    obtain ⟨t, ht, -⟩ := Db.card_eq_some_iff.mp hsome
    exact absurd (hnone.symm.trans ht) (by simp)

/-- A tick does not touch a task that is not there. -/
theorem untouched_loopTick (hnone : s.db.tasks.lookup id = none) : Untouched id s (loopTick cfg env s) := by
  have hmoved : (afterMoves env s).db.tasks.lookup id = none := by rw [db_afterMoves, hnone]
  have hdispatch : Untouched id (afterMoves env s) (dispatchLoop cfg env (afterMoves env s)) := by
    refine Effects.foldl _ (fun task htask s => untouched_dispatchOne cfg env ?_) _
    obtain ⟨t, ht, -⟩ := mem_queuedTasks htask
    rintro rfl
    exact absurd (hmoved.symm.trans ht) (by simp)
  have hscan : Untouched id (dispatchLoop cfg env (afterMoves env s))
      (deadlineScan env (dispatchLoop cfg env (afterMoves env s))) := by
    have hgone := lookup_dispatchLoop_eq_none cfg env hmoved
    refine Effects.foldl _ (fun row hrow s => untouched_notifyOverdue ?_) _
    obtain ⟨u, -, hrow⟩ := List.mem_filterMap.mp hrow
    obtain ⟨t, ht, hrow⟩ := Option.bind_eq_some_iff.mp hrow
    obtain ⟨deadline, -, rfl⟩ := Option.map_eq_some_iff.mp hrow
    rintro rfl
    exact absurd (hgone.symm.trans ht) (by simp)
  exact untouched_afterMoves.trans (hdispatch.trans (hscan.trans untouched_passes))

/-- Whether a deadline is to be announced, by the columns and by whether the task is over. -/
theorem overdue_congr {t' : TaskRow} (hdeadline : t'.deadlineAt = t.deadlineAt)
    (hstamp : t'.deadlineNotifiedAt = t.deadlineNotifiedAt) (hover : t'.status.Terminal ↔ t.status.Terminal)
    (now : ℤ) : overdue now t' = overdue now t := by
  unfold overdue
  rw [hdeadline, hstamp]
  simp only [hover]

variable (cfg env) in
/-- **The loop of a tick**, as the scan finds the row. -/
theorem dispatchLoop_notices (ht : s.db.tasks.lookup id = some t) :
    ∃ t', (dispatchLoop cfg env s).db.tasks.lookup id = some t' ∧
      t'.deadlineAt = t.deadlineAt ∧ t'.deadlineNotifiedAt = t.deadlineNotifiedAt ∧
      (t'.status.Terminal ↔ t.status.Terminal) ∧
      noticeCount "task_overdue" id (dispatchLoop cfg env s) = noticeCount "task_overdue" id s ∧
      (noticeCount "task_unblocked" id (dispatchLoop cfg env s) = noticeCount "task_unblocked" id s ∧
          t'.blockedOn = t.blockedOn ∨
        noticeCount "task_unblocked" id (dispatchLoop cfg env s) = noticeCount "task_unblocked" id s + 1 ∧
          t'.blockedOn = none ∧ ∃ b, t.blockedOn = some b ∧ blockerOver s.db (some b) = true) := by
  have hpending := pending_queuedTasks env s
  have hrows : ∀ task ∈ queuedTasks env s.db, ∃ t, s.db.tasks.lookup task.id = some t ∧
      t.blockedOn = task.blockedOn := by
    intro task htask
    obtain ⟨t, ht, -, -, hblocked, -⟩ := mem_queuedTasks htask
    exact ⟨t, ht, hblocked⟩
  have hterminal : ∀ {t'}, (dispatchLoop cfg env s).db.tasks.lookup id = some t' →
      (t'.status.Terminal ↔ t.status.Terminal) := by
    intro t' ht'
    have hover := blockerOver_foldl cfg env (some id) (queuedTasks env s.db) s hpending
    change (AList.lookup id (dispatchLoop cfg env s).db.tasks).all _ = (s.db.tasks.lookup id).all _ at hover
    rw [ht, ht'] at hover
    simpa using hover
  rcases foldl_dispatchOne_notices cfg env (queuedTasks env s.db) s t hpending hrows ht with h | h
  · obtain ⟨t', ht', hsame⟩ := h.row ht
    obtain ⟨hblocked, hcolumns⟩ := Prod.mk.inj hsame
    obtain ⟨hdeadline, hstamp⟩ := Prod.mk.inj hcolumns
    exact ⟨t', ht', hdeadline, hstamp, hterminal ht', h.overdue, .inl ⟨h.unblocked, hblocked⟩⟩
  · obtain ⟨t₀, t', b, ht₀, ht', hnotices, hb, hover⟩ := h.row
    obtain rfl := Option.some.inj (ht.symm.trans ht₀)
    obtain ⟨hblocked, hcolumns⟩ := Prod.mk.inj hnotices
    obtain ⟨hdeadline, hstamp⟩ := Prod.mk.inj hcolumns
    exact ⟨t', ht', hdeadline, hstamp, hterminal ht', h.overdue, .inr ⟨h.unblocked, hblocked, b, hb, hover⟩⟩

variable (cfg env) in
/-- **A tick**: at most one notice of either kind. -/
theorem tick_notices (ht : s.db.tasks.lookup id = some t) :
    ∃ t', (loopTick cfg env s).db.tasks.lookup id = some t' ∧ t'.deadlineAt = t.deadlineAt ∧
      (noticeCount "task_unblocked" id (loopTick cfg env s) = noticeCount "task_unblocked" id s ∧
          t'.blockedOn = t.blockedOn ∨
        noticeCount "task_unblocked" id (loopTick cfg env s) = noticeCount "task_unblocked" id s + 1 ∧
          t'.blockedOn = none ∧ ∃ b, t.blockedOn = some b ∧ blockerOver s.db (some b) = true) ∧
      (noticeCount "task_overdue" id (loopTick cfg env s) = noticeCount "task_overdue" id s ∧
          t'.deadlineNotifiedAt = t.deadlineNotifiedAt ∧ overdue env.now t = none ∨
        noticeCount "task_overdue" id (loopTick cfg env s) = noticeCount "task_overdue" id s + 1 ∧
          t'.deadlineNotifiedAt = some env.now ∧ (overdue env.now t).isSome) := by
  have hmoves : Untouched id s (afterMoves env s) := untouched_afterMoves
  have hmoved : (afterMoves env s).db.tasks.lookup id = some t := by rw [db_afterMoves, ht]
  obtain ⟨t₁, ht₁, hdeadline, hstamp, hterminal, hoverdue, hunblocked⟩ :=
    dispatchLoop_notices cfg env hmoved
  rw [db_afterMoves, hmoves.unblocked] at hunblocked
  rw [hmoves.overdue] at hoverdue
  obtain ⟨hsome, hnone⟩ := deadlineScan_notices env ht₁
  rw [overdue_congr hdeadline hstamp hterminal] at hsome hnone
  have hpasses : Untouched id (deadlineScan env (dispatchLoop cfg env (afterMoves env s))) (loopTick cfg env s) :=
    untouched_passes
  rcases hdue : overdue env.now t with _ | d
  · have hrest := (hnone hdue).trans hpasses
    obtain ⟨t', ht', hsame⟩ := hrest.row ht₁
    obtain ⟨hblocked', hcolumns⟩ := Prod.mk.inj hsame
    obtain ⟨hdeadline', hstamp'⟩ := Prod.mk.inj hcolumns
    refine ⟨t', ht', hdeadline'.trans hdeadline, ?_,
      .inl ⟨hrest.overdue.trans hoverdue, hstamp'.trans hstamp, rfl⟩⟩
    rw [hrest.unblocked, hblocked']
    exact hunblocked
  · have hannounced := hsome (by rw [hdue]; rfl)
    obtain ⟨t₂, ht₂, hnotices⟩ := hannounced.row t₁ ht₁
    obtain ⟨t', ht', hsame⟩ := hpasses.row ht₂
    obtain ⟨hblocked', hcolumns⟩ := Prod.mk.inj (hsame.trans hnotices)
    obtain ⟨hdeadline', hstamp'⟩ := Prod.mk.inj hcolumns
    refine ⟨t', ht', hdeadline'.trans hdeadline, ?_, .inr ⟨?_, hstamp', rfl⟩⟩
    · rw [hpasses.unblocked, hannounced.unblocked, hblocked']
      exact hunblocked
    · rw [hpasses.overdue, hannounced.overdue, hoverdue]

end Tick

end Cliptown.Task
