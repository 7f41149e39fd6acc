import Cliptown.Task.NoticeRuns

/-!
# Settings of a task

Two tools set what a task waits for and what it is routed to. A key that is absent leaves its column, `null`
clears it, a value of the column's type is written. The tools read a value of another type as `null`.

* `Setting` — the four columns, with their keys, their tools and their types.
* `Refused` — why a tool refuses a call of its own accord.
* `Honours` — a call sets what it asks for, or fails and leaves the row.
* `exists_handler` — which calls are granted; `columns_handler` — what they leave in the columns.
* `honours_iff` — the tools honour the calls without a value of another type, and those that they refuse.
-/

namespace Cliptown.Task

open Cliptown.Lib Cliptown.Town Cliptown.World Cliptown.Worker

/-! ### Settings -/

/-- The tools that set columns of a task. -/
inductive SettingTool where
  | preference
  | blocking
  deriving DecidableEq, Repr

/-- Source: `mcp_dispatch.rs` `dispatch`, the `match` -/
def SettingTool.toStr : SettingTool → String
  | .preference => "task_set_preference"
  | .blocking => "task_set_blocking"

/-- The columns that a call may set. -/
inductive Setting where
  | preferredBackend
  | preferredModel
  | blockedOn
  | deadlineAt
  deriving DecidableEq, Repr

namespace Setting

/-- The tool that sets a column. -/
def tool : Setting → SettingTool
  | .preferredBackend | .preferredModel => .preference
  | .blockedOn | .deadlineAt => .blocking

/-- The key of a column in the arguments. -/
def key : Setting → String
  | .preferredBackend => "preferred_backend"
  | .preferredModel => "preferred_model"
  | .blockedOn => "blocked_on"
  | .deadlineAt => "deadline_at"

/-- What the column of a row holds; an empty one holds `null`. -/
def column (t : TaskRow) : Setting → Json
  | .preferredBackend => .ofOption .str t.preferredBackend
  | .preferredModel => .ofOption .str t.preferredModel
  | .blockedOn => .ofOption .str t.blockedOn
  | .deadlineAt => .ofOption .int t.deadlineAt

/-- The values of a column's type: texts, but integers of 64 bits for the deadline. Source: `mcp_http.rs`,
the schemas of the two tools; `tasks.deadline_at` is an `INTEGER` -/
def Typed (v : Json) : Setting → Prop
  | .deadlineAt => ∃ n : ℤ, v = .int n ∧ -0x8000000000000000 ≤ n ∧ n < 0x8000000000000000
  | _ => ∃ text, v = .str text

/-- What a call gives for a column, if anything, is `null` or of the column's type. -/
def WellTyped (args : Json) (k : Setting) : Prop :=
  ∀ v ∈ args.get k.key, v = .null ∨ k.Typed v

/-- What a column is to hold: what the call gives, and otherwise what it held. -/
def asked (args : Json) (t : TaskRow) (k : Setting) : Json :=
  (args.get k.key).getD (k.column t)

end Setting

/-! ### Calls -/

/-- The refusals of a call by a tool that have nothing to do with types: nothing is set, or the task is to wait
for itself, or for a task that does not exist. -/
inductive Refused (db : Db) (args : Json) (taskId : String) (tool : SettingTool) : Prop where
  | nothing (h : ∀ k : Setting, k.tool = tool → args.get k.key = none)
  | itself (h : tool = .blocking) (hblocked : args.get "blocked_on" = some (.str taskId))
  | unknown {blockerId : String} (h : tool = .blocking)
      (hblocked : args.get "blocked_on" = some (.str blockerId)) (hnone : db.tasks.lookup blockerId = none)

/-- A call fails and leaves the row of the task. -/
def Fails (cfg : Config) (env : Env) (s : LoopState) (caller : AvatarView) (args : Json) (taskId : String)
    (tool : SettingTool) : Prop :=
  (∃ e, (callTool cfg env s caller args tool.toStr).1 = .error e) ∧
    (callTool cfg env s caller args tool.toStr).2.db.tasks.lookup taskId = s.db.tasks.lookup taskId

/-- A call is granted, and afterwards the columns of the tool hold what was asked for, the others what they
held. -/
def Sets (cfg : Config) (env : Env) (s : LoopState) (caller : AvatarView) (args : Json) (taskId : String)
    (task : TaskRow) (tool : SettingTool) : Prop :=
  (∃ v, (callTool cfg env s caller args tool.toStr).1 = .ok v) ∧
    ∃ t, (callTool cfg env s caller args tool.toStr).2.db.tasks.lookup taskId = some t ∧
      ∀ k : Setting, k.column t = if k.tool = tool then k.asked args task else k.column task

/-- **A call is honoured**: a value of another type makes it fail, and so do the tool's own refusals; every
other call sets what it asks for. -/
structure Honours (cfg : Config) (env : Env) (s : LoopState) (caller : AvatarView) (args : Json)
    (taskId : String) (task : TaskRow) (tool : SettingTool) : Prop where
  illTyped : (∃ k : Setting, k.tool = tool ∧ ¬ k.WellTyped args) → Fails cfg env s caller args taskId tool
  refused : Refused s.db args taskId tool → Fails cfg env s caller args taskId tool
  sets : (∀ k : Setting, k.tool = tool → k.WellTyped args) → ¬ Refused s.db args taskId tool →
    Sets cfg env s caller args taskId task tool

section Settings

variable {cfg : Config} {env : Env} {s s' : LoopState} {caller : AvatarView} {args v : Json}
  {taskId : String} {task : TaskRow} {tool : SettingTool}

/-! ### Which calls are granted -/

/-- A text is read as a change to it. -/
theorem change_eq_text_iff {key text : String} :
    change args key Json.asStr = some (some text) ↔ args.get key = some (.str text) := by
  unfold change
  rcases args.get key with _ | v
  · simp
  · cases v <;> simp [Json.isNull, Json.asStr]

/-- A call that is not refused gives a column. -/
theorem given_of_not_refused (h : ¬ Refused s.db args taskId tool) :
    ∃ k : Setting, k.tool = tool ∧ (args.get k.key).isSome := by
  by_contra hnone
  push Not at hnone
  exact h (.nothing fun k hk => Option.not_isSome_iff_eq_none.mp (hnone k hk))

/-- **Which preferences are granted.** -/
theorem exists_taskSetPreference (env : Env) (hown : OwnTask s.db caller args taskId task)
    (hmay : mayConfigure s.db caller task) :
    (∃ r, handleTaskSetPreference env s caller args = .ok r) ↔
      ¬ Refused s.db args taskId .preference := by
  unfold handleTaskSetPreference
  simp only [bind_eq_ok, requireStr_eq_ok, loadTask_eq_ok, ensureSameStartup_eq_ok, ensure_eq_ok, pure_eq_ok,
    isSome_change]
  constructor
  · rintro ⟨r, _, -, _, hgiven, -⟩ hrefused
    cases hrefused with
    | nothing h =>
        have hbackend := h .preferredBackend rfl
        have hmodel := h .preferredModel rfl
        simp only [Setting.key] at hbackend hmodel
        simp [hbackend, hmodel] at hgiven
    | itself h => cases h
    | unknown h => cases h
  · intro hgranted
    obtain ⟨k, hk, hgiven⟩ := given_of_not_refused hgranted
    refine ⟨_, taskId, hown.hasId, (), ?_, task, hown.row, (), hown.startup, (), hmay, rfl⟩
    cases k with
    | preferredBackend => exact .inl hgiven
    | preferredModel => exact .inr hgiven
    | blockedOn => cases hk
    | deadlineAt => cases hk

/-- A blocker is written unless it dangles. -/
theorem exists_writeBlocker (blocked : Option (Option String)) (now : ℤ)
    (htask : s.db.tasks.lookup taskId = some task) :
    (∃ db, writeBlocker s.db taskId blocked now = some db) ↔
      ∀ blockerId, blocked = some (some blockerId) → (s.db.tasks.lookup blockerId).isSome := by
  unfold writeBlocker
  cases blocked with
  | none => simp
  | some b =>
      have hrefs := s.db.taskRefs taskId task htask
      constructor
      · rintro ⟨db, hdb⟩ blockerId hb
        obtain rfl := Option.some.inj hb
        exact ((lookup_relinkTask hdb).2 task htask).blocker blockerId rfl
      · intro hthere
        unfold Db.relinkTask
        have hnew : ∀ t ∈ s.db.tasks.lookup taskId, ({ t with blockedOn := b, updatedAt := now } :
            TaskRow).RefsIn s.db.startups s.db.agents s.db.tasks := by
          intro t ht
          obtain rfl := Option.some.inj (htask.symm.trans ht)
          exact ⟨hrefs.startup, hrefs.parent, hrefs.assignee, fun u hu => hthere u (congrArg some hu)⟩
        exact ⟨_, dif_pos hnew⟩

/-- **Which blockers and deadlines are granted.** -/
theorem exists_taskSetBlocking (cfg : Config) (env : Env) (hown : OwnTask s.db caller args taskId task)
    (hmay : mayConfigure s.db caller task) :
    (∃ r, handleTaskSetBlocking cfg env s caller args = .ok r) ↔ ¬ Refused s.db args taskId .blocking := by
  have hwrites := exists_writeBlocker (change args "blocked_on" Json.asStr) env.now hown.row
  unfold handleTaskSetBlocking
  simp only [bind_eq_ok, requireStr_eq_ok, loadTask_eq_ok, ensureSameStartup_eq_ok, ensure_eq_ok, require_eq_ok,
    pure_eq_ok, isSome_change]
  constructor
  · rintro ⟨r, id, hid, _, hgiven, _, -, _, -, _, -, _, hself, db, hdb, -⟩ hrefused
    obtain rfl := Option.some.inj (hid.symm.trans hown.hasId)
    cases hrefused with
    | nothing h =>
        have hblocked := h .blockedOn rfl
        have hdeadline := h .deadlineAt rfl
        simp only [Setting.key] at hblocked hdeadline
        simp [hblocked, hdeadline] at hgiven
    | itself _ hblocked => exact hself (change_eq_text_iff.mpr hblocked)
    | unknown _ hblocked hnone =>
        obtain ⟨db₁, hdb₁, -⟩ := Option.map_eq_some_iff.mp hdb
        have hthere := hwrites.mp ⟨db₁, hdb₁⟩ _ (change_eq_text_iff.mpr hblocked)
        simp [hnone] at hthere
  · intro hgranted
    obtain ⟨k, hk, hgiven⟩ := given_of_not_refused hgranted
    have hself : change args "blocked_on" Json.asStr ≠ some (some taskId) :=
      fun hself => hgranted (.itself rfl (change_eq_text_iff.mp hself))
    obtain ⟨db, hdb⟩ := hwrites.mpr fun blockerId hblocked => by
      by_contra hnone
      exact hgranted (.unknown rfl (change_eq_text_iff.mp hblocked) (Option.not_isSome_iff_eq_none.mp hnone))
    refine ⟨_, taskId, hown.hasId, (), ?_, task, hown.row, (), hown.startup, (), hmay, (), hself, _,
      congrArg (Option.map _) hdb, rfl⟩
    cases k with
    | preferredBackend => cases hk
    | preferredModel => cases hk
    | blockedOn => exact .inl hgiven
    | deadlineAt => exact .inr hgiven

/-! ### What a granted call leaves -/

/-- A value of the column's type is read as it is, and `null` as an empty column. -/
theorem ofOption_change {α : Type} {key : String} {read : Json → Option α} {f : α → Json} {old : Option α}
    (h : ∀ v ∈ args.get key, v = .null ∨ ∃ a, v = f a ∧ read v = some a ∧ v.isNull = false) :
    Json.ofOption f ((change args key read).getD old) = (args.get key).getD (Json.ofOption f old) := by
  unfold change
  rcases hget : args.get key with _ | v
  · rfl
  · rcases h v hget with rfl | ⟨a, rfl, hread, hnull⟩
    · rfl
    · simp [hread, hnull, Json.ofOption]

/-- A text column. -/
theorem ofOption_change_text {key : String} {old : Option String}
    (h : ∀ v ∈ args.get key, v = .null ∨ ∃ text, v = .str text) :
    Json.ofOption .str ((change args key Json.asStr).getD old) =
      (args.get key).getD (Json.ofOption .str old) :=
  ofOption_change fun v hv => (h v hv).imp_right fun ⟨text, htext⟩ => ⟨text, htext, by subst htext; rfl,
    by subst htext; rfl⟩

/-- The deadline. -/
theorem ofOption_change_int {key : String} {old : Option ℤ}
    (h : ∀ v ∈ args.get key, v = .null ∨
      ∃ n : ℤ, v = .int n ∧ -0x8000000000000000 ≤ n ∧ n < 0x8000000000000000) :
    Json.ofOption .int ((change args key Json.asI64).getD old) =
      (args.get key).getD (Json.ofOption .int old) := by
  refine ofOption_change fun v hv => (h v hv).imp_right ?_
  rintro ⟨n, rfl, hn⟩
  exact ⟨n, rfl, if_pos hn, rfl⟩

/-- An entry of the audit trail and an event leave the columns. -/
theorem column_noted {startupId : Option String} {kind severity : String} {entry payload : Json}
    (h : s.db.tasks.lookup taskId = some task) :
    ∃ t, ((s.appendAudit env taskId entry).emitSystemEvent env startupId kind payload severity).db.tasks.lookup
      taskId = some t ∧ ∀ k : Setting, k.column t = k.column task := by
  refine ⟨{ task with auditTrail := task.auditTrail ++ [entry], updatedAt := env.now }, ?_, fun k => ?_⟩
  · refine (lookup_updateTask s taskId (fun t => { t with
      auditTrail := t.auditTrail ++ [entry], updatedAt := env.now }) (fun _ => rfl) taskId).trans ?_
    rw [if_pos rfl, h]
    rfl
  · cases k <;> rfl

/-- **What `task_set_preference` does to the row.** -/
theorem columns_taskSetPreference (h : handleTaskSetPreference env s caller args = .ok (v, s'))
    (hown : OwnTask s.db caller args taskId task)
    (htyped : ∀ k : Setting, k.tool = .preference → k.WellTyped args) :
    ∃ t, s'.db.tasks.lookup taskId = some t ∧ ∀ k : Setting, k.column t =
      if k.tool = .preference then k.asked args task else k.column task := by
  unfold handleTaskSetPreference at h
  simp only [bind_eq_ok, requireStr_eq_ok, pure_eq_ok, Prod.mk.injEq] at h
  obtain ⟨id, hid, _, -, _, -, _, -, _, -, -, rfl⟩ := h
  obtain rfl := Option.some.inj (hid.symm.trans hown.hasId)
  have hrow : (s.updateTask id (fun t => { t with
      preferredBackend := (change args "preferred_backend" Json.asStr).getD t.preferredBackend
      preferredModel := (change args "preferred_model" Json.asStr).getD t.preferredModel
      updatedAt := env.now }) fun _ => rfl).db.tasks.lookup id = some { task with
      preferredBackend := (change args "preferred_backend" Json.asStr).getD task.preferredBackend
      preferredModel := (change args "preferred_model" Json.asStr).getD task.preferredModel
      updatedAt := env.now } := by
    rw [lookup_updateTask, if_pos rfl, hown.row]
    rfl
  obtain ⟨t, ht, hcolumns⟩ := column_noted hrow
  refine ⟨t, ht, fun k => (hcolumns k).trans ?_⟩
  cases k with
  | preferredBackend => exact ofOption_change_text (htyped .preferredBackend rfl)
  | preferredModel => exact ofOption_change_text (htyped .preferredModel rfl)
  | blockedOn => rfl
  | deadlineAt => rfl

/-- **What `task_set_blocking` does to the row.** -/
theorem columns_taskSetBlocking (h : handleTaskSetBlocking cfg env s caller args = .ok (v, s'))
    (hown : OwnTask s.db caller args taskId task)
    (htyped : ∀ k : Setting, k.tool = .blocking → k.WellTyped args) :
    ∃ t, s'.db.tasks.lookup taskId = some t ∧ ∀ k : Setting, k.column t =
      if k.tool = .blocking then k.asked args task else k.column task := by
  unfold handleTaskSetBlocking at h
  simp only [bind_eq_ok, requireStr_eq_ok, require_eq_ok, pure_eq_ok, Prod.mk.injEq] at h
  obtain ⟨id, hid, _, -, _, -, _, -, _, -, _, -, db, hdb, -, rfl⟩ := h
  obtain rfl := Option.some.inj (hid.symm.trans hown.hasId)
  have hrow : ({ s with db } : LoopState).db.tasks.lookup id = some _ := lookup_writeBlocking hdb hown.row
  obtain ⟨t, ht, hcolumns⟩ := column_noted hrow
  refine ⟨t, ht, fun k => (hcolumns k).trans ?_⟩
  cases k with
  | preferredBackend => rfl
  | preferredModel => rfl
  | blockedOn => exact ofOption_change_text (htyped .blockedOn rfl)
  | deadlineAt => exact ofOption_change_int (htyped .deadlineAt rfl)

/-! ### Honoured calls -/

/-- The handler of a tool. -/
def SettingTool.handler (cfg : Config) (env : Env) (s : LoopState) (caller : AvatarView) (args : Json) :
    SettingTool → Except McpError (Json × LoopState)
  | .preference => handleTaskSetPreference env s caller args
  | .blocking => handleTaskSetBlocking cfg env s caller args

theorem callTool_toStr : callTool cfg env s caller args tool.toStr =
    settle s (tool.handler cfg env s caller args) := by
  cases tool with
  | preference => rfl
  | blocking => rfl

/-- **Which calls are granted**, whatever the types of their values. -/
theorem exists_handler (cfg : Config) (env : Env) (hown : OwnTask s.db caller args taskId task)
    (hmay : mayConfigure s.db caller task) :
    (∃ r, tool.handler cfg env s caller args = .ok r) ↔ ¬ Refused s.db args taskId tool := by
  cases tool with
  | preference => exact exists_taskSetPreference env hown hmay
  | blocking => exact exists_taskSetBlocking cfg env hown hmay

/-- What a granted call leaves in the columns. -/
theorem columns_handler (h : tool.handler cfg env s caller args = .ok (v, s'))
    (hown : OwnTask s.db caller args taskId task) (htyped : ∀ k : Setting, k.tool = tool → k.WellTyped args) :
    ∃ t, s'.db.tasks.lookup taskId = some t ∧ ∀ k : Setting, k.column t =
      if k.tool = tool then k.asked args task else k.column task := by
  cases tool with
  | preference => exact columns_taskSetPreference h hown htyped
  | blocking => exact columns_taskSetBlocking h hown htyped

/-- **A refused call fails**, and leaves the row. -/
theorem fails_of_refused (hown : OwnTask s.db caller args taskId task) (hmay : mayConfigure s.db caller task)
    (h : Refused s.db args taskId tool) : Fails cfg env s caller args taskId tool := by
  unfold Fails
  rw [callTool_toStr]
  rcases hcall : tool.handler cfg env s caller args with e | r
  · exact ⟨⟨e, rfl⟩, rfl⟩
  · exact absurd h ((exists_handler cfg env hown hmay).mp ⟨r, hcall⟩)

/-- **A call whose values have the types of their columns** sets them, unless it is refused. -/
theorem sets_of_wellTyped (hown : OwnTask s.db caller args taskId task) (hmay : mayConfigure s.db caller task)
    (htyped : ∀ k : Setting, k.tool = tool → k.WellTyped args) (h : ¬ Refused s.db args taskId tool) :
    Sets cfg env s caller args taskId task tool := by
  obtain ⟨⟨v, s'⟩, hcall⟩ := (exists_handler cfg env hown hmay).mpr h
  unfold Sets
  rw [callTool_toStr, hcall]
  exact ⟨⟨v, rfl⟩, columns_handler hcall hown htyped⟩

/-- **Which calls are honoured**: those in which no value has another type, and those that the tool refuses
anyway. -/
theorem honours_iff (cfg : Config) (env : Env) (hown : OwnTask s.db caller args taskId task)
    (hmay : mayConfigure s.db caller task) :
    Honours cfg env s caller args taskId task tool ↔
      (∀ k : Setting, k.tool = tool → k.WellTyped args) ∨ Refused s.db args taskId tool := by
  constructor
  · intro h
    by_cases hrefused : Refused s.db args taskId tool
    · exact .inr hrefused
    · refine .inl fun k hk => ?_
      by_contra htyped
      -- the call is granted, although one of its values has another type
      obtain ⟨e, he⟩ := (h.illTyped ⟨k, hk, htyped⟩).1
      obtain ⟨⟨v, s'⟩, hcall⟩ := (exists_handler cfg env hown hmay).mpr hrefused
      rw [callTool_toStr, hcall] at he
      cases he
  · intro h
    refine ⟨?_, fails_of_refused hown hmay, fun htyped => sets_of_wellTyped hown hmay htyped⟩
    rintro ⟨k, hk, hother⟩
    rcases h with htyped | hrefused
    · exact absurd (htyped k hk) hother
    · exact fails_of_refused hown hmay hrefused

end Settings

/-- The task has a deadline. -/
noncomputable def deadlineState : LoopState :=
  (deadlineCall 5).apply sampleConfig oneTaskState

/-- A deadline that is a text. -/
def textArgs : Json :=
  .obj [("task_id", .str "T_1"), ("deadline_at", .str "2030-01-01")]

/-- No deadline. -/
def clearArgs : Json :=
  .obj [("task_id", .str "T_1"), ("deadline_at", .null)]

/-- The assignee of the task may set it. -/
theorem exists_permitted (args : Json) (hid : args.getStr "task_id" = some "T_1") :
    ∃ caller ∈ deadlineState.world.avatars.lookup "a-2", ∃ task, OwnTask deadlineState.db caller args "T_1" task ∧
      mayConfigure deadlineState.db caller task ∧ task.deadlineAt = some 5 := by
  have hthere : ∃ caller ∈ deadlineState.world.avatars.lookup "a-2",
      ∃ task ∈ deadlineState.db.tasks.lookup "T_1", task.startupId = caller.startupId ∧
        mayConfigure deadlineState.db caller task ∧ task.deadlineAt = some 5 := by
    decide +kernel
  obtain ⟨caller, hcaller, task, htask, hstartup, hmay, hdeadline⟩ := hthere
  exact ⟨caller, hcaller, task, ⟨hid, htask, hstartup⟩, hmay, hdeadline⟩

/-- The assignee clears the deadline. -/
theorem honours_clear : ∃ caller task, OwnTask deadlineState.db caller clearArgs "T_1" task ∧
    Honours sampleConfig (sampleEnv 3 "m") deadlineState caller clearArgs "T_1" task .blocking := by
  obtain ⟨caller, -, task, hown, hmay, -⟩ := exists_permitted clearArgs rfl
  refine ⟨caller, task, hown, (honours_iff sampleConfig (sampleEnv 3 "m") hown hmay).mpr (.inl fun k hk v hv => ?_)⟩
  cases k with
  | preferredBackend => cases hk
  | preferredModel => cases hk
  | blockedOn => cases hv
  | deadlineAt => exact .inl (Option.some.inj hv).symm

/-- **A deadline that is a text** is read as none: the call is granted, and the deadline is gone. -/
theorem not_honours_text : ∃ caller task, OwnTask deadlineState.db caller textArgs "T_1" task ∧
    mayConfigure deadlineState.db caller task ∧ task.deadlineAt = some 5 ∧
      (∃ t ∈ (callTool sampleConfig (sampleEnv 3 "m") deadlineState caller textArgs
        SettingTool.blocking.toStr).2.db.tasks.lookup "T_1", t.deadlineAt = none) ∧
      ¬ Honours sampleConfig (sampleEnv 3 "m") deadlineState caller textArgs "T_1" task .blocking := by
  have hcall : ∀ caller ∈ deadlineState.world.avatars.lookup "a-2",
      (∃ t ∈ (callTool sampleConfig (sampleEnv 3 "m") deadlineState caller textArgs
        SettingTool.blocking.toStr).2.db.tasks.lookup "T_1", t.deadlineAt = none) ∧
      (callTool sampleConfig (sampleEnv 3 "m") deadlineState caller textArgs
        SettingTool.blocking.toStr).1.toOption.isSome := by
    decide +kernel
  obtain ⟨caller, hcaller, task, hown, hmay, hdeadline⟩ := exists_permitted textArgs rfl
  obtain ⟨hgone, hok⟩ := hcall caller hcaller
  refine ⟨caller, task, hown, hmay, hdeadline, hgone, fun h => ?_⟩
  have hother : ¬ Setting.deadlineAt.WellTyped textArgs := by
    intro htyped
    rcases htyped _ rfl with hnull | ⟨n, hint, -⟩
    · cases hnull
    · cases hint
  obtain ⟨e, he⟩ := (h.illTyped ⟨.deadlineAt, rfl, hother⟩).1
  rw [he] at hok
  cases hok

end Cliptown.Task
