import Cliptown.Task.ConsoleBoard

/-!
# The admin endpoint

* `CreateTaskBody`, `createTask` — the endpoint that creates tasks for operators.
* `createTask_board` — a granted request is one new card: queued with an assignee, or proposed without.
-/

namespace Cliptown.Task

open Cliptown.Lib

/-- Source: `api_tasks.rs` `CreateTaskBody` -/
structure CreateTaskBody where
  startupId : String
  title : String
  description : String
  assigneeAgentId : Option String
  parentId : Option String
  requiredRoom : Option String
  preferredBackend : Option String
  preferredModel : Option String
  costEstimateUsd : Option ℚ
  blockedOn : Option String
  deadlineAt : Option ℤ

/-- A status code and a body. -/
abbrev Response := ℕ × Json

/-- A refused request. -/
def refusal (code : ℕ) (error : String) : Response :=
  (code, .obj [("error", .str error)])

/-- The assignee exists and belongs to the startup. -/
def checkBodyAssignee (db : Db) (body : CreateTaskBody) : Except Response Unit :=
  match body.assigneeAgentId with
  | some assignee => do
      let agent ← require (db.agents.lookup assignee) (refusal 404 "unknown_assignee")
      ensure (agent.startupId = body.startupId) (refusal 400 "cross_startup")
  | none => .ok ()

/-- Queued if somebody is there to do it. -/
def CreateTaskBody.status (body : CreateTaskBody) : TaskStatus :=
  if body.assigneeAgentId.isSome then .queued else .proposed

/-- The row that is inserted. -/
def CreateTaskBody.row (body : CreateTaskBody) (now : ℤ) : TaskRow where
  __ := newTask body.startupId body.parentId body.title body.description body.status
    body.assigneeAgentId body.requiredRoom now
  preferredBackend := body.preferredBackend
  preferredModel := body.preferredModel
  costEstimateUsd := body.costEstimateUsd
  blockedOn := body.blockedOn
  deadlineAt := body.deadlineAt

/-- The identity is what the token of the request stands for, if it is valid. Source: `api_tasks.rs`
`create_task` -/
def createTask (cfg : Config) (env : Env) (s : LoopState) (identity : Option OperatorIdentity)
    (body : CreateTaskBody) : Except Response (Response × LoopState) := do
  let identity ← require identity (refusal 401 "unauthorized")
  ensure (identity.role.atLeast .manager) (refusal 403 "forbidden")
  ensure (¬ (blank body.title ∨ blank body.description))
    (refusal 400 "title and description required")
  ensure (∀ c ∈ body.costEstimateUsd, 0 ≤ c) (refusal 400 "bad_cost_estimate")
  let _ ← require (s.db.startups.lookup body.startupId) (refusal 404 "unknown_startup")
  checkBodyAssignee s.db body
  let taskId := "T_" ++ env.newId
  let db ← require (s.db.insertTask taskId (body.row env.now))
    (500, .obj [("error", .str "sql"), ("detail", .str cfg.sqlText)])
  let s := { s with db }
  return ((201, .obj [("id", .str taskId), ("status", .str body.status.toStr),
      ("startup_id", .str body.startupId)]),
    s.appendAudit env taskId (.obj [("actor", .str "admin_api"), ("kind", .str "task_created"),
      ("operator_id", .str identity.id)]))

section Create

variable {cfg : Config} {env : Env} {s s' : LoopState} {identity : Option OperatorIdentity}
  {body : CreateTaskBody} {r : Response}

/-- **A granted request** is one new card, which has an assignee if it is queued. -/
theorem createTask_board (h : createTask cfg env s identity body = .ok (r, s')) :
    ∃ id c, Board.Step s.board (.create id c) s'.board ∧
      (c.status = .queued → c.assignee.isSome) := by
  unfold createTask at h
  simp only [bind_eq_ok, require_eq_ok, pure_eq_ok, Prod.mk.injEq] at h
  obtain ⟨_, -, _, -, _, -, _, -, _, -, _, -, db, hdb, -, rfl⟩ := h
  obtain ⟨hnone, hlinked, hboard⟩ := board_insertTask hdb
  have hstatus : body.status = .proposed ∨ (body.status = .queued ∧ body.assigneeAgentId.isSome) := by
    unfold CreateTaskBody.status
    split
    · exact .inr ⟨rfl, ‹_›⟩
    · exact .inl rfl
  refine ⟨"T_" ++ env.newId, (body.row env.now).card, ?_, fun hqueued => ?_⟩
  · rw [board_appendAudit, hboard]
    exact .create hnone (hstatus.imp_right And.left) rfl hlinked
  · rcases hstatus with hproposed | hqueued'
    · exact absurd (hproposed.symm.trans hqueued) (by simp)
    · exact hqueued'.2

end Create

end Cliptown.Task
