import Cliptown.Task.Mcp

/-!
# The console

The commands of the operators. A command answers one frame; a refused command leaves the tables as they
are, except that the attempt to lock may have swept an expired lock.

* `ConsoleInbound` — what is sent.
* `applyStatusOnlyTransition`, `withLock` — what the commands about tasks share.
* `operatorForceAccept`, `operatorForceFail`, … — the commands.
* `consoleCommand`, `dispatchConsole` — one command.
* `operatorMove_eq_ok`, … — what a command that is carried out has checked and written.
-/

namespace Cliptown.Task

open Cliptown.Lib Cliptown.Town Cliptown.World Cliptown.Console

/-! ### Commands -/

/-- A command, after it has been read. Source: `ws_messages.rs` `ConsoleInbound` -/
inductive ConsoleInbound where
  | hello
  | operatorMove (targetX targetY : ℤ)
  | operatorPossess (startupId : String)
  | operatorUnpossess
  | operatorDirective (toAgentId body : String)
  | operatorAcceptProposal (taskId assigneeAgentId : String) (requiredRoom : Option String)
  | operatorRejectProposal (taskId reason : String)
  | operatorForceAccept (taskId : String)
  | operatorForceFail (taskId note : String)
  | operatorRecheckBackends
  | operatorCreate (name role : String)
  | operatorRevoke (operatorId : String)
  | operatorSetRole (operatorId role : String)
  | agentSetPeerReviewer (agentId : String) (isPeerReviewer : Bool)
  | startupSetAutoSteal (startupId : String) (enabled : Bool) (afterSecs : Option ℤ)
  | startupSetAutoRecovery (startupId : String) (enabled : Bool) (maxAttempts : Option ℤ)
  | presenceHeartbeat
  | skillAttach (startupId agentId skillId : String)
  | skillDetach (startupId agentId skillId : String)
  | skillUpsertOperator (startupId name contentMd : String)
  | skillDeleteOperator (startupId skillId : String)
  | skillSetGlobal (skillId : String) (isGlobal : Bool)
  | skillRevertOperator (startupId skillId : String) (revSeq : ℤ)
  /-- `operator_list` and `skill_list_revisions_operator`, which only read. -/
  | other (kind : String) (payload : Json)

/-! ### Replies -/

/-- The reply to a command that was carried out. -/
def okReply (kind : String) (rest : List (String × Json)) : Json :=
  .obj ([("type", .str "ok"), ("kind", .str kind)] ++ rest)

/-- The reply to a command that was refused. -/
def errorReply (reason : String) (rest : List (String × Json)) : Json :=
  .obj ([("type", .str "error"), ("reason", .str reason)] ++ rest)

/-- Source: `cmd_console.rs` `forbidden` -/
def forbidden : Json := errorReply "forbidden" []

/-- A failed statement. -/
def sqlError (cfg : Config) : Json :=
  errorReply "sql" [("detail", .str cfg.sqlText)]

/-- The gate of the commands that change something. -/
def checkRole (identity : OperatorIdentity) (role : OperatorRole) : Except Json Unit :=
  ensure (identity.role.atLeast role) forbidden

/-- The characters that `str::trim` drops. -/
def isWhitespace (c : Char) : Bool :=
  (9 ≤ c.toNat ∧ c.toNat ≤ 13) ∨ (8192 ≤ c.toNat ∧ c.toNat ≤ 8202) ∨
    c.toNat ∈ [32, 133, 160, 5760, 8232, 8233, 8239, 8287, 12288]

/-- Nothing is left after `str::trim`. -/
def blank (s : String) : Bool :=
  s.toList.all isWhitespace

section Commands

variable (cfg : Config) (env : Env) (s : LoopState) (identity : OperatorIdentity)

/-! ### The operator's avatar -/

/-- Source: `cmd_console.rs` `dispatch`, `OperatorMove` -/
def operatorMove (targetX targetY : ℤ) : Except Json (Json × LoopState) := do
  let _ ← require (s.world.avatars.lookup operatorAvatarId) (errorReply "not_possessing" [])
  return (okReply "operator_move" [], { s with
    world := s.world.setAvatar operatorAvatarId fun a => { a with
      targetPos := some (targetX, targetY) } })

/-- The avatar that possesses a startup's town: in the lobby, idle. -/
def operatorAvatar (startupId : String) : AvatarView where
  agentId := operatorAvatarId
  startupId := startupId
  role := "operator"
  currentPos := (20, 5)
  targetPos := none
  roomId := "lobby"
  status := .idle

/-- Source: `cmd_console.rs` `dispatch`, `OperatorPossess` -/
def operatorPossess (startupId : String) : Except Json (Json × LoopState) :=
  return (okReply "operator_possess" [("startup_id", .str startupId)],
    { s with
      world := ⟨s.world.avatars.insert operatorAvatarId (operatorAvatar startupId)⟩ })

/-- Source: `cmd_console.rs` `dispatch`, `OperatorUnpossess` -/
def operatorUnpossess : Except Json (Json × LoopState) :=
  return (okReply "operator_unpossess" [],
    { s with world := ⟨s.world.avatars.erase operatorAvatarId⟩ })

/-! ### Directives and proposals -/

/-- Source: `cmd_console.rs` `dispatch`, `OperatorDirective` -/
def operatorDirective (toAgentId body : String) : Except Json (Json × LoopState) := do
  checkRole identity .manager
  ensure (body.length ≤ maxBodyLength) (errorReply "body_too_long" [])
  let recipient ← require (s.db.agents.lookup toAgentId) (errorReply "unknown_recipient" [])
  let db ← require (s.db.insertMessage env.newId
    { startupId := recipient.startupId, roomId := none, authorId := "operator", body
      kind := "directive", ts := env.now }) (sqlError cfg)
  let s := { s with db }
  return (okReply "operator_directive" [("message_id", .str env.newId)],
    s.push env toAgentId (.obj [("type", .str "directive"), ("v", .int 1),
      ("from_agent_id", .str "operator"), ("body", .str body), ("message_id", .str env.newId)]))

/-- Source: `cmd_console.rs` `dispatch`, `OperatorAcceptProposal` -/
def operatorAcceptProposal (taskId assignee : String) (requiredRoom : Option String) :
    Except Json (Json × LoopState) := do
  checkRole identity .manager
  let task ← require (s.db.tasks.lookup taskId) (sqlError cfg)
  let _ ← (next task.status (.acceptProposal .operator)).mapError
    fun _ => errorReply "illegal_transition" []
  let agent ← require (s.db.agents.lookup assignee)
    (errorReply "unknown_assignee" [("detail", .str "no such agent")])
  ensure (agent.startupId = task.startupId)
    (errorReply "cross_startup" [("detail", .str "assignee in different startup")])
  let db ← require (s.db.relinkTask taskId fun t => { t with
    status := .queued, assigneeAgentId := some assignee, requiredRoom, updatedAt := env.now })
    (sqlError cfg)
  let s := { s with db }
  return (okReply "operator_accept_proposal" [("task_id", .str taskId)],
    s.appendAudit env taskId (.obj [("actor", .str "operator"), ("operator_id", .str identity.id),
      ("kind", .str "accept_proposal")]))

/-- Source: `cmd_console.rs` `apply_status_only_transition` -/
def applyStatusOnlyTransition (taskId : String) (transition : Transition) (auditKind : String) :
    Except Json (Json × LoopState) := do
  let task ← require (s.db.tasks.lookup taskId) (sqlError cfg)
  let newStatus ← (next task.status transition).mapError
    fun reason => errorReply "illegal_transition" [("detail", .str reason)]
  return (okReply auditKind [("task_id", .str taskId), ("new_status", .str newStatus.toStr)],
    s.setStatus env taskId newStatus)

/-- A status change with the audit entry of the operator, which is written after success only. -/
def auditedTransition (taskId : String) (transition : Transition) (auditKind entryKind : String)
    (rest : List (String × Json)) : Except Json (Json × LoopState) := do
  let (reply, s) ← applyStatusOnlyTransition cfg env s taskId transition auditKind
  return (reply, s.appendAudit env taskId (.obj ([("actor", .str "operator"),
    ("operator_id", .str identity.id), ("kind", .str entryKind)] ++ rest)))

/-- Source: `cmd_console.rs` `dispatch`, `OperatorRejectProposal` -/
def operatorRejectProposal (taskId reason : String) : Except Json (Json × LoopState) := do
  checkRole identity .manager
  auditedTransition cfg env s identity taskId (.rejectProposal .operator) "operator_reject_proposal"
    "reject_proposal" [("reason", .str reason)]

/-! ### Commands under a lock -/

/-- Another lock table. -/
def setLocks (locks : LockTable) : LoopState :=
  { s with db := { s.db with actionLocks := locks } }

/-- Run a command between `try_acquire` and `release`: refused while another operator holds the key,
released in any case afterwards. -/
def withLock (lockKey : String) (act : LoopState → Except Json (Json × LoopState)) :
    Except Json Json × LoopState :=
  let acquired := tryAcquire s.db.operatorNames s.db.actionLocks lockKey identity.id defaultTtlSecs
    env.now
  let s := setLocks s acquired.1
  match acquired.2 with
  | .error (.conflict c) => (.error (errorReply "locked_by" [("lock_key", .str c.lockKey),
      ("operator_name", .str c.operatorName), ("expires_at", .int c.expiresAt)]), s)
  | .error .sql => (.error (sqlError cfg), s)
  | .ok _ =>
      let (reply, s) := settle s (act s)
      (reply, setLocks s (release s.db.actionLocks lockKey).1)

/-- The lock of a command on a task. -/
def taskLockKey (taskId action : String) : String :=
  "task:" ++ taskId ++ ":" ++ action

/-- Source: `cmd_console.rs` `dispatch`, `OperatorForceAccept` -/
def operatorForceAccept (taskId : String) : Except Json Json × LoopState :=
  if identity.role.atLeast .manager then
    withLock cfg env s identity (taskLockKey taskId "force_accept") fun s =>
      auditedTransition cfg env s identity taskId .operatorForceAccept "operator_force_accept"
        "force_accept" []
  else (.error forbidden, s)

/-- Source: `cmd_console.rs` `dispatch`, `OperatorForceFail` -/
def operatorForceFail (taskId note : String) : Except Json Json × LoopState :=
  if identity.role.atLeast .manager then
    withLock cfg env s identity (taskLockKey taskId "force_fail") fun s =>
      auditedTransition cfg env s identity taskId .operatorForceFail "operator_force_fail"
        "force_fail" [("note", .str note)]
  else (.error forbidden, s)

/-! ### Operators and settings -/

/-- The row of a new operator: the token is stored as its hash only. -/
def newOperator (name : String) (role : OperatorRole) (token : String) : Operator where
  name := name
  role := role
  token := none
  tokenHash := some (cfg.hashToken token)

/-- Source: `cmd_console.rs` `dispatch`, `OperatorCreate` -/
def operatorCreate (name role : String) : Except Json (Json × LoopState) := do
  checkRole identity .admin
  let parsed ← require (OperatorRole.ofStr role) (errorReply "bad_role" [("detail", .str role)])
  ensure (¬ blank name) (errorReply "bad_name" [])
  let newId := "op_" ++ env.newId
  let newToken := "opt_" ++ env.newToken
  ensure (s.db.operators.lookup newId = none ∧ ∀ e ∈ s.db.operators.entries, e.2.name ≠ name)
    (errorReply "name_taken" [])
  return (okReply "operator_create" [("id", .str newId), ("name", .str name), ("role", .str role),
    ("token", .str newToken)],
    { s with db := { s.db with
      operators := s.db.operators.insert newId (newOperator cfg name parsed newToken) } })

/-- `DELETE FROM operators WHERE id = ?`: the operator's locks go with it, and its revisions lose their
author. -/
def deleteOperator (operatorId : String) : Except Json (Json × LoopState) := do
  let _ ← require (s.db.operators.lookup operatorId) (errorReply "not_found" [])
  return (okReply "operator_revoke" [("id", .str operatorId)],
    { s with db := { s.db with
      operators := s.db.operators.erase operatorId
      actionLocks := s.db.actionLocks.deleteWhere fun _ row => decide (row.operatorId = operatorId)
      skills := s.db.skills.disown operatorId } })

/-- Source: `cmd_console.rs` `dispatch`, `OperatorRevoke` -/
def operatorRevoke (operatorId : String) : Except Json Json × LoopState :=
  if identity.role.atLeast .admin then
    if operatorId = identity.id then (.error (errorReply "cannot_revoke_self" []), s)
    else withLock cfg env s identity ("operator:" ++ operatorId ++ ":revoke") fun s =>
      deleteOperator s operatorId
  else (.error forbidden, s)

/-- Source: `cmd_console.rs` `dispatch`, `OperatorSetRole` -/
def operatorSetRole (operatorId role : String) : Except Json (Json × LoopState) := do
  checkRole identity .admin
  let parsed ← require (OperatorRole.ofStr role) (errorReply "bad_role" [("detail", .str role)])
  ensure (¬ (operatorId = identity.id ∧ role ≠ identity.role.asStr))
    (errorReply "cannot_demote_self" [])
  let _ ← require (s.db.operators.lookup operatorId) (errorReply "not_found" [])
  return (okReply "operator_set_role" [("id", .str operatorId), ("role", .str role)],
    { s with db := { s.db with
      operators := s.db.operators.modify operatorId fun o => { o with role := parsed } } })

/-- Source: `cmd_console.rs` `dispatch`, `AgentSetPeerReviewer` -/
def agentSetPeerReviewer (agentId : String) (isPeerReviewer : Bool) :
    Except Json (Json × LoopState) := do
  checkRole identity .admin
  let _ ← require (s.db.agents.lookup agentId) (errorReply "not_found" [])
  return (okReply "agent_set_peer_reviewer" [("agent_id", .str agentId),
    ("is_peer_reviewer", .bool isPeerReviewer)],
    { s with db := s.db.setPeerReviewer agentId isPeerReviewer })

/-- An optional setting is at least one. -/
def checkSetting (value : Option ℤ) (reason : String) : Except Json Unit :=
  ensure (∀ n ∈ value, 1 ≤ n) (errorReply reason [])

/-- Source: `cmd_console.rs` `dispatch`, `StartupSetAutoSteal` -/
def startupSetAutoSteal (startupId : String) (enabled : Bool) (afterSecs : Option ℤ) :
    Except Json (Json × LoopState) := do
  checkRole identity .admin
  checkSetting afterSecs "bad_after_secs"
  let _ ← require (s.db.startups.lookup startupId) (errorReply "not_found" [])
  return (okReply "startup_set_auto_steal" [("startup_id", .str startupId), ("enabled", .bool enabled),
    ("after_secs", Json.ofOption .int afterSecs)],
    { s with db := s.db.updateStartup startupId fun x => { x with
      autoStealEnabled := enabled, autoStealAfterSecs := afterSecs.getD x.autoStealAfterSecs } })

/-- Source: `cmd_console.rs` `dispatch`, `StartupSetAutoRecovery` -/
def startupSetAutoRecovery (startupId : String) (enabled : Bool) (maxAttempts : Option ℤ) :
    Except Json (Json × LoopState) := do
  checkRole identity .admin
  checkSetting maxAttempts "bad_max_attempts"
  let _ ← require (s.db.startups.lookup startupId) (errorReply "not_found" [])
  return (okReply "startup_set_auto_recovery" [("startup_id", .str startupId),
    ("enabled", .bool enabled), ("max_attempts", Json.ofOption .int maxAttempts)],
    { s with db := s.db.updateStartup startupId fun x => { x with
      autoRecoveryEnabled := enabled
      autoRecoveryMaxAttempts := maxAttempts.getD x.autoRecoveryMaxAttempts } })

/-! ### Skills -/

/-- What a command answers when a function on skills refuses. -/
def skillErrorReply : SkillError → Json
  | .badName => errorReply "bad_name" []
  | .oversizeContent => errorReply "oversize_content" []
  | .notFound => errorReply "not_found" []
  | .crossStartup => errorReply "cross_startup" []
  | e => errorReply "sql" [("detail", .str e.debug)]

/-- Source: `cmd_console.rs` `dispatch`, `SkillAttach` -/
def skillAttach (startupId agentId skillId : String) : Except Json (Json × LoopState) := do
  checkRole identity .manager
  let db ← (attachSkill cfg env s.db startupId agentId skillId).mapError skillErrorReply
  return (okReply "skill_attach" [], { s with db })

/-- Source: `cmd_console.rs` `dispatch`, `SkillDetach` -/
def skillDetach (startupId agentId skillId : String) : Except Json (Json × LoopState) := do
  checkRole identity .manager
  let db ← (detachSkill s.db startupId agentId skillId).mapError skillErrorReply
  return (okReply "skill_detach" [], { s with db })

/-- The id of the skill that the message carries is ignored. Source: `cmd_console.rs` `dispatch`,
`SkillUpsertOperator` -/
def skillUpsertOperator (startupId name contentMd : String) : Except Json (Json × LoopState) := do
  checkRole identity .manager
  let ((id, _), db) ← (upsertWithAuthor cfg env s.db startupId name contentMd
    (.operator identity.id)).mapError skillErrorReply
  return (okReply "skill_upsert" [("skill_id", .str id)], { s with db })

/-- Source: `cmd_console.rs` `dispatch`, `SkillDeleteOperator` -/
def skillDeleteOperator (startupId skillId : String) : Except Json (Json × LoopState) := do
  checkRole identity .manager
  let db ← (deleteSkill s.db startupId skillId).mapError skillErrorReply
  return (okReply "skill_delete" [], { s with db })

/-- Source: `cmd_console.rs` `dispatch`, `SkillSetGlobal` -/
def skillSetGlobal (skillId : String) (isGlobal : Bool) : Except Json (Json × LoopState) := do
  checkRole identity .admin
  let db ← (setGlobal env s.db skillId isGlobal).mapError skillErrorReply
  return (okReply "skill_set_global" [("skill_id", .str skillId), ("is_global", .bool isGlobal)],
    { s with db })

/-- Source: `cmd_console.rs` `dispatch`, `SkillRevertOperator` -/
def skillRevertOperator (startupId skillId : String) (revSeq : ℤ) :
    Except Json (Json × LoopState) := do
  checkRole identity .manager
  let (contentMd, db) ← (revertToRevision env s.db startupId skillId revSeq
    (.operator identity.id)).mapError skillErrorReply
  return (okReply "skill_reverted" [("skill_id", .str skillId), ("rev_seq", .int revSeq),
    ("len", .int contentMd.utf8ByteSize)], { s with db })

/-! ### One command -/

/-- Source: `cmd_console.rs` `dispatch`, the `match` -/
def consoleCommand (cmd : ConsoleInbound) : Except Json Json × LoopState :=
  match cmd with
  | .hello => (.ok (okReply "hello" []), s)
  | .operatorMove x y => settle s (operatorMove s x y)
  | .operatorPossess startupId => settle s (operatorPossess s startupId)
  | .operatorUnpossess => settle s (operatorUnpossess s)
  | .operatorDirective toAgentId body =>
      settle s (operatorDirective cfg env s identity toAgentId body)
  | .operatorAcceptProposal taskId assignee room =>
      settle s (operatorAcceptProposal cfg env s identity taskId assignee room)
  | .operatorRejectProposal taskId reason =>
      settle s (operatorRejectProposal cfg env s identity taskId reason)
  | .operatorForceAccept taskId => operatorForceAccept cfg env s identity taskId
  | .operatorForceFail taskId note => operatorForceFail cfg env s identity taskId note
  | .operatorRecheckBackends => (.ok (okReply "operator_recheck_backends"
      [("note", .str "use POST /api/backend-catalog/recheck")]), s)
  | .operatorCreate name role => settle s (operatorCreate cfg env s identity name role)
  | .operatorRevoke operatorId => operatorRevoke cfg env s identity operatorId
  | .operatorSetRole operatorId role => settle s (operatorSetRole s identity operatorId role)
  | .agentSetPeerReviewer agentId v => settle s (agentSetPeerReviewer s identity agentId v)
  | .startupSetAutoSteal startupId enabled after =>
      settle s (startupSetAutoSteal s identity startupId enabled after)
  | .startupSetAutoRecovery startupId enabled attempts =>
      settle s (startupSetAutoRecovery s identity startupId enabled attempts)
  | .presenceHeartbeat => (.ok (okReply "presence_heartbeat" []), s)
  | .skillAttach startupId agentId skillId =>
      settle s (skillAttach cfg env s identity startupId agentId skillId)
  | .skillDetach startupId agentId skillId =>
      settle s (skillDetach s identity startupId agentId skillId)
  | .skillUpsertOperator startupId name contentMd =>
      settle s (skillUpsertOperator cfg env s identity startupId name contentMd)
  | .skillDeleteOperator startupId skillId =>
      settle s (skillDeleteOperator s identity startupId skillId)
  | .skillSetGlobal skillId isGlobal => settle s (skillSetGlobal env s identity skillId isGlobal)
  | .skillRevertOperator startupId skillId revSeq =>
      settle s (skillRevertOperator env s identity startupId skillId revSeq)
  | .other kind payload =>
      ((env.reply kind payload).mapError fun e => errorReply e.1 [("detail", .str e.2)], s)

end Commands

/-- One command of an operator. Source: `cmd_console.rs` `dispatch` -/
def dispatchConsole (cfg : Config) (env : Env) (s : LoopState) (identity : OperatorIdentity)
    (cmd : ConsoleInbound) : Json × LoopState :=
  match consoleCommand cfg env s identity cmd with
  | (.ok reply, s) => (reply, s)
  | (.error reply, s) => (reply, s)

/-! ### What a command that is carried out has checked and written -/

section Specs

variable {cfg : Config} {env : Env} {s s' : LoopState} {identity : OperatorIdentity} {v : Json}

theorem checkRole_eq_ok {role : OperatorRole} {u : Unit} :
    checkRole identity role = .ok u ↔ identity.role.atLeast role :=
  ensure_eq_ok

theorem operatorMove_eq_ok {x y : ℤ} (h : operatorMove s x y = .ok (v, s')) :
    s' = { s with world := s.world.setAvatar operatorAvatarId fun a => { a with
      targetPos := some (x, y) } } := by
  unfold operatorMove at h
  simp only [bind_eq_ok, pure_eq_ok, Prod.mk.injEq] at h
  obtain ⟨_, -, -, rfl⟩ := h
  rfl

theorem operatorDirective_eq_ok {toAgentId body : String}
    (h : operatorDirective cfg env s identity toAgentId body = .ok (v, s')) :
    ∃ db message frame, s.db.insertMessage env.newId message = some db ∧
      frame.getStr "type" = some "directive" ∧
      s' = LoopState.push env { s with db := db } toAgentId frame := by
  unfold operatorDirective at h
  simp only [bind_eq_ok, require_eq_ok, pure_eq_ok, Prod.mk.injEq] at h
  obtain ⟨_, -, _, -, recipient, -, db, hdb, -, rfl⟩ := h
  exact ⟨db, _, _, hdb, rfl, rfl⟩

theorem operatorAcceptProposal_eq_ok {taskId assignee : String} {room : Option String}
    (h : operatorAcceptProposal cfg env s identity taskId assignee room = .ok (v, s')) :
    ∃ task newStatus agent db, s.db.tasks.lookup taskId = some task ∧
      next task.status (.acceptProposal .operator) = .ok newStatus ∧
      s.db.agents.lookup assignee = some agent ∧ agent.startupId = task.startupId ∧
      s.db.relinkTask taskId (fun t => { t with
        status := .queued, assigneeAgentId := some assignee, requiredRoom := room
        updatedAt := env.now }) = some db ∧
      s' = LoopState.appendAudit env { s with db := db } taskId (.obj [("actor", .str "operator"),
        ("operator_id", .str identity.id), ("kind", .str "accept_proposal")]) := by
  unfold operatorAcceptProposal at h
  simp only [bind_eq_ok, require_eq_ok, ensure_eq_ok, mapError_eq_ok, pure_eq_ok, Prod.mk.injEq] at h
  obtain ⟨_, -, task, htask, newStatus, hnext, agent, hagent, _, hstartup, db, hdb, -, rfl⟩ := h
  exact ⟨task, newStatus, agent, db, htask, hnext, hagent, hstartup, hdb, rfl⟩

theorem auditedTransition_eq_ok {taskId auditKind entryKind : String} {transition : Transition}
    {rest : List (String × Json)}
    (h : auditedTransition cfg env s identity taskId transition auditKind entryKind rest =
      .ok (v, s')) :
    ∃ task newStatus entry, s.db.tasks.lookup taskId = some task ∧
      next task.status transition = .ok newStatus ∧ entry.getStr "kind" = some entryKind ∧
      s' = (s.setStatus env taskId newStatus).appendAudit env taskId entry := by
  unfold auditedTransition applyStatusOnlyTransition at h
  simp only [bind_eq_ok, require_eq_ok, mapError_eq_ok, pure_eq_ok] at h
  obtain ⟨_, ⟨task, htask, newStatus, hnext, rfl⟩, heq⟩ := h
  obtain ⟨-, rfl⟩ := Prod.mk.inj heq
  exact ⟨task, newStatus, _, htask, hnext, rfl, rfl⟩

theorem operatorRejectProposal_eq_ok {taskId reason : String}
    (h : operatorRejectProposal cfg env s identity taskId reason = .ok (v, s')) :
    auditedTransition cfg env s identity taskId (.rejectProposal .operator)
      "operator_reject_proposal" "reject_proposal" [("reason", .str reason)] = .ok (v, s') := by
  unfold operatorRejectProposal at h
  simp only [bind_eq_ok] at h
  obtain ⟨_, -, h⟩ := h
  exact h

theorem operatorCreate_eq_ok {name role : String}
    (h : operatorCreate cfg env s identity name role = .ok (v, s')) :
    ∃ parsed, s.db.operators.lookup ("op_" ++ env.newId) = none ∧
      s' = { s with db := { s.db with
        operators := s.db.operators.insert ("op_" ++ env.newId)
          (newOperator cfg name parsed ("opt_" ++ env.newToken)) } } := by
  unfold operatorCreate at h
  simp only [bind_eq_ok, ensure_eq_ok, pure_eq_ok, Prod.mk.injEq] at h
  obtain ⟨_, -, parsed, -, _, -, _, ⟨hnew, -⟩, -, rfl⟩ := h
  exact ⟨parsed, hnew, rfl⟩

theorem deleteOperator_eq_ok {operatorId : String} (h : deleteOperator s operatorId = .ok (v, s')) :
    (s.db.operators.lookup operatorId).isSome ∧
      s' = { s with db := { s.db with
        operators := s.db.operators.erase operatorId
        actionLocks := s.db.actionLocks.deleteWhere fun _ row => decide (row.operatorId = operatorId)
        skills := s.db.skills.disown operatorId } } := by
  unfold deleteOperator at h
  simp only [bind_eq_ok, require_eq_ok, pure_eq_ok, Prod.mk.injEq] at h
  obtain ⟨row, hrow, -, rfl⟩ := h
  exact ⟨Option.isSome_of_mem hrow, rfl⟩

theorem operatorSetRole_eq_ok {operatorId role : String}
    (h : operatorSetRole s identity operatorId role = .ok (v, s')) :
    ∃ parsed, identity.role.atLeast .admin ∧ OperatorRole.ofStr role = some parsed ∧
      ¬ (operatorId = identity.id ∧ role ≠ identity.role.asStr) ∧
      (s.db.operators.lookup operatorId).isSome ∧
      s' = { s with db := { s.db with
        operators := s.db.operators.modify operatorId fun o => { o with role := parsed } } } := by
  unfold operatorSetRole at h
  simp only [bind_eq_ok, checkRole_eq_ok, ensure_eq_ok, require_eq_ok, pure_eq_ok, Prod.mk.injEq] at h
  obtain ⟨_, hrole, parsed, hparsed, _, hself, row, hrow, -, rfl⟩ := h
  exact ⟨parsed, hrole, hparsed, hself, Option.isSome_of_mem hrow, rfl⟩

theorem agentSetPeerReviewer_eq_ok {agentId : String} {flag : Bool}
    (h : agentSetPeerReviewer s identity agentId flag = .ok (v, s')) :
    s' = { s with db := s.db.setPeerReviewer agentId flag } := by
  unfold agentSetPeerReviewer at h
  simp only [bind_eq_ok, pure_eq_ok, Prod.mk.injEq] at h
  obtain ⟨_, -, _, -, -, rfl⟩ := h
  rfl

theorem startupSetAutoSteal_eq_ok {startupId : String} {enabled : Bool} {after : Option ℤ}
    (h : startupSetAutoSteal s identity startupId enabled after = .ok (v, s')) :
    ∃ f, s' = { s with db := s.db.updateStartup startupId f } := by
  unfold startupSetAutoSteal at h
  simp only [bind_eq_ok, pure_eq_ok, Prod.mk.injEq] at h
  obtain ⟨_, -, _, -, _, -, -, rfl⟩ := h
  exact ⟨_, rfl⟩

theorem startupSetAutoRecovery_eq_ok {startupId : String} {enabled : Bool} {attempts : Option ℤ}
    (h : startupSetAutoRecovery s identity startupId enabled attempts = .ok (v, s')) :
    ∃ f, s' = { s with db := s.db.updateStartup startupId f } := by
  unfold startupSetAutoRecovery at h
  simp only [bind_eq_ok, pure_eq_ok, Prod.mk.injEq] at h
  obtain ⟨_, -, _, -, _, -, -, rfl⟩ := h
  exact ⟨_, rfl⟩

theorem state_dispatchConsole (cmd : ConsoleInbound) :
    (dispatchConsole cfg env s identity cmd).2 = (consoleCommand cfg env s identity cmd).2 := by
  unfold dispatchConsole
  rcases consoleCommand cfg env s identity cmd with ⟨_ | _, s'⟩
  · rfl
  · rfl

end Specs

end Cliptown.Task
