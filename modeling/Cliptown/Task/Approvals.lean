import Cliptown.Task.Recasts
import Cliptown.Task.StatusChanges

/-!
# Who approves a task

`task_accept` asks for the manager of the task, which is the assignee of its parent, or the manager of its
assignee when it has no parent. It does not ask for somebody else than the assignee, and nothing keeps the two
apart when a task is given to an agent.

* `LoopEvent.AcceptsOwn` — an agent approves its own task.
* `MayGive`, `LoopEvent.KeepsApart` — a task is not given to the assignee of its parent, nor over a subtask
  of the same agent.
* `Apart` — no open task has the assignee of its parent; `Apart.of_face`, `Apart.give`, `Apart.create` — what
  keeps it so.
* `not_acceptsOwn` — while requests keep them apart, nobody approves its own task.
-/

namespace Cliptown.Task

open Cliptown.Lib Cliptown.Town Cliptown.World Cliptown.Console

/-! ### Requests -/

/-- An agent is granted the approval of a task that is its own. -/
def LoopEvent.AcceptsOwn (s : LoopState) (taskId : String) : LoopEvent → Prop
  | .mcp env key msg => ∃ caller task v s', s.world.avatars.lookup key = some caller ∧
      s.db.tasks.lookup taskId = some task ∧ task.assigneeAgentId = some caller.agentId ∧
      (McpCall.ofJson msg).tool = "task_accept" ∧
      (McpCall.ofJson msg).args.getStr "task_id" = some taskId ∧
      handleTaskAccept env s caller (McpCall.ofJson msg).args = .ok (v, s')
  | _ => False

/-- A task can be given to an agent: its parent is not the agent's, and no open subtask of it is. -/
structure MayGive (db : Db) (taskId agentId : String) : Prop where
  above : ∀ task p, db.tasks.lookup taskId = some task → task.parentId = some p →
    assigneeOf db p ≠ some agentId
  below : ∀ id task, db.tasks.lookup id = some task → task.parentId = some taskId →
    ¬ task.status.Terminal → task.assigneeAgentId ≠ some agentId

/-- A turn of the pass that steals: the peer that takes over may be given the task. -/
def StealsApart (env : Env) (startupId : String) (s : LoopState) (row : String × String × ℕ) : Prop :=
  ∀ peer, statusOf s.world row.2.1 ≠ some .idle →
    replacement env s startupId row.2.1 = some peer → MayGive s.db row.1 peer

/-- A turn of the pass that recovers, likewise. -/
def RecoversApart (env : Env) (startupId : String) (s : LoopState) (row : String × String × ℕ) : Prop :=
  ∀ peer, replacement env s startupId row.2.1 = some peer → MayGive s.db row.1 peer

/-- Every turn of the pass that steals. -/
def AutoStealApart (env : Env) (s : LoopState) : Prop :=
  LoopMeets (stealFrom env)
    (fun s startup =>
      let cutoff := env.now - max startup.2.autoStealAfterSecs 1
      LoopMeets (fun s row => autoSteal env s startup.1 row.1 row.2.1) (StealsApart env startup.1)
        (assignedTasks env s startup.1 .queued fun t => t.updatedAt < cutoff) s)
    (startupsWith env s Startup.autoStealEnabled) s

/-- Every turn of the pass that recovers. -/
def AutoRecoveryApart (env : Env) (s : LoopState) : Prop :=
  LoopMeets (recoverFrom env)
    (fun s startup =>
      LoopMeets (fun s row => autoRecover env s startup.1 row.1 row.2.1 row.2.2)
        (RecoversApart env startup.1)
        (assignedTasks env s startup.1 .changesRequested fun t =>
          startup.2.autoRecoveryMaxAttempts ≤ (t.reviewRound : ℤ)) s)
    (startupsWith env s Startup.autoRecoveryEnabled) s

/-- A call keeps authors and reviewers apart: if it is granted, it gives the task to nobody who has its parent
or an open subtask of it. -/
def CallApart (cfg : Config) (env : Env) (s : LoopState) (caller : AvatarView) (args : Json) :
    String → Prop
  | "subtask_create" => (handleSubtaskCreate cfg env s caller args).isOk →
      ∀ parentId, args.getStr "parent_id" = some parentId →
        assigneeOf s.db parentId = some caller.agentId →
          args.getStr "assignee_agent_id" ≠ some caller.agentId
  | "accept_proposal" => (handleAcceptProposal cfg env s caller args).isOk →
      ∀ taskId assignee, args.getStr "task_id" = some taskId →
        args.getStr "assignee_agent_id" = some assignee → MayGive s.db taskId assignee
  | "task_steal" => (handleTaskSteal cfg env s caller args).isOk →
      ∀ taskId, args.getStr "task_id" = some taskId → MayGive s.db taskId caller.agentId
  | _ => True

/-- A request does. -/
def LoopEvent.KeepsApart (cfg : Config) (s : LoopState) : LoopEvent → Prop
  | .mcp env key msg => ∀ caller, s.world.avatars.lookup key = some caller →
      CallApart cfg env s caller (McpCall.ofJson msg).args (McpCall.ofJson msg).tool
  | .console env identity (.operatorAcceptProposal taskId assignee room) =>
      (operatorAcceptProposal cfg env s identity taskId assignee room).isOk →
        MayGive s.db taskId assignee
  | .createTask env identity body => (Task.createTask cfg env s identity body).isOk →
      ∀ p a, body.parentId = some p → body.assigneeAgentId = some a → assigneeOf s.db p ≠ some a
  | .tick env =>
      let scanned := deadlineScan env (dispatchLoop cfg env (afterMoves env s))
      AutoStealApart env scanned ∧ AutoRecoveryApart env (autoStealPass env scanned)
  | .autoSteal env => AutoStealApart env s
  | .autoRecovery env => AutoRecoveryApart env s
  | _ => True

/-- No agent is its own manager. -/
def NoSelfManager (db : Db) : Prop :=
  ∀ id agent, db.agents.lookup id = some agent → agent.managerId ≠ some id

/-! ### Authors and reviewers -/

/-- A task that is not over. -/
def OpenTask (s : LoopState) (id : String) : Prop :=
  ∃ task, s.db.tasks.lookup id = some task ∧ ¬ task.status.Terminal

/-- No open task has the assignee of its parent, and no task is its own parent. -/
structure Apart (s : LoopState) : Prop where
  assignee : ∀ id c p d a, s.face id = some c → OpenTask s id → c.parent = some p →
    s.face p = some d → c.assignee = some a → d.assignee ≠ some a
  parent : ∀ id c, s.face id = some c → c.parent ≠ some id

section Invariant

variable {cfg : Config} {env : Env} {s s' : LoopState} {taskId agentId : String}

theorem assigneeOf_eq_some_iff {db : Db} {id a : String} :
    assigneeOf db id = some a ↔ ∃ t, db.tasks.lookup id = some t ∧ t.assigneeAgentId = some a :=
  Option.bind_eq_some_iff

/-- A task that is open afterwards was open before, or was not there. -/
theorem StaysOver.openTask (h : StaysOver s s') {id : String} (hopen : OpenTask s' id) :
    OpenTask s id ∨ s.face id = none := by
  cases hrow : s.db.tasks.lookup id with
  | none => exact .inr (by simp [LoopState.face, hrow])
  | some task =>
      obtain ⟨task', htask', hopen'⟩ := hopen
      obtain ⟨task'', htask'', -, hover⟩ := h id task hrow
      obtain rfl := Option.some.inj (htask'.symm.trans htask'')
      exact .inl ⟨task, hrow, fun hterminal => hopen' (hover hterminal)⟩

theorem StaysOver.refl (s : LoopState) : StaysOver s s :=
  fun _ row hrow => ⟨row, hrow, fun _ => rfl, id⟩

/-- Writes one after the other. -/
theorem StaysOver.of_run {ws : List Write} (h : Run (WriteStep Writer.MayChange) s ws s') :
    StaysOver s s' := by
  induction h with
  | nil s => exact .refl s
  | cons hw _ ih => exact (StaysOver.of_write hw).trans ih

theorem StaysOver.of_board (h : s'.board = s.board) : StaysOver s s' :=
  .of_write (WriteStep.of_board (w := .request) h)

/-- What leaves the parents and the assignees alone. -/
theorem Apart.of_kept (h : Apart s) (hover : StaysOver s s')
    (hkept : ∀ id c', s'.face id = some c' →
      ∃ c, s.face id = some c ∧ c'.parent = c.parent ∧ c'.assignee = c.assignee) : Apart s' where
  assignee id c' p d' a hc' hopen hp hd' ha := by
    obtain ⟨c, hc, hparent, hassignee⟩ := hkept id c' hc'
    obtain ⟨d, hd, -, hassignee'⟩ := hkept p d' hd'
    have hopen' := (hover.openTask hopen).resolve_right (by simp [hc])
    rw [hassignee']
    exact h.assignee id c p d a hc hopen' (hparent ▸ hp) hd (hassignee ▸ ha)
  parent id c' hc' := by
    obtain ⟨c, hc, hparent, -⟩ := hkept id c' hc'
    rw [hparent]
    exact h.parent id c hc

theorem Apart.of_face (h : Apart s) (hface : s'.face = s.face) (hover : StaysOver s s') : Apart s' :=
  h.of_kept hover fun _ c hc => ⟨c, hface ▸ hc, rfl, rfl⟩

/-- **A task is given to an agent** that may be given it. -/
theorem Apart.give {task : TaskRow} {c : Face} (h : Apart s)
    (htask : s.db.tasks.lookup taskId = some task) (hparent : c.parent = task.parentId)
    (hassignee : c.assignee = some agentId)
    (hface : s'.face = Function.update s.face taskId (some c)) (hover : StaysOver s s')
    (hgive : MayGive s.db taskId agentId) : Apart s' := by
  have hne : task.parentId ≠ some taskId := h.parent taskId task.face (face_of_lookup htask)
  have hopenOf : ∀ id, id ≠ taskId → ∀ d, s.face id = some d → OpenTask s' id → OpenTask s id := by
    intro id _ d hd hopen
    exact (hover.openTask hopen).resolve_right (by simp [hd])
  constructor
  · intro id e p d a he hopen hp hd ha
    rw [hface, Function.update_apply] at he hd
    by_cases hid : id = taskId
    · -- the task itself: its parent is another task, which is not the agent's
      rw [if_pos hid] at he
      obtain rfl := Option.some.inj he
      rw [hparent] at hp
      have hpt : p ≠ taskId := by
        rintro rfl
        exact hne hp
      rw [if_neg hpt] at hd
      obtain ⟨parent, hlookup, rfl⟩ := face_eq_some_iff.mp hd
      obtain rfl := Option.some.inj (hassignee.symm.trans ha)
      intro hsame
      exact hgive.above task p htask hp (assigneeOf_eq_some_iff.mpr ⟨parent, hlookup, hsame⟩)
    · rw [if_neg hid] at he
      have hopen' := hopenOf id hid e he hopen
      by_cases hpt : p = taskId
      · -- a subtask of it: it is not the agent's, as long as it is open
        rw [if_pos hpt] at hd
        obtain rfl := Option.some.inj hd
        obtain ⟨child, hchild, rfl⟩ := face_eq_some_iff.mp he
        obtain ⟨child', hchild', hnot⟩ := hopen'
        obtain rfl := Option.some.inj (hchild.symm.trans hchild')
        intro hsame
        obtain rfl := Option.some.inj (hassignee.symm.trans hsame)
        exact hgive.below id child hchild (hpt ▸ hp) hnot ha
      · rw [if_neg hpt] at hd
        exact h.assignee id e p d a he hopen' hp hd ha
  · intro id e he
    rw [hface, Function.update_apply] at he
    split at he
    · rename_i hid
      obtain rfl := Option.some.inj he
      rw [hparent, hid]
      exact hne
    · exact h.parent id e he

/-- **A task is created** under a parent of somebody else. -/
theorem Apart.create {parent assignee : Option String} (h : Apart s) (hnone : s.face taskId = none)
    (hexists : ∀ p ∈ parent, (s.face p).isSome)
    (hface : s'.face = Function.update s.face taskId (some (.new parent assignee)))
    (hover : StaysOver s s')
    (hother : ∀ p a, parent = some p → assignee = some a → assigneeOf s.db p ≠ some a) : Apart s' := by
  have hne : ∀ id c, s.face id = some c → id ≠ taskId := by
    rintro id c hc rfl
    exact absurd (hnone.symm.trans hc) (by simp)
  have hparent : ∀ p, parent = some p → p ≠ taskId := by
    rintro p rfl rfl
    have hthere := hexists p rfl
    rw [hnone] at hthere
    exact absurd hthere (by simp)
  -- no task that was there is a subtask of the new one
  have hchild : ∀ id c, s.face id = some c → c.parent ≠ some taskId := by
    intro id c hc hp
    obtain ⟨child, hlookup, rfl⟩ := face_eq_some_iff.mp hc
    have hrefs := (s.db.taskRefs id child hlookup).parent taskId hp
    rw [Option.map_eq_none_iff.mp hnone] at hrefs
    exact absurd hrefs (by simp)
  constructor
  · intro id e p d a he hopen hp hd ha
    rw [hface, Function.update_apply] at he hd
    by_cases hid : id = taskId
    · rw [if_pos hid] at he
      obtain rfl := Option.some.inj he
      rw [if_neg (hparent p hp)] at hd
      obtain ⟨row, hlookup, rfl⟩ := face_eq_some_iff.mp hd
      intro hsame
      exact hother p a hp ha (assigneeOf_eq_some_iff.mpr ⟨row, hlookup, hsame⟩)
    · rw [if_neg hid] at he
      have hpt : p ≠ taskId := by
        rintro rfl
        exact hchild id e he hp
      rw [if_neg hpt] at hd
      have hopen' := (hover.openTask hopen).resolve_right (by simp [he])
      exact h.assignee id e p d a he hopen' hp hd ha
  · intro id e he
    rw [hface, Function.update_apply] at he
    split at he
    · rename_i hid
      obtain rfl := Option.some.inj he
      rw [hid]
      exact fun hp => hparent taskId hp rfl
    · exact h.parent id e he

/-- A write of a pass. -/
theorem StaysOver.of_boardWrite {w : Writer} (h : BoardWrite Writer.Schedules s ⟨w, s'⟩ s') :
    StaysOver s s' := by
  refine .of_write (BoardWrite.status ⟨h.1, h.2.imp_right ?_⟩)
  rintro ⟨e, hstep, hmakes⟩
  exact ⟨e, hstep, .inl hmakes⟩

theorem Apart.autoSteal {startupId : String} {row : String × String × ℕ}
    (hgive : StealsApart env startupId s row) (h : Apart s) :
    Apart (autoSteal env s startupId row.1 row.2.1) := by
  have hover : StaysOver s (Task.autoSteal env s startupId row.1 row.2.1) := by
    refine .of_boardWrite (w := .autoSteal) ?_
    rcases autoSteal_step startupId row.1 row.2.1 with hboard | ⟨peer, hstep⟩
    · exact .of_board hboard
    · exact .of_step hstep trivial
  rcases autoSteal_face startupId row.1 row.2.1 with hface | ⟨peer, task, hidle, hpeer, htask, hface⟩
  · exact h.of_face hface hover
  · exact h.give htask rfl rfl hface hover (hgive peer hidle hpeer)

theorem Apart.autoRecover {startupId : String} {row : String × String × ℕ}
    (hgive : RecoversApart env startupId s row) (h : Apart s) :
    Apart (autoRecover env s startupId row.1 row.2.1 row.2.2) := by
  have hover : StaysOver s (Task.autoRecover env s startupId row.1 row.2.1 row.2.2) := by
    refine .of_boardWrite (w := .autoRecovery) ?_
    rcases autoRecover_step startupId row.1 row.2.1 row.2.2 with hboard | ⟨peer, hstep⟩
    · exact .of_board hboard
    · exact .of_step hstep trivial
  rcases autoRecover_face startupId row.1 row.2.1 row.2.2 with hface | ⟨peer, task, hpeer, htask, hface⟩
  · exact h.of_face hface hover
  · exact h.give htask rfl rfl hface hover (hgive peer hpeer)

/-- **The passes** keep them apart when each of their turns does. -/
theorem Apart.autoStealPass (h : Apart s) (hturns : AutoStealApart env s) :
    Apart (autoStealPass env s) := by
  refine LoopMeets.preserves (f := stealFrom env) (fun s startup hrows hs => ?_) hturns h
  exact LoopMeets.preserves (fun s row hgive hs => hs.autoSteal hgive) hrows hs

theorem Apart.autoRecoveryPass (h : Apart s) (hturns : AutoRecoveryApart env s) :
    Apart (autoRecoveryPass env s) := by
  refine LoopMeets.preserves (f := recoverFrom env) (fun s startup hrows hs => ?_) hturns h
  exact LoopMeets.preserves (fun s row hgive hs => hs.autoRecover hgive) hrows hs

/-- **One request** keeps them apart. -/
theorem Apart.apply (h : Apart s) (l : LoopEvent) (hapart : l.KeepsApart cfg s) :
    Apart (l.apply cfg s) := by
  have hover : StaysOver s (l.apply cfg s) := .of_run (status_changes cfg s l)
  have hrequest : ¬ l.Scheduler → Apart (l.apply cfg s) := by
    intro hl
    have hrecast := request_face cfg s l hl
    generalize hface : (l.apply cfg s).face = face at hrecast
    cases hrecast with
    | same => exact h.of_face hface hover
    | accept htask hgranted => exact h.give htask rfl rfl hface hover (hapart hgranted)
    | create hnone hexists hgranted => exact h.create hnone hexists hface hover (hapart hgranted)
    | @tool env key msg caller _ hcaller hturns =>
        have hcall := hapart caller hcaller
        generalize (McpCall.ofJson msg).tool = tool at hcall hturns
        cases hturns with
        | same => exact h.of_face hface hover
        | @subtask parentId parent hid hparent hnone hgranted =>
            refine h.create hnone ?_ hface hover ?_
            · rintro p hp
              obtain rfl := Option.some.inj hp
              simp [face_of_lookup hparent]
            · rintro p a hp ha hsame
              obtain rfl := Option.some.inj hp
              split at ha
              · rename_i hmanager
                have hown : assigneeOf s.db parentId = some caller.agentId :=
                  assigneeOf_eq_some_iff.mpr ⟨parent, hparent, hmanager⟩
                obtain rfl := Option.some.inj (hown.symm.trans hsame)
                exact hcall hgranted parentId hid hown ha
              · exact absurd ha (by simp)
        | @accept taskId assignee task hid hassignee htask hgranted =>
            exact h.give htask rfl rfl hface hover (hcall hgranted taskId assignee hid hassignee)
        | @steal taskId task hid htask hgranted =>
            exact h.give htask rfl rfl hface hover (hcall hgranted taskId hid)
        | @nextRound taskId task s' hid htask =>
            -- the count of rounds is another column
            refine h.of_kept hover fun id c hc => ?_
            rw [hface, Function.update_apply] at hc
            split at hc
            · rename_i hid'
              obtain rfl := Option.some.inj hc
              exact ⟨task.face, hid' ▸ face_of_lookup htask, rfl, rfl⟩
            · exact ⟨c, hc, rfl, rfl⟩
  cases l with
  | tick env =>
      have hmoved : Apart (afterMoves env s) := h.of_face face_afterMoves (.of_board board_afterMoves)
      have hdispatched : Apart (dispatchLoop cfg env (afterMoves env s)) := by
        refine hmoved.of_face (face_dispatchLoop cfg env _) (.of_run (loopWrites_run.mono ?_))
        rintro _ _ _ ⟨hw, hwrite⟩
        exact BoardWrite.status ⟨hw, hwrite.imp_right fun ⟨e, hstep, hmakes⟩ => ⟨e, hstep, .inl hmakes⟩⟩
      have hscanned : Apart (deadlineScan env (dispatchLoop cfg env (afterMoves env s))) :=
        hdispatched.of_face (face_deadlineScan env _) (.of_board board_deadlineScan)
      exact (hscanned.autoStealPass hapart.1).autoRecoveryPass hapart.2
  | autoSteal env => exact h.autoStealPass hapart
  | autoRecovery env => exact h.autoRecoveryPass hapart
  | _ => exact hrequest id

/-! ### Managers -/

variable {party : Party} {astray : Prop}

/-- No statement changes who manages an agent. -/
theorem Statement.noSelfManager (h : Statement party astray s s') (hs : NoSelfManager s.db) :
    NoSelfManager s'.db := by
  have hsame : s'.db.agents = s.db.agents → NoSelfManager s'.db := by
    intro hagents id agent hagent
    rw [hagents] at hagent
    exact hs id agent hagent
  cases h with
  | relink hdb _ => exact hsame (onlyTasks_relinkTask hdb).agents
  | insert hdb _ => exact hsame (onlyTasks_insertTask hdb).agents
  | message hdb _ =>
      have hagents := congrArg Db.agents (insertMessage_eq hdb).2
      exact hsame hagents
  | skills hstep =>
      obtain ⟨tables, rfl⟩ := SkillSteps.eq (.single hstep)
      exact hs
  | @peerReviewer agentId v _ =>
      intro id agent hagent
      have hlookup : (s.db.agents.modify agentId fun a => { a with isPeerReviewer := v }).lookup id =
          some agent := hagent
      rw [Table.lookup_modify] at hlookup
      split at hlookup
      · obtain ⟨agent₀, hagent₀, rfl⟩ := Option.map_eq_some_iff.mp hlookup
        exact hs id agent₀ hagent₀
      · exact hs id agent hlookup
  | _ => exact hsame rfl

/-- **Nobody approves its own task** where authors and reviewers are apart. -/
theorem Apart.no_own_acceptance (h : Apart s) (hmanagers : NoSelfManager s.db) (l : LoopEvent)
    (taskId : String) : ¬ l.AcceptsOwn s taskId := by
  intro haccepts
  cases l with
  | mcp env key msg =>
      obtain ⟨caller, task, v, s', -, htask, hassignee, -, hid, hok⟩ := haccepts
      unfold handleTaskAccept at hok
      simp only [bind_eq_ok, requireStr_eq_ok, loadTask_eq_ok, ensure_eq_ok, illegal_eq_ok] at hok
      obtain ⟨id, hid', task', htask', _, -, _, hmanager, newStatus, hnext, -⟩ := hok
      obtain rfl := Option.some.inj (hid.symm.trans hid')
      obtain rfl := Option.some.inj (htask.symm.trans htask')
      have hopen : OpenTask s taskId := by
        refine ⟨task, htask, ?_⟩
        rw [(next_eq_ok_iff.mp hnext).1]
        decide
      unfold callerIsManagerOfTask at hmanager
      split at hmanager
      · rename_i p hparent
        obtain ⟨parent, hlookup, hsame⟩ := assigneeOf_eq_some_iff.mp (of_decide_eq_true hmanager)
        exact h.assignee taskId task.face p parent.face caller.agentId (face_of_lookup htask) hopen
          hparent (face_of_lookup hlookup) hassignee hsame
      · rw [hassignee] at hmanager
        obtain ⟨agent, hagent, hself⟩ := Option.bind_eq_some_iff.mp (of_decide_eq_true hmanager)
        exact hmanagers caller.agentId agent hagent hself
  | _ => exact haccepts.elim

end Invariant

/-- **Nobody approves its own task**, in every run whose requests keep authors and reviewers apart. -/
theorem not_acceptsOwn (cfg : Config) {s₀ s : LoopState} {ls : List LoopEvent}
    (hinit : (loopSystem cfg).init s₀) (hmanagers : NoSelfManager s₀.db)
    (hrun : Run ((loopSystem cfg).restrict fun s l => l.KeepsApart cfg s).step s₀ ls s) (l : LoopEvent)
    (taskId : String) : ¬ l.AcceptsOwn s taskId := by
  have hapart : Apart s := by
    refine hrun.preserves (fun s l t hs hst => ?_) ?_
    · obtain ⟨hkeeps, rfl⟩ := hst
      exact hs.apply l hkeeps
    · constructor
      · intro id c p d a hc
        simp [LoopState.face, hinit.1] at hc
      · intro id c hc
        simp [LoopState.face, hinit.1] at hc
  have hmanagers' : NoSelfManager s.db :=
    run_statements (C := fun s l => l.KeepsApart cfg s) (I := fun s => NoSelfManager s.db)
      (fun _ _ _ _ _ _ _ _ hs hstatement => hstatement.noSelfManager hs) hrun hmanagers
  exact hapart.no_own_acceptance hmanagers' l taskId

/-- The founder manages the others, and nobody manages the founder. -/
theorem NewStartup.noSelfManager {n : NewStartup} (hids : n.founderId ∉ [n.engineerId, n.designerId]) :
    NoSelfManager n.state.db := by
  intro id agent hagent hself
  obtain ⟨a, ha, heq⟩ := List.mem_map.mp (Table.mem_of_lookup_ofList hagent)
  obtain ⟨rfl, rfl⟩ := Prod.mk.inj heq
  simp only [NewStartup.agents, List.mem_cons, List.not_mem_nil, or_false] at ha hids
  rcases ha with rfl | rfl | rfl
  · exact absurd hself (by simp [NewStartup.agentRow])
  · exact hids (.inl (Option.some.inj hself))
  · exact hids (.inr (Option.some.inj hself))

/-- The engineer does not approve the task that it was given. -/
theorem not_acceptsOwn_engineer :
    ¬ (sampleCall 2 "a-2" "task_accept" [("task_id", .str "T_1")]).AcceptsOwn
      (runEvents sampleConfig sampleStartup.state [sampleCreate 1 "1" (some "a-2")]) "T_1" := by
  have hkeeps : LoopEvent.KeepsApart sampleConfig sampleStartup.state
      (sampleCreate 1 "1" (some "a-2")) := by
    rintro - p a hp
    exact absurd hp (by simp)
  exact not_acceptsOwn sampleConfig (sampleStartup.init sampleConfig)
    (NewStartup.noSelfManager (by decide)) (.single ⟨hkeeps, rfl⟩) _ "T_1"

/-- The founder gives itself a subtask of its own task, and reports both. -/
def ownSubtask : List LoopEvent :=
  [sampleCreate 1 "1" (some "a-1"),
    .mcp (sampleEnv 2 "sub") "a-1" (.obj [("type", .str "mcp_call"), ("tool", .str "subtask_create"),
      ("args", .obj [("parent_id", .str "T_1"), ("title", .str "title"),
        ("description", .str "description"), ("assignee_agent_id", .str "a-1")]),
      ("corr_id", .str "c")]),
    .registerWorker "a-1", .tick (sampleEnv 3 "t"),
    sampleCall 4 "a-1" "task_done" [("task_id", .str "T_1"),
      ("artifact_path", .str "workspaces/s-1/artifacts/T_1.md"), ("auto_check", .bool false)],
    .tick (sampleEnv 5 "t"),
    sampleCall 6 "a-1" "task_done" [("task_id", .str "sub"),
      ("artifact_path", .str "workspaces/s-1/artifacts/sub.md"), ("auto_check", .bool false)]]

/-- The founder approves it. -/
def acceptOwnMsg : Json :=
  .obj [("type", .str "mcp_call"), ("tool", .str "task_accept"),
    ("args", .obj [("task_id", .str "sub")]), ("corr_id", .str "c")]

/-- **Not in every run**: the founder is the assignee of the parent, and so the manager of its own subtask. -/
theorem acceptsOwn_founder :
    ¬ ∀ (cfg : Config) (s : LoopState), (loopSystem cfg).Reachable s → ∀ (l : LoopEvent) (taskId : String),
      ¬ l.AcceptsOwn s taskId := by
  intro h
  have hreachable : ((loopSystem sampleConfig).restrict fun _ _ => True).Reachable
      (runEvents sampleConfig sampleStartup.state ownSubtask) :=
    reachable_runEvents (.init (sampleStartup.init sampleConfig)) _ fun _ _ _ => trivial
  have hgranted : ∃ caller ∈ (runEvents sampleConfig sampleStartup.state ownSubtask).world.avatars.lookup
      "a-1", ∃ task ∈ (runEvents sampleConfig sampleStartup.state ownSubtask).db.tasks.lookup "sub",
      task.assigneeAgentId = some caller.agentId ∧ (handleTaskAccept (sampleEnv 7 "t")
        (runEvents sampleConfig sampleStartup.state ownSubtask) caller
        (McpCall.ofJson acceptOwnMsg).args).isOk = true := by
    decide +kernel
  obtain ⟨caller, hcaller, task, htask, hassignee, hok⟩ := hgranted
  cases hr : handleTaskAccept (sampleEnv 7 "t") (runEvents sampleConfig sampleStartup.state ownSubtask)
      caller (McpCall.ofJson acceptOwnMsg).args with
  | ok r =>
      exact h sampleConfig _ hreachable.of_restrict (.mcp (sampleEnv 7 "t") "a-1" acceptOwnMsg) "sub"
        ⟨caller, task, r.1, r.2, hcaller, htask, hassignee, rfl, rfl, hr⟩
  | error e =>
      rw [hr] at hok
      exact absurd hok Bool.false_ne_true

end Cliptown.Task
