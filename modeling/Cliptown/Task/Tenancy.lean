import Cliptown.Task.Parties
import Cliptown.Task.Running

/-!
# Tasks stay with their startup

* `AvatarsMatch` — the avatars in memory agree with the agents in the database.
* `AssignedAtHome`, `assigned_at_home` — a task is assigned within its startup, in every run.
* `Linked`, `NamesOwnTasks`, `linked_at_home` — a task is linked within its startup, in the runs whose requests
  name tasks of their own startup only; so a note to the assignee of a parent stays there
  (`notice_at_home`).
-/

namespace Cliptown.Task

open Cliptown.Lib Cliptown.Town Cliptown.World

/-- Each avatar carries the startup and the role of its agent. -/
def AvatarsMatch (s : LoopState) : Prop :=
  ∀ key avatar agent, s.world.avatars.lookup key = some avatar →
    s.db.agents.lookup key = some agent ∨ s.db.agents.lookup avatar.agentId = some agent →
      agent.startupId = avatar.startupId ∧ agent.role = avatar.role

/-- Each assigned task is assigned to an agent of its startup. -/
def AssignedAtHome (db : Db) : Prop :=
  ∀ taskId task assignee, db.tasks.lookup taskId = some task →
    task.assigneeAgentId = some assignee → AgentOf db assignee task.startupId

section Assigned

variable {cfg : Config} {party : Party} {astray : Prop} {s s' t : LoopState} {ls : List LoopEvent}

/-! ### Agents and avatars -/

/-- No statement changes who an agent is. -/
theorem Statement.agents (h : Statement party astray s s') (agentId : String) :
    (s'.db.agents.lookup agentId).map Agent.membership =
      (s.db.agents.lookup agentId).map Agent.membership := by
  cases h with
  | relink hdb _ => rw [(onlyTasks_relinkTask hdb).agents]
  | insert hdb _ => rw [(onlyTasks_insertTask hdb).agents]
  | message hdb _ => rw [(insertMessage_eq hdb).2]
  | skills hstep =>
      obtain ⟨tables, rfl⟩ := SkillSteps.eq (.single hstep)
      rfl
  | @peerReviewer id v _ =>
      change ((s.db.agents.modify id _).lookup agentId).map Agent.membership = _
      rw [Table.lookup_modify]
      split
      · rename_i heq
        rw [heq, Option.map_map]
        rfl
      · rfl
  | _ => rfl

/-- An agent afterwards is the same agent before. -/
theorem Statement.agent_of (h : Statement party astray s s') {agentId : String} {agent' : Agent}
    (hagent : s'.db.agents.lookup agentId = some agent') :
    ∃ agent, s.db.agents.lookup agentId = some agent ∧ agent.membership = agent'.membership := by
  have hmap := h.agents agentId
  rw [hagent] at hmap
  exact Option.map_eq_some_iff.mp hmap.symm

/-- An agent of a startup stays there. -/
theorem Statement.agentOf (h : Statement party astray s s') {agentId startupId : String}
    (hof : AgentOf s.db agentId startupId) : AgentOf s'.db agentId startupId := by
  obtain ⟨agent, hagent, hstartup⟩ := hof
  have hmap := h.agents agentId
  rw [hagent] at hmap
  obtain ⟨agent', hagent', hsame⟩ := Option.map_eq_some_iff.mp hmap
  exact ⟨agent', hagent', (congrArg Prod.fst hsame).trans hstartup⟩

/-- Other avatars appear with the operator only. -/
theorem Statement.avatar_of (h : Statement party astray s s') {key : String} {avatar' : AvatarView}
    (havatar : s'.world.avatars.lookup key = some avatar') :
    (∃ avatar, s.world.avatars.lookup key = some avatar ∧ avatar.identity = avatar'.identity) ∨
      (key = operatorAvatarId ∧ avatar'.agentId = operatorAvatarId) := by
  cases h with
  | move hsame => exact .inl (hsame.of_lookup havatar)
  | possess _ hid =>
      rw [Table.lookup_insert_eq] at havatar
      split at havatar
      · rename_i hkey
        obtain rfl := Option.some.inj havatar
        exact .inr ⟨hkey, hid⟩
      · exact .inl ⟨avatar', havatar, rfl⟩
  | unpossess _ =>
      rw [Table.lookup_erase_eq] at havatar
      split at havatar
      · exact absurd havatar (by simp)
      · exact .inl ⟨avatar', havatar, rfl⟩
  | _ => exact .inl ⟨avatar', havatar, rfl⟩

/-- Avatars go on agreeing with the agents: the operator's has none. -/
theorem Statement.avatarsMatch (h : Statement party astray s s') (hs : AvatarsMatch s) :
    AvatarsMatch s' := by
  intro key avatar' agent' havatar hagent
  rcases h.avatar_of havatar with ⟨avatar, havatar, hsame⟩ | ⟨hkey, hid⟩
  · simp only [AvatarView.identity, Prod.mk.injEq] at hsame
    obtain ⟨hid, hstartup, hrole⟩ := hsame
    have hmatch : ∃ agent, agent.membership = agent'.membership ∧
        (s.db.agents.lookup key = some agent ∨ s.db.agents.lookup avatar.agentId = some agent) := by
      rcases hagent with hagent | hagent
      · obtain ⟨agent, hagent, hmember⟩ := h.agent_of hagent
        exact ⟨agent, hmember, .inl hagent⟩
      · obtain ⟨agent, hagent, hmember⟩ := h.agent_of hagent
        exact ⟨agent, hmember, .inr (hid ▸ hagent)⟩
    obtain ⟨agent, hmember, hagent⟩ := hmatch
    simp only [Agent.membership, Prod.mk.injEq] at hmember
    obtain ⟨hs, hr⟩ := hs key avatar agent havatar hagent
    exact ⟨hmember.1.symm.trans (hs.trans hstartup), hmember.2.symm.trans (hr.trans hrole)⟩
  · rw [hkey, hid, or_self, s'.db.agentIds] at hagent
    exact absurd hagent (by simp)

/-! ### Assignees -/

/-- The agent behind an avatar of a startup is of that startup. -/
theorem agentOf_of_avatarOf (hs : AvatarsMatch s) {agentId startupId : String}
    (hof : AvatarOf s.world agentId startupId) (hsome : (s.db.agents.lookup agentId).isSome) :
    AgentOf s.db agentId startupId := by
  obtain ⟨key, avatar, havatar, hid, rfl⟩ := hof
  obtain ⟨agent, hagent⟩ := Option.isSome_iff_exists.mp hsome
  refine ⟨agent, hagent, (hs key avatar agent havatar ?_).1⟩
  rcases hid with rfl | rfl
  · exact .inl hagent
  · exact .inr hagent

/-- **A statement** assigns tasks within their startup. -/
theorem Statement.assignedAtHome (h : Statement party astray s s') (hmatch : AvatarsMatch s)
    (hs : AssignedAtHome s.db) : AssignedAtHome s'.db := by
  intro taskId task' assignee htask hassignee
  apply h.agentOf
  rcases h.row_of htask with ⟨task, htask₀, hkept⟩ | ⟨-, hcreated⟩
  · rw [hkept.startup]
    rcases hkept.assignee assignee hassignee with hsame | hagent | havatar
    · exact hs taskId task assignee htask₀ hsame
    · exact hagent
    · refine agentOf_of_avatarOf hmatch havatar ?_
      -- the assignee of a row exists, and a statement creates no agents
      obtain ⟨agent', hagent'⟩ := Option.isSome_iff_exists.mp
        ((s'.db.taskRefs taskId task' htask).assignee assignee hassignee)
      obtain ⟨agent, hagent, -⟩ := h.agent_of hagent'
      simp [hagent]
  · exact hcreated.assignee assignee hassignee

/-- **Tasks are assigned within their startup**, in every run from a state in which they are and in which
the avatars agree with the agents. -/
theorem assigned_at_home (h : Run (loopSystem cfg).step s ls t) (hmatch : AvatarsMatch s)
    (hs : AssignedAtHome s.db) : AssignedAtHome t.db := by
  have hrun := System.run_restrict (S := loopSystem cfg) (C := fun _ _ => True) h fun _ _ _ => trivial
  refine (run_statements (I := fun s => AvatarsMatch s ∧ AssignedAtHome s.db) ?_ hrun ⟨hmatch, hs⟩).2
  rintro party astray s₀ l s s' - - ⟨hmatch, hs⟩ hstatement
  exact ⟨hstatement.avatarsMatch hmatch, hstatement.assignedAtHome hmatch hs⟩

end Assigned

/-- In a startup that has just been created the avatars agree with the agents. -/
theorem NewStartup.avatarsMatch (n : NewStartup) : AvatarsMatch n.state := by
  intro key avatar agent havatar hagent
  rw [n.agentId_of_lookup havatar, or_self] at hagent
  exact n.agent_of_avatar havatar hagent

/-- Where there are no tasks, none is assigned. -/
theorem assignedAtHome_of_init {cfg : Config} {s : LoopState} (h : (loopSystem cfg).init s) :
    AssignedAtHome s.db := by
  intro taskId task assignee htask
  rw [h.1, AList.lookup_empty] at htask
  exact absurd htask (by simp)

/-- The engineer's three tasks are assigned within the startup. -/
theorem assigned_at_home_engineer :
    AssignedAtHome (runEvents sampleConfig sampleStartup.state busyEvents).db ∧
      ∃ task ∈ (runEvents sampleConfig sampleStartup.state busyEvents).db.tasks.lookup "T_3",
        task.assigneeAgentId = some "a-2" :=
  ⟨assigned_at_home (run_runEvents _ _ _) sampleStartup.avatarsMatch
    (assignedAtHome_of_init (sampleStartup.init sampleConfig)), by decide +kernel⟩

/-! ### Links between tasks -/

/-- Parents and blockers are of the startup of the task. -/
def Linked (db : Db) : Prop :=
  ∀ taskId task u, db.tasks.lookup taskId = some task →
    task.parentId = some u ∨ task.blockedOn = some u → TaskIn db u task.startupId

/-- A request that is granted does not name another startup's task as a parent or a blocker. -/
def NamesOwnTasks (s : LoopState) (l : LoopEvent) : Prop :=
  ¬ l.Astray s

/-- What a request tells the assignees of parents stays in the startup of the caller. -/
def NoticesAtHome (s : LoopState) (party : Party) (s' : LoopState) : Prop :=
  ∃ frames, s'.frames = s.frames ++ frames ∧ ∀ f ∈ frames, isNotice f.2 →
    ∃ home, party = .agent home ∧ AgentOf s'.db f.1 home

section Links

variable {cfg : Config} {party : Party} {astray : Prop} {s s' t : LoopState} {l : LoopEvent}
  {ls : List LoopEvent}

/-- **A statement** for which nothing goes astray links tasks within their startup. -/
theorem Statement.linked (h : Statement party astray s s') (hastray : ¬ astray)
    (hs : Linked s.db) : Linked s'.db := by
  intro taskId task' u htask hlink
  apply h.taskIn
  rcases h.row_of htask with ⟨task, htask₀, hkept⟩ | ⟨-, hcreated⟩
  · rw [hkept.startup]
    rcases hlink with hparent | hblocker
    · exact hs taskId task u htask₀ (.inl (hkept.parent ▸ hparent))
    · rcases hkept.blocker u hblocker with hsame | hin | hno
      · exact hs taskId task u htask₀ (.inr hsame)
      · exact hin
      · exact absurd hno hastray
  · rcases hlink with hparent | hblocker
    · exact (hcreated.parent u hparent).resolve_right hastray
    · exact (hcreated.blocker u hblocker).resolve_right hastray

/-- **A note** to the assignee of a parent goes to an agent of the parent's startup, and that is the
caller's. -/
theorem Statement.notices (h : Statement party astray s s') (hlinked : Linked s.db)
    (hassigned : AssignedAtHome s.db) : NoticesAtHome s party s' := by
  cases h with
  | @notify home agentId parentId frame hparty hassignee hparent =>
      refine ⟨[(agentId, frame)], rfl, fun f hf _ => ⟨home, hparty, ?_⟩⟩
      obtain rfl := List.mem_singleton.mp hf
      obtain ⟨id, child, hchild, hparentId, rfl⟩ := hparent
      obtain ⟨parent, hlookup, hstartup⟩ := hlinked id child parentId hchild (.inl hparentId)
      obtain ⟨parent', hlookup', hassignee'⟩ := Option.bind_eq_some_iff.mp hassignee
      obtain rfl := Option.some.inj (hlookup.symm.trans hlookup')
      exact hstartup ▸ hassigned parentId parent agentId hlookup hassignee'
  | @frame agentId frame hframe =>
      refine ⟨[(agentId, frame)], rfl, fun f hf hnotice => ?_⟩
      obtain rfl := List.mem_singleton.mp hf
      exact absurd (hframe.symm.trans hnotice) (by simp)
  | _ => exact ⟨[], (List.append_nil _).symm, fun f hf => absurd hf List.not_mem_nil⟩

/-- So it is for a run of statements. -/
theorem Statements.notices (h : Statements party astray s s') (hastray : ¬ astray)
    (hmatch : AvatarsMatch s) (hassigned : AssignedAtHome s.db) (hlinked : Linked s.db) :
    NoticesAtHome s party s' := by
  have hall : AvatarsMatch s' ∧ AssignedAtHome s'.db ∧ Linked s'.db ∧ NoticesAtHome s party s' := by
    induction h with
    | refl =>
        exact ⟨hmatch, hassigned, hlinked, [], (List.append_nil _).symm,
          fun f hf => absurd hf List.not_mem_nil⟩
    | tail _ hstep ih =>
        obtain ⟨hmatch, hassigned, hlinked, frames, heq, hframes⟩ := ih
        obtain ⟨frames', heq', hframes'⟩ := hstep.notices hlinked hassigned
        refine ⟨hstep.avatarsMatch hmatch, hstep.assignedAtHome hmatch hassigned,
          hstep.linked hastray hlinked, frames ++ frames', ?_, fun f hf hnotice => ?_⟩
        · rw [heq', heq, List.append_assoc]
        · rcases List.mem_append.mp hf with hf | hf
          · obtain ⟨home, hparty, hof⟩ := hframes f hf hnotice
            exact ⟨home, hparty, hstep.agentOf hof⟩
          · exact hframes' f hf hnotice
  exact hall.2.2.2

/-- Where there are no tasks, none is linked. -/
theorem linked_of_init (h : (loopSystem cfg).init s) : Linked s.db := by
  intro taskId task u htask
  rw [h.1, AList.lookup_empty] at htask
  exact absurd htask (by simp)

/-- **Tasks are linked within their startup, and notes to the assignees of parents stay there**, in every
run whose requests name tasks of their own startup as parents and blockers. -/
theorem linked_at_home (hinit : (loopSystem cfg).init s)
    (h : Run ((loopSystem cfg).restrict NamesOwnTasks).step s ls t) :
    Linked t.db ∧ (AvatarsMatch s → ∀ l, NamesOwnTasks t l →
      NoticesAtHome t (l.party t) (l.apply cfg t)) := by
  have hlinked : Linked t.db := by
    refine run_statements (I := fun s => Linked s.db) ?_ h (linked_of_init hinit)
    rintro party astray s₀ l s s' hC hastray hs hstatement
    exact hstatement.linked (fun h => hC (hastray h)) hs
  refine ⟨hlinked, fun hmatch l hl => ?_⟩
  have hboth : AvatarsMatch t ∧ AssignedAtHome t.db := by
    refine run_statements (I := fun s => AvatarsMatch s ∧ AssignedAtHome s.db) ?_ h
      ⟨hmatch, assignedAtHome_of_init hinit⟩
    rintro party astray s₀ l s s' - - ⟨hmatch, hs⟩ hstatement
    exact ⟨hstatement.avatarsMatch hmatch, hstatement.assignedAtHome hmatch hs⟩
  exact (apply_statements cfg t l).notices hl hboth.1 hboth.2 hlinked

end Links

/-- The founder's task and a subtask of it are linked within the startup. -/
theorem linked_at_home_subtask :
    Linked (runEvents sampleConfig sampleStartup.state
        [sampleCreate 1 "1" (some "a-1"),
          sampleCall 2 "a-1" "subtask_create" [("parent_id", .str "T_1")]]).db ∧
      ∃ task ∈ (runEvents sampleConfig sampleStartup.state
        [sampleCreate 1 "1" (some "a-1"),
          sampleCall 2 "a-1" "subtask_create" [("parent_id", .str "T_1")]]).db.tasks.lookup "m",
        task.parentId = some "T_1" := by
  refine ⟨(linked_at_home (sampleStartup.init sampleConfig)
    (System.run_restrict (run_runEvents sampleConfig sampleStartup.state _) fun l hl s => ?_)).1,
    by decide +kernel⟩
  simp only [List.mem_cons, List.not_mem_nil, or_false] at hl
  rcases hl with rfl | rfl
  · rintro ⟨-, u, hparent | hblocker, -⟩
    · exact absurd hparent (by simp)
    · exact absurd hblocker (by simp)
  · rintro ⟨caller, -, htool, -⟩
    exact absurd htool (by decide)

/-! ### Two startups -/

/-- The startup next door. -/
def neighbour : NewStartup where
  id := "s-2"
  budgetCapUsd := 100
  suiteId := "suite_2"
  suite := ⟨0, 8, 7, 6⟩
  founderId := "b-1"
  engineerId := "b-2"
  designerId := "b-3"
  founderBackend := "codex"
  engineerBackend := "codex"
  designerBackend := "codex"
  ids := by decide

/-- Both startups, just created. -/
def sampleTown : LoopState :=
  { sampleStartup.state with
    world := ⟨Table.ofList ([sampleStartup, neighbour].flatMap fun n =>
      n.agents.map fun a => (a.2.1, n.avatarView a))⟩
    db := { sampleStartup.state.db with
      startups := Table.ofList [("s-1", sampleStartup.startupRow), ("s-2", neighbour.startupRow)]
      agents := Table.ofList ([sampleStartup, neighbour].flatMap fun n =>
        n.agents.map fun a => (a.2.1, n.agentRow a))
      taskRefs := by simp [NewStartup.state]
      agentIds := by decide } }

theorem sampleTown_init (cfg : Config) : (loopSystem cfg).init sampleTown := by
  refine ⟨rfl, fun agentId a ha => ?_⟩
  obtain ⟨n, -, hn⟩ := List.mem_flatMap.mp (Table.mem_of_lookup_ofList ha)
  obtain ⟨x, -, heq⟩ := List.mem_map.mp hn
  rw [← (Prod.mk.inj heq).2]
  rfl

/-- The neighbour's founder is given a task, and the engineer a subtask of it. -/
def foreignParentEvents : List LoopEvent :=
  [.createTask (sampleEnv 1 "1") (some sampleAdmin)
      { startupId := "s-2", title := "title", description := "description"
        assigneeAgentId := some "b-1", parentId := none, requiredRoom := none
        preferredBackend := none, preferredModel := none, costEstimateUsd := none
        blockedOn := none, deadlineAt := none },
    .createTask (sampleEnv 2 "2") (some sampleAdmin)
      { startupId := "s-1", title := "title", description := "description"
        assigneeAgentId := some "a-2", parentId := some "T_1", requiredRoom := none
        preferredBackend := none, preferredModel := none, costEstimateUsd := none
        blockedOn := none, deadlineAt := none },
    .registerWorker "a-2", .registerWorker "b-1", .tick (sampleEnv 3 "t")]

/-- The engineer is done with the subtask. -/
def foreignDone : LoopEvent :=
  sampleCall 4 "a-2" "task_done" [("task_id", .str "T_2"),
    ("artifact_path", .str "workspaces/s-1/artifacts/T_2.md"), ("auto_check", .bool false)]

/-- **Not in every run**: the admin creates a task under a parent of another startup, whose assignee is told
when it is done. -/
theorem not_linked_at_home :
    (¬ ∀ (cfg : Config) (s : LoopState), (loopSystem cfg).Reachable s → Linked s.db) ∧
      ¬ ∀ (cfg : Config) (s : LoopState), (loopSystem cfg).Reachable s →
        ∀ l : LoopEvent, NoticesAtHome s (l.party s) (l.apply cfg s) := by
  have hreachable : (loopSystem sampleConfig).Reachable
      (runEvents sampleConfig sampleTown foreignParentEvents) :=
    (System.Reachable.init (sampleTown_init sampleConfig)).run (run_runEvents _ _ _)
  constructor
  · intro h
    obtain ⟨task, htask, hparent, hstartup⟩ : ∃ task ∈
        (runEvents sampleConfig sampleTown foreignParentEvents).db.tasks.lookup "T_2",
        task.parentId = some "T_1" ∧ task.startupId = "s-1" := by
      decide +kernel
    obtain ⟨parent, hlookup, hsame⟩ := h _ _ hreachable "T_2" task "T_1" htask (.inl hparent)
    have hforeign : ∀ t ∈
        (runEvents sampleConfig sampleTown foreignParentEvents).db.tasks.lookup "T_1",
        t.startupId = "s-2" := by
      decide +kernel
    rw [hforeign parent hlookup, hstartup] at hsame
    exact absurd hsame (by decide)
  · intro h
    obtain ⟨frames, heq, hframes⟩ := h _ _ hreachable foreignDone
    obtain ⟨f, hf, hnotice, hto⟩ : ∃ f ∈ (foreignDone.apply sampleConfig
        (runEvents sampleConfig sampleTown foreignParentEvents)).frames,
        isNotice f.2 = true ∧ f.1 = "b-1" := by
      decide +kernel
    have hold : ∀ f ∈ (runEvents sampleConfig sampleTown foreignParentEvents).frames,
        isNotice f.2 = false := by
      decide +kernel
    rw [heq] at hf
    rcases List.mem_append.mp hf with hf | hf
    · exact absurd ((hold f hf).symm.trans hnotice) (by simp)
    · obtain ⟨home, hparty, agent, hagent, hstartup⟩ := hframes f hf hnotice
      obtain ⟨caller, hlookup, hhome⟩ : ∃ caller ∈ (runEvents sampleConfig sampleTown
          foreignParentEvents).world.avatars.lookup "a-2", caller.startupId = "s-1" := by
        decide +kernel
      have hs : home = "s-1" := by
        rw [Option.mem_def] at hlookup
        simpa [foreignDone, sampleCall, LoopEvent.party, hlookup, hhome] using hparty.symm
      have hforeign : ∀ agent ∈ (foreignDone.apply sampleConfig
          (runEvents sampleConfig sampleTown foreignParentEvents)).db.agents.lookup "b-1",
          agent.startupId = "s-2" := by
        decide +kernel
      rw [hforeign agent (hto ▸ hagent), hs] at hstartup
      exact absurd hstartup (by decide)

end Cliptown.Task
