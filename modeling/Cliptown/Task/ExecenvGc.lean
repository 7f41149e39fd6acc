import Cliptown.Lib.LexicalPath
import Cliptown.Task.Parties
import Cliptown.Task.Rounds

/-!
# The collector of work directories

A task of the program asks now and then for the tasks that have been over for long, and removes their work directories
one after the other. Meanwhile the loop goes on, and so do workers, which may also put links in the way.

* `TaskRow.Collectable`, `collectable` — what a pass asks for.
* `collectTarget`, `ReapOne` — the directory of a task, and its removal.
* `GcState`, `GcLabel`, `GcStep`, `gcSystem` — passes among everything else that happens.
* `MintedTask`, `lookup_of_apply` — the ids of the tasks come from the loop.
* `Later`, `later_apply` — what becomes of the tasks between the query and a removal.
* `Collecting` — what holds while a pass is under way.
* `ReapsOver`, `gc_reaps_over` — what a removal touches: the directory of a task that is over, where the system finds
  it; and nothing of any other task, if the directory of the startup is none but its own.
* `InPlace`, `gc_collects` — what a pass does that nothing disturbs, where no link or file is in the place of a
  directory.
-/

namespace Cliptown.Task

open Cliptown.Lib Cliptown.Lib.PosixPath Cliptown.Worker

/-! ### A pass -/

/-- The task is over, and has not been touched since the cutoff. -/
def TaskRow.Collectable (cutoff : ℤ) (t : TaskRow) : Prop :=
  t.status.Terminal ∧ t.updatedAt < cutoff

instance (cutoff : ℤ) (t : TaskRow) : Decidable (t.Collectable cutoff) :=
  inferInstanceAs (Decidable (_ ∧ _))

/-- Source: `execenv_gc.rs` `run_pass`, the query -/
def collectable (cutoff : ℤ) (tasks : Table String TaskRow) : List (String × String) :=
  (tasks.entries.filter fun e => decide (e.2.Collectable cutoff)).map fun e => (e.2.startupId, e.1)

/-- Source: `execenv_gc.rs` `run_pass`, `target` -/
def collectTarget (root : AbsPath) (startupId taskId : String) : AbsPath :=
  resolve (resolve root startupId) taskId

/-- One row of a pass, whether it fails, the tree after it, and whether its directory counts as removed. `exists`
follows a link. `remove_dir_all` follows those on the way, but not one at the end, which it removes; for a regular file
it fails, and for a directory it may fail half way. Source: `execenv_gc.rs` `run_pass`, the loop -/
inductive ReapOne (maxLinks : ℕ) (root : AbsPath) (tree : FileTree) (row : String × String) :
    Bool → FileTree → Bool → Prop
  | skipped {fails : Bool} : tree.openPath false maxLinks (collectTarget root row.1 row.2) = none →
      ReapOne maxLinks root tree row fails tree false
  | removed {dir : AbsPath} : (tree.openPath false maxLinks (collectTarget root row.1 row.2)).isSome →
      tree.openPath false maxLinks (resolve root row.1) = some dir → tree.node (dir ++ [row.2.toList]) ≠ some .file →
        ReapOne maxLinks root tree row false (tree.remove dir row.2.toList) true
  | refused {fails : Bool} {dir : AbsPath} :
      (tree.openPath false maxLinks (collectTarget root row.1 row.2)).isSome →
      tree.openPath false maxLinks (resolve root row.1) = some dir → tree.node (dir ++ [row.2.toList]) = some .file →
        ReapOne maxLinks root tree row fails tree false
  | failed {dir : AbsPath} {tree' : FileTree} :
      (tree.openPath false maxLinks (collectTarget root row.1 row.2)).isSome →
      tree.openPath false maxLinks (resolve root row.1) = some dir →
      (∀ p, tree'.node p = tree.node p ∨ dir ++ [row.2.toList] <+: p ∧ tree'.node p = none) →
        ReapOne maxLinks root tree row true tree' false

/-- A pass under way: the rows that are left, and the table that the query has seen. -/
structure CollectorPass where
  cutoff : ℤ
  seen : Table String TaskRow
  rows : List (String × String)
  reaped : ℕ

structure GcState where
  loop : LoopState
  tree : FileTree
  pass : Option CollectorPass

/-- What can happen: a request to the loop, another change that leaves the tasks alone, any change of the files by
others, and what the collector does. -/
inductive GcLabel where
  | request (l : LoopEvent)
  | elsewhere (s : LoopState)
  | write (tree : FileTree)
  | query (now : ℤ)
  | reap (fails : Bool)
  | finish

/-- The ids of the startups are minted. -/
def StartupsMinted (db : Db) : Prop :=
  ∀ startupId, (db.startups.lookup startupId).isSome = true → MintedId startupId

/-- Source: `execenv_gc.rs` `run_pass` -/
inductive GcStep (cfg : Config) (maxLinks : ℕ) (root : AbsPath) (maxAgeSecs : ℤ) : GcState → GcLabel → GcState → Prop
  | request {s : GcState} {l : LoopEvent} :
      GcStep cfg maxLinks root maxAgeSecs s (.request l) { s with loop := l.apply cfg s.loop }
  | elsewhere {s : GcState} {loop : LoopState} : loop.db.tasks = s.loop.db.tasks → StartupsMinted loop.db →
      GcStep cfg maxLinks root maxAgeSecs s (.elsewhere loop) { s with loop := loop }
  | write {s : GcState} {tree : FileTree} :
      GcStep cfg maxLinks root maxAgeSecs s (.write tree) { s with tree := tree }
  | query {s : GcState} {now : ℤ} : s.pass = none →
      GcStep cfg maxLinks root maxAgeSecs s (.query now)
        { s with pass := some ⟨now - maxAgeSecs, s.loop.db.tasks, collectable (now - maxAgeSecs) s.loop.db.tasks, 0⟩ }
  | reap {s : GcState} {pass : CollectorPass} {row : String × String} {rows : List (String × String)} {fails : Bool}
      {tree : FileTree} {counts : Bool} : s.pass = some pass → pass.rows = row :: rows →
      ReapOne maxLinks root s.tree row fails tree counts →
      GcStep cfg maxLinks root maxAgeSecs s (.reap fails)
        { s with
          tree := tree
          pass := some ⟨pass.cutoff, pass.seen, rows, pass.reaped + if counts then 1 else 0⟩ }
  | finish {s : GcState} {pass : CollectorPass} : s.pass = some pass → pass.rows = [] →
      GcStep cfg maxLinks root maxAgeSecs s .finish { s with pass := none }

/-! ### The ids of tasks -/

/-- The ids of the tasks that a request may create. -/
def LoopEvent.mints : LoopEvent → List String
  | .mcp env _ _ => [env.newId]
  | .createTask env _ _ => ["T_" ++ env.newId]
  | _ => []

/-- A minted id that is not the name of the directory of the artifacts. -/
def MintedTask (id : String) : Prop :=
  MintedId id ∧ id ≠ "artifacts"

section Ids

variable {cfg : Config} {s : LoopState} {id : String}

theorem isSome_face : (s.face id).isSome = (s.db.tasks.lookup id).isSome :=
  Option.isSome_map

/-- A task that is there was there, or the request has minted its id. -/
theorem lookup_of_apply (l : LoopEvent) (h : ((l.apply cfg s).db.tasks.lookup id).isSome) :
    (s.db.tasks.lookup id).isSome ∨ id ∈ l.mints := by
  by_cases hl : l.Scheduler
  · obtain ⟨row', hrow'⟩ := Option.isSome_iff_exists.mp h
    obtain ⟨row, hrow, -⟩ := round_of_writes (scheduler_writes cfg s l hl) row' hrow'
    exact .inl (by rw [hrow]; rfl)
  rw [← isSome_face] at h ⊢
  -- the columns of one task are replaced
  have hupdate : ∀ {u : String} {row : TaskRow} {c : Face}, s.db.tasks.lookup u = some row →
      (Function.update s.face u (some c) id).isSome → (s.face id).isSome := by
    intro u row c hrow hid
    rw [Function.update_apply] at hid
    split at hid
    · rename_i heq
      rw [heq, face_of_lookup hrow]
      rfl
    · exact hid
  have hnew : ∀ {u : String} {c : Face}, u ∈ l.mints →
      (Function.update s.face u (some c) id).isSome → (s.face id).isSome ∨ id ∈ l.mints := by
    intro u c hu hid
    rw [Function.update_apply] at hid
    split at hid
    · rename_i heq
      exact .inr (heq ▸ hu)
    · exact .inl hid
  have hrecast := request_face cfg s l hl
  generalize (l.apply cfg s).face = face at hrecast h
  cases hrecast with
  | same => exact .inl h
  | accept hrow _ => exact .inl (hupdate hrow h)
  | create => exact hnew List.mem_cons_self h
  | @tool env agentId msg caller _ hcaller hturns =>
      generalize (McpCall.ofJson msg).tool = tool at hturns
      cases hturns with
      | same => exact .inl h
      | subtask => exact hnew List.mem_cons_self h
      | accept _ _ hrow _ => exact .inl (hupdate hrow h)
      | steal _ hrow _ => exact .inl (hupdate hrow h)
      | nextRound _ hrow _ _ => exact .inl (hupdate hrow h)

end Ids

/-- No statement creates or removes a startup. -/
theorem Statement.startups {party : Party} {astray : Prop} {s s' : LoopState} (h : Statement party astray s s')
    (startupId : String) : (s'.db.startups.lookup startupId).isSome = (s.db.startups.lookup startupId).isSome := by
  cases h with
  | relink hdb _ => rw [(onlyTasks_relinkTask hdb).startups]
  | insert hdb _ => rw [(onlyTasks_insertTask hdb).startups]
  | message hdb _ => rw [(insertMessage_eq hdb).2]
  | skills hstep =>
      obtain ⟨tables, rfl⟩ := SkillSteps.eq (.single hstep)
      rfl
  | @startup id f _ =>
      change ((s.db.startups.modify id f).lookup startupId).isSome = _
      rw [Table.lookup_modify]
      split <;> simp
  | _ => rfl

/-! ### Between the query and a removal -/

/-- What has become of the tasks: they are still there, in their startups, and those that were over still are. -/
def Later (seen now : Table String TaskRow) : Prop :=
  ∀ id row, seen.lookup id = some row → ∃ row', now.lookup id = some row' ∧ row'.startupId = row.startupId ∧
    (row.status = .done ∨ row.status = .failed → row'.status = row.status) ∧
      (row.status.Terminal → row'.status.Terminal)

theorem Later.refl (tasks : Table String TaskRow) : Later tasks tasks :=
  fun _ row hrow => ⟨row, hrow, rfl, fun _ => rfl, id⟩

theorem Later.trans {tasks tasks' tasks'' : Table String TaskRow} (h : Later tasks tasks') (h' : Later tasks' tasks'') :
    Later tasks tasks'' := by
  intro id row hrow
  obtain ⟨row', hrow', hstartup, hsame, hover⟩ := h id row hrow
  obtain ⟨row'', hrow'', hstartup', hsame', hover'⟩ := h' id row' hrow'
  refine ⟨row'', hrow'', hstartup'.trans hstartup, fun hdone => ?_, fun hterminal => hover' (hover hterminal)⟩
  have heq := hsame hdone
  rw [hsame' (heq ▸ hdone), heq]

/-- A request leaves the tasks in their startups. -/
theorem startupId_of_apply {cfg : Config} {s : LoopState} {id : String} {row row' : TaskRow} (l : LoopEvent)
    (hrow : s.db.tasks.lookup id = some row) (hrow' : (l.apply cfg s).db.tasks.lookup id = some row') :
    row'.startupId = row.startupId := by
  have hrun := apply_statements cfg s l
  generalize l.apply cfg s = t at hrun hrow'
  induction hrun generalizing row' with
  | refl =>
      obtain rfl := Option.some.inj (hrow.symm.trans hrow')
      rfl
  | @tail u t hu hstatement ih =>
      have hstays : ∃ row₁, u.db.tasks.lookup id = some row₁ := by
        clear ih hstatement hrow'
        induction hu with
        | refl => exact ⟨row, hrow⟩
        | tail _ hstatement ih =>
            obtain ⟨row₁, hrow₁⟩ := ih
            obtain ⟨row₂, hrow₂, -⟩ := hstatement.row_kept hrow₁
            exact ⟨row₂, hrow₂⟩
      obtain ⟨row₁, hrow₁⟩ := hstays
      obtain ⟨row₂, hrow₂, hkept⟩ := hstatement.row_kept hrow₁
      obtain rfl := Option.some.inj (hrow₂.symm.trans hrow')
      exact hkept.startup.trans (ih hrow₁)

/-- **What a request does to the tasks.** -/
theorem later_apply (cfg : Config) (s : LoopState) (l : LoopEvent) : Later s.db.tasks (l.apply cfg s).db.tasks := by
  have hover : StaysOver s (l.apply cfg s) :=
    (status_changes cfg s l).preserves (I := StaysOver s) (fun _ _ _ hs hstep => hs.trans (.of_write hstep))
      fun _ row hrow => ⟨row, hrow, fun _ => rfl, id⟩
  intro id row hrow
  obtain ⟨row', hrow', hsame, hterminal⟩ := hover id row hrow
  exact ⟨row', hrow', startupId_of_apply l hrow hrow', hsame, hterminal⟩

/-! ### Every run -/

/-- No id that the loop mints is special. -/
def GcLabel.MintsPlain : GcLabel → Prop
  | .request l => ∀ id ∈ l.mints, MintedTask id
  | _ => True

/-- At first there are no tasks, and no pass is under way. -/
def gcSystem (cfg : Config) (maxLinks : ℕ) (root : AbsPath) (maxAgeSecs : ℤ) : System GcState GcLabel where
  init s := (loopSystem cfg).init s.loop ∧ StartupsMinted s.loop.db ∧ s.pass = none
  step s l t := GcStep cfg maxLinks root maxAgeSecs s l t ∧ l.MintsPlain

/-- The ids of tasks and startups are minted; a pass under way goes through tasks that were over for long, and of which
it is known what has become. -/
structure Collecting (s : GcState) : Prop where
  startups : StartupsMinted s.loop.db
  tasks : ∀ id, (s.loop.db.tasks.lookup id).isSome → MintedTask id
  rows : ∀ pass, s.pass = some pass → ∀ r ∈ pass.rows, ∃ row, pass.seen.lookup r.2 = some row ∧
    row.startupId = r.1 ∧ row.Collectable pass.cutoff
  later : ∀ pass, s.pass = some pass → Later pass.seen s.loop.db.tasks

section Runs

variable {cfg : Config} {maxLinks : ℕ} {root : AbsPath} {maxAgeSecs now cutoff : ℤ} {s t : GcState}
  {tasks : Table String TaskRow} {startupId taskId : String}

theorem mem_collectable : (startupId, taskId) ∈ collectable cutoff tasks ↔
    ∃ row, tasks.lookup taskId = some row ∧ row.startupId = startupId ∧ row.Collectable cutoff := by
  unfold collectable
  simp only [List.mem_map, List.mem_filter, decide_eq_true_eq, Prod.mk.injEq]
  constructor
  · rintro ⟨⟨id, row⟩, ⟨hmem, hover⟩, hstartup, rfl⟩
    exact ⟨row, AList.mem_lookup_iff.mpr hmem, hstartup, hover⟩
  · rintro ⟨row, hrow, hstartup, hover⟩
    exact ⟨⟨taskId, row⟩, ⟨AList.mem_lookup_iff.mp hrow, hover⟩, hstartup, rfl⟩

/-- A request changes no startup's id. -/
theorem startupsMinted_apply {s : LoopState} (h : StartupsMinted s.db) (l : LoopEvent) :
    StartupsMinted (l.apply cfg s).db := by
  have hrun := apply_statements cfg s l
  generalize l.apply cfg s = t at hrun
  induction hrun with
  | refl => exact h
  | tail _ hstatement ih => exact fun startupId hsome => ih startupId (hstatement.startups startupId ▸ hsome)

/-- **One step.** -/
theorem Collecting.step {l : GcLabel} (h : Collecting s) (hstep : (gcSystem cfg maxLinks root maxAgeSecs).step s l t) :
    Collecting t := by
  obtain ⟨hstep, hmints⟩ := hstep
  cases hstep with
  | @request l =>
      exact
        { startups := startupsMinted_apply h.startups l
          tasks := fun id hsome => (lookup_of_apply l hsome).elim (h.tasks id) (hmints id)
          rows := h.rows
          later := fun pass hpass => (h.later pass hpass).trans (later_apply cfg s.loop l) }
  | elsewhere htasks hstartups =>
      exact
        { startups := hstartups
          tasks := fun id hsome => h.tasks id (htasks ▸ hsome)
          rows := h.rows
          later := fun pass hpass => htasks ▸ h.later pass hpass }
  | write => exact ⟨h.startups, h.tasks, h.rows, h.later⟩
  | query hnone =>
      refine ⟨h.startups, h.tasks, fun pass hpass r hr => ?_, fun pass hpass => ?_⟩
      · obtain rfl := Option.some.inj hpass
        exact mem_collectable.mp hr
      · obtain rfl := Option.some.inj hpass
        exact .refl _
  | @reap pass r rows fails tree counts hpass hrows hreap =>
      refine ⟨h.startups, h.tasks, fun pass' hpass' r' hr' => ?_, fun pass' hpass' => ?_⟩
      · obtain rfl := Option.some.inj hpass'
        exact h.rows pass hpass r' (hrows ▸ List.mem_cons_of_mem r hr')
      · obtain rfl := Option.some.inj hpass'
        exact h.later pass hpass
  | finish =>
      exact ⟨h.startups, h.tasks, fun pass hpass => absurd hpass (by simp), fun pass hpass => absurd hpass (by simp)⟩

theorem Collecting.of_reachable (h : (gcSystem cfg maxLinks root maxAgeSecs).Reachable s) : Collecting s := by
  refine h.invariant (fun s hs => ?_) fun s l t hs => hs.step
  obtain ⟨⟨htasks, -⟩, hstartups, hpass⟩ := hs
  refine ⟨hstartups, fun id hsome => ?_, fun pass hsome => ?_, fun pass hsome => ?_⟩
  · rw [htasks] at hsome
    exact absurd hsome (by simp)
  · exact absurd (hpass.symm.trans hsome) (by simp)
  · exact absurd (hpass.symm.trans hsome) (by simp)

/-- A task and its startup have minted ids. -/
theorem Collecting.minted (h : Collecting s) {row : TaskRow} (hrow : s.loop.db.tasks.lookup taskId = some row) :
    MintedTask taskId ∧ MintedId row.startupId :=
  ⟨h.tasks taskId (by rw [hrow]; rfl), h.startups _ (s.loop.db.taskRefs taskId row hrow).startup⟩

/-! ### Directories -/

/-- A minted id is a name in a directory. -/
theorem resolve_minted {id : String} {base : AbsPath} (h : MintedId id) : resolve base id = base ++ [id.toList] :=
  resolve_plain rfl (by simpa using h.plain)

/-- The directory of a task. -/
theorem collectTarget_eq (hs : MintedId startupId) (ht : MintedId taskId) :
    collectTarget root startupId taskId = root ++ [startupId.toList, taskId.toList] := by
  rw [collectTarget, resolve_minted hs, resolve_minted ht, List.append_assoc]
  rfl

/-- Nothing is in the directories of two tasks. -/
theorem child_eq_of_below {v w v' w' : List Char} {p rest : AbsPath} (hp : p = root ++ v' :: w' :: rest)
    (h : root ++ [v, w] <+: p) : v = v' ∧ w = w' := by
  subst hp
  obtain ⟨rest', hrest⟩ := h
  rw [List.append_assoc] at hrest
  have hcons := List.append_cancel_left hrest
  simp only [List.cons_append, List.nil_append, List.cons.injEq] at hcons
  exact ⟨hcons.1, hcons.2.1⟩

/-- What one row changes is below its directory, where the system finds it, and is gone. -/
theorem ReapOne.changes {tree tree' : FileTree} {r : String × String} {fails counts : Bool} {p : AbsPath}
    (h : ReapOne maxLinks root tree r fails tree' counts) (hp : tree'.node p ≠ tree.node p) :
    ∃ dir, tree.openPath false maxLinks (resolve root r.1) = some dir ∧ dir ++ [r.2.toList] <+: p ∧
      tree'.node p = none := by
  cases h with
  | skipped hnone => exact absurd rfl hp
  | @removed dir hsome hdir hkind =>
      rw [FileTree.node_remove] at hp ⊢
      by_cases hprefix : dir ++ [r.2.toList] <+: p
      · exact ⟨dir, hdir, hprefix, if_pos hprefix⟩
      · exact absurd (if_neg hprefix) hp
  | refused hsome hdir hkind => exact absurd rfl hp
  | @failed dir tree' hsome hdir hchanges =>
      obtain ⟨hpre, hnone⟩ := (hchanges p).resolve_left hp
      exact ⟨dir, hdir, hpre, hnone⟩

/-- What a removal touches: the directory of one task, which was over long before the query and is over still, and
whose startup is the same. What it changes is gone, and was where the directory of the startup leads. Where this is a
directory itself, those of other tasks stay as they are, and so do the artifacts. -/
structure ReapsOver (maxLinks : ℕ) (root : AbsPath) (s t : GcState) (pass : CollectorPass) (id : String)
    (row row' : TaskRow) : Prop where
  pass_eq : s.pass = some pass
  seen : pass.seen.lookup id = some row
  collectable : row.Collectable pass.cutoff
  now : s.loop.db.tasks.lookup id = some row'
  startup : row'.startupId = row.startupId
  terminal : row'.status.Terminal
  same : row.status = .done ∨ row.status = .failed → row'.status = row.status
  loop : t.loop = s.loop
  changes : ∀ p, t.tree.node p ≠ s.tree.node p →
    ∃ dir, s.tree.openPath false maxLinks (root ++ [row'.startupId.toList]) = some dir ∧ dir ++ [id.toList] <+: p ∧
      t.tree.node p = none
  others : s.tree.node (root ++ [row'.startupId.toList]) = some .dir →
    ∀ other otherRow rest, other ≠ id → s.loop.db.tasks.lookup other = some otherRow →
      t.tree.node (root ++ otherRow.startupId.toList :: other.toList :: rest) =
        s.tree.node (root ++ otherRow.startupId.toList :: other.toList :: rest)
  artifacts : s.tree.node (root ++ [row'.startupId.toList]) = some .dir →
    ∀ (startupId : String) rest, t.tree.node (root ++ startupId.toList :: "artifacts".toList :: rest) =
      s.tree.node (root ++ startupId.toList :: "artifacts".toList :: rest)

/-- **Every removal** touches the directory of a task that is over, and, where no link leads away, nothing else. -/
theorem gc_reaps_over {fails : Bool} (h : (gcSystem cfg maxLinks root maxAgeSecs).Reachable s)
    (hstep : (gcSystem cfg maxLinks root maxAgeSecs).step s (.reap fails) t) :
    ∃ pass id row row', ReapsOver maxLinks root s t pass id row row' := by
  have hcollecting := Collecting.of_reachable h
  obtain ⟨hstep, -⟩ := hstep
  cases hstep with
  | @reap pass r rows _ tree counts hpass hrows hreap =>
      obtain ⟨row, hrow, hstartup, hover⟩ := hcollecting.rows pass hpass r (hrows ▸ List.mem_cons_self)
      obtain ⟨row', hrow', hsame, hdone, hterminal⟩ := hcollecting.later pass hpass r.2 row hrow
      obtain ⟨htask, hmintedStartup⟩ := hcollecting.minted hrow'
      have hstartup' : resolve root r.1 = root ++ [row'.startupId.toList] := by
        rw [← hstartup, ← hsame]
        exact resolve_minted hmintedStartup
      have hchanges : ∀ p, tree.node p ≠ s.tree.node p →
          ∃ dir, s.tree.openPath false maxLinks (root ++ [row'.startupId.toList]) = some dir ∧
            dir ++ [r.2.toList] <+: p ∧ tree.node p = none := fun p hp => hstartup' ▸ hreap.changes hp
      -- the way is the path itself
      have hbelow : s.tree.node (root ++ [row'.startupId.toList]) = some .dir → ∀ p, tree.node p ≠ s.tree.node p →
          root ++ [row'.startupId.toList, r.2.toList] <+: p := by
        intro hplace p hp
        obtain ⟨dir, hdir, hprefix, -⟩ := hchanges p hp
        rw [FileTree.openPath_of_solid (.inl hplace)] at hdir
        obtain rfl := Option.some.inj hdir
        simpa using hprefix
      refine ⟨pass, r.2, row, row', hpass, hrow, hover, hrow', hsame, hterminal hover.1, hdone, rfl, hchanges,
        fun hplace other otherRow rest hne _ => ?_, fun hplace startupId rest => ?_⟩
      · by_contra hchanged
        exact hne (String.toList_inj.mp (child_eq_of_below rfl (hbelow hplace _ hchanged)).2.symm)
      · by_contra hchanged
        exact htask.2 (String.toList_inj.mp (child_eq_of_below rfl (hbelow hplace _ hchanged)).2)

/-! ### An undisturbed pass -/

/-- Nothing but directories is in the place of the directories of a startup and of a task. -/
structure InPlace (root : AbsPath) (tree : FileTree) (startupId taskId : String) : Prop where
  startup : tree.node (root ++ [startupId.toList]) = none ∨ tree.node (root ++ [startupId.toList]) = some .dir
  task : tree.node (root ++ [startupId.toList, taskId.toList]) = none ∨
    tree.node (root ++ [startupId.toList, taskId.toList]) = some .dir

/-- What is not there cannot be opened. -/
theorem openPath_eq_none {tree : FileTree} {dir : AbsPath} {v : List Char} (hdir : tree.node dir = some .dir)
    (hv : Plain v) (hnone : tree.node (dir ++ [v]) = none) (rest : AbsPath) :
    tree.openPath false maxLinks (dir ++ v :: rest) = none := by
  have hwalk : tree.walk false maxLinks [] (dir ++ v :: rest) = tree.walk false maxLinks ([] ++ dir) (v :: rest) :=
    FileTree.walk_append (.inl hdir)
  have hmissing : tree.walk false maxLinks dir [v] = none := FileTree.walk_missing hdir hv hnone
  rw [FileTree.openPath, hwalk, List.nil_append]
  exact FileTree.walk_none hmissing rest

/-- **A removal that does not fail** removes the directory and what is below it. -/
theorem ReapOne.node_eq {tree tree' : FileTree} {r : String × String} {counts : Bool}
    (h : ReapOne maxLinks root tree r false tree' counts) (hroot : tree.node root = some .dir)
    (hs : MintedId r.1) (ht : MintedId r.2) (hplace : InPlace root tree r.1 r.2) (p : AbsPath) :
    tree'.node p = if root ++ [r.1.toList, r.2.toList] <+: p then none else tree.node p := by
  have htarget := @collectTarget_eq root _ _ hs ht
  have hsplit : root ++ [r.1.toList, r.2.toList] = (root ++ [r.1.toList]) ++ [r.2.toList] := by simp
  have hdir : ∀ {dir}, (tree.openPath false maxLinks (collectTarget root r.1 r.2)).isSome →
      tree.openPath false maxLinks (resolve root r.1) = some dir → dir = root ++ [r.1.toList] := by
    intro dir hsome hdir
    rw [resolve_minted hs] at hdir
    rcases hplace.startup with hnone | hthere
    · rw [htarget, openPath_eq_none hroot hs.plain hnone] at hsome
      exact absurd hsome (by simp)
    · rw [FileTree.openPath_of_solid (.inl hthere)] at hdir
      exact (Option.some.inj hdir).symm
  cases h with
  | skipped hnone =>
      split
      · rename_i hprefix
        rcases hplace.task with hnothing | hthere
        · exact FileTree.none_below hnothing hprefix
        · rw [htarget, FileTree.openPath_of_solid (.inl hthere)] at hnone
          exact absurd hnone (by simp)
      · rfl
  | removed hsome hopen hkind =>
      rw [FileTree.node_remove, hdir hsome hopen, hsplit]
  | refused hsome hopen hkind =>
      rw [hdir hsome hopen, ← hsplit] at hkind
      rcases hplace.task with hnothing | hthere
      · exact absurd (hnothing.symm.trans hkind) (by simp)
      · exact absurd (hthere.symm.trans hkind) (by simp)

/-- It can take place. -/
theorem exists_reapOne {tree : FileTree} {r : String × String} (hroot : tree.node root = some .dir)
    (hs : MintedId r.1) (ht : MintedId r.2) (hplace : InPlace root tree r.1 r.2) :
    ∃ tree' counts, ReapOne maxLinks root tree r false tree' counts := by
  have htarget := @collectTarget_eq root _ _ hs ht
  have hsplit : root ++ [r.1.toList, r.2.toList] = (root ++ [r.1.toList]) ++ [r.2.toList] := by simp
  rcases hopen : tree.openPath false maxLinks (collectTarget root r.1 r.2) with _ | q
  · exact ⟨tree, false, .skipped hopen⟩
  · rcases hplace.startup with hnone | hthere
    · rw [htarget, openPath_eq_none hroot hs.plain hnone] at hopen
      exact absurd hopen (by simp)
    · refine ⟨_, true, .removed (by rw [hopen]; rfl)
        (by rw [resolve_minted hs]; exact FileTree.openPath_of_solid (.inl hthere)) ?_⟩
      rw [← hsplit]
      rcases hplace.task with hnothing | hdir
      · simp [hnothing]
      · simp [hdir]

/-- The directories of the other rows stay in their places. -/
theorem InPlace.of_node_eq {tree tree' : FileTree} {startupId taskId : String} {target : AbsPath}
    (h : InPlace root tree startupId taskId) (hnode : ∀ p, tree'.node p = if target <+: p then none else tree.node p) :
    InPlace root tree' startupId taskId := by
  constructor
  · rw [hnode]
    split
    · exact .inl rfl
    · exact h.startup
  · rw [hnode]
    split
    · exact .inl rfl
    · exact h.task

/-- The rows of a pass, one after the other. -/
theorem reap_run {loop : LoopState} {tree : FileTree} {seen : Table String TaskRow} {rows : List (String × String)}
    {reaped n : ℕ} (hroot : tree.node root = some .dir)
    (hrows : ∀ r ∈ rows, MintedId r.1 ∧ MintedId r.2 ∧ InPlace root tree r.1 r.2)
    (hrun : Run (gcSystem cfg maxLinks root maxAgeSecs).step ⟨loop, tree, some ⟨cutoff, seen, rows, reaped⟩⟩
      (List.replicate n (.reap false) ++ [.finish]) t) :
    t.loop = loop ∧ t.pass = none ∧
      ∀ p, ((∃ r ∈ rows, root ++ [r.1.toList, r.2.toList] <+: p) → t.tree.node p = none) ∧
        ((¬ ∃ r ∈ rows, root ++ [r.1.toList, r.2.toList] <+: p) → t.tree.node p = tree.node p) := by
  induction rows generalizing tree reaped n with
  | nil =>
    cases n with
    | zero =>
      obtain ⟨u, ⟨hstep, -⟩, hrest⟩ := hrun.cons_inv
      cases hrest
      cases hstep
      exact ⟨rfl, rfl, fun p => ⟨by simp, fun _ => rfl⟩⟩
    | succ n =>
      obtain ⟨u, ⟨hstep, -⟩, -⟩ := hrun.cons_inv
      cases hstep with
      | reap hpass hcons => exact absurd ((Option.some.inj hpass) ▸ hcons) (by simp)
  | cons r rows ih =>
    cases n with
    | zero =>
      obtain ⟨u, ⟨hstep, -⟩, -⟩ := hrun.cons_inv
      cases hstep with
      | finish hpass hnil => exact absurd ((Option.some.inj hpass) ▸ hnil) (by simp)
    | succ n =>
      obtain ⟨u, ⟨hstep, -⟩, hrest⟩ := hrun.cons_inv
      cases hstep with
      | @reap pass r' rows' _ tree' counts hpass hcons hreap =>
        obtain rfl := Option.some.inj hpass
        obtain ⟨rfl, rfl⟩ := List.cons.inj hcons
        rw [List.forall_mem_cons] at hrows
        obtain ⟨⟨hs, ht, hplace⟩, hothers⟩ := hrows
        have hnode := hreap.node_eq hroot hs ht hplace
        have hroot' : tree'.node root = some .dir := by
          rw [hnode, if_neg, hroot]
          exact fun hprefix => absurd hprefix.length_le (by simp)
        obtain ⟨hloop, hnone, htree⟩ := ih hroot'
          (fun r hr => ⟨(hothers r hr).1, (hothers r hr).2.1, (hothers r hr).2.2.of_node_eq hnode⟩) hrest
        refine ⟨hloop, hnone, fun p => ?_⟩
        simp only [List.exists_mem_cons_iff]
        by_cases hrest : ∃ r ∈ rows, root ++ [r.1.toList, r.2.toList] <+: p
        · exact ⟨fun _ => (htree p).1 hrest, fun hnot => absurd (.inr hrest) hnot⟩
        · rw [(htree p).2 hrest, hnode]
          exact ⟨fun hsome => if_pos (hsome.resolve_right hrest), fun hnot => if_neg fun hprefix => hnot (.inl hprefix)⟩

/-- They can be gone through. -/
theorem exists_reap_run (cfg : Config) (maxLinks : ℕ) (maxAgeSecs cutoff : ℤ) (loop : LoopState)
    (seen : Table String TaskRow) {tree : FileTree} {rows : List (String × String)} (reaped : ℕ)
    (hroot : tree.node root = some .dir)
    (hrows : ∀ r ∈ rows, MintedId r.1 ∧ MintedId r.2 ∧ InPlace root tree r.1 r.2) :
    ∃ t, Run (gcSystem cfg maxLinks root maxAgeSecs).step ⟨loop, tree, some ⟨cutoff, seen, rows, reaped⟩⟩
      (List.replicate rows.length (.reap false) ++ [.finish]) t := by
  induction rows generalizing tree reaped with
  | nil => exact ⟨_, .single ⟨.finish rfl rfl, trivial⟩⟩
  | cons r rows ih =>
    rw [List.forall_mem_cons] at hrows
    obtain ⟨⟨hs, ht, hplace⟩, hothers⟩ := hrows
    obtain ⟨tree', counts, hreap⟩ := @exists_reapOne maxLinks _ _ _ hroot hs ht hplace
    have hnode := hreap.node_eq hroot hs ht hplace
    have hroot' : tree'.node root = some .dir := by
      rw [hnode, if_neg, hroot]
      exact fun hprefix => absurd hprefix.length_le (by simp)
    obtain ⟨t, hrun⟩ := ih _ hroot'
      fun r hr => ⟨(hothers r hr).1, (hothers r hr).2.1, (hothers r hr).2.2.of_node_eq hnode⟩
    exact ⟨t, .cons ⟨.reap rfl rfl hreap, trivial⟩ hrun⟩

/-- **An undisturbed pass**, in which no removal fails, can be gone through, and removes the directories of the tasks
that are over and have not been touched for as long as is asked for, and nothing else, if no link and no file is in
their places. -/
theorem gc_collects (h : (gcSystem cfg maxLinks root maxAgeSecs).Reachable s) (hpass : s.pass = none) (now : ℤ)
    (hroot : s.tree.node root = some .dir)
    (hplaces : ∀ id row, s.loop.db.tasks.lookup id = some row → row.Collectable (now - maxAgeSecs) →
      InPlace root s.tree row.startupId id) :
    (∃ n t, Run (gcSystem cfg maxLinks root maxAgeSecs).step s
      (.query now :: (List.replicate n (.reap false) ++ [.finish])) t) ∧
    ∀ n t, Run (gcSystem cfg maxLinks root maxAgeSecs).step s
        (.query now :: (List.replicate n (.reap false) ++ [.finish])) t → t.loop = s.loop ∧ t.pass = none ∧
      ∀ p, ((∃ id row, s.loop.db.tasks.lookup id = some row ∧ row.Collectable (now - maxAgeSecs) ∧
          root ++ [row.startupId.toList, id.toList] <+: p) → t.tree.node p = none) ∧
        ((¬ ∃ id row, s.loop.db.tasks.lookup id = some row ∧ row.Collectable (now - maxAgeSecs) ∧
          root ++ [row.startupId.toList, id.toList] <+: p) → t.tree.node p = s.tree.node p) := by
  have hcollecting := Collecting.of_reachable h
  have hrows : ∀ r ∈ collectable (now - maxAgeSecs) s.loop.db.tasks,
      MintedId r.1 ∧ MintedId r.2 ∧ InPlace root s.tree r.1 r.2 := by
    intro r hr
    obtain ⟨row, hrow, hstartup, hover⟩ := mem_collectable.mp hr
    obtain ⟨htask, hmintedStartup⟩ := hcollecting.minted hrow
    exact ⟨hstartup ▸ hmintedStartup, htask.1, hstartup ▸ hplaces r.2 row hrow hover⟩
  have hiff : ∀ p, (∃ r ∈ collectable (now - maxAgeSecs) s.loop.db.tasks, root ++ [r.1.toList, r.2.toList] <+: p) ↔
      ∃ id row, s.loop.db.tasks.lookup id = some row ∧ row.Collectable (now - maxAgeSecs) ∧
        root ++ [row.startupId.toList, id.toList] <+: p := by
    intro p
    constructor
    · rintro ⟨r, hr, hprefix⟩
      obtain ⟨row, hrow, hstartup, hover⟩ := mem_collectable.mp hr
      exact ⟨r.2, row, hrow, hover, hstartup ▸ hprefix⟩
    · rintro ⟨id, row, hrow, hover, hprefix⟩
      exact ⟨_, mem_collectable.mpr ⟨row, hrow, rfl, hover⟩, hprefix⟩
  constructor
  · obtain ⟨t, hrun⟩ := exists_reap_run cfg maxLinks maxAgeSecs (now - maxAgeSecs) s.loop s.loop.db.tasks 0 hroot hrows
    exact ⟨_, t, .cons ⟨.query hpass, trivial⟩ hrun⟩
  · intro n t hrun
    obtain ⟨u, ⟨hstep, -⟩, hrest⟩ := hrun.cons_inv
    cases hstep
    obtain ⟨hloop, hnone, htree⟩ := reap_run hroot hrows hrest
    exact ⟨hloop, hnone, fun p => by rw [← hiff]; exact htree p⟩

end Runs

/-! ### A task that is over -/

/-- A task is created, and an operator lets it fail. -/
def overEvents : List LoopEvent :=
  [sampleCreate 1 "1" none, forceFail "T_1"]

/-- The workspaces of the startup: a file in the directory of the task, and an artifact of it. -/
def sampleWorkspaces : FileTree :=
  .ofTable
    (Table.ofList [([], .dir), (["ws".toList], .dir), (["ws".toList, "s-1".toList], .dir),
      (["ws".toList, "s-1".toList, "T_1".toList], .dir),
      (["ws".toList, "s-1".toList, "T_1".toList, "out".toList], .file),
      (["ws".toList, "s-1".toList, "artifacts".toList], .dir),
      (["ws".toList, "s-1".toList, "artifacts".toList, "T_1".toList], .file)])
    (by decide +kernel) (by decide +kernel)

/-- The loop after that, and no pass. -/
noncomputable def overState : GcState :=
  ⟨runEvents sampleConfig sampleStartup.state overEvents, sampleWorkspaces, none⟩

theorem reachable_overState (maxAgeSecs : ℤ) :
    (gcSystem sampleConfig 40 ["ws".toList] maxAgeSecs).Reachable overState := by
  have hinit : (gcSystem sampleConfig 40 ["ws".toList] maxAgeSecs).Reachable
      ⟨sampleStartup.state, sampleWorkspaces, none⟩ := by
    refine .init ⟨sampleStartup.init sampleConfig, fun startupId hsome => ?_, rfl⟩
    obtain ⟨row, hrow⟩ := Option.isSome_iff_exists.mp hsome
    obtain ⟨rfl, -⟩ := Table.lookup_singleton_iff.mp hrow
    decide
  have hcreate : (GcLabel.request (sampleCreate 1 "1" none)).MintsPlain := by
    intro id hid
    obtain rfl := List.mem_singleton.mp hid
    exact ⟨by decide, by decide⟩
  have hfail : (GcLabel.request (forceFail "T_1")).MintsPlain := fun id hid => absurd hid List.not_mem_nil
  exact (hinit.step ⟨.request, hcreate⟩).step ⟨.request, hfail⟩

theorem collectable_overState : collectable (11 - 1) overState.loop.db.tasks = [("s-1", "T_1")] := by
  decide +kernel

/-- A pass asks for it. -/
noncomputable def askedState : GcState :=
  { overState with pass := some ⟨10, overState.loop.db.tasks, [("s-1", "T_1")], 0⟩ }

/-- Its file is removed, and the artifact is not. -/
theorem gc_reaps_over_asked : ∃ t,
    (∃ pass id row row', ReapsOver 40 ["ws".toList] askedState t pass id row row') ∧
    askedState.tree.node ["ws".toList, "s-1".toList, "T_1".toList, "out".toList] = some .file ∧
    t.tree.node ["ws".toList, "s-1".toList, "T_1".toList, "out".toList] = none ∧
    t.tree.node ["ws".toList, "s-1".toList, "artifacts".toList, "T_1".toList] = some .file := by
  have hquery : (gcSystem sampleConfig 40 ["ws".toList] 1).step overState (.query 11) askedState := by
    have hstep : GcStep sampleConfig 40 ["ws".toList] 1 overState (.query 11) _ := .query rfl
    rw [collectable_overState] at hstep
    exact ⟨hstep, trivial⟩
  have hreap : ReapOne 40 ["ws".toList] askedState.tree ("s-1", "T_1") false
      (sampleWorkspaces.remove ["ws".toList, "s-1".toList] "T_1".toList) true :=
    .removed (by decide +kernel) (by decide +kernel) (by decide +kernel)
  have hstep : GcStep sampleConfig 40 ["ws".toList] 1 askedState (.reap false) _ := .reap rfl rfl hreap
  exact ⟨_, gc_reaps_over ((reachable_overState 1).step hquery) ⟨hstep, trivial⟩, by decide +kernel, by decide +kernel,
    by decide +kernel⟩

/-- What is below the directory of the task goes, and the rest stays. -/
theorem gc_collects_overState :
    (∃ n t, Run (gcSystem sampleConfig 40 ["ws".toList] 1).step overState
      (.query 11 :: (List.replicate n (.reap false) ++ [.finish])) t) ∧
    ∀ n t, Run (gcSystem sampleConfig 40 ["ws".toList] 1).step overState
        (.query 11 :: (List.replicate n (.reap false) ++ [.finish])) t → t.loop = overState.loop ∧ t.pass = none ∧
      ∀ p, ((∃ id row, overState.loop.db.tasks.lookup id = some row ∧ row.Collectable (11 - 1) ∧
          ["ws".toList] ++ [row.startupId.toList, id.toList] <+: p) → t.tree.node p = none) ∧
        ((¬ ∃ id row, overState.loop.db.tasks.lookup id = some row ∧ row.Collectable (11 - 1) ∧
          ["ws".toList] ++ [row.startupId.toList, id.toList] <+: p) → t.tree.node p = overState.tree.node p) := by
  refine gc_collects (reachable_overState 1) rfl 11 (by decide +kernel) fun id row hrow hover => ?_
  have hmem := mem_collectable.mpr ⟨row, hrow, rfl, hover⟩
  rw [collectable_overState] at hmem
  obtain ⟨hstartup, rfl⟩ := Prod.mk.inj (List.mem_singleton.mp hmem)
  rw [hstartup]
  exact ⟨.inr (by decide +kernel), .inr (by decide +kernel)⟩

end Cliptown.Task
