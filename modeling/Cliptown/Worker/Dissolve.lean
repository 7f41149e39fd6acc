import Cliptown.Worker.Supervisor

/-!
# The workers of a startup that is dissolved

* `InOrder` — from the snapshot on, the loops of the startup do not overlap with others of their agents, and none is
  where `dissolve_startup` misses it.
* `Doomed` — where a loop is, against how far the dissolution has come; `Supervised` — the invariant.
* `Stopped` — no child of the startup runs that was there before, and every tombstone is about to be taken.
* `stopped_of_inOrder` — in every run of such steps, so it is when the dissolution has returned and the children that
  it has signalled have exited.
* `Sequential`, `sequenced_of_sequential` — where calls for an agent follow one another, the table shows every child.
-/

namespace Cliptown.Worker

open Cliptown.Lib

variable {ι : Type*}

/-! ### How far the dissolution has come -/

namespace Dissolve

/-- The snapshot has been taken. -/
def Begun : Dissolve → Prop
  | .idle | .called => False
  | _ => True

/-- The agent is in the snapshot, as long as it is looked at. -/
def Targeted (agentId : String) : Dissolve → Prop
  | .burying targets _ | .terminating targets _ | .grace targets => agentId ∈ targets.map Prod.fst
  | _ => True

/-- The tombstone of the agent is still to be set. -/
def Unburied (agentId : String) : Dissolve → Prop
  | .burying _ left => agentId ∈ left.map Prod.fst
  | _ => False

/-- The process ids have been read again. -/
def Reread : Dissolve → Prop
  | .killing _ | .returned => True
  | _ => False

/-- The process is still to be killed. -/
def Unkilled (pid : ℕ) : Dissolve → Prop
  | .killing left => pid ∈ left
  | _ => False

theorem Reread.not_unburied {d : Dissolve} (h : d.Reread) (agentId : String) : ¬ d.Unburied agentId := by
  cases d with
  | killing left => exact id
  | returned => exact id
  | _ => exact h.elim

end Dissolve

/-! ### Conditions and property -/

section Defs

variable (cfgs : ι → SpawnConfig) (startupId : String)

/-- No other loop of the agent is there that has not returned. -/
def Alone (s : SupervisorState ι) (i : ι) : Prop :=
  ∀ j, (s.watch j).Active → (cfgs j).agentId = (cfgs i).agentId → j = i

/-- A call finds no loop of its agent that has not returned. -/
def Sequential (s : SupervisorState ι) : SupervisorLabel ι → Prop
  | .watch i => s.watch i = .idle → ∀ j, (s.watch j).Active → (cfgs j).agentId ≠ (cfgs i).agentId
  | .dissolve => True

/-- While a startup is dissolved, nobody calls for the agent of an early loop of it that has not ended. When the
snapshot is taken, every early call of the startup has inserted its entry; and unless its loop is about to end, it is
the only one of its agent, and the table shows its child. When a tombstone is set, an early loop of the agent will
look at it; when the process ids are read again, no early loop of the startup is spawning again. -/
def InOrder (s : SupervisorState ι) : SupervisorLabel ι → Prop
  | .watch i => s.dissolve.Begun → s.watch i = .idle → ∀ j ∈ s.early, (cfgs j).startupId = startupId →
      (s.watch j).Watchful → (cfgs j).agentId ≠ (cfgs i).agentId
  | .dissolve =>
      match s.dissolve with
      | .called => ∀ i ∈ s.early, (cfgs i).startupId = startupId → (∀ c, s.watch i ≠ .inserting c) ∧
          ((s.watch i).Watchful → Alone cfgs s i ∧ Entered (cfgs i) s.sup (s.watch i))
      | .burying _ (t :: _) => ∃ i ∈ s.early, (cfgs i).startupId = startupId ∧ (cfgs i).agentId = t.1 ∧
          (s.watch i).Watchful
      | .grace _ => ∀ i ∈ s.early, (cfgs i).startupId = startupId → (s.watch i).Watchful → (s.watch i).Quiet
      | _ => True

/-- No child of an early call of the startup runs. A tombstone belongs to an early loop of the startup whose child has
exited and which looks at it before it spawns anything, and no later loop is there to take it. -/
structure Stopped (s : SupervisorState ι) : Prop where
  children : ∀ i ∈ s.early, (cfgs i).startupId = startupId → ∀ c, (s.watch i).child = some c → ¬ c.Running
  tombstones : ∀ agentId ∈ s.sup.tombstones,
    (∃ i ∈ s.early, (cfgs i).startupId = startupId ∧ (cfgs i).agentId = agentId ∧ (s.watch i).Quiet) ∧
      ∀ j, (cfgs j).agentId = agentId → (s.watch j).Active → j ∈ s.early

/-- An early loop of the startup that has not ended: it is in the snapshot, its tombstone is set or still to be set;
and once the process ids have been read again, it spawns nothing before it looks at the tombstone, and its child is
signalled or still to be killed. -/
structure Doomed (d : Dissolve) (tombstones : Finset String) (agentId : String) (w : Watch) : Prop where
  watchful : w.Watchful
  targeted : d.Targeted agentId
  buried : agentId ∈ tombstones ∨ d.Unburied agentId
  reread : d.Reread → w.Quiet ∧ ∀ c, w.child = some c → c.Running → c.Signalled ∨ d.Unkilled c.pid

/-- Tombstones are for early loops of the startup that will look at them. From the snapshot on, an early loop of the
startup that has not ended is alone, is in the table, and is doomed. -/
structure Supervised (s : SupervisorState ι) : Prop where
  started : ∀ i ∈ s.early, s.watch i ≠ .idle
  untouched : ¬ s.dissolve.Begun → s.sup.tombstones = ∅
  tombstone : ∀ agentId ∈ s.sup.tombstones, ∃ i ∈ s.early, (cfgs i).startupId = startupId ∧
    (cfgs i).agentId = agentId ∧ (s.watch i).Watchful
  alone : s.dissolve.Begun → ∀ i ∈ s.early, (cfgs i).startupId = startupId → (s.watch i).Watchful → Alone cfgs s i
  entered : s.dissolve.Begun → ∀ i ∈ s.early, (cfgs i).startupId = startupId → (s.watch i).Watchful →
    Entered (cfgs i) s.sup (s.watch i)
  doomed : s.dissolve.Begun → ∀ i ∈ s.early, (cfgs i).startupId = startupId → s.watch i ≠ .removing →
    s.watch i ≠ .done → Doomed s.dissolve s.sup.tombstones (cfgs i).agentId (s.watch i)

end Defs

/-! ### Steps of the loops -/

section Steps

variable {cfgs : ι → SpawnConfig} {backoffMs : List ℕ} {startupId : String} {s t : SupervisorState ι}

/-- A doomed loop that takes a step and does not end. -/
theorem Doomed.watchStep {d : Dissolve} {cfg : SpawnConfig} {sup sup' : AgentSupervisor} {w w' : Watch}
    (h : Doomed d sup.tombstones cfg.agentId w) (hstep : WatchStep cfg backoffMs (sup, w) (sup', w'))
    (hremoving : w' ≠ .removing) : Doomed d sup'.tombstones cfg.agentId w' := by
  -- it has not taken its tombstone
  have hburied : cfg.agentId ∈ sup'.tombstones ∨ d.Unburied cfg.agentId :=
    h.buried.imp_left fun hmem => (hstep.taken hmem).resolve_right hremoving
  refine ⟨(hstep.watchful h.watchful).resolve_right hremoving, h.targeted, hburied, fun hread => ?_⟩
  obtain ⟨hquiet, hchild⟩ := h.reread hread
  have hmem := hburied.resolve_right (hread.not_unburied _)
  exact ⟨hstep.quiet hquiet hmem, fun c hc hrunning => hchild c (hstep.running hquiet hc hrunning) hrunning⟩

/-- **A step of a loop.** -/
theorem Supervised.watch (h : Supervised cfgs startupId s) {i : ι} (hC : InOrder cfgs startupId s (.watch i))
    {sup : AgentSupervisor} {watch : ι → Watch}
    (hstep : WatchStep (cfgs i) backoffMs (s.sup, s.watch i) (sup, watch i))
    (hothers : ∀ j, j ≠ i → watch j = s.watch j) : Supervised cfgs startupId { s with sup, watch } := by
  -- an early loop of the startup that has not ended had not ended before
  have hbefore : s.dissolve.Begun → ∀ j ∈ s.early, (cfgs j).startupId = startupId → watch j ≠ .removing →
      watch j ≠ .done → Doomed s.dissolve s.sup.tombstones (cfgs j).agentId (s.watch j) := by
    intro hbegun j hearly hj hremoving hdone
    refine h.doomed hbegun j hearly hj (fun hr => ?_) (fun hd => ?_)
    · by_cases hji : j = i
      · subst hji
        exact hdone (hstep.ends.1 hr)
      · exact hremoving ((hothers j hji).trans hr)
    · by_cases hji : j = i
      · subst hji
        exact hstep.ends.2 hd
      · exact hdone ((hothers j hji).trans hd)
  -- the step of another loop leaves its entry and its tombstone alone
  have hkeep : s.dissolve.Begun → ∀ j ∈ s.early, j ≠ i → (cfgs j).startupId = startupId → (s.watch j).Watchful →
      sup.agents.lookup (cfgs j).agentId = s.sup.agents.lookup (cfgs j).agentId ∧
        ((cfgs j).agentId ∈ sup.tombstones ↔ (cfgs j).agentId ∈ s.sup.tombstones) := by
    intro hbegun j hearly hji hj hwatchful
    by_cases hagent : (cfgs j).agentId = (cfgs i).agentId
    · rcases hstep.active with hi | ⟨-, rfl⟩
      · exact absurd (h.alone hbegun j hearly hj hwatchful i hi hagent.symm).symm hji
      · exact ⟨rfl, Iff.rfl⟩
    · exact hstep.frame hagent
  refine ⟨fun j hearly => ?_, fun hbegun => ?_, fun agentId hmem => ?_,
    fun hbegun j hearly hj hwatchful k hk hagent => ?_, fun hbegun j hearly hj hwatchful => ?_,
    fun hbegun j hearly hj hremoving hdone => ?_⟩
  · by_cases hji : j = i
    · subst hji
      exact hstep.ne_idle
    · show watch j ≠ .idle
      rw [hothers j hji]
      exact h.started j hearly
  · refine Finset.eq_empty_of_forall_notMem fun agentId hmem => ?_
    have hnone := hstep.mem_tombstones hmem
    rw [h.untouched hbegun] at hnone
    exact absurd hnone (Finset.notMem_empty _)
  · obtain ⟨j, hearly, hj, rfl, hwatchful⟩ := h.tombstone agentId (hstep.mem_tombstones hmem)
    refine ⟨j, hearly, hj, rfl, ?_⟩
    by_cases hji : j = i
    · subst hji
      refine (hstep.watchful hwatchful).resolve_right fun hend => ?_
      exact absurd hmem (WatchStep.notMem_of_removing (hend ▸ hstep))
    · show (watch j).Watchful
      rwa [hothers j hji]
  · have hdoomed := hbefore hbegun j hearly hj hwatchful.ne_removing hwatchful.ne_done
    by_cases hki : k = i
    · subst hki
      rcases hstep.active with hactive | ⟨hidle, -⟩
      · exact h.alone hbegun j hearly hj hdoomed.watchful k hactive hagent
      · exact absurd hagent.symm (hC hbegun hidle j hearly hj hdoomed.watchful)
    · exact h.alone hbegun j hearly hj hdoomed.watchful k (hothers k hki ▸ hk) hagent
  · have hdoomed := hbefore hbegun j hearly hj hwatchful.ne_removing hwatchful.ne_done
    have hentered := h.entered hbegun j hearly hj hdoomed.watchful
    by_cases hji : j = i
    · subst hji
      exact hentered.watchStep hstep
    · show Entered (cfgs j) sup (watch j)
      rw [hothers j hji]
      exact hentered.of_lookup (hkeep hbegun j hearly hji hj hdoomed.watchful).1
  · have hdoomed := hbefore hbegun j hearly hj hremoving hdone
    by_cases hji : j = i
    · subst hji
      exact hdoomed.watchStep hstep hremoving
    · have hmem := (hkeep hbegun j hearly hji hj hdoomed.watchful).2
      show Doomed s.dissolve sup.tombstones (cfgs j).agentId (watch j)
      rw [hothers j hji]
      exact ⟨hdoomed.watchful, hdoomed.targeted, hdoomed.buried.imp_left hmem.mpr, hdoomed.reread⟩

/-! ### Steps of the dissolution -/

/-- **A signal** reaches children, and changes nothing else. -/
theorem Supervised.signal (h : Supervised cfgs startupId s) (pid : ℕ) : Supervised cfgs startupId (s.signal pid) := by
  refine ⟨fun i hi hidle => h.started i hi (Watch.mapChild_eq_idle.mp hidle), h.untouched, fun agentId hmem => ?_,
    fun hbegun i hearly hi hwatchful j hj => ?_, fun hbegun i hearly hi hwatchful => ?_,
    fun hbegun i hearly hi hremoving hdone => ?_⟩
  · obtain ⟨i, hearly, hi, hagent, hwatchful⟩ := h.tombstone agentId hmem
    exact ⟨i, hearly, hi, hagent, Watch.watchful_mapChild.mpr hwatchful⟩
  · exact h.alone hbegun i hearly hi (Watch.watchful_mapChild.mp hwatchful) j (Watch.active_mapChild.mp hj)
  · exact (h.entered hbegun i hearly hi (Watch.watchful_mapChild.mp hwatchful)).mapChild (Child.pid_signal pid)
  · have hdoomed := h.doomed hbegun i hearly hi
      (fun hr => hremoving (congrArg (Watch.mapChild (Child.signal pid)) hr))
      (fun hd => hdone (congrArg (Watch.mapChild (Child.signal pid)) hd))
    refine ⟨Watch.watchful_mapChild.mpr hdoomed.watchful, hdoomed.targeted, hdoomed.buried, fun hread => ?_⟩
    obtain ⟨hquiet, hchild⟩ := hdoomed.reread hread
    refine ⟨Watch.quiet_mapChild.mpr hquiet, fun c' hc' hrunning => ?_⟩
    obtain ⟨c, hc, rfl⟩ := Option.map_eq_some_iff.mp (Watch.child_mapChild.symm.trans hc')
    obtain ⟨hbefore, hsignalled⟩ := Child.running_signal hrunning
    rw [Child.pid_signal]
    exact (hchild c hc hbefore).imp_left fun h => hsignalled (.inl h)

/-- The dissolution goes on, and the tables and the loops stay as they are. -/
theorem Supervised.of_dissolve (h : Supervised cfgs startupId s) {d : Dissolve} (hbegun : s.dissolve.Begun)
    (hdoomed : ∀ i, Doomed s.dissolve s.sup.tombstones (cfgs i).agentId (s.watch i) →
      Doomed d s.sup.tombstones (cfgs i).agentId (s.watch i)) (hd : d.Begun) :
    Supervised cfgs startupId { s with dissolve := d } :=
  ⟨h.started, fun hnot => absurd hd hnot, h.tombstone, fun _ => h.alone hbegun, fun _ => h.entered hbegun,
    fun _ i hearly hi hremoving hdone => hdoomed i (h.doomed hbegun i hearly hi hremoving hdone)⟩

/-- **The snapshot** has every early loop of the startup that has not ended. -/
theorem Supervised.snapshot (h : Supervised cfgs startupId s) (hcalled : s.dissolve = .called)
    (hC : InOrder cfgs startupId s .dissolve) {targets : List (String × Option ℕ)}
    (htargets : targets.Perm (s.sup.targets startupId)) :
    Supervised cfgs startupId { s with dissolve := .burying targets targets } := by
  unfold InOrder at hC
  rw [hcalled] at hC
  refine ⟨h.started, fun hnot => absurd trivial hnot, h.tombstone,
    fun _ i hearly hi hwatchful => ((hC i hearly hi).2 hwatchful).1,
    fun _ i hearly hi hwatchful => ((hC i hearly hi).2 hwatchful).2, fun _ i hearly hi hremoving hdone => ?_⟩
  have hwatchful := Watch.watchful_of_ne (h.started i hearly) (hC i hearly hi).1 hremoving hdone
  obtain ⟨e, he, hstartup, -⟩ := ((hC i hearly hi).2 hwatchful).2 hwatchful.listed
  have hmem := htargets.mem_iff.mpr (AgentSupervisor.mem_targets he (hstartup.trans hi))
  have hagent : (cfgs i).agentId ∈ targets.map Prod.fst := List.mem_map_of_mem hmem
  exact ⟨hwatchful, hagent, .inr hagent, False.elim⟩

/-- **A tombstone is set** for a loop that will look at it. -/
theorem Supervised.bury (h : Supervised cfgs startupId s) {targets left : List (String × Option ℕ)}
    {target : String × Option ℕ} (hburying : s.dissolve = .burying targets (target :: left))
    (hC : InOrder cfgs startupId s .dissolve) :
    Supervised cfgs startupId { s with sup := s.sup.setTombstone target.1, dissolve := .burying targets left } := by
  unfold InOrder at hC
  rw [hburying] at hC
  have hbegun : s.dissolve.Begun := by
    rw [hburying]
    trivial
  refine ⟨h.started, fun hnot => absurd trivial hnot, fun agentId hmem => ?_, fun _ => h.alone hbegun,
    fun _ => h.entered hbegun, fun _ i hearly hi hremoving hdone => ?_⟩
  · rcases Finset.mem_insert.mp hmem with rfl | hmem
    · exact hC
    · exact h.tombstone agentId hmem
  · have hdoomed := h.doomed hbegun i hearly hi hremoving hdone
    rw [hburying] at hdoomed
    refine ⟨hdoomed.watchful, hdoomed.targeted, ?_, False.elim⟩
    rcases hdoomed.buried with hmem | hleft
    · exact .inl (Finset.mem_insert_of_mem hmem)
    · rcases List.mem_cons.mp hleft with heq | hleft
      · exact .inl (heq ▸ Finset.mem_insert_self _ _)
      · exact .inr hleft

/-- **The process ids are read again**: each child that still runs is among them. -/
theorem Supervised.reread (h : Supervised cfgs startupId s) {targets : List (String × Option ℕ)}
    (hgrace : s.dissolve = .grace targets) (hC : InOrder cfgs startupId s .dissolve) :
    Supervised cfgs startupId { s with dissolve := .killing (s.sup.stragglers targets) } := by
  unfold InOrder at hC
  rw [hgrace] at hC
  have hbegun : s.dissolve.Begun := by
    rw [hgrace]
    trivial
  refine ⟨h.started, fun hnot => absurd trivial hnot, h.tombstone, fun _ => h.alone hbegun, fun _ => h.entered hbegun,
    fun _ i hearly hi hremoving hdone => ?_⟩
  have hdoomed := h.doomed hbegun i hearly hi hremoving hdone
  rw [hgrace] at hdoomed
  have hquiet := hC i hearly hi hdoomed.watchful
  refine ⟨hdoomed.watchful, trivial, hdoomed.buried.imp_right False.elim, fun _ => ⟨hquiet, fun c hc _ => .inr ?_⟩⟩
  obtain ⟨e, he, -, hpid⟩ := h.entered hbegun i hearly hi hdoomed.watchful hdoomed.watchful.listed
  obtain ⟨target, htarget, hagent⟩ := List.mem_map.mp hdoomed.targeted
  refine List.mem_filterMap.mpr ⟨target, htarget, ?_⟩
  rw [hagent, he]
  exact hpid c.pid (hquiet.recorded hc)

/-- **A step of the dissolution.** -/
theorem Supervised.dissolve (h : Supervised cfgs startupId s) (hC : InOrder cfgs startupId s .dissolve)
    (hstep : DissolveStep startupId s t) : Supervised cfgs startupId t := by
  cases hstep with
  | call hidle =>
      have hnone : s.sup.tombstones = ∅ := h.untouched (by rw [hidle]; exact id)
      refine ⟨fun i hi => hi, fun _ => hnone, fun agentId hmem => ?_, False.elim, False.elim, False.elim⟩
      rw [show s.sup.tombstones = ∅ from hnone] at hmem
      exact absurd hmem (Finset.notMem_empty _)
  | snapshot hcalled htargets => exact h.snapshot hcalled hC htargets
  | bury hburying => exact h.bury hburying hC
  | buried hburying =>
      refine h.of_dissolve (by rw [hburying]; trivial) (fun i hdoomed => ?_) trivial
      rw [hburying] at hdoomed
      exact ⟨hdoomed.watchful, hdoomed.targeted, hdoomed.buried.imp_right List.not_mem_nil, False.elim⟩
  | @terminate _ _ _ pid hterminating =>
      refine (h.signal pid).of_dissolve (by rw [show (s.signal pid).dissolve = _ from hterminating]; trivial)
        (fun i hdoomed => ?_) trivial
      rw [show (s.signal pid).dissolve = _ from hterminating] at hdoomed
      exact ⟨hdoomed.watchful, hdoomed.targeted, hdoomed.buried, False.elim⟩
  | skip hterminating =>
      refine h.of_dissolve (by rw [hterminating]; trivial) (fun i hdoomed => ?_) trivial
      rw [hterminating] at hdoomed
      exact ⟨hdoomed.watchful, hdoomed.targeted, hdoomed.buried, False.elim⟩
  | terminated hterminating =>
      refine h.of_dissolve (by rw [hterminating]; trivial) (fun i hdoomed => ?_) trivial
      rw [hterminating] at hdoomed
      exact ⟨hdoomed.watchful, hdoomed.targeted, hdoomed.buried, False.elim⟩
  | reread hgrace => exact h.reread hgrace hC
  | @kill left pid hkilling =>
      refine (h.signal pid).of_dissolve (by rw [show (s.signal pid).dissolve = _ from hkilling]; trivial)
        (fun i hdoomed => ?_) trivial
      rw [show (s.signal pid).dissolve = _ from hkilling] at hdoomed
      obtain ⟨hquiet, hchild⟩ := hdoomed.reread trivial
      refine ⟨hdoomed.watchful, trivial, hdoomed.buried, fun _ => ⟨hquiet, fun c hc hrunning => ?_⟩⟩
      rcases hchild c hc hrunning with hsignalled | hleft
      · exact .inl hsignalled
      · rcases List.mem_cons.mp hleft with hpid | hleft
        · -- the child that has just been killed
          obtain ⟨c', -, rfl⟩ := Option.map_eq_some_iff.mp (Watch.child_mapChild.symm.trans hc)
          exact .inl ((Child.running_signal hrunning).2 (.inr ((Child.pid_signal pid c').symm.trans hpid)))
        · exact .inr hleft
  | killed hkilling =>
      refine h.of_dissolve (by rw [hkilling]; trivial) (fun i hdoomed => ?_) trivial
      rw [hkilling] at hdoomed
      obtain ⟨hquiet, hchild⟩ := hdoomed.reread trivial
      refine ⟨hdoomed.watchful, trivial, hdoomed.buried, fun _ => ⟨hquiet, fun c hc hrunning => ?_⟩⟩
      exact (hchild c hc hrunning).imp_right List.not_mem_nil

/-! ### Runs -/

/-- **The invariant**, in every run of such steps. -/
theorem Supervised.of_reachable
    (h : ((supervisorSystem cfgs backoffMs startupId).restrict (InOrder cfgs startupId)).Reachable s) :
    Supervised cfgs startupId s := by
  refine h.invariant ?_ ?_
  · rintro s rfl
    exact ⟨fun i hi => absurd hi (Set.notMem_empty i), fun _ => rfl,
      fun agentId hmem => absurd hmem (Finset.notMem_empty _), False.elim, False.elim, False.elim⟩
  · rintro s l t hs ⟨hC, hst⟩
    cases hst with
    | watch hstep hothers => exact hs.watch hC hstep hothers
    | dissolve hstep => exact hs.dissolve hC hstep

/-- **Dissolution**, in every run in which the loops of the startup's agents do not overlap and none is where the
snapshot, a tombstone or the second reading of the process ids would miss it: when it has returned and the children
that it has signalled have exited, no child of the startup runs that was there before, and no tombstone is left for a
later worker. Source: `agent_supervisor.rs` `spawn_agent`, `watch_loop`, `dissolve_startup` -/
theorem stopped_of_inOrder
    (h : ((supervisorSystem cfgs backoffMs startupId).restrict (InOrder cfgs startupId)).Reachable s)
    (hreturned : s.dissolve = .returned) (hexited : s.SignalledExited) : Stopped cfgs startupId s := by
  have hsupervised := Supervised.of_reachable h
  have hbegun : s.dissolve.Begun := by
    rw [hreturned]
    trivial
  have hdoomed : ∀ i ∈ s.early, (cfgs i).startupId = startupId → s.watch i ≠ .removing → s.watch i ≠ .done →
      Doomed .returned s.sup.tombstones (cfgs i).agentId (s.watch i) := by
    intro i hearly hi hremoving hdone
    exact hreturned ▸ hsupervised.doomed hbegun i hearly hi hremoving hdone
  refine ⟨fun i hearly hi c hc hrunning => ?_, fun agentId hmem => ?_⟩
  · have hne : ∀ w, w.child = none → s.watch i ≠ w := by
      rintro w hw rfl
      exact absurd (hw.symm.trans hc) (by simp)
    obtain ⟨-, hchild⟩ := (hdoomed i hearly hi (hne _ rfl) (hne _ rfl)).reread trivial
    exact hexited i c hc ((hchild c hc hrunning).resolve_right id)
  · obtain ⟨i, hearly, hi, rfl, hwatchful⟩ := hsupervised.tombstone agentId hmem
    have hend := hdoomed i hearly hi hwatchful.ne_removing hwatchful.ne_done
    refine ⟨⟨i, hearly, hi, rfl, (hend.reread trivial).1⟩, fun j hj hactive => ?_⟩
    rw [hsupervised.alone hbegun i hearly hi hwatchful j hactive hj]
    exact hearly

end Steps

/-! ### Loops that do not overlap -/

section Sequential

variable {cfgs : ι → SpawnConfig} {backoffMs : List ℕ} {startupId : String} {s : SupervisorState ι}

/-- Each loop is alone with its agent, and the table shows its child. -/
def Sequenced (cfgs : ι → SpawnConfig) (s : SupervisorState ι) : Prop :=
  ∀ i, (s.watch i).Active → Alone cfgs s i ∧ Entered (cfgs i) s.sup (s.watch i)

/-- A call that finds no loop of its agent, or a step of a loop. -/
theorem Sequenced.watch (h : Sequenced cfgs s) {i : ι} (hC : Sequential cfgs s (.watch i)) {sup : AgentSupervisor}
    {watch : ι → Watch} (hstep : WatchStep (cfgs i) backoffMs (s.sup, s.watch i) (sup, watch i))
    (hothers : ∀ j, j ≠ i → watch j = s.watch j) : Sequenced cfgs { s with sup, watch } := by
  have hactive : ∀ j, j ≠ i → (watch j).Active → (s.watch j).Active := fun j hji hj => hothers j hji ▸ hj
  -- an agent has one loop at most, before the step and after it
  have halone : ∀ j k, (watch j).Active → (watch k).Active → (cfgs k).agentId = (cfgs j).agentId → k = j := by
    intro j k hj hk hagent
    rcases hstep.active with hi | ⟨hidle, -⟩
    · have hbefore : ∀ j, (watch j).Active → (s.watch j).Active := by
        intro j hj
        by_cases hji : j = i
        · exact hji ▸ hi
        · exact hactive j hji hj
      exact (h j (hbefore j hj)).1 k (hbefore k hk) hagent
    · by_cases hji : j = i
      · by_cases hki : k = i
        · rw [hki, hji]
        · exact absurd (hji ▸ hagent) (hC hidle k (hactive k hki hk))
      · by_cases hki : k = i
        · exact absurd (hki ▸ hagent.symm) (hC hidle j (hactive j hji hj))
        · exact (h j (hactive j hji hj)).1 k (hactive k hki hk) hagent
  refine fun j hj => ⟨fun k hk => halone j k hj hk, ?_⟩
  by_cases hji : j = i
  · subst hji
    rcases hstep.active with hi | ⟨hidle, -⟩
    · exact (h j hi).2.watchStep hstep
    · exact Entered.watchStep (hidle ▸ False.elim) hstep
  · show Entered (cfgs j) sup (watch j)
    have hbefore := hactive j hji hj
    rw [hothers j hji]
    refine (h j hbefore).2.of_lookup ?_
    rcases hstep.active with hi | ⟨-, rfl⟩
    · exact (hstep.frame fun hagent => hji ((h i hi).1 j hbefore hagent)).1
    · rfl

/-- A signal changes no loop. -/
theorem Sequenced.signal (h : Sequenced cfgs s) (pid : ℕ) : Sequenced cfgs (s.signal pid) := by
  intro i hi
  obtain ⟨halone, hentered⟩ := h i (Watch.active_mapChild.mp hi)
  exact ⟨fun j hj => halone j (Watch.active_mapChild.mp hj), hentered.mapChild (Child.pid_signal pid)⟩

/-- **Loops that do not overlap**: where every call finds that the loops of its agent have returned, each loop is alone
with its agent, and the table shows its child. -/
theorem sequenced_of_sequential
    (h : ((supervisorSystem cfgs backoffMs startupId).restrict (Sequential cfgs)).Reachable s) : Sequenced cfgs s := by
  refine h.invariant ?_ ?_
  · rintro s rfl i hi
    exact hi.elim
  · rintro s l t hs ⟨hC, hst⟩
    cases hst with
    | watch hstep hothers => exact hs.watch hC hstep hothers
    | dissolve hstep =>
        cases hstep with
        | terminate _ => exact hs.signal _
        | kill _ => exact hs.signal _
        | _ => exact hs

end Sequential

/-! ### One worker -/

/-- A worker of a startup. -/
def someWorker : SpawnConfig where
  agentId := "a-1"
  startupId := "s-1"
  worldUrl := "ws://localhost"
  secret := "secret"
  workspace := "workspaces/s-1"
  backend := "claude"
  task := none

/-- The tables when it is in them, and when its tombstone has been set. -/
def listedWorker : AgentSupervisor :=
  .insertAgent ⟨∅, ∅⟩ someWorker 7

def buriedWorker : AgentSupervisor :=
  listedWorker.setTombstone "a-1"

/-- One call, and the dissolution. -/
def oneWorker (sup : AgentSupervisor) (w : Watch) (d : Dissolve) (early : Set Unit) : SupervisorState Unit :=
  ⟨sup, fun _ => w, d, early⟩

section OneWorker

variable {sup sup' : AgentSupervisor} {w w' : Watch} {d : Dissolve} {early : Set Unit}

/-- The runs that `stopped_of_inOrder` is about. -/
def OneReachable (s : SupervisorState Unit) : Prop :=
  ((supervisorSystem (fun _ : Unit => someWorker) [1000, 5000, 30000] "s-1").restrict
    (InOrder (fun _ => someWorker) "s-1")).Reachable s

/-- The only call takes a step. -/
theorem OneReachable.watch (h : OneReachable (oneWorker sup w d early))
    (hstep : WatchStep someWorker [1000, 5000, 30000] (sup, w) (sup', w')) :
    OneReachable (oneWorker sup' w' d early) := by
  refine h.step (l := .watch ()) ⟨fun _ hidle j _ _ hj => ?_, .watch hstep fun j hj => absurd rfl hj⟩
  rw [show (oneWorker sup w d early).watch j = .idle from hidle] at hj
  exact hj.elim

end OneWorker

/-- A worker is killed by SIGTERM, and its loop takes the tombstone. -/
theorem stopped_one_worker :
    ∃ s : SupervisorState Unit, s.dissolve = .returned ∧ s.watch () = .done ∧ () ∈ s.early ∧
      Stopped (fun _ => someWorker) "s-1" s := by
  have hspawned : OneReachable (oneWorker ⟨∅, ∅⟩ (.inserting (.spawned 7)) .idle ∅) :=
    OneReachable.watch (.init rfl) (.spawn 7)
  have hinserted : OneReachable (oneWorker listedWorker (.waiting 0 (.spawned 7)) .idle ∅) :=
    hspawned.watch .insert
  have hcalled : OneReachable (oneWorker listedWorker (.waiting 0 (.spawned 7)) .called
      {_i | Watch.waiting 0 (.spawned 7) ≠ .idle}) :=
    hinserted.step (l := .dissolve) ⟨trivial, .dissolve (.call rfl)⟩
  have hearly : () ∈ ({_i | Watch.waiting 0 (.spawned 7) ≠ .idle} : Set Unit) := by
    simp
  generalize ({_i | Watch.waiting 0 (.spawned 7) ≠ .idle} : Set Unit) = early at hcalled hearly
  have hsnapshot : OneReachable (oneWorker listedWorker (.waiting 0 (.spawned 7))
      (.burying [("a-1", some 7)] [("a-1", some 7)]) early) := by
    refine hcalled.step (l := .dissolve)
      ⟨fun i _ _ => ⟨fun c => by simp [oneWorker], fun _ => ⟨fun j _ _ => rfl, ?_⟩⟩,
        .dissolve (.snapshot rfl (.refl _))⟩
    exact fun _ => ⟨⟨some 7, "s-1"⟩, rfl, rfl, fun pid hpid => hpid⟩
  have hburied : OneReachable (oneWorker buriedWorker (.waiting 0 (.spawned 7))
      (.burying [("a-1", some 7)] []) early) :=
    hsnapshot.step (l := .dissolve) ⟨⟨(), hearly, rfl, rfl, trivial⟩, .dissolve (.bury (t := ("a-1", some 7)) rfl)⟩
  have hterminating : OneReachable (oneWorker buriedWorker (.waiting 0 (.spawned 7))
      (.terminating [("a-1", some 7)] [("a-1", some 7)]) early) :=
    hburied.step (l := .dissolve) ⟨trivial, .dissolve (.buried rfl)⟩
  have hterminated : OneReachable (oneWorker buriedWorker (.waiting 0 ⟨7, .running true⟩)
      (.terminating [("a-1", some 7)] []) early) :=
    hterminating.step (l := .dissolve)
      ⟨trivial, .dissolve (@DissolveStep.terminate _ _ _ [("a-1", some 7)] [] "a-1" 7 rfl)⟩
  have hgrace : OneReachable (oneWorker buriedWorker (.waiting 0 ⟨7, .running true⟩)
      (.grace [("a-1", some 7)]) early) :=
    hterminated.step (l := .dissolve) ⟨trivial, .dissolve (.terminated rfl)⟩
  -- the child exits in the grace period, and its loop ends
  have hdone : OneReachable (oneWorker ((buriedWorker.takeTombstone "a-1").removeAgent "a-1") .done
      (.grace [("a-1", some 7)]) early) :=
    (((hgrace.watch (.exit false rfl ⟨true, rfl⟩)).watch (.wait rfl)).watch (.terminated (by decide))).watch .remove
  have hreread : OneReachable (oneWorker ((buriedWorker.takeTombstone "a-1").removeAgent "a-1") .done
      (.killing []) early) :=
    hdone.step (l := .dissolve)
      ⟨fun i _ _ hw => hw.elim, .dissolve (@DissolveStep.reread _ _ _ [("a-1", some 7)] rfl)⟩
  have hreturned : OneReachable (oneWorker ((buriedWorker.takeTombstone "a-1").removeAgent "a-1") .done
      .returned early) :=
    hreread.step (l := .dissolve) ⟨trivial, .dissolve (.killed rfl)⟩
  have hexited : (oneWorker ((buriedWorker.takeTombstone "a-1").removeAgent "a-1") .done .returned
      early).SignalledExited :=
    fun i c hc => absurd hc (by simp [oneWorker, Watch.child])
  exact ⟨_, rfl, rfl, hearly, stopped_of_inOrder hreturned rfl hexited⟩

/-- **A startup is dissolved while a worker is being spawned**: its child runs, and is not in the table yet; nothing
signals it. -/
theorem runs_after_dissolve :
    ¬ ∀ s : SupervisorState Unit,
      (supervisorSystem (fun _ => someWorker) [1000, 5000, 30000] "s-1").Reachable s →
        s.dissolve = .returned → s.SignalledExited → Stopped (fun _ => someWorker) "s-1" s := by
  intro h
  have hspawned : (supervisorSystem (fun _ : Unit => someWorker) [1000, 5000, 30000] "s-1").Reachable
      (oneWorker ⟨∅, ∅⟩ (.inserting (.spawned 7)) .idle ∅) :=
    System.Reachable.step (l := .watch ()) (.init rfl) (.watch (.spawn 7) fun j hj => absurd rfl hj)
  have hdissolve : ∀ {d d' : Dissolve} {early early' : Set Unit},
      (supervisorSystem (fun _ : Unit => someWorker) [1000, 5000, 30000] "s-1").Reachable
        (oneWorker ⟨∅, ∅⟩ (.inserting (.spawned 7)) d early) →
      DissolveStep "s-1" (oneWorker ⟨∅, ∅⟩ (.inserting (.spawned 7)) d early)
        (oneWorker ⟨∅, ∅⟩ (.inserting (.spawned 7)) d' early') →
      (supervisorSystem (fun _ : Unit => someWorker) [1000, 5000, 30000] "s-1").Reachable
        (oneWorker ⟨∅, ∅⟩ (.inserting (.spawned 7)) d' early') :=
    fun hs hstep => hs.step (l := .dissolve) (.dissolve hstep)
  have hcalled := hdissolve hspawned (.call rfl)
  have hsnapshot := hdissolve hcalled (.snapshot rfl (.refl []))
  have hgrace := hdissolve (hdissolve hsnapshot (.buried rfl)) (.terminated rfl)
  have hreturned := hdissolve (hdissolve hgrace (.reread rfl)) (.killed rfl)
  have hunsignalled : ∀ i c, ((oneWorker ⟨∅, ∅⟩ (.inserting (.spawned 7)) .returned
      {_i | Watch.inserting (.spawned 7) ≠ .idle}).watch i).child = some c → ¬ c.Signalled := by
    rintro i c hc
    obtain rfl := Option.some.inj hc
    exact fun hsignalled => absurd hsignalled (by simp [Child.Signalled, Child.spawned])
  exact (h _ hreturned rfl hunsignalled).children () (by simp [oneWorker]) rfl _ rfl ⟨false, rfl⟩

end Cliptown.Worker
