import Cliptown.Console.Store
import Cliptown.Gate.Gateway
import Cliptown.Task.Tenancy

/-!
# The health of the agents

The loop keeps of each avatar when its worker was last heard of, and in which of four buckets it is. Consoles are shown
the bucket.

* `derive` — the bucket, from the clock and what is known of the worker.
* `Vital`, `LiveState`, `vitalsAfter`, `liveSystem` — what is kept, and what the loop does to it.
* `avatar_of_apply`, `isOperator_step` — whose avatars they are, which no message changes.
* `heard`, `lastHeard` — when a worker was heard of, in a run.
* `lastSeen_run` — what the loop keeps is when it last heard of the worker.
* `health_shown` — the bucket after a tick: it tells whether the worker is connected, and how long it has been silent.
-/

namespace Cliptown.Gate

open Cliptown.Lib Cliptown.Task Cliptown.Town Cliptown.World Cliptown.Budget
open Cliptown.Console (Health)

/-! ### Buckets -/

/-- Source: `health.rs` `RECENTLY_LOST_MAX_SECS` -/
def recentlyLostMaxSecs : ℤ := 5 * 60

/-- Source: `health.rs` `OFFLINE_MAX_SECS` -/
def offlineMaxSecs : ℤ := 6 * 24 * 60 * 60

/-- Source: `health.rs` `ABOUT_TO_GC_MAX_SECS` -/
def aboutToGcMaxSecs : ℤ := 7 * 24 * 60 * 60

/-- Source: `health.rs` `derive` -/
def derive (now : ℤ) (lastSeen : Option ℤ) (connected isOperator : Bool) : Health :=
  if isOperator then .online
  else if connected then .online
  else
    match lastSeen with
    | none => .offline
    | some ts =>
      let delta := now - ts
      if delta < 0 then .online
      else if delta ≤ recentlyLostMaxSecs then .recentlyLost
      else if delta ≤ offlineMaxSecs then .offline
      else if delta ≤ aboutToGcMaxSecs then .aboutToGc
      else .offline

/-! ### What the loop keeps -/

/-- What is kept of an avatar. Source: `state.rs` `AvatarView`, `last_seen_at`, `health` -/
structure Vital where
  lastSeenAt : Option ℤ
  health : Health

/-- The loop, and what it keeps of its avatars. -/
structure LiveState where
  loop : BudgetState
  vitals : Table String Vital

/-- An operator walks as an avatar. -/
def isOperator (st : BudgetState) (agentId : String) : Bool :=
  (st.loop.world.avatars.lookup agentId).any fun a => a.role = "operator"

section After

variable (now : ℤ) (st : BudgetState) (vitals : Table String Vital)

/-- What is kept after the loop has done something by itself, by the clock that it reads; `st` is the state of the loop
afterwards. Source: `loop_.rs` `spawn_with_layout`, `Cmd::Tick`; `cmd_console.rs` `dispatch`, `OperatorPossess`,
`OperatorUnpossess` -/
def vitalsAfterOwn : LoopMessage → Table String Vital
  | .request (.tick _) => vitals.mapRows fun agentId v =>
      some { v with health := derive now v.lastSeenAt (decide (agentId ∈ st.loop.outBus)) (isOperator st agentId) }
  | .request (.console _ _ (.operatorPossess _)) => vitals.insert operatorAvatarId ⟨none, .online⟩
  | .request (.console _ _ .operatorUnpossess) => vitals.erase operatorAvatarId
  | _ => vitals

/-- What is kept after the loop has answered a message, or has read a notice. Source: `loop_.rs` `spawn_with_layout`,
`Cmd::HandleWorkerMsg`, `Cmd::RegisterWorker`, `Cmd::UnregisterWorker` -/
def vitalsAfter : Served ℕ (String × Json) BusNotice Json LoopMessage → Table String Vital
  | .answered _ m _ => vitals.modify m.1 fun v => { v with lastSeenAt := some now }
  | .told _ (.registerWorker agentId) =>
    vitals.modify agentId fun _ => ⟨some now, derive now (some now) true (isOperator st agentId)⟩
  | .told _ (.unregisterWorker agentId) =>
    vitals.modify agentId fun v => { v with health := derive now v.lastSeenAt false (isOperator st agentId) }
  | .own m => vitalsAfterOwn now st vitals m

end After

/-- The loop by itself, with its clock: at first nobody has been heard of. -/
def liveSystem (cfg : Config) (parseText : Json → String) :
    System LiveState (ℤ × Served ℕ (String × Json) BusNotice Json LoopMessage) where
  init s := (messageSystem cfg).init s.loop ∧ ∀ agentId v, s.vitals.lookup agentId = some v → v = ⟨none, .offline⟩
  step s l s' := (loopServer cfg parseText).step s.loop l.2 s'.loop ∧ (∀ m, l.2 = .own m → Inner m) ∧
    s'.vitals = vitalsAfter l.1 s'.loop s.vitals l.2

/-! ### Whose avatars they are -/

section Avatars

variable {cfg : Config} {parseText : Json → String} {st st' : BudgetState} {agentId : String} {avatar' : AvatarView}

theorem world_of_isTold {s s' : LoopState} (h : IsTold s s') : s'.world = s.world := by
  obtain ⟨frames, events, rfl⟩ := h
  rfl

theorem isTold_pushes (env : Env) (frames : List (String × Json)) :
    ∀ s : LoopState, IsTold s (frames.foldl (fun s f => s.push env f.1 f.2) s) := by
  induction frames with
  | nil => exact IsTold.refl
  | cons f frames ih => exact fun s => (isTold_push env s f.1 f.2).trans (ih _)

/-- An avatar after some statements is that of the same agent before, unless it is the operator's. -/
theorem avatar_of_statements {party : Party} {astray : Prop} {s s' : LoopState} (h : Statements party astray s s')
    (hne : agentId ≠ operatorAvatarId) (havatar : s'.world.avatars.lookup agentId = some avatar') :
    ∃ avatar, s.world.avatars.lookup agentId = some avatar ∧ avatar.identity = avatar'.identity := by
  induction h generalizing avatar' with
  | refl => exact ⟨avatar', havatar, rfl⟩
  | tail _ hstatement ih =>
    rcases hstatement.avatar_of havatar with ⟨between, hbetween, hsame⟩ | ⟨hkey, -⟩
    · obtain ⟨avatar, hbefore, hsame'⟩ := ih hbetween
      exact ⟨avatar, hbefore, hsame'.trans hsame⟩
    · exact absurd hkey hne

/-- **An avatar after a message** is that of the same agent before, unless it is the operator's. -/
theorem avatar_of_apply (cfg : Config) (st : BudgetState) (l : LoopMessage) (hne : agentId ≠ operatorAvatarId)
    (h : (l.apply cfg st).loop.world.avatars.lookup agentId = some avatar') :
    ∃ avatar, st.loop.world.avatars.lookup agentId = some avatar ∧ avatar.identity = avatar'.identity := by
  -- what is written of messages and sums leaves the world alone
  have hworld : ∀ {s : LoopState}, s.world = st.loop.world → s.world.avatars.lookup agentId = some avatar' →
      ∃ avatar, st.loop.world.avatars.lookup agentId = some avatar ∧ avatar.identity = avatar'.identity :=
    fun heq hs => ⟨avatar', heq ▸ hs, rfl⟩
  cases l with
  | request l =>
    have hsame : ((LoopMessage.request l).apply cfg st).loop.world = (l.apply cfg st.loop).world := by
      cases l with
      | tick env => exact world_of_isTold (isTold_pushes env _ _)
      | _ => rfl
    rw [hsame] at h
    exact avatar_of_statements (apply_statements cfg st.loop l) hne h
  | budget action =>
    cases action with
    | report m =>
      refine hworld ?_ h
      change (reportBudget m.env st m.agentId m.report).2.loop.world = _
      cases havatar : st.loop.world.avatars.lookup m.agentId with
      | none => rw [reportBudget_of_none havatar]
      | some avatar =>
        obtain ⟨s, htold, heq⟩ := reportBudget_eq m.env havatar m.report
        obtain ⟨db, hdb⟩ := loop_applyReport m.env st avatar.startupId m.agentId m.report
        rw [heq]
        exact (world_of_isTold htold).trans (by rw [hdb])
    | patch identity id budgetCapUsd =>
      refine hworld ?_ h
      simp only [LoopMessage.apply, BudgetAction.apply]
      unfold patchStartup
      split
      · rfl
      · split
        · rfl
        · split <;> rfl
  | moveIntent env id targetRoom target =>
    have hmove := sameAvatars_startMove cfg.astar st.loop.world st.loop.paths cfg.layout (graphFromLayout cfg.layout) id
      targetRoom target
    have hsame : ((LoopMessage.moveIntent env id targetRoom target).apply cfg st).loop.world =
        (startMove cfg.astar st.loop.world st.loop.paths cfg.layout (graphFromLayout cfg.layout) id targetRoom
          target).2.1 := by
      simp only [LoopMessage.apply, moveIntent]
      split
      · rfl
      · exact world_of_isTold (isTold_push env _ _ _)
      · exact world_of_isTold (isTold_push env _ _ _)
      · rfl
    rw [hsame] at h
    exact hmove.of_lookup h

/-- An agent whose avatar is no operator's does not become one. -/
theorem isOperator_step {e : Served ℕ (String × Json) BusNotice Json LoopMessage}
    (hstep : (loopServer cfg parseText).step st e st') (hne : agentId ≠ operatorAvatarId)
    (h : isOperator st agentId = false) : isOperator st' agentId = false := by
  obtain ⟨ls, hrun⟩ := serverStep_messages hstep
  refine hrun.preserves (I := fun st => isOperator st agentId = false) (fun st l st' hst hl => ?_) h
  obtain rfl : st' = l.apply cfg st := hl
  cases havatar : (l.apply cfg st).loop.world.avatars.lookup agentId with
  | none => simp [isOperator, havatar]
  | some avatar' =>
    obtain ⟨avatar, hbefore, hidentity⟩ := avatar_of_apply cfg st l hne havatar
    have hrole : avatar.role = avatar'.role := congrArg (fun id : String × String × String => id.2.2) hidentity
    simpa [isOperator, havatar, hbefore, hrole] using hst

end Avatars

/-! ### What has been heard -/

/-- When a worker is heard of: it sends a message, or is registered. -/
def heard (agentId : String) (now : ℤ) : Served ℕ (String × Json) BusNotice Json LoopMessage → Option ℤ
  | .answered _ m _ => if m.1 = agentId then some now else none
  | .told _ (.registerWorker id) => if id = agentId then some now else none
  | .told _ (.unregisterWorker _) | .own _ => none

/-- When a worker was last heard of. -/
def lastHeard (agentId : String) (ls : List (ℤ × Served ℕ (String × Json) BusNotice Json LoopMessage)) : Option ℤ :=
  (ls.filterMap fun l => heard agentId l.1 l.2).getLast?

section Runs

variable {cfg : Config} {parseText : Json → String} {s t : LiveState} {agentId : String}
  {l : ℤ × Served ℕ (String × Json) BusNotice Json LoopMessage}
  {ls : List (ℤ × Served ℕ (String × Json) BusNotice Json LoopMessage)}

/-- **One step**: whoever is heard of has been seen now, and nobody else. -/
theorem lastSeen_vitalsAfter (hne : agentId ≠ operatorAvatarId) (now : ℤ) (st : BudgetState)
    (vitals : Table String Vital) (e : Served ℕ (String × Json) BusNotice Json LoopMessage) :
    ((vitalsAfter now st vitals e).lookup agentId).map Vital.lastSeenAt =
      (vitals.lookup agentId).map fun v => (heard agentId now e).or v.lastSeenAt := by
  -- a row that is changed, if it is that of the agent
  have hmodify : ∀ (id : String) (f : Vital → Vital) (o : Option ℤ),
      (∀ v, (f v).lastSeenAt = o.or v.lastSeenAt) →
      ((vitals.modify id f).lookup agentId).map Vital.lastSeenAt =
        (vitals.lookup agentId).map fun v => (if id = agentId then o else none).or v.lastSeenAt := by
    intro id f o hf
    rw [Table.lookup_modify]
    by_cases h : agentId = id
    · subst h
      simp [Option.map_map, Function.comp_def, hf]
    · rw [if_neg h, if_neg fun heq => h heq.symm]
      rfl
  cases e with
  | answered c m reply => exact hmodify m.1 _ (some now) fun v => rfl
  | told c n =>
    cases n with
    | registerWorker id => exact hmodify id _ (some now) fun v => rfl
    | unregisterWorker id =>
      have hsame := hmodify id
        (fun v => { v with health := derive now v.lastSeenAt false (isOperator st id) }) none fun v => rfl
      rwa [ite_self] at hsame
  | own m =>
    have hsame : ((vitalsAfterOwn now st vitals m).lookup agentId).map Vital.lastSeenAt =
        (vitals.lookup agentId).map Vital.lastSeenAt := by
      unfold vitalsAfterOwn
      split
      · rw [Table.lookup_mapRows]
        cases vitals.lookup agentId <;> rfl
      · rw [AList.lookup_insert_ne hne]
      · rw [AList.lookup_erase_ne hne]
      · rfl
    exact hsame

/-- A worker is heard of at the time of the step. -/
theorem eq_of_heard {now ts : ℤ} {e : Served ℕ (String × Json) BusNotice Json LoopMessage}
    (h : heard agentId now e = some ts) : ts = now := by
  unfold heard at h
  split at h
  · exact (Option.some.inj (Option.ite_none_right_eq_some.mp h).2).symm
  · exact (Option.some.inj (Option.ite_none_right_eq_some.mp h).2).symm
  · cases h
  · cases h

/-- **What the loop keeps is when it last heard of the worker.** -/
theorem lastSeen_run (hinit : (liveSystem cfg parseText).init s) (hrun : Run (liveSystem cfg parseText).step s ls t)
    (hne : agentId ≠ operatorAvatarId) (hs : (s.vitals.lookup agentId).isSome) :
    (t.vitals.lookup agentId).map Vital.lastSeenAt = some (lastHeard agentId ls) := by
  obtain ⟨v, hv⟩ := Option.isSome_iff_exists.mp hs
  have hstart : (s.vitals.lookup agentId).map Vital.lastSeenAt = some ([] : List ℤ).getLast? := by
    rw [hv, hinit.2 agentId v hv]
    rfl
  have hend : (t.vitals.lookup agentId).map Vital.lastSeenAt =
      some ([] ++ ls.flatMap fun l : ℤ × _ => (heard agentId l.1 l.2).toList).getLast? := hrun.preserves_shown
    (J := fun s (seen : List ℤ) => (s.vitals.lookup agentId).map Vital.lastSeenAt = some seen.getLast?)
    (fun s l t seen _ hJ hstep => ?_) [] hstart
  · rw [hend, lastHeard, List.filterMap_eq_flatMap_toList, List.nil_append]
  · obtain ⟨-, -, hvitals⟩ := hstep
    rw [hvitals, lastSeen_vitalsAfter hne]
    obtain ⟨w, hw, hseen⟩ := Option.map_eq_some_iff.mp hJ
    rw [hw, Option.map_some, hseen, List.getLast?_append]
    cases heard agentId l.1 l.2 <;> rfl

/-- The bucket, where the clock has not gone back. -/
theorem derive_worker {now : ℤ} {lastSeen : Option ℤ} (hclock : ∀ ts ∈ lastSeen, ts ≤ now) (connected : Bool) :
    (derive now lastSeen connected false = .online ↔ connected = true) ∧
      (derive now lastSeen connected false = .recentlyLost ↔
        connected = false ∧ ∃ ts ∈ lastSeen, now - ts ≤ recentlyLostMaxSecs) ∧
      (derive now lastSeen connected false = .aboutToGc ↔
        connected = false ∧ ∃ ts ∈ lastSeen, offlineMaxSecs < now - ts ∧ now - ts ≤ aboutToGcMaxSecs) := by
  cases connected with
  | true => simp [derive]
  | false =>
    cases lastSeen with
    | none => simp [derive]
    | some ts =>
      have hpast := hclock ts rfl
      have hskew : ¬ now - ts < 0 := by omega
      have hts : ∀ P : ℤ → Prop, (∃ ts' ∈ some ts, P ts') ↔ P ts := fun P => by simp
      have hderive : derive now (some ts) false false =
          if now - ts ≤ recentlyLostMaxSecs then .recentlyLost
          else if now - ts ≤ offlineMaxSecs then .offline
          else if now - ts ≤ aboutToGcMaxSecs then .aboutToGc
          else .offline := by
        simp only [derive, Bool.false_eq_true, if_false, if_neg hskew]
      simp only [hderive, hts]
      have hfive : recentlyLostMaxSecs ≤ offlineMaxSecs := by decide
      by_cases hlost : now - ts ≤ recentlyLostMaxSecs
      · simp [hlost, show ¬ offlineMaxSecs < now - ts by omega]
      · by_cases hoffline : now - ts ≤ offlineMaxSecs
        · simp [hlost, hoffline]
        · by_cases hgc : now - ts ≤ aboutToGcMaxSecs
          · simp [hlost, hoffline, hgc, lt_of_not_ge hoffline]
          · simp [hlost, hoffline, hgc]

/-- **What a tick shows of a worker**: it is online exactly if it is connected, has been lost recently if it was heard
of in the last five minutes, and is about to be collected on the seventh day of its silence. A message counts, and so
does a registration; that the worker has left does not. -/
theorem health_shown {now : ℤ} {env : Env} (hinit : (liveSystem cfg parseText).init s)
    (hrun : Run (liveSystem cfg parseText).step s (ls ++ [(now, .own (.request (.tick env)))]) t)
    (hclock : ∀ l ∈ ls, l.1 ≤ now) (hne : agentId ≠ operatorAvatarId) (hs : (s.vitals.lookup agentId).isSome)
    (hrole : isOperator s.loop agentId = false) :
    ∃ v, t.vitals.lookup agentId = some v ∧
      (v.health = .online ↔ agentId ∈ t.loop.loop.outBus) ∧
      (v.health = .recentlyLost ↔
        agentId ∉ t.loop.loop.outBus ∧ ∃ ts ∈ lastHeard agentId ls, now - ts ≤ recentlyLostMaxSecs) ∧
      (v.health = .aboutToGc ↔ agentId ∉ t.loop.loop.outBus ∧
        ∃ ts ∈ lastHeard agentId ls, offlineMaxSecs < now - ts ∧ now - ts ≤ aboutToGcMaxSecs) := by
  have hworker : isOperator t.loop agentId = false := hrun.preserves
    (I := fun s => isOperator s.loop agentId = false) (fun s l t hs hstep => isOperator_step hstep.1 hne hs) hrole
  obtain ⟨u, hbefore, htick⟩ := hrun.split
  obtain ⟨t', ⟨-, -, hvitals⟩, hnil⟩ := htick.cons_inv
  cases hnil
  have hseen := lastSeen_run hinit hbefore hne hs
  obtain ⟨w, hw, hlast⟩ := Option.map_eq_some_iff.mp hseen
  have hpast : ∀ ts ∈ w.lastSeenAt, ts ≤ now := by
    intro ts hts
    rw [hlast] at hts
    obtain ⟨l, hl, hheard⟩ := List.mem_filterMap.mp (List.mem_of_getLast? hts)
    rw [eq_of_heard hheard]
    exact hclock l hl
  refine ⟨_, by rw [hvitals]; simp only [vitalsAfter, vitalsAfterOwn, Table.lookup_mapRows, hw]; rfl, ?_⟩
  rw [hworker, ← hlast]
  simpa using derive_worker hpast (decide (agentId ∈ t.loop.loop.outBus))

end Runs

/-! ### An engineer that goes -/

section Steps

variable {cfg : Config} {parseText : Json → String} (s : LiveState) (now : ℤ)

theorem told_step (c : ℕ) (n : BusNotice) : (liveSystem cfg parseText).step s (now, .told c n)
    ⟨n.message.apply cfg s.loop, vitalsAfter now (n.message.apply cfg s.loop) s.vitals (.told c n)⟩ :=
  ⟨rfl, fun _ hm => absurd hm (by simp), rfl⟩

theorem own_step {m : LoopMessage} (h : Inner m) : (liveSystem cfg parseText).step s (now, .own m)
    ⟨m.apply cfg s.loop, vitalsAfter now (m.apply cfg s.loop) s.vitals (.own m)⟩ :=
  ⟨rfl, fun _ hm => Served.own.inj hm ▸ h, rfl⟩

end Steps

/-- The engineer is registered, and goes after four minutes. -/
def goneLabels : List (ℤ × Served ℕ (String × Json) BusNotice Json LoopMessage) :=
  [(0, .told 0 (.registerWorker "a-2")), (240, .told 0 (.unregisterWorker "a-2"))]

/-- The loop of a fresh startup; nobody has been heard of. -/
noncomputable def freshLive : LiveState :=
  ⟨freshBudget, freshBudget.loop.world.avatars.column fun _ => ⟨none, .offline⟩⟩

theorem freshLive_init (parseText : Json → String) : (liveSystem sampleConfig parseText).init freshLive := by
  refine ⟨sampleStartup.init sampleConfig, fun agentId v hv => ?_⟩
  obtain ⟨-, -, rfl⟩ := Option.map_eq_some_iff.mp ((Table.lookup_column _ _ _).symm.trans hv)
  rfl

theorem gone_run (parseText : Json → String) : ∃ t, Run (liveSystem sampleConfig parseText).step freshLive
    (goneLabels ++ [(360, .own (.request (.tick (sampleEnv 0 "m"))))]) t := by
  have htick : Inner (.request (.tick (sampleEnv 0 "m"))) := by
    refine ⟨fun agentId hsent => ?_, fun n hn => ?_⟩
    · cases hsent
    · cases n <;> cases hn
  exact ⟨_, .cons (told_step freshLive 0 0 (.registerWorker "a-2"))
    (.cons (told_step _ 240 0 (.unregisterWorker "a-2")) (.single (own_step _ 360 htick)))⟩

/-- What is shown of the engineer, who has gone two minutes ago, and was last heard of six minutes ago. -/
theorem health_shown_gone : lastHeard "a-2" goneLabels = some 0 ∧ ∃ t : LiveState,
    ∃ v, t.vitals.lookup "a-2" = some v ∧
      (v.health = .online ↔ "a-2" ∈ t.loop.loop.outBus) ∧
      (v.health = .recentlyLost ↔
        "a-2" ∉ t.loop.loop.outBus ∧ ∃ ts ∈ lastHeard "a-2" goneLabels, 360 - ts ≤ recentlyLostMaxSecs) ∧
      (v.health = .aboutToGc ↔ "a-2" ∉ t.loop.loop.outBus ∧
        ∃ ts ∈ lastHeard "a-2" goneLabels, offlineMaxSecs < 360 - ts ∧ 360 - ts ≤ aboutToGcMaxSecs) := by
  obtain ⟨t, hrun⟩ := gone_run fun _ => ""
  exact ⟨by decide, t, health_shown (freshLive_init _) hrun (by decide) (by decide) (by rfl) (by decide +kernel)⟩

end Cliptown.Gate
