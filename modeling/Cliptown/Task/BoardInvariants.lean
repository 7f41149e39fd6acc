import Cliptown.Task.Board

/-!
# Invariants of the board

Each of the four properties that the task subsystem is meant to have, with the condition under which an
event keeps it.

* `Solo` — an agent has at most one task in progress, and is not idle meanwhile; kept under
  `SoloReport`.
* `Occupied` — a working avatar has a task in progress; kept under `FreesNobody`, on boards on which
  nothing in progress has been reviewed (`Unreviewed`).
* `Owned` — a task that somebody must act on has an assignee; kept under `NamesOwner`. `Staffed` — a task in
  progress has one; always kept.
* `Acyclic b.Waits` — no unfinished tasks wait for one another in a circle; kept under `NoLoop`, on
  boards whose blockers exist (`Linked`).
-/

namespace Cliptown.Task.Board

open Cliptown.Lib Cliptown.World Relation

variable {τ α : Type*} [DecidableEq τ] [DecidableEq α] {b b' : Board τ α} {e : BoardEvent τ α}

/-! ### One task in progress -/

/-- An agent has at most one task in progress, and its avatar is not idle meanwhile. -/
structure Solo (b : Board τ α) : Prop where
  one : ∀ t u a, b.Running t a → b.Running u a → t = u
  busy : ∀ t a, b.Running t a → b.avatar a ≠ some .idle

/-- A report about a task that is not in progress comes from an agent that has none in progress. -/
def SoloReport (b : Board τ α) (e : BoardEvent τ α) : Prop :=
  ∀ t a, e = .submit t a ∨ e = .fail t a → ¬ b.Running t a → ∀ u, ¬ b.Running u a

omit [DecidableEq τ] [DecidableEq α] in
theorem SoloReport.of_plain (h : e.Plain) : SoloReport b e := by
  rintro t a (rfl | rfl)
  · exact h.elim
  · exact h.elim

omit [DecidableEq τ] [DecidableEq α] in
/-- Without tasks nobody has one. -/
theorem Solo.of_empty (h : ∀ t, b.card t = none) : Solo b := by
  have hno : ∀ t a, ¬ b.Running t a := by
    rintro t a ⟨c, hc, _⟩
    rw [h t] at hc
    exact absurd hc (by simp)
  exact ⟨fun t _ a ht => absurd ht (hno t a), fun t a ht => absurd ht (hno t a)⟩

/-- A task that still runs after an event that sets its agent free does not exist. -/
theorem Solo.not_frees (hi : Solo b) (hc : SoloReport b e) (h : Step b e b') {t : τ} {a : α}
    (hr : b.Running t a) (hends : ¬ e.Ends t a) : ¬ e.Frees a := by
  cases e with
  | rollback u x =>
      rintro rfl
      have hut := hi.one u t x h.running_of_rollback hr
      exact hends ⟨hut, rfl⟩
  | submit u x =>
      rintro rfl
      by_cases hu : b.Running u x
      · exact hends ⟨hi.one u t x hu hr, rfl⟩
      · exact hc u x (.inl rfl) hu t hr
  | fail u x =>
      rintro rfl
      by_cases hu : b.Running u x
      · exact hends ⟨hi.one u t x hu hr, rfl⟩
      · exact hc u x (.inr rfl) hu t hr
  | _ => exact id

/-- **One event** keeps one task per agent. -/
theorem Solo.step (hi : Solo b) (hc : SoloReport b e) (h : Step b e b') : Solo b' := by
  constructor
  · intro t u a ht hu
    rcases h.running_of ht with ⟨ht, -⟩ | rfl
    · rcases h.running_of hu with ⟨hu, -⟩ | rfl
      · exact hi.one t u a ht hu
      · exact absurd h.of_dispatch.1 (hi.busy t a ht)
    · rcases h.running_of hu with ⟨hu, -⟩ | heq
      · exact absurd h.of_dispatch.1 (hi.busy u a hu)
      · exact (BoardEvent.dispatch.inj heq).1
  · intro t a ht hidle
    rcases h.running_of ht with ⟨ht, hends⟩ | rfl
    · rcases h.idle_of hidle with hidle | hfrees | rfl
      · exact hi.busy t a ht hidle
      · exact hi.not_frees hc h ht hends hfrees
      · obtain ⟨c, hcard, _, hassignee⟩ := ht
        cases h with
        | possess hnone => exact hnone t c hcard hassignee
    · rw [h.of_dispatch.2.1] at hidle
      exact absurd hidle (by decide)

/-! ### Cards that satisfy a predicate -/

omit [DecidableEq α] in
/-- Placing a card that satisfies a predicate which all others satisfy. -/
theorem forall_put {P : Card τ α → Prop} (h : ∀ t c, b.card t = some c → P c) {t : τ}
    {c : Card τ α} (hc : P c) : ∀ u d, (b.put t c).card u = some d → P d := by
  intro u d hd
  rw [card_put] at hd
  split at hd
  · exact Option.some.inj hd ▸ hc
  · exact h u d hd

/-- A task that has not been worked on has not been reviewed. -/
def Unreviewed (b : Board τ α) : Prop :=
  ∀ t c, b.card t = some c →
    c.status = .proposed ∨ c.status = .queued ∨ c.status = .inProgress → c.reviewRound = 0

/-- **One event** keeps the review rounds of new tasks at zero. -/
theorem Unreviewed.step (hi : Unreviewed b) (h : Step b e b') : Unreviewed b' := by
  unfold Unreviewed at *
  cases h with
  | create hnone hstatus hround => exact forall_put hi fun _ => hround
  | @accept t c _ hcard hstatus => exact forall_put hi fun _ => hi t c hcard (.inl hstatus)
  | @dispatch t c _ hcard hstatus =>
      exact forall_put hi fun _ => hi t c hcard (.inr (.inl hstatus))
  | @rollback t c _ hcard hstatus =>
      exact forall_put hi fun _ => hi t c hcard (.inr (.inr hstatus))
  | @steal t c _ hcard hstatus => exact forall_put hi fun _ => hi t c hcard (.inr (.inl hstatus))
  | recover => exact forall_put hi fun _ => rfl
  | @block t c u hcard => exact forall_put hi fun hnew => hi t c hcard hnew
  | possess => exact hi
  | unpossess => exact hi
  | _ => exact forall_put hi (by simp)

/-! ### Nobody is stuck as busy -/

/-- A working avatar has a task in progress. -/
def Occupied (b : Board τ α) : Prop :=
  ∀ a, b.avatar a = some .working → ∃ t, b.Running t a

/-- A task failed by force is not the only one that keeps a working avatar busy. -/
def FreesNobody (b : Board τ α) (e : BoardEvent τ α) : Prop :=
  ∀ t a, e = .forceFail t → b.Running t a → b.avatar a = some .working →
    ∃ u, u ≠ t ∧ b.Running u a

omit [DecidableEq τ] [DecidableEq α] in
theorem FreesNobody.of_plain (h : e.Plain) : FreesNobody b e := by
  rintro t a rfl
  exact h.elim

/-- **One event** keeps working avatars occupied. -/
theorem Occupied.step (hi : Occupied b) (hu : Unreviewed b) (hc : FreesNobody b e)
    (h : Step b e b') : Occupied b' := by
  intro a hw
  rcases h.working_of hw with ⟨hw, hfrees⟩ | ⟨t, rfl⟩
  · obtain ⟨t, ht⟩ := hi a hw
    rcases h.running_kept ht with hkept | hends
    · exact ⟨t, hkept⟩
    · cases h with
      | rollback => exact absurd hends.2 hfrees
      | submit => exact absurd hends.2 hfrees
      | fail => exact absurd hends.2 hfrees
      | @escalate v c hcard hdone hfailed hround =>
          -- a task in progress has no review round yet, so it is not escalated
          obtain ⟨d, hd, hprogress, _⟩ := ht
          obtain rfl : v = t := hends
          obtain rfl := Option.some.inj (hcard.symm.trans hd)
          rw [hu v c hcard (.inr (.inr hprogress))] at hround
          exact absurd hround (by decide)
      | @forceFail v c hcard hdone hfailed =>
          obtain rfl : v = t := hends
          obtain ⟨u, hne, hother⟩ := hc v a rfl ht hw
          exact ⟨u, hother.put hne⟩
      | _ => exact hends.elim
  · exact ⟨t, h.of_dispatch.2.2⟩

/-! ### No task without an owner -/

/-- A task that waits for an agent to act has an assignee. -/
def Owned (b : Board τ α) : Prop :=
  ∀ t c, b.card t = some c → c.status = .queued ∨ c.status = .inProgress ∨
    c.status = .awaitingReview ∨ c.status = .changesRequested → c.assignee.isSome

/-- A task that is created as queued has an assignee. -/
def NamesOwner (e : BoardEvent τ α) : Prop :=
  ∀ t c, e = .create t c → c.status = .queued → c.assignee.isSome

omit [DecidableEq τ] [DecidableEq α] in
theorem NamesOwner.of_plain (h : e.Plain) : NamesOwner e := by
  rintro t c rfl
  exact h.elim

/-- **One event** keeps the owners. -/
theorem Owned.step (hi : Owned b) (hc : NamesOwner e) (h : Step b e b') : Owned b' := by
  unfold Owned at *
  cases h with
  | @create t c hnone hstatus =>
      refine forall_put hi fun hactive => ?_
      rcases hstatus with hstatus | hstatus
      · simp [hstatus] at hactive
      · exact hc t c rfl hstatus
  | accept => exact forall_put hi fun _ => rfl
  | steal => exact forall_put hi fun _ => rfl
  | recover => exact forall_put hi fun _ => rfl
  | dispatch hcard hstatus hassignee | rollback hcard hstatus hassignee
  | submit hcard hstatus hassignee =>
      exact forall_put hi fun _ => Option.isSome_of_mem hassignee
  | @requestChanges t c hcard hstatus =>
      exact forall_put hi fun _ => hi t c hcard (.inr (.inr (.inl hstatus)))
  | @block t c u hcard => exact forall_put hi fun hnew => hi t c hcard hnew
  | possess => exact hi
  | unpossess => exact hi
  | _ => exact forall_put hi (by simp)

/-- A task in progress has an assignee. -/
def Staffed (b : Board τ α) : Prop :=
  ∀ t c, b.card t = some c → c.status = .inProgress → c.assignee.isSome

/-- **One event** keeps the agents at work on their tasks. -/
theorem Staffed.step (hi : Staffed b) (h : Step b e b') : Staffed b' := by
  unfold Staffed at *
  cases h with
  | create _ hstatus =>
      refine forall_put hi fun hprogress => ?_
      rcases hstatus with hstatus | hstatus <;> exact absurd (hstatus.symm.trans hprogress) (by simp)
  | dispatch _ _ hassignee => exact forall_put hi fun _ => Option.isSome_of_mem hassignee
  | accept | steal | recover => exact forall_put hi fun _ => rfl
  | @block t c _ hcard => exact forall_put hi fun hprogress => hi t c hcard hprogress
  | possess => exact hi
  | unpossess => exact hi
  | _ => exact forall_put hi (by simp)

/-! ### No blocking deadlock -/

/-- The blocker of every task exists. -/
def Linked (b : Board τ α) : Prop :=
  ∀ t c, b.card t = some c → ∀ u ∈ c.blockedOn, (b.card u).isSome

omit [DecidableEq α] in
/-- A card whose blocker exists is placed. -/
theorem linked_put (hi : Linked b) {t : τ} {c : Card τ α}
    (hc : ∀ u ∈ c.blockedOn, (b.card u).isSome) : Linked (b.put t c) := by
  have hkeep : ∀ u, (b.card u).isSome → ((b.put t c).card u).isSome := by
    intro u hu
    rw [card_put]
    split
    · rfl
    · exact hu
  refine forall_put (fun u d hd x hx => hkeep x (hi u d hd x hx)) ?_
  exact fun u hu => hkeep u (hc u hu)

/-- **One event** keeps the blockers. -/
theorem Linked.step (hi : Linked b) (h : Step b e b') : Linked b' := by
  cases h with
  | create hnone hstatus hround hlinked => exact linked_put hi hlinked
  | block hcard hlinked => exact linked_put hi fun u hu => (hlinked u hu).2
  | possess => exact hi
  | unpossess => exact hi
  | accept hcard | reject hcard | dispatch hcard | rollback hcard | submit hcard | fail hcard
  | approve hcard | requestChanges hcard | escalate hcard | forceFail hcard | steal hcard
  | recover hcard =>
      have hlinked := hi _ _ hcard
      exact linked_put hi hlinked

/-- The task exists and is not over. -/
def Open (b : Board τ α) (t : τ) : Prop :=
  ∃ c, b.card t = some c ∧ ¬ c.status.Terminal

/-- The task waits for another one: both are open, and the one is blocked on the other. -/
def Waits (b : Board τ α) (t u : τ) : Prop :=
  (∃ c, b.card t = some c ∧ ¬ c.status.Terminal ∧ c.blockedOn = some u) ∧ b.Open u

omit [DecidableEq τ] in
@[simp]
theorem waits_mark (b : Board τ α) (a : α) (st : AvatarStatus) : (b.mark a st).Waits = b.Waits :=
  rfl

/-- An open task is not blocked on one that waits for it already. -/
def NoLoop (b : Board τ α) (e : BoardEvent τ α) : Prop :=
  ∀ t u, e = .block t (some u) → b.Open t → ¬ ReflTransGen b.Waits u t

omit [DecidableEq τ] [DecidableEq α] in
theorem NoLoop.of_plain (h : e.Plain) : NoLoop b e := by
  rintro t u rfl
  exact h.elim

omit [DecidableEq α] in
/-- A card changes without opening the task or changing its blocker: nothing waits that did not. -/
theorem waits_put {t : τ} {c d : Card τ α} {x y : τ} (h : (b.put t d).Waits x y)
    (hcard : b.card t = some c) (hterminal : c.status.Terminal → d.status.Terminal)
    (hblocked : d.blockedOn = c.blockedOn) : b.Waits x y := by
  obtain ⟨⟨f, hf, hfopen, hfblocked⟩, g, hg, hgopen⟩ := h
  rw [card_put] at hf hg
  constructor
  · split at hf
    · rename_i heq
      obtain rfl := Option.some.inj hf
      exact ⟨c, heq ▸ hcard, fun hc => hfopen (hterminal hc), hblocked ▸ hfblocked⟩
    · exact ⟨f, hf, hfopen, hfblocked⟩
  · split at hg
    · rename_i heq
      obtain rfl := Option.some.inj hg
      exact ⟨c, heq ▸ hcard, fun hc => hgopen (hterminal hc)⟩
    · exact ⟨g, hg, hgopen⟩

/-- **What waits after an event** waited before, or is blocked by it. -/
theorem Step.waits_of (h : Step b e b') (hl : Linked b) {x y : τ} (hw : b'.Waits x y) :
    b.Waits x y ∨ (∃ c, e = .create x c ∧ c.blockedOn = some y ∧ b.card x = none) ∨
      (e = .block x (some y) ∧ b.Open x) := by
  cases h with
  | @create t c hnone hstatus hround hlinked =>
      obtain ⟨⟨f, hf, hfopen, hfblocked⟩, g, hg, hgopen⟩ := hw
      rw [card_put] at hf hg
      split at hf
      · rename_i heq
        obtain rfl := Option.some.inj hf
        exact .inr (.inl ⟨c, by rw [heq], hfblocked, heq ▸ hnone⟩)
      · have hy := hl x f hf y hfblocked
        split at hg
        · rename_i heq
          rw [heq, hnone] at hy
          exact absurd hy (by simp)
        · exact .inl ⟨⟨f, hf, hfopen, hfblocked⟩, g, hg, hgopen⟩
  | @block t c u hcard hlinked =>
      obtain ⟨⟨f, hf, hfopen, hfblocked⟩, g, hg, hgopen⟩ := hw
      rw [card_put] at hf hg
      have hy : b.Open y := by
        split at hg
        · rename_i heq
          obtain rfl := Option.some.inj hg
          exact ⟨c, heq ▸ hcard, hgopen⟩
        · exact ⟨g, hg, hgopen⟩
      split at hf
      · rename_i heq
        obtain rfl := Option.some.inj hf
        refine .inr (.inr ⟨?_, c, heq ▸ hcard, hfopen⟩)
        rw [heq, show u = some y from hfblocked]
      · exact .inl ⟨⟨f, hf, hfopen, hfblocked⟩, hy⟩
  | possess => exact .inl hw
  | unpossess => exact .inl hw
  | accept hcard hstatus | reject hcard hstatus | approve hcard hstatus
  | requestChanges hcard hstatus | steal hcard hstatus | recover hcard hstatus =>
      exact .inl (waits_put hw hcard (by simp [hstatus, TaskStatus.Terminal]) rfl)
  | dispatch hcard hstatus | rollback hcard hstatus =>
      rw [waits_mark] at hw
      exact .inl (waits_put hw hcard (by simp [hstatus, TaskStatus.Terminal]) rfl)
  | submit hcard hstatus =>
      rw [waits_mark] at hw
      refine .inl (waits_put hw hcard ?_ rfl)
      rcases hstatus with hstatus | hstatus <;> simp [hstatus, TaskStatus.Terminal]
  | fail hcard =>
      rw [waits_mark] at hw
      exact .inl (waits_put hw hcard (by simp [TaskStatus.Terminal]) rfl)
  | escalate hcard | forceFail hcard =>
      exact .inl (waits_put hw hcard (by simp [TaskStatus.Terminal]) rfl)

omit [DecidableEq α] in
/-- A card changes, but not its status: the same tasks are open. -/
theorem open_put {t : τ} {c d : Card τ α} {x : τ} (hcard : b.card t = some c)
    (hstatus : d.status = c.status) : (b.put t d).Open x ↔ b.Open x := by
  unfold Open
  rw [card_put]
  split
  · rename_i heq
    rw [heq, hcard]
    simp [hstatus]
  · rfl

/-- **The condition is exact**: blocking an open task on another open one closes a circle if and only if
that one waits for it already. -/
theorem acyclic_block_iff {t u : τ} (hi : Acyclic b.Waits) (h : Step b (.block t (some u)) b')
    (ht : b.Open t) (hu : b.Open u) : Acyclic b'.Waits ↔ ¬ ReflTransGen b.Waits u t := by
  refine acyclic_redirect_iff hi fun x y => ?_
  cases h with
  | @block t c _ hcard hlinked =>
      unfold Waits
      rw [open_put (d := { c with blockedOn := some u }) hcard rfl, card_put]
      by_cases hx : x = t
      · obtain ⟨d, hd, hopen⟩ := ht
        obtain rfl := Option.some.inj (hcard.symm.trans hd)
        simp only [hx, if_true, Option.some.injEq, exists_eq_left', ne_eq, not_true_eq_false,
          false_and, true_and, false_or]
        constructor
        · rintro ⟨⟨-, huy⟩, -⟩
          exact huy.symm
        · rintro rfl
          exact ⟨⟨hopen, rfl⟩, hu⟩
      · simp [hx]

/-- **One event** keeps the board free of circles. -/
theorem acyclic_step (hi : Acyclic b.Waits) (hl : Linked b) (hc : NoLoop b e) (h : Step b e b') :
    Acyclic b'.Waits := by
  by_cases hblock : ∃ t u, e = .block t (some u) ∧ b.Open t
  · obtain ⟨t, u, rfl, hopen⟩ := hblock
    by_cases hu : b.Open u
    · exact (acyclic_block_iff hi h hopen hu).mpr (hc t u rfl hopen)
    · -- nobody waits for a task that is over
      refine hi.mono fun x y hxy => ?_
      rcases h.waits_of hl hxy with hw | ⟨_, heq, _⟩ | ⟨heq, _⟩
      · exact hw
      · exact absurd heq (by simp)
      · obtain ⟨-, hy⟩ := BoardEvent.block.inj heq
        obtain rfl := Option.some.inj hy
        cases h with
        | @block _ c _ hcard _ =>
            exact absurd ((open_put (d := { c with blockedOn := some u }) hcard rfl).mp hxy.2) hu
  by_cases hcreate : ∃ t c u, e = .create t c ∧ c.blockedOn = some u ∧ b.card t = none
  · -- nothing waits for the new task
    obtain ⟨t, c, u, rfl, hblocked, hnone⟩ := hcreate
    have hnot : ∀ x, ¬ b.Waits x t := by
      rintro x ⟨_, d, hd, _⟩
      rw [hnone] at hd
      exact absurd hd (by simp)
    refine hi.insert (t := t) (u := u) (fun x y hxy => ?_) fun hut => ?_
    · rcases h.waits_of hl hxy with hw | ⟨d, heq, hy, _⟩ | ⟨heq, _⟩
      · exact .inl hw
      · obtain ⟨rfl, rfl⟩ := BoardEvent.create.inj heq
        exact .inr ⟨rfl, Option.some.inj (hy.symm.trans hblocked)⟩
      · exact absurd heq (by simp)
    · rcases ReflTransGen.cases_tail hut with heq | ⟨x, _, hx⟩
      · cases h with
        | create _ _ _ hlinked =>
            have hu := hlinked u hblocked
            rw [← heq, hnone] at hu
            exact absurd hu (by simp)
      · exact hnot x hx
  refine hi.mono fun x y hxy => ?_
  rcases h.waits_of hl hxy with hw | ⟨c, heq, hy, hnone⟩ | ⟨heq, hopen⟩
  · exact hw
  · exact absurd ⟨x, c, y, heq, hy, hnone⟩ hcreate
  · exact absurd ⟨x, y, heq, hopen⟩ hblock

/-! ### Runs -/

/-- In every run whose reports are solo, an agent has at most one task in progress. -/
theorem Solo.of_reachable (h : ((boardSystem τ α).restrict SoloReport).Reachable b) : Solo b :=
  h.invariant (fun _ hinit => .of_empty hinit.1) fun _ _ _ hi hstep => hi.step hstep.1 hstep.2

/-- In every run, tasks that have not been worked on have not been reviewed. -/
theorem Unreviewed.of_reachable (h : (boardSystem τ α).Reachable b) : Unreviewed b := by
  refine h.invariant (fun b hinit t c hc => ?_) fun _ _ _ hi hstep => hi.step hstep
  rw [hinit.1 t] at hc
  exact absurd hc (by simp)

/-- In every run whose forced failures free nobody, a working avatar has a task in progress. -/
theorem Occupied.of_reachable (h : ((boardSystem τ α).restrict FreesNobody).Reachable b) :
    Occupied b := by
  refine h.invariant_of (fun b hb => Unreviewed.of_reachable hb.of_restrict) (fun b hinit a hw => ?_)
    fun _ _ _ hu hi hstep => hi.step hu hstep.1 hstep.2
  exact absurd hw (hinit.2 a)

/-- In every run whose new tasks name their owner, a task that waits for an agent has one. -/
theorem Owned.of_reachable
    (h : ((boardSystem τ α).restrict fun _ e => NamesOwner e).Reachable b) : Owned b := by
  refine h.invariant (fun b hinit t c hc => ?_) fun _ _ _ hi hstep => hi.step hstep.1 hstep.2
  rw [hinit.1 t] at hc
  exact absurd hc (by simp)

/-- In every run, blockers exist. -/
theorem Linked.of_reachable (h : (boardSystem τ α).Reachable b) : Linked b := by
  refine h.invariant (fun b hinit t c hc => ?_) fun _ _ _ hi hstep => hi.step hstep
  rw [hinit.1 t] at hc
  exact absurd hc (by simp)

/-- In every run that closes no loop, no unfinished tasks wait for one another in a circle. -/
theorem acyclic_of_reachable (h : ((boardSystem τ α).restrict NoLoop).Reachable b) :
    Acyclic b.Waits := by
  refine h.invariant_of (fun b hb => Linked.of_reachable hb.of_restrict) (fun b hinit => ?_)
    fun _ _ _ hl hi hstep => acyclic_step hi hl hstep.1 hstep.2
  refine acyclic_of_forall_not fun x y hxy => ?_
  obtain ⟨⟨c, hc, -⟩, -⟩ := hxy
  rw [hinit.1 x] at hc
  exact absurd hc (by simp)

end Cliptown.Task.Board
