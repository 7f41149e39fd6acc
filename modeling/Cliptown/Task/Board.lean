import Cliptown.Lib.Chain
import Cliptown.Lib.Runs
import Cliptown.Task.Sm
import Cliptown.World.State
import Mathlib.Logic.Function.Basic

/-!
# The board

What the task subsystem is for, without messages, permissions and tables: a board of cards, each with
a status, an assignee, a blocker and a count of review rounds, beside the agents' avatars, which are
idle or working.

* `Card`, `Board`, `BoardEvent`, `Board.Step` — the board and everything that may happen to it.
* `BoardEvent.Plain`, `Plainly`, `PlainlyAt` — the events that need no condition, and runs of them.
* `Step.running_of`, `Step.running_kept`, `Step.working_of`, `Step.idle_of` — what one event can do to
  the running tasks and to an avatar.

Tasks and agents are of any type.
-/

namespace Cliptown.Task

open Cliptown.Lib Cliptown.World Relation

/-- What the board shows of a task. -/
structure Card (τ α : Type*) where
  status : TaskStatus
  assignee : Option α
  blockedOn : Option τ
  reviewRound : ℕ

/-- The tasks that exist, and the avatars that are in the world. -/
structure Board (τ α : Type*) where
  card : τ → Option (Card τ α)
  avatar : α → Option AvatarStatus

/-- What may happen. -/
inductive BoardEvent (τ α : Type*) where
  /-- A task is created. -/
  | create (t : τ) (c : Card τ α)
  /-- A proposal is accepted for an agent. -/
  | accept (t : τ) (a : α)
  | reject (t : τ)
  /-- A queued task is handed to its idle assignee. -/
  | dispatch (t : τ) (a : α)
  /-- The hand-over failed. -/
  | rollback (t : τ) (a : α)
  /-- The assignee reports a task done. -/
  | submit (t : τ) (a : α)
  /-- The assignee reports a task failed. -/
  | fail (t : τ) (a : α)
  | approve (t : τ)
  | requestChanges (t : τ)
  | escalate (t : τ)
  | forceFail (t : τ)
  /-- A queued task is moved to another agent. -/
  | steal (t : τ) (a : α)
  /-- A task under review is queued again for another agent. -/
  | recover (t : τ) (a : α)
  | block (t : τ) (u : Option τ)
  /-- The operator's avatar, to which no task is assigned, appears or goes. -/
  | possess (a : α)
  | unpossess (a : α)

namespace Board

variable {τ α : Type*} [DecidableEq τ] [DecidableEq α]

/-- Place a card. -/
def put (b : Board τ α) (t : τ) (c : Card τ α) : Board τ α :=
  { b with card := Function.update b.card t (some c) }

/-- Change the status of an avatar, if it is there. -/
def mark (b : Board τ α) (a : α) (st : AvatarStatus) : Board τ α :=
  { b with avatar := Function.update b.avatar a ((b.avatar a).map fun _ => st) }

omit [DecidableEq α] in
theorem card_put (b : Board τ α) (t x : τ) (c : Card τ α) :
    (b.put t c).card x = if x = t then some c else b.card x :=
  Function.update_apply b.card t (some c) x

omit [DecidableEq τ] in
theorem avatar_mark (b : Board τ α) (a x : α) (st : AvatarStatus) :
    (b.mark a st).avatar x = if x = a then (b.avatar a).map fun _ => st else b.avatar x :=
  Function.update_apply b.avatar a _ x

omit [DecidableEq τ] in
@[simp]
theorem card_mark (b : Board τ α) (a : α) (st : AvatarStatus) : (b.mark a st).card = b.card :=
  rfl

omit [DecidableEq α] in
@[simp]
theorem avatar_put (b : Board τ α) (t : τ) (c : Card τ α) : (b.put t c).avatar = b.avatar :=
  rfl

/-- What each event needs and does. -/
inductive Step : Board τ α → BoardEvent τ α → Board τ α → Prop
  | create {b t c} : b.card t = none → c.status = .proposed ∨ c.status = .queued →
      c.reviewRound = 0 → (∀ u ∈ c.blockedOn, (b.card u).isSome) →
      Step b (.create t c) (b.put t c)
  | accept {b t c a} : b.card t = some c → c.status = .proposed →
      Step b (.accept t a) (b.put t { c with status := .queued, assignee := some a })
  | reject {b t c} : b.card t = some c → c.status = .proposed →
      Step b (.reject t) (b.put t { c with status := .failed })
  | dispatch {b t c a} : b.card t = some c → c.status = .queued → c.assignee = some a →
      b.avatar a = some .idle →
      Step b (.dispatch t a) ((b.put t { c with status := .inProgress }).mark a .working)
  | rollback {b t c a} : b.card t = some c → c.status = .inProgress → c.assignee = some a →
      Step b (.rollback t a) ((b.put t { c with status := .queued }).mark a .idle)
  | submit {b t c a} : b.card t = some c →
      c.status = .inProgress ∨ c.status = .changesRequested → c.assignee = some a →
      Step b (.submit t a) ((b.put t { c with status := .awaitingReview }).mark a .idle)
  | fail {b t c a} : b.card t = some c → c.status ≠ .done → c.status ≠ .failed →
      c.assignee = some a →
      Step b (.fail t a) ((b.put t { c with status := .failed }).mark a .idle)
  | approve {b t c} : b.card t = some c → c.status = .awaitingReview →
      Step b (.approve t) (b.put t { c with status := .done })
  | requestChanges {b t c} : b.card t = some c → c.status = .awaitingReview →
      Step b (.requestChanges t)
        (b.put t { c with status := .changesRequested, reviewRound := c.reviewRound + 1 })
  | escalate {b t c} : b.card t = some c → c.status ≠ .done → c.status ≠ .failed →
      maxReviewRounds ≤ c.reviewRound →
      Step b (.escalate t) (b.put t { c with status := .escalated })
  | forceFail {b t c} : b.card t = some c → c.status ≠ .done → c.status ≠ .failed →
      Step b (.forceFail t) (b.put t { c with status := .failed })
  | steal {b t c a} : b.card t = some c → c.status = .queued →
      Step b (.steal t a) (b.put t { c with assignee := some a })
  | recover {b t c a} : b.card t = some c → c.status = .changesRequested →
      Step b (.recover t a)
        (b.put t { c with status := .queued, assignee := some a, reviewRound := 0 })
  | block {b t c u} : b.card t = some c → (∀ x ∈ u, x ≠ t ∧ (b.card x).isSome) →
      Step b (.block t u) (b.put t { c with blockedOn := u })
  | possess {b a} : (∀ t c, b.card t = some c → c.assignee ≠ some a) →
      Step b (.possess a) { b with avatar := Function.update b.avatar a (some .idle) }
  | unpossess {b a} : Step b (.unpossess a) { b with avatar := Function.update b.avatar a none }

end Board

/-- A board without tasks, on which nobody works. -/
def boardSystem (τ α : Type*) [DecidableEq τ] [DecidableEq α] :
    System (Board τ α) (BoardEvent τ α) where
  init b := (∀ t, b.card t = none) ∧ ∀ a, b.avatar a ≠ some .working
  step := Board.Step

/-- The events that take a task of an agent out of progress. -/
def BoardEvent.Ends {τ α : Type*} (t : τ) (a : α) : BoardEvent τ α → Prop
  | .rollback u x | .submit u x | .fail u x => u = t ∧ x = a
  | .forceFail u | .escalate u => u = t
  | _ => False

/-- The events that set the avatar of an agent idle again. -/
def BoardEvent.Frees {τ α : Type*} (a : α) : BoardEvent τ α → Prop
  | .rollback _ x | .submit _ x | .fail _ x => x = a
  | _ => False

/-- The events that need no condition to keep the invariants of the board. -/
def BoardEvent.Plain {τ α : Type*} : BoardEvent τ α → Prop
  | .create _ _ | .submit _ _ | .fail _ _ | .forceFail _ | .block _ (some _) => False
  | _ => True

/-- The events that only the scheduler brings about. -/
def BoardEvent.Scheduled {τ α : Type*} : BoardEvent τ α → Prop
  | .dispatch _ _ | .rollback _ _ | .recover _ _ => True
  | _ => False

namespace Board

variable {τ α : Type*} [DecidableEq τ] [DecidableEq α] {b b' b'' : Board τ α} {e : BoardEvent τ α}
  {t u : τ} {a : α}

/-! ### Plain events -/

/-- Plain events lead from one board to another. -/
def Plainly (b b' : Board τ α) : Prop :=
  ∃ es, Run Step b es b' ∧ ∀ e ∈ es, e.Plain

/-- Plain events lead from one board to another, and change no card but that of one task. -/
structure PlainlyAt (t : τ) (b b' : Board τ α) : Prop where
  run : Plainly b b'
  frame : ∀ u, u ≠ t → b'.card u = b.card u

theorem Plainly.refl (b : Board τ α) : Plainly b b :=
  ⟨[], .nil b, by simp⟩

theorem Plainly.of_step (h : Step b e b') (he : e.Plain) : Plainly b b' :=
  ⟨[e], .single h, by simpa using he⟩

theorem Plainly.trans (h : Plainly b b') (h' : Plainly b' b'') : Plainly b b'' := by
  obtain ⟨es, hrun, hplain⟩ := h
  obtain ⟨es', hrun', hplain'⟩ := h'
  refine ⟨es ++ es', hrun.trans hrun', fun e he => ?_⟩
  rcases List.mem_append.mp he with he | he
  · exact hplain e he
  · exact hplain' e he

theorem PlainlyAt.refl (t : τ) (b : Board τ α) : PlainlyAt t b b :=
  ⟨.refl b, fun _ _ => rfl⟩

theorem PlainlyAt.trans (h : PlainlyAt t b b') (h' : PlainlyAt t b' b'') : PlainlyAt t b b'' :=
  ⟨Plainly.trans h.run h'.run, fun u hu => (h'.frame u hu).trans (h.frame u hu)⟩

/-- A plain event that places one card. -/
theorem PlainlyAt.of_step {c : Card τ α} (h : Step b e b') (he : e.Plain)
    (hb : b'.card = (b.put t c).card) : PlainlyAt t b b' := by
  refine ⟨.of_step h he, fun u hu => ?_⟩
  rw [hb, card_put, if_neg hu]

/-! ### What one event can do -/

/-- The task is in progress with the agent. -/
def Running (b : Board τ α) (t : τ) (a : α) : Prop :=
  ∃ c, b.card t = some c ∧ c.status = .inProgress ∧ c.assignee = some a

omit [DecidableEq α] in
/-- A card that is not in progress is placed: nothing runs that did not run. -/
theorem running_put {c : Card τ α} (hc : c.status ≠ .inProgress) (h : (b.put t c).Running u a) :
    u ≠ t ∧ b.Running u a := by
  obtain ⟨d, hd, hstatus, hassignee⟩ := h
  rw [card_put] at hd
  split at hd
  · obtain rfl := Option.some.inj hd
    exact absurd hstatus hc
  · exact ⟨‹_›, d, hd, hstatus, hassignee⟩

omit [DecidableEq α] in
/-- Placing another card leaves a running task alone. -/
theorem Running.put {c : Card τ α} (h : b.Running u a) (hne : u ≠ t) :
    (b.put t c).Running u a := by
  obtain ⟨d, hd, hrest⟩ := h
  refine ⟨d, ?_, hrest⟩
  rw [card_put, if_neg hne]
  exact hd

/-- **A task is in progress only by dispatch**, or because it was. -/
theorem Step.running_of (h : Step b e b') (hr : b'.Running u a) :
    (b.Running u a ∧ ¬ e.Ends u a) ∨ e = .dispatch u a := by
  cases h with
  | create hnone hstatus hround hlinked =>
      exact .inl ⟨(running_put (by rcases hstatus with h | h <;> simp [h]) hr).2, id⟩
  | @dispatch t c x hcard hstatus hassignee hidle =>
      obtain ⟨d, hd, hprogress, hd'⟩ := hr
      rw [card_mark, card_put] at hd
      split at hd
      · rename_i heq
        obtain rfl := Option.some.inj hd
        have hx : x = a := Option.some.inj (hassignee.symm.trans hd')
        exact .inr (by rw [heq, hx])
      · exact .inl ⟨⟨d, hd, hprogress, hd'⟩, id⟩
  | steal hcard hstatus => exact .inl ⟨(running_put (by simp [hstatus]) hr).2, id⟩
  | @block t c x hcard hlinked =>
      obtain ⟨d, hd, hprogress, hd'⟩ := hr
      rw [card_put] at hd
      split at hd
      · rename_i heq
        obtain rfl := Option.some.inj hd
        exact .inl ⟨⟨c, heq ▸ hcard, hprogress, hd'⟩, id⟩
      · exact .inl ⟨⟨d, hd, hprogress, hd'⟩, id⟩
  | possess => exact .inl ⟨hr, id⟩
  | unpossess => exact .inl ⟨hr, id⟩
  | rollback | submit | fail =>
      obtain ⟨hne, hr⟩ := running_put (by simp) hr
      exact .inl ⟨hr, fun hends => hne hends.1.symm⟩
  | escalate | forceFail =>
      obtain ⟨hne, hr⟩ := running_put (by simp) hr
      exact .inl ⟨hr, fun hends => hne hends.symm⟩
  | _ => exact .inl ⟨(running_put (by simp) hr).2, id⟩

/-- **A running task keeps running** until an event that ends it. -/
theorem Step.running_kept (h : Step b e b') (hr : b.Running u a) :
    b'.Running u a ∨ e.Ends u a := by
  have hcase : ∀ {t : τ} {c : Card τ α}, b.card t = some c → u = t →
      c.status = .inProgress ∧ c.assignee = some a := by
    rintro t c hcard rfl
    obtain ⟨d, hd, hrest⟩ := hr
    obtain rfl := Option.some.inj (hcard.symm.trans hd)
    exact hrest
  cases h with
  | @create t c hnone =>
      refine .inl (hr.put ?_)
      rintro rfl
      obtain ⟨d, hd, _⟩ := hr
      exact absurd (hnone.symm.trans hd) (by simp)
  | @block t c x hcard hlinked =>
      by_cases hut : u = t
      · have hc := hcase hcard hut
        exact .inl ⟨{ c with blockedOn := x }, by rw [card_put, if_pos hut], hc⟩
      · exact .inl (hr.put hut)
  | possess => exact .inl hr
  | unpossess => exact .inl hr
  | @rollback t c x hcard hstatus hassignee =>
      by_cases hut : u = t
      · exact .inr ⟨hut.symm, Option.some.inj (hassignee.symm.trans (hcase hcard hut).2)⟩
      · exact .inl (hr.put hut)
  | @submit t c x hcard hstatus hassignee =>
      by_cases hut : u = t
      · exact .inr ⟨hut.symm, Option.some.inj (hassignee.symm.trans (hcase hcard hut).2)⟩
      · exact .inl (hr.put hut)
  | @fail t c x hcard hdone hfailed hassignee =>
      by_cases hut : u = t
      · exact .inr ⟨hut.symm, Option.some.inj (hassignee.symm.trans (hcase hcard hut).2)⟩
      · exact .inl (hr.put hut)
  | @escalate t c =>
      by_cases hut : u = t
      · exact .inr hut.symm
      · exact .inl (hr.put hut)
  | @forceFail t c =>
      by_cases hut : u = t
      · exact .inr hut.symm
      · exact .inl (hr.put hut)
  | accept hcard hstatus | reject hcard hstatus | dispatch hcard hstatus | approve hcard hstatus
  | requestChanges hcard hstatus | steal hcard hstatus | recover hcard hstatus =>
      refine .inl (hr.put fun hut => ?_)
      rw [(hcase hcard hut).1] at hstatus
      exact absurd hstatus (by decide)

/-- Only running tasks are rolled back. -/
theorem Step.running_of_rollback (h : Step b (.rollback t a) b') : b.Running t a := by
  cases h with
  | rollback hcard hstatus hassignee => exact ⟨_, hcard, hstatus, hassignee⟩

/-- A dispatched task runs, and its agent's avatar turns from idle to working. -/
theorem Step.of_dispatch (h : Step b (.dispatch t a) b') :
    b.avatar a = some .idle ∧ b'.avatar a = some .working ∧ b'.Running t a := by
  cases h with
  | @dispatch t c a hcard hstatus hassignee hidle =>
      refine ⟨hidle, ?_, { c with status := .inProgress }, ?_, rfl, hassignee⟩
      · simp [avatar_mark, hidle]
      · simp [card_put]

/-- **An avatar works only by dispatch**, or because it did and was not set free. -/
theorem Step.working_of (h : Step b e b') (hw : b'.avatar a = some .working) :
    (b.avatar a = some .working ∧ ¬ e.Frees a) ∨ ∃ t, e = .dispatch t a := by
  cases h with
  | @dispatch t c x =>
      rw [avatar_mark] at hw
      split at hw
      · rename_i heq
        exact .inr ⟨t, by rw [heq]⟩
      · exact .inl ⟨hw, id⟩
  | @rollback t c x | @submit t c x | @fail t c x =>
      rw [avatar_mark] at hw
      split at hw
      · obtain ⟨_, _, hidle⟩ := Option.map_eq_some_iff.mp hw
        exact absurd hidle (by decide)
      · exact .inl ⟨hw, fun hfrees => absurd hfrees.symm ‹_›⟩
  | @possess x =>
      by_cases hax : a = x
      · simp [hax] at hw
      · exact .inl ⟨by simpa [Function.update_of_ne hax] using hw, id⟩
  | @unpossess x =>
      by_cases hax : a = x
      · simp [hax] at hw
      · exact .inl ⟨by simpa [Function.update_of_ne hax] using hw, id⟩
  | _ => exact .inl ⟨hw, id⟩

/-- **An avatar is idle only because it was**, was set free or has just appeared. -/
theorem Step.idle_of (h : Step b e b') (hidle : b'.avatar a = some .idle) :
    b.avatar a = some .idle ∨ e.Frees a ∨ e = .possess a := by
  cases h with
  | @dispatch t c x =>
      rw [avatar_mark] at hidle
      split at hidle
      · obtain ⟨_, _, hworking⟩ := Option.map_eq_some_iff.mp hidle
        exact absurd hworking (by decide)
      · exact .inl hidle
  | @rollback t c x | @submit t c x | @fail t c x =>
      rw [avatar_mark] at hidle
      split at hidle
      · exact .inr (.inl (by rename_i heq; exact heq.symm))
      · exact .inl hidle
  | @possess x =>
      by_cases hax : a = x
      · exact .inr (.inr (by rw [hax]))
      · exact .inl (by simpa [Function.update_of_ne hax] using hidle)
  | @unpossess x =>
      by_cases hax : a = x
      · simp [hax] at hidle
      · exact .inl (by simpa [Function.update_of_ne hax] using hidle)
  | _ => exact .inl hidle

/-- A card stays on the board. -/
theorem Step.card_kept {c : Card τ α} (h : Step b e b') (hc : b.card u = some c) :
    (b'.card u).isSome := by
  cases h with
  | possess | unpossess => simp [hc]
  | _ =>
      simp only [card_mark, card_put]
      split <;> simp [hc]

omit [DecidableEq α] in
/-- Where a card is placed, the status is that of the new card. -/
theorem status_of_put {c c₀ c' d : Card τ α} (hc₀ : b.card t = some c₀) (hc : b.card u = some c)
    (hc' : (b.put t d).card u = some c') :
    c'.status = c.status ∨ u = t ∧ c₀ = c ∧ c'.status = d.status := by
  rw [card_put] at hc'
  split at hc'
  · rename_i heq
    subst heq
    obtain rfl := Option.some.inj hc'
    exact .inr ⟨rfl, Option.some.inj (hc₀.symm.trans hc), rfl⟩
  · exact .inl (congrArg Card.status (Option.some.inj (hc'.symm.trans hc)))

/-- **What an event does to a status**: what a request about the task does, unless it takes back a
hand-over or recovers the task. -/
theorem Step.status_of {c c' : Card τ α} (h : Step b e b') (hc : b.card u = some c)
    (hc' : b'.card u = some c') :
    c'.status = c.status ∨ c.status.Leads c'.status ∨
      (∃ a, e = .rollback u a) ∧ c.status = .inProgress ∧ c'.status = .queued ∨
        (∃ a, e = .recover u a) ∧ c.status = .changesRequested ∧ c'.status = .queued := by
  have hput : ∀ {t : τ} {c₀ d : Card τ α} (tr : Transition), b.card t = some c₀ →
      (∀ caller, tr ≠ .subtaskCreate caller) → next c₀.status tr = .ok d.status →
        (b.put t d).card u = some c' → c'.status = c.status ∨ c.status.Leads c'.status := by
    intro t c₀ d tr hcard htr hnext hd
    rcases status_of_put hcard hc hd with heq | ⟨-, rfl, hnew⟩
    · exact .inl heq
    · exact .inr ⟨tr, htr, hnew ▸ hnext⟩
  cases h with
  | create hnone =>
      rw [card_put] at hc'
      split at hc'
      · rename_i heq
        exact absurd (hnone.symm.trans (heq ▸ hc)) (by simp)
      · exact .inl (congrArg Card.status (Option.some.inj (hc'.symm.trans hc)))
  | accept hcard hstatus =>
      refine (hput (.acceptProposal .manager) hcard (by simp) ?_ hc').imp_right .inl
      exact next_eq_ok_iff.mpr ⟨hstatus, rfl⟩
  | reject hcard hstatus =>
      refine (hput (.rejectProposal .manager) hcard (by simp) ?_ hc').imp_right .inl
      exact next_eq_ok_iff.mpr ⟨hstatus, rfl⟩
  | dispatch hcard hstatus =>
      refine (hput .assignFromQueued hcard (by simp) ?_ hc').imp_right .inl
      exact next_eq_ok_iff.mpr ⟨hstatus, rfl⟩
  | submit hcard hstatus =>
      refine (hput .taskDoneMcp hcard (by simp) ?_ hc').imp_right .inl
      exact next_eq_ok_iff.mpr ⟨hstatus, rfl⟩
  | fail hcard hdone hfailed =>
      refine (hput .fail hcard (by simp) ?_ hc').imp_right .inl
      exact next_eq_ok_iff.mpr ⟨hdone, hfailed, rfl⟩
  | approve hcard hstatus =>
      refine (hput .taskAccept hcard (by simp) ?_ hc').imp_right .inl
      exact next_eq_ok_iff.mpr ⟨hstatus, rfl⟩
  | requestChanges hcard hstatus =>
      refine (hput .requestChanges hcard (by simp) ?_ hc').imp_right .inl
      exact next_eq_ok_iff.mpr ⟨hstatus, rfl⟩
  | escalate hcard hdone hfailed =>
      refine (hput .escalate hcard (by simp) ?_ hc').imp_right .inl
      exact next_eq_ok_iff.mpr ⟨hdone, hfailed, rfl⟩
  | forceFail hcard hdone hfailed =>
      refine (hput .operatorForceFail hcard (by simp) ?_ hc').imp_right .inl
      exact next_eq_ok_iff.mpr ⟨hdone, hfailed, rfl⟩
  | rollback hcard hstatus =>
      rcases status_of_put hcard hc hc' with heq | ⟨rfl, rfl, hnew⟩
      · exact .inl heq
      · exact .inr (.inr (.inl ⟨⟨_, rfl⟩, hstatus, hnew⟩))
  | recover hcard hstatus =>
      rcases status_of_put hcard hc hc' with heq | ⟨rfl, rfl, hnew⟩
      · exact .inl heq
      · exact .inr (.inr (.inr ⟨⟨_, rfl⟩, hstatus, hnew⟩))
  | steal hcard | block hcard =>
      rcases status_of_put hcard hc hc' with heq | ⟨-, rfl, hnew⟩
      · exact .inl heq
      · exact .inl hnew
  | possess | unpossess => exact .inl (congrArg Card.status (Option.some.inj (hc'.symm.trans hc)))

end Board

end Cliptown.Task
