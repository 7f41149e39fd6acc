import Mathlib.Data.List.Chain
import Mathlib.Logic.Relation

/-!
# Labelled transition systems and their runs

* `System σ ℓ` — initial states and a labelled step relation.
* `Run step s ls t` — the labels `ls`, taken in order, lead from `s` to `t`; runs compose
  (`Run.trans`), split at any point (`Run.split`), and are chains of states (`Run.isChain`); what becomes
  true in a run does so at some label (`Run.exists_label`); an invariant may speak of what the labels have
  shown (`Run.preserves_shown`).
* `loopLabels`, `Run.loop` — the labels of a loop, and the run that it is.
* `LoopMeets` — a condition on each turn of a loop, and when it says as much as an invariant
  (`LoopMeets.iff_forall_prefix`).
* `System.Reachable` — what some run from an initial state reaches, with the induction rules
  `Reachable.invariant` (an inductive invariant) and `Reachable.invariant_of` (an invariant whose
  step may use one already known).
* `System.restrict C` — the same system with a condition on the state before the step and its
  label. A statement about the reachable states of `S.restrict C` is a statement about the runs
  of `S` all of whose steps meet `C`.
* `System.keeping K`, `System.within I` — the runs all of whose steps keep `K`, or lead to `I`;
  `run_restrict_iff_keeping` says when a condition on steps is exactly what that takes.
* `System.Refines` — every concrete step is a run of the abstract system between the
  abstractions; abstract invariants then hold of every concrete reachable state
  (`Refines.reachable`).

Nothing here names a program: the state and label types are arbitrary.
-/

namespace Cliptown.Lib

variable {σ τ ℓ κ : Type*}

/-- A labelled transition system: where it starts and what each label does. -/
structure System (σ ℓ : Type*) where
  /-- The initial states. -/
  init : σ → Prop
  /-- `step s l t`: label `l` leads from `s` to `t`. -/
  step : σ → ℓ → σ → Prop

/-! ### Runs -/

/-- `Run step s ls t`: the labels `ls` in order lead from `s` to `t`. -/
inductive Run (step : σ → ℓ → σ → Prop) : σ → List ℓ → σ → Prop
  | nil (s : σ) : Run step s [] s
  | cons {s t u : σ} {l : ℓ} {ls : List ℓ} :
      step s l t → Run step t ls u → Run step s (l :: ls) u

namespace Run

variable {step : σ → ℓ → σ → Prop} {s t u : σ} {l : ℓ} {ls ls' : List ℓ}

/-- A single step is a run. -/
theorem single (h : step s l t) : Run step s [l] t :=
  .cons h (.nil t)

/-- Runs compose. -/
theorem trans (h : Run step s ls t) (h' : Run step t ls' u) : Run step s (ls ++ ls') u := by
  induction h with
  | nil _ => exact h'
  | cons hst _ ih => exact .cons hst (ih h')

/-- A run over an appended list of labels splits at the seam. -/
theorem split (h : Run step s (ls ++ ls') u) : ∃ t, Run step s ls t ∧ Run step t ls' u := by
  induction ls generalizing s with
  | nil => exact ⟨s, .nil s, h⟩
  | cons l ls ih =>
      rcases h with _ | ⟨hst, hrest⟩
      obtain ⟨t, h₁, h₂⟩ := ih hrest
      exact ⟨t, .cons hst h₁, h₂⟩

/-- The first step of a run and the rest of it. -/
theorem cons_inv (h : Run step s (l :: ls) u) : ∃ t, step s l t ∧ Run step t ls u := by
  rcases h with _ | ⟨hst, hrest⟩
  exact ⟨_, hst, hrest⟩

/-- **What one step preserves, a run preserves.** -/
theorem preserves {I : σ → Prop} (hstep : ∀ s l t, I s → step s l t → I t)
    (h : Run step s ls t) (hs : I s) : I t := by
  induction h with
  | nil _ => exact hs
  | cons hst _ ih => exact ih (hstep _ _ _ hs hst)

/-- Preservation where the step lemma may use that the label is one of the run's. -/
theorem preserves_of_mem {I : σ → Prop} (h : Run step s ls t)
    (hstep : ∀ s l t, l ∈ ls → I s → step s l t → I t) (hs : I s) : I t := by
  induction h with
  | nil _ => exact hs
  | cons hst _ ih =>
      refine ih (fun s l t hl => hstep s l t (List.mem_cons_of_mem _ hl)) ?_
      exact hstep _ _ _ List.mem_cons_self hs hst

/-- **What holds of a state and of what the labels before it have shown.** -/
theorem preserves_shown {J : σ → List κ → Prop} {shown : ℓ → List κ} (h : Run step s ls t)
    (hstep : ∀ s l t seen, l ∈ ls → J s seen → step s l t → J t (seen ++ shown l)) :
    ∀ seen, J s seen → J t (seen ++ ls.flatMap shown) := by
  induction h with
  | nil s => exact fun seen hs => by rwa [List.flatMap_nil, List.append_nil]
  | cons hst _ ih =>
      intro seen hs
      have hrest := ih (fun s l t seen hl => hstep s l t seen (List.mem_cons_of_mem _ hl)) _
        (hstep _ _ _ seen List.mem_cons_self hs hst)
      rwa [List.flatMap_cons, ← List.append_assoc]

/-- A run of steps that are all steps of another relation. -/
theorem mono {step' : σ → ℓ → σ → Prop} (hstep : ∀ s l t, step s l t → step' s l t)
    (h : Run step s ls t) : Run step' s ls t := by
  induction h with
  | nil s => exact .nil s
  | cons hst _ ih => exact .cons (hstep _ _ _ hst) ih

/-- **Runs as chains**: where a label says which state it leads to, the states of a run follow one another
in the way that the steps do. -/
theorem isChain {after : ℓ → σ} {R : σ → σ → Prop}
    (hstep : ∀ s l t, step s l t → t = after l ∧ R s t) (h : Run step s ls t) :
    List.IsChain R (s :: ls.map after) := by
  induction h with
  | nil s => exact .singleton s
  | cons hst hrun ih =>
      obtain ⟨rfl, hR⟩ := hstep _ _ _ hst
      exact List.isChain_cons_cons.mpr ⟨hR, ih⟩

/-- The last state of a run is among them. -/
theorem mem_states {after : ℓ → σ} (hstep : ∀ s l t, step s l t → t = after l)
    (h : Run step s ls t) : t ∈ s :: ls.map after := by
  induction h with
  | nil s => exact List.mem_cons_self
  | cons hst hrun ih =>
      obtain rfl := hstep _ _ _ hst
      exact List.mem_cons_of_mem _ ih

/-- **What becomes true in a run becomes true at one of its labels**: at one of those that can make it true. -/
theorem exists_label {P : σ → Prop} {Q : σ → ℓ → Prop}
    (hstep : ∀ s l t, step s l t → P t → P s ∨ Q s l) (h : Run step s ls t) (hs : ¬ P s) (ht : P t) :
    ∃ before l after u, ls = before ++ l :: after ∧ Run step s before u ∧ Q u l := by
  induction h with
  | nil s => exact absurd ht hs
  | @cons s u t l ls hst hrun ih =>
      by_cases hu : P u
      · exact ⟨[], l, ls, s, rfl, .nil s, (hstep _ _ _ hst hu).resolve_left hs⟩
      · obtain ⟨before, l', after, v, rfl, hbefore, hQ⟩ := ih hu ht
        exact ⟨l :: before, l', after, v, rfl, .cons hst hbefore, hQ⟩

end Run

/-! ### Loops -/

/-- The labels of a loop, each turn of which has labels of its own. -/
def loopLabels {ι : Type*} (f : σ → ι → σ) (labels : σ → ι → List ℓ) : List ι → σ → List ℓ
  | [], _ => []
  | i :: l, s => labels s i ++ loopLabels f labels l (f s i)

/-- **A loop is a run**, when its turns are, as long as `P` holds of what is left to do. -/
theorem Run.loop {ι : Type*} {step : σ → ℓ → σ → Prop} {f : σ → ι → σ} {labels : σ → ι → List ℓ}
    {P : List ι → σ → Prop} (h : ∀ i l s, P (i :: l) s → Run step s (labels s i) (f s i) ∧ P l (f s i))
    (l : List ι) : ∀ s, P l s → Run step s (loopLabels f labels l s) (l.foldl f s) := by
  induction l with
  | nil =>
      intro s _
      exact .nil s
  | cons i l ih =>
      intro s hP
      obtain ⟨hrun, hrest⟩ := h i l s hP
      exact hrun.trans (ih _ hrest)

/-- Each turn of a loop meets a condition on the state in which it is made. -/
def LoopMeets {ι : Type*} (f : σ → ι → σ) (C : σ → ι → Prop) : List ι → σ → Prop
  | [], _ => True
  | i :: l, s => C s i ∧ LoopMeets f C l (f s i)

/-- **What a turn preserves that meets the condition, the loop preserves.** -/
theorem LoopMeets.preserves {ι : Type*} {f : σ → ι → σ} {C : σ → ι → Prop} {I : σ → Prop}
    (hstep : ∀ s i, C s i → I s → I (f s i)) {l : List ι} :
    ∀ {s : σ}, LoopMeets f C l s → I s → I (l.foldl f s) := by
  induction l with
  | nil => exact fun _ hs => hs
  | cons i l ih => exact fun h hs => ih h.2 (hstep _ i h.1 hs)

/-- **A condition that is met all along**, when a turn keeps what holds before it exactly if it meets the
condition. -/
theorem LoopMeets.iff_forall_prefix {ι : Type*} {f : σ → ι → σ} {C : σ → ι → Prop} {I : σ → Prop}
    (hstep : ∀ s i, I s → (I (f s i) ↔ C s i)) {l : List ι} :
    ∀ {s : σ}, I s → (LoopMeets f C l s ↔ ∀ l', l' <+: l → I (l'.foldl f s)) := by
  induction l with
  | nil =>
      intro s hs
      refine ⟨fun _ l' hl' => ?_, fun _ => trivial⟩
      rw [List.prefix_nil.mp hl']
      exact hs
  | cons i l ih =>
      intro s hs
      constructor
      · rintro ⟨hC, hrest⟩ l' hl'
        rcases List.prefix_cons_iff.mp hl' with rfl | ⟨l'', rfl, hl''⟩
        · exact hs
        · exact (ih ((hstep s i hs).mpr hC)).mp hrest l'' hl''
      · intro h
        have hi : I (f s i) := h [i] (by simp)
        exact ⟨(hstep s i hs).mp hi,
          (ih hi).mpr fun l' hl' => h (i :: l') ((List.prefix_cons_inj i).mpr hl')⟩

/-! ### Reachable states -/

namespace System

variable (S : System σ ℓ)

/-- The states some run from an initial state reaches. -/
inductive Reachable : σ → Prop
  | init {s : σ} : S.init s → Reachable s
  | step {s t : σ} {l : ℓ} : Reachable s → S.step s l t → Reachable t

variable {S}

/-- A run from a reachable state ends in one. -/
theorem Reachable.run {s t : σ} {ls : List ℓ} (h : S.Reachable s) (hr : Run S.step s ls t) :
    S.Reachable t :=
  hr.preserves (fun _ _ _ hs hst => hs.step hst) h

/-- **Inductive invariants**: true initially and kept by every step. -/
theorem Reachable.invariant {I : σ → Prop} (hinit : ∀ s, S.init s → I s)
    (hstep : ∀ s l t, I s → S.step s l t → I t) {s : σ} (h : S.Reachable s) : I s := by
  induction h with
  | init hs => exact hinit _ hs
  | step _ hst ih => exact hstep _ _ _ ih hst

/-- Invariants whose step lemma uses another invariant `J`. -/
theorem Reachable.invariant_of {I J : σ → Prop} (hJ : ∀ s, S.Reachable s → J s)
    (hinit : ∀ s, S.init s → I s) (hstep : ∀ s l t, J s → I s → S.step s l t → I t) {s : σ}
    (h : S.Reachable s) : I s := by
  induction h with
  | init hs => exact hinit _ hs
  | step hr hst ih => exact hstep _ _ _ (hJ _ hr) ih hst

/-! ### Conditions on steps -/

/-- The system whose steps meet the condition `C` on the state before the step and the label. -/
def restrict (S : System σ ℓ) (C : σ → ℓ → Prop) : System σ ℓ where
  init := S.init
  step s l t := C s l ∧ S.step s l t

/-- A state the restricted system reaches is one the system reaches. -/
theorem Reachable.of_restrict {C : σ → ℓ → Prop} {s : σ} (h : (S.restrict C).Reachable s) :
    S.Reachable s := by
  induction h with
  | init hs => exact .init hs
  | step _ hst ih => exact ih.step hst.2

/-- A run of the restricted system is a run of the system. -/
theorem run_of_restrict {C : σ → ℓ → Prop} {s t : σ} {ls : List ℓ}
    (h : Run (S.restrict C).step s ls t) : Run S.step s ls t := by
  induction h with
  | nil s => exact .nil s
  | cons hst _ ih => exact .cons hst.2 ih

/-- A run whose labels meet the condition in every state is a run of the restricted system. -/
theorem run_restrict {C : σ → ℓ → Prop} {s t : σ} {ls : List ℓ} (h : Run S.step s ls t)
    (hC : ∀ l ∈ ls, ∀ s, C s l) : Run (S.restrict C).step s ls t := by
  induction h with
  | nil s => exact .nil s
  | cons hst _ ih =>
      exact .cons ⟨hC _ List.mem_cons_self _, hst⟩ (ih fun l hl => hC l (List.mem_cons_of_mem _ hl))

/-- The system whose steps keep a relation between the states before and after them. -/
def keeping (S : System σ ℓ) (K : σ → ℓ → σ → Prop) : System σ ℓ where
  init := S.init
  step s l t := S.step s l t ∧ K s l t

/-- The system whose steps lead to states in which `I` holds. -/
def within (S : System σ ℓ) (I : σ → Prop) : System σ ℓ where
  init := S.init
  step s l t := S.step s l t ∧ I t

/-- **Exact conditions on runs**: when a step does what it should exactly if it meets the condition, the runs
in which every step does are those all of whose steps meet the condition. -/
theorem run_restrict_iff_keeping {C : σ → ℓ → Prop} {I : σ → Prop} {K : σ → ℓ → σ → Prop}
    (hstep : ∀ s l t, S.step s l t → I s → (K s l t ↔ C s l))
    (hI : ∀ s l t, S.step s l t → I s → K s l t → I t) {s t : σ} {ls : List ℓ}
    (hs : I s) :
    Run (S.restrict C).step s ls t ↔ Run (S.keeping K).step s ls t := by
  constructor
  · intro h
    induction h with
    | nil s => exact .nil s
    | cons hst _ ih =>
        have hkept := (hstep _ _ _ hst.2 hs).mpr hst.1
        exact .cons ⟨hst.2, hkept⟩ (ih (hI _ _ _ hst.2 hs hkept))
  · intro h
    induction h with
    | nil s => exact .nil s
    | cons hst _ ih => exact .cons ⟨(hstep _ _ _ hst.1 hs).mp hst.2, hst.1⟩ (ih (hI _ _ _ hst.1 hs hst.2))

/-- A special case: what a step should do is to keep an invariant. -/
theorem run_restrict_iff_within {C : σ → ℓ → Prop} {I : σ → Prop}
    (hstep : ∀ s l t, S.step s l t → I s → (I t ↔ C s l)) {s t : σ} {ls : List ℓ} (hs : I s) :
    Run (S.restrict C).step s ls t ↔ Run (S.within I).step s ls t :=
  run_restrict_iff_keeping (K := fun _ _ t => I t) hstep (fun _ _ _ _ _ h => h) hs

/-! ### Refinement -/

/-- `S.Refines T f`: `f` maps initial states to initial states, and every step of `S` is a run of
`T` between the images of its ends. -/
structure Refines (S : System σ ℓ) (T : System τ κ) (f : σ → τ) : Prop where
  init : ∀ s, S.init s → T.init (f s)
  step : ∀ s l t, S.Reachable s → S.step s l t → ∃ ks, Run T.step (f s) ks (f t)

/-- The abstraction of a reachable concrete state is a reachable abstract state. -/
theorem Refines.reachable {T : System τ κ} {f : σ → τ} (h : S.Refines T f) {s : σ}
    (hs : S.Reachable s) : T.Reachable (f s) := by
  induction hs with
  | init hs => exact .init (h.init _ hs)
  | step hr hst ih =>
      obtain ⟨ks, hk⟩ := h.step _ _ _ hr hst
      exact ih.run hk

/-- A concrete run is an abstract one between the images of its ends. -/
theorem Refines.run {T : System τ κ} {f : σ → τ} (h : S.Refines T f) {s t : σ} {ls : List ℓ}
    (hs : S.Reachable s) (hrun : Run S.step s ls t) : ∃ ks, Run T.step (f s) ks (f t) := by
  induction hrun with
  | nil s => exact ⟨[], .nil _⟩
  | cons hst _ ih =>
      obtain ⟨ks, hk⟩ := h.step _ _ _ hs hst
      obtain ⟨ks', hk'⟩ := ih (hs.step hst)
      exact ⟨ks ++ ks', hk.trans hk'⟩

end System

end Cliptown.Lib
