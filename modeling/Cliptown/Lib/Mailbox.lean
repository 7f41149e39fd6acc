import Cliptown.Lib.Runs
import Mathlib.Logic.Function.Basic

/-!
# A server behind a mailbox

Any number of clients post letters to one server, which reads them in the order in which they came. A client that has
asked a question posts nothing more until it has taken the answer.

* `Letter`, `Served`, `Server` — questions and notices, what a server has done, and the server itself.
* `Mailbox`, `MailLabel`, `mailSystem` — the letters and answers under way, with what has happened so far.
* `Server.step` — what the server does, as steps of its own; `mail_run` — its state is the end of a run of them.
* `mail_order` — letters are read in the order in which they are posted, each of them once.
* `Mailbox.InPace`, `mail_inPace` — a client that waits has one question in the mailbox or one answer to take, and no
  other has any.
* `mail_dialogue` — the answers a client has taken are those to its own questions, in order.
* `mail_progress` — whatever has been asked is answered later, or the server is still at a letter that was posted
  before.

Nothing here names a program: clients, letters and the server are arbitrary.
-/

namespace Cliptown.Lib

/-- What a client posts: a question, to whose answer it waits, or a notice. -/
inductive Letter (μ ν : Type*) where
  | ask (m : μ)
  | tell (n : ν)

/-- The question of a letter. -/
def Letter.question {μ ν : Type*} : Letter μ ν → Option μ
  | .ask m => some m
  | .tell _ => none

/-- What the server has done: it has answered a question, read a notice, or taken a step of its own. -/
inductive Served (κ μ ν ρ ℓ : Type*) where
  | answered (k : κ) (m : μ) (r : ρ)
  | told (k : κ) (n : ν)
  | own (l : ℓ)

/-- A server. What it answers may depend on what it reads from outside. -/
structure Server (σ ε μ ν ρ ℓ : Type*) where
  init : σ → Prop
  answer : ε → μ → σ → ρ × σ
  obey : ν → σ → σ
  own : ℓ → σ → σ

/-- The server, the letters that it has not read, oldest first, the clients that wait, and the answers they have not
taken. The last three fields are what has been posted, done and taken so far. -/
structure Mailbox (σ κ μ ν ρ ℓ : Type*) where
  server : σ
  letters : List (κ × Letter μ ν)
  waits : κ → Bool
  answers : κ → Option ρ
  posted : List (κ × Letter μ ν)
  served : List (Served κ μ ν ρ ℓ)
  taken : List (κ × ρ)

/-- What can happen. -/
inductive MailLabel (ε κ μ ν ℓ : Type*) where
  | ask (k : κ) (m : μ)
  | tell (k : κ) (n : ν)
  | take (k : κ)
  | read (e : ε)
  | own (l : ℓ)

variable {σ ε κ μ ν ρ ℓ : Type*}

/-- The letter behind what the server has done. -/
def Served.letter : Served κ μ ν ρ ℓ → Option (κ × Letter μ ν)
  | .answered k m _ => some (k, .ask m)
  | .told k n => some (k, .tell n)
  | .own _ => none

/-- What the server does, seen by itself. -/
def Server.step (S : Server σ ε μ ν ρ ℓ) (s : σ) : Served κ μ ν ρ ℓ → σ → Prop
  | .answered _ m r, t => ∃ e, S.answer e m s = (r, t)
  | .told _ n, t => t = S.obey n s
  | .own l, t => t = S.own l s

variable [DecidableEq κ]

namespace Mailbox

variable (b : Mailbox σ κ μ ν ρ ℓ)

/-- An empty mailbox. -/
def fresh (s : σ) : Mailbox σ κ μ ν ρ ℓ where
  server := s
  letters := []
  waits _ := false
  answers _ := none
  posted := []
  served := []
  taken := []

/-- A letter is posted. -/
def post (k : κ) (l : Letter μ ν) : Mailbox σ κ μ ν ρ ℓ :=
  { b with letters := b.letters ++ [(k, l)], posted := b.posted ++ [(k, l)] }

/-- A question is asked. -/
def ask (k : κ) (m : μ) : Mailbox σ κ μ ν ρ ℓ :=
  { b.post k (.ask m) with waits := Function.update b.waits k true }

/-- A client takes its answer. -/
def take (k : κ) (r : ρ) : Mailbox σ κ μ ν ρ ℓ :=
  { b with
    waits := Function.update b.waits k false
    answers := Function.update b.answers k none
    taken := b.taken ++ [(k, r)] }

/-- The server takes a step of its own. -/
def own (S : Server σ ε μ ν ρ ℓ) (l : ℓ) : Mailbox σ κ μ ν ρ ℓ :=
  { b with server := S.own l b.server, served := b.served ++ [.own l] }

/-- The server reads the oldest letter. -/
def read (S : Server σ ε μ ν ρ ℓ) (e : ε) : Mailbox σ κ μ ν ρ ℓ :=
  match b.letters with
  | [] => b
  | (k, .ask m) :: rest =>
    let (r, s) := S.answer e m b.server
    { b with
      server := s
      letters := rest
      answers := Function.update b.answers k (some r)
      served := b.served ++ [.answered k m r] }
  | (k, .tell n) :: rest =>
    { b with server := S.obey n b.server, letters := rest, served := b.served ++ [.told k n] }

/-- The questions of a client among some letters. -/
def questions (k : κ) (letters : List (κ × Letter μ ν)) : List μ :=
  letters.filterMap fun l => if l.1 = k then l.2.question else none

/-- The questions of a client that have been answered, each with the answer. -/
def exchanges (k : κ) (served : List (Served κ μ ν ρ ℓ)) : List (μ × ρ) :=
  served.filterMap fun
    | .answered k' m r => if k' = k then some (m, r) else none
    | _ => none

/-- What a client has taken. -/
def takenBy (k : κ) (taken : List (κ × ρ)) : List ρ :=
  taken.filterMap fun a => if a.1 = k then some a.2 else none

end Mailbox

open Mailbox

/-- Clients and the server in any order. A client that waits does not post. -/
def mailSystem (S : Server σ ε μ ν ρ ℓ) :
    System (Mailbox σ κ μ ν ρ ℓ) (MailLabel ε κ μ ν ℓ) where
  init b := ∃ s, S.init s ∧ b = .fresh s
  step b l b' :=
    match l with
    | .ask k m => b.waits k = false ∧ b' = b.ask k m
    | .tell k n => b.waits k = false ∧ b' = b.post k (.tell n)
    | .take k => ∃ r ∈ b.answers k, b' = b.take k r
    | .read e => b.letters ≠ [] ∧ b' = b.read S e
    | .own l => b' = b.own S l

variable {S : Server σ ε μ ν ρ ℓ} {b b' : Mailbox σ κ μ ν ρ ℓ}

/-! ### What a step changes -/

/-- **The server reads one letter**, and files what it has done. -/
theorem read_cases (S : Server σ ε μ ν ρ ℓ) (e : ε) (h : b.letters ≠ []) :
    (∃ k m r s rest, b.letters = (k, .ask m) :: rest ∧ S.answer e m b.server = (r, s) ∧
      b.read S e = { b with
        server := s
        letters := rest
        answers := Function.update b.answers k (some r)
        served := b.served ++ [.answered k m r] }) ∨
    ∃ k n rest, b.letters = (k, .tell n) :: rest ∧
      b.read S e = { b with
        server := S.obey n b.server
        letters := rest
        served := b.served ++ [.told k n] } := by
  rcases hletters : b.letters with _ | ⟨⟨k, m | n⟩, rest⟩
  · exact absurd hletters h
  · rcases hanswer : S.answer e m b.server with ⟨r, s⟩
    refine .inl ⟨k, m, r, s, rest, rfl, hanswer, ?_⟩
    simp only [Mailbox.read, hletters, hanswer]
  · refine .inr ⟨k, n, rest, rfl, ?_⟩
    simp only [Mailbox.read, hletters]

/-- A step leaves the server as it is, or it is one that the server takes. -/
theorem step_server {l : MailLabel ε κ μ ν ℓ} (h : (mailSystem S).step b l b') :
    b'.server = b.server ∨ ∃ e : Served κ μ ν ρ ℓ, S.step b.server e b'.server := by
  cases l with
  | ask k m =>
    obtain ⟨-, rfl⟩ := h
    exact .inl rfl
  | tell k n =>
    obtain ⟨-, rfl⟩ := h
    exact .inl rfl
  | take k =>
    obtain ⟨r, -, rfl⟩ := h
    exact .inl rfl
  | read e =>
    obtain ⟨hne, rfl⟩ := h
    rcases read_cases S e hne with ⟨k, m, r, s, rest, -, hanswer, heq⟩ | ⟨k, n, rest, -, heq⟩
    · rw [heq]
      exact .inr ⟨.answered k m r, e, hanswer⟩
    · rw [heq]
      exact .inr ⟨.told k n, rfl⟩
  | own l =>
    obtain rfl := h
    exact .inr ⟨.own l, rfl⟩

section Lists

variable {k k' : κ} {m : μ} {n : ν} {r : ρ} {l : ℓ}

@[simp]
theorem questions_nil : questions k ([] : List (κ × Letter μ ν)) = [] :=
  rfl

@[simp]
theorem questions_append (letters letters' : List (κ × Letter μ ν)) :
    questions k (letters ++ letters') = questions k letters ++ questions k letters' :=
  List.filterMap_append

@[simp]
theorem questions_ask_cons (rest : List (κ × Letter μ ν)) :
    questions k ((k', .ask m) :: rest) = (if k' = k then [m] else []) ++ questions k rest := by
  unfold questions
  rw [List.filterMap_cons]
  by_cases h : k' = k <;> simp [h, Letter.question]

@[simp]
theorem questions_tell_cons (rest : List (κ × Letter μ ν)) :
    questions k ((k', .tell n) :: rest) = questions k rest := by
  unfold questions
  rw [List.filterMap_cons]
  by_cases h : k' = k <;> simp [h, Letter.question]

@[simp]
theorem exchanges_answered (served : List (Served κ μ ν ρ ℓ)) :
    exchanges k (served ++ [.answered k' m r]) = exchanges k served ++ if k' = k then [(m, r)] else [] := by
  unfold exchanges
  rw [List.filterMap_append]
  by_cases h : k' = k <;> simp [h]

@[simp]
theorem exchanges_told (served : List (Served κ μ ν ρ ℓ)) :
    exchanges k (served ++ [.told k' n]) = exchanges k served := by
  simp [exchanges]

@[simp]
theorem exchanges_own (served : List (Served κ μ ν ρ ℓ)) :
    exchanges k (served ++ [.own l]) = exchanges k served := by
  simp [exchanges]

@[simp]
theorem takenBy_append (taken : List (κ × ρ)) :
    takenBy k (taken ++ [(k', r)]) = takenBy k taken ++ if k' = k then [r] else [] := by
  unfold takenBy
  rw [List.filterMap_append]
  by_cases h : k' = k <;> simp [h]

end Lists

/-! ### Order -/

/-- **Letters are read in the order in which they are posted**, none is lost, and none is read twice. -/
theorem mail_order (h : (mailSystem S).Reachable b) :
    b.posted = b.served.filterMap Served.letter ++ b.letters := by
  refine h.invariant (I := fun b => b.posted = b.served.filterMap Served.letter ++ b.letters) ?_ ?_
  · rintro _ ⟨s, -, rfl⟩
    rfl
  · intro b l b' hb hst
    cases l with
    | ask k m =>
      obtain ⟨-, rfl⟩ := hst
      simp [Mailbox.ask, Mailbox.post, hb]
    | tell k n =>
      obtain ⟨-, rfl⟩ := hst
      simp [Mailbox.post, hb]
    | take k =>
      obtain ⟨r, -, rfl⟩ := hst
      exact hb
    | read e =>
      obtain ⟨hne, rfl⟩ := hst
      rcases read_cases S e hne with ⟨k, m, r, s, rest, hletters, -, heq⟩ | ⟨k, n, rest, hletters, heq⟩
      all_goals
        rw [heq]
        simp [hb, hletters, Served.letter]
    | own l =>
      obtain rfl := hst
      simp [Mailbox.own, hb, Served.letter]

/-- **The server's state** is where the steps lead that it has taken, from one of its initial states. -/
theorem mail_run (h : (mailSystem S).Reachable b) :
    ∃ s, S.init s ∧ Run S.step s b.served b.server := by
  refine h.invariant (I := fun b => ∃ s, S.init s ∧ Run S.step s b.served b.server) ?_ ?_
  · rintro _ ⟨s, hs, rfl⟩
    exact ⟨s, hs, .nil s⟩
  · rintro b l b' ⟨s, hs, hrun⟩ hst
    cases l with
    | ask k m =>
      obtain ⟨-, rfl⟩ := hst
      exact ⟨s, hs, hrun⟩
    | tell k n =>
      obtain ⟨-, rfl⟩ := hst
      exact ⟨s, hs, hrun⟩
    | take k =>
      obtain ⟨r, -, rfl⟩ := hst
      exact ⟨s, hs, hrun⟩
    | read e =>
      obtain ⟨hne, rfl⟩ := hst
      rcases read_cases S e hne with ⟨k, m, r, t, rest, -, hanswer, heq⟩ | ⟨k, n, rest, -, heq⟩
      · rw [heq]
        exact ⟨s, hs, hrun.trans (.single ⟨e, hanswer⟩)⟩
      · rw [heq]
        exact ⟨s, hs, hrun.trans (.single rfl)⟩
    | own l =>
      obtain rfl := hst
      exact ⟨s, hs, hrun.trans (.single rfl)⟩

/-! ### Questions and answers -/

/-- How a client stands: what it has asked is answered or in the mailbox, what it was answered is taken or to be taken,
and it waits for one answer or for none. -/
structure Mailbox.InPace (b : Mailbox σ κ μ ν ρ ℓ) (k : κ) : Prop where
  asked : questions k b.posted = (exchanges k b.served).map Prod.fst ++ questions k b.letters
  answered : (exchanges k b.served).map Prod.snd = takenBy k b.taken ++ (b.answers k).toList
  pending : (questions k b.letters).length + (b.answers k).toList.length = (b.waits k).toNat

namespace Mailbox.InPace

variable {k c : κ} {r : ρ}

/-- A client asks a question. -/
theorem ask (h : b.InPace c) (hfree : b.waits k = false) (m : μ) : (b.ask k m).InPace c := by
  obtain ⟨hasked, hanswered, hpending⟩ := h
  refine ⟨?_, hanswered, ?_⟩
  · simp [Mailbox.ask, Mailbox.post, hasked]
  · by_cases hc : c = k
    · subst hc
      rw [hfree] at hpending
      simp only [Bool.toNat_false, Nat.add_eq_zero_iff] at hpending
      simp [Mailbox.ask, Mailbox.post, hpending]
    · have hne : ¬ k = c := fun h => hc h.symm
      simpa [Mailbox.ask, Mailbox.post, hc, hne] using hpending

/-- A client posts a notice. -/
theorem post (h : b.InPace c) (n : ν) : (b.post k (.tell n)).InPace c := by
  obtain ⟨hasked, hanswered, hpending⟩ := h
  refine ⟨?_, hanswered, ?_⟩
  · simp [Mailbox.post, hasked]
  · simpa [Mailbox.post] using hpending

/-- A client takes its answer. -/
theorem take (h : b.InPace c) (hr : b.answers k = some r) : (b.take k r).InPace c := by
  obtain ⟨hasked, hanswered, hpending⟩ := h
  by_cases hc : c = k
  · subst hc
    refine ⟨hasked, ?_, ?_⟩
    · simp [Mailbox.take, hanswered, hr]
    · have hwaits : (b.waits c).toNat ≤ 1 := Bool.toNat_le _
      rw [hr, Option.toList_some, List.length_singleton] at hpending
      have hnone : questions c b.letters = [] := List.length_eq_zero_iff.mp (by omega)
      simp [Mailbox.take, hnone]
  · have hne : ¬ k = c := fun h => hc h.symm
    refine ⟨hasked, ?_, ?_⟩
    · simpa [Mailbox.take, hc, hne] using hanswered
    · simpa [Mailbox.take, hc] using hpending

/-- The server reads a letter: an answer goes to the client who has asked. -/
theorem read (h : b.InPace c) (S : Server σ ε μ ν ρ ℓ) (e : ε) (hne : b.letters ≠ []) :
    (b.read S e).InPace c := by
  obtain ⟨hasked, hanswered, hpending⟩ := h
  rcases read_cases S e hne with ⟨k, m, r, s, rest, hletters, -, heq⟩ | ⟨k, n, rest, hletters, heq⟩
  · rw [heq]
    rw [hletters] at hasked hpending
    by_cases hc : c = k
    · subst hc
      have hwaits : (b.waits c).toNat ≤ 1 := Bool.toNat_le _
      simp only [questions_ask_cons, if_pos, List.length_append, List.length_singleton] at hpending
      have hnone : b.answers c = none :=
        Option.toList_eq_nil_iff.mp (List.length_eq_zero_iff.mp (by omega))
      refine ⟨?_, ?_, ?_⟩
      · simpa using hasked
      · simp [hanswered, hnone]
      · simp only [Function.update_self, Option.toList_some, List.length_singleton]
        omega
    · have hne : ¬ k = c := fun h => hc h.symm
      refine ⟨?_, ?_, ?_⟩
      · simpa [hne] using hasked
      · simpa [hc, hne] using hanswered
      · simpa [hc, hne] using hpending
  · rw [heq]
    rw [hletters] at hasked hpending
    refine ⟨?_, ?_, ?_⟩
    · simpa using hasked
    · simpa using hanswered
    · simpa using hpending

end Mailbox.InPace

/-- **Questions and answers keep pace**, for each client, whatever the others do. -/
theorem mail_inPace (h : (mailSystem S).Reachable b) (k : κ) : b.InPace k := by
  refine h.invariant (I := fun b => b.InPace k) ?_ ?_
  · rintro _ ⟨s, -, rfl⟩
    exact ⟨rfl, rfl, rfl⟩
  · intro b l b' hb hst
    cases l with
    | ask c m =>
      obtain ⟨hfree, rfl⟩ := hst
      exact hb.ask hfree m
    | tell c n =>
      obtain ⟨-, rfl⟩ := hst
      exact hb.post n
    | take c =>
      obtain ⟨r, hr, rfl⟩ := hst
      exact hb.take hr
    | read e =>
      obtain ⟨hne, rfl⟩ := hst
      exact hb.read S e hne
    | own l =>
      obtain rfl := hst
      obtain ⟨hasked, hanswered, hpending⟩ := hb
      exact ⟨by simpa [Mailbox.own] using hasked, by simpa [Mailbox.own] using hanswered, hpending⟩

/-- **The answers that a client has taken are those to its own questions**, in the order in which it has asked them;
one question may be without an answer that has been taken, if the client waits. -/
theorem mail_dialogue (h : (mailSystem S).Reachable b) (k : κ) :
    takenBy k b.taken <+: (exchanges k b.served).map Prod.snd ∧
      (exchanges k b.served).map Prod.fst <+: questions k b.posted ∧
      (questions k b.posted).length = (takenBy k b.taken).length + (b.waits k).toNat := by
  obtain ⟨hasked, hanswered, hpending⟩ := mail_inPace h k
  refine ⟨?_, ?_, ?_⟩
  · rw [hanswered]
    exact List.prefix_append _ _
  · rw [hasked]
    exact List.prefix_append _ _
  · have hlength := congrArg List.length hanswered
    rw [hasked]
    simp only [List.length_append, List.length_map] at hlength ⊢
    omega

/-! ### Progress -/

/-- What has been posted stays so. -/
theorem run_posted {ls : List (MailLabel ε κ μ ν ℓ)} (hrun : Run (mailSystem S).step b ls b') :
    b.posted <+: b'.posted := by
  refine hrun.preserves (I := fun t => b.posted <+: t.posted) ?_ (List.prefix_refl _)
  intro t l t' hposted hst
  cases l with
  | ask k m =>
    obtain ⟨-, rfl⟩ := hst
    exact hposted.trans (List.prefix_append _ _)
  | tell k n =>
    obtain ⟨-, rfl⟩ := hst
    exact hposted.trans (List.prefix_append _ _)
  | take k =>
    obtain ⟨r, -, rfl⟩ := hst
    exact hposted
  | read e =>
    obtain ⟨hne, rfl⟩ := hst
    rcases read_cases S e hne with ⟨k, m, r, s, rest, -, -, heq⟩ | ⟨k, n, rest, -, heq⟩
    all_goals
      rw [heq]
      exact hposted
  | own l =>
    obtain rfl := hst
    exact hposted

/-- The questions among the letters that have been read are those that have been answered. -/
theorem questions_served (h : (mailSystem S).Reachable b) (k : κ) :
    questions k (b.served.filterMap Served.letter) = (exchanges k b.served).map Prod.fst := by
  have hasked := (mail_inPace h k).asked
  rw [mail_order h, questions_append] at hasked
  exact List.append_cancel_right hasked

/-- **Every question is answered in its turn**: at any later time all that had been asked are answered, with answers
that are taken or lie there, or the server is still at one of the letters that had been posted. -/
theorem mail_progress {ls : List (MailLabel ε κ μ ν ℓ)} (h : (mailSystem S).Reachable b)
    (hrun : Run (mailSystem S).step b ls b') :
    (∀ k, questions k b.posted <+: (exchanges k b'.served).map Prod.fst ∧
      (exchanges k b'.served).map Prod.snd = takenBy k b'.taken ++ (b'.answers k).toList) ∨
    ∃ l, b'.letters.head? = some l ∧ b.posted[(b'.served.filterMap Served.letter).length]? = some l := by
  have hreachable := h.run hrun
  have horder := mail_order hreachable
  have hposted := run_posted hrun
  rcases Nat.lt_or_ge (b'.served.filterMap Served.letter).length b.posted.length with hlt | hle
  · right
    obtain ⟨after, hafter⟩ := hposted
    have hnext : b.posted[(b'.served.filterMap Served.letter).length]? = b'.letters.head? := by
      rw [← List.getElem?_append_left hlt, hafter, horder, List.getElem?_append_right le_rfl, Nat.sub_self,
        List.head?_eq_getElem?]
    exact ⟨_, hnext.symm.trans (List.getElem?_eq_getElem hlt), List.getElem?_eq_getElem hlt⟩
  · left
    intro k
    have hread : b.posted <+: b'.served.filterMap Served.letter :=
      List.prefix_of_prefix_length_le hposted (horder ▸ List.prefix_append _ _) hle
    obtain ⟨rest, hrest⟩ := hread
    refine ⟨?_, (mail_inPace hreachable k).answered⟩
    rw [← questions_served hreachable, ← hrest, questions_append]
    exact List.prefix_append _ _

end Cliptown.Lib
