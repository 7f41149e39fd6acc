import Cliptown.Lib.Runs
import Mathlib.Logic.Function.Basic

/-!
# Interleaved transactions

Clients of one database, each of which runs a request: queries outside a transaction, and then one transaction. A
transaction sees the database as it was when it first read; its first write fails if somebody else has changed
the database since, or is writing; what it wrote is seen by others when it commits, and dropped when it does not.

* `Script`, `Request` — what is left of a transaction and of a request.
* `Script.Commits` — a transaction that runs without interference and commits; the `commits_*` say what that comes
  to, statement by statement.
* `Client`, `ClientStep`, `clientSystem` — where a client is, its next step, and any number of clients, in any order
  of steps.
* `Upward` — an order of the databases that every commit respects, so that it relates what a query has seen to
  what is there later.
* `Request.Refuses` — the answers that leave the database as it is.
* `step_commits` — **serializability**: whenever the database changes, one client commits, and its whole
  transaction has run on the database as it was just before; whoever answers otherwise refuses.
* `Reachable.database` — what holds at first and is kept by what commits holds all along.
* `unchanged_of_not_committed` — a client that does not answer as its commit would has changed nothing, in any of
  its steps.
* `Request.exec` — a request that nobody interferes with; `Request.exec_cases` — it leaves the database as it is, or
  commits.
* `run_exec` — a client that is alone answers as `Request.exec` says.

Nothing here names a program: the database and the answers are arbitrary types.
-/

namespace Cliptown.Lib

open Relation

variable {δ α ι : Type*}

/-! ### Transactions -/

/-- What is left of a transaction: a query, a statement, and its end. Each may fail and end the request with an
answer. -/
inductive Script (δ α : Type*) where
  | read (failed : α) (next : δ → Script δ α)
  | write (failed : α) (stmt : δ → Option δ) (next : Script δ α)
  | commit (failed : α) (ok : α)
  | drop (answer : α)

namespace Script

/-- `Next (v, t) (v', t')`: without interference, the first statement of `t` leads from `v` to `v'`, with `t'` left
to do. -/
inductive Next : δ × Script δ α → δ × Script δ α → Prop
  | read {v : δ} {failed : α} {next : δ → Script δ α} : Next (v, .read failed next) (v, next v)
  | write {v v' : δ} {failed : α} {stmt : δ → Option δ} {next : Script δ α} :
      stmt v = some v' → Next (v, .write failed stmt next) (v', next)

/-- The transaction runs without interference and commits. -/
def Commits (t : Script δ α) (d : δ) (answer : α) (d' : δ) : Prop :=
  ∃ failed, ReflTransGen Next (d, t) (d', .commit failed answer)

section Commits

variable {d d' : δ} {failed answer : α}

/-- A transaction that commits is at its commit, or takes its first statement. -/
theorem commits_cases {t : Script δ α} :
    t.Commits d answer d' ↔ (∃ failed, t = .commit failed answer ∧ d' = d) ∨
      ∃ x, Next (d, t) x ∧ x.2.Commits x.1 answer d' := by
  constructor
  · rintro ⟨failed, h⟩
    rcases h.cases_head with heq | ⟨x, hnext, hrest⟩
    · obtain ⟨rfl, rfl⟩ := Prod.mk.inj heq
      exact .inl ⟨failed, rfl, rfl⟩
    · exact .inr ⟨x, hnext, failed, hrest⟩
  · rintro (⟨failed, rfl, rfl⟩ | ⟨x, hnext, failed, hrest⟩)
    · exact ⟨failed, .refl⟩
    · exact ⟨failed, .head hnext hrest⟩

@[simp]
theorem commits_commit {ok : α} : (Script.commit failed ok).Commits d answer d' ↔ answer = ok ∧ d' = d := by
  rw [commits_cases]
  constructor
  · rintro (⟨failed', heq, rfl⟩ | ⟨x, hnext, -⟩)
    · exact ⟨(Script.commit.inj heq).2.symm, rfl⟩
    · cases hnext
  · rintro ⟨rfl, rfl⟩
    exact .inl ⟨failed, rfl, rfl⟩

@[simp]
theorem commits_drop {a : α} : ¬ (Script.drop a).Commits d answer d' := by
  rw [commits_cases]
  rintro (⟨failed', heq, -⟩ | ⟨x, hnext, -⟩)
  · cases heq
  · cases hnext

@[simp]
theorem commits_read {next : δ → Script δ α} :
    (Script.read failed next).Commits d answer d' ↔ (next d).Commits d answer d' := by
  rw [commits_cases]
  constructor
  · rintro (⟨failed', heq, -⟩ | ⟨x, hnext, hrest⟩)
    · cases heq
    · cases hnext with
      | read => exact hrest
  · exact fun hrest => .inr ⟨_, .read, hrest⟩

@[simp]
theorem commits_write {stmt : δ → Option δ} {next : Script δ α} :
    (Script.write failed stmt next).Commits d answer d' ↔
      ∃ v, stmt d = some v ∧ next.Commits v answer d' := by
  rw [commits_cases]
  constructor
  · rintro (⟨failed', heq, -⟩ | ⟨x, hnext, hrest⟩)
    · cases heq
    · cases hnext with
      | write hstmt => exact ⟨_, hstmt, hrest⟩
  · rintro ⟨v, hstmt, hrest⟩
    exact .inr ⟨_, .write hstmt, hrest⟩

end Commits

/-- What a transaction answers, and the database afterwards, when nobody interferes and no statement fails but
those that refuse: `d` is the database, and `view` what the transaction sees. -/
def exec (d : δ) : δ → Script δ α → α × δ
  | view, .read _ next => exec d view (next view)
  | view, .write failed stmt next =>
      match stmt view with
      | some view => exec d view next
      | none => (failed, d)
  | view, .commit _ ok => (ok, view)
  | _, .drop answer => (answer, d)

/-- A transaction that commits does so when it is executed. -/
theorem exec_of_commits {t : Script δ α} {d v d' : δ} {answer : α} (h : t.Commits v answer d') :
    t.exec d v = (answer, d') := by
  induction t generalizing v with
  | read failed next ih => exact ih v (commits_read.mp h)
  | write failed stmt next ih =>
      obtain ⟨v', hv', hrest⟩ := commits_write.mp h
      simp only [exec, hv']
      exact ih hrest
  | commit failed ok =>
      obtain ⟨rfl, rfl⟩ := commits_commit.mp h
      rfl
  | drop a => exact absurd h commits_drop

/-- Whether it commits or not, it is clear what it leaves behind. -/
theorem exec_cases (t : Script δ α) (d v : δ) :
    (t.exec d v).2 = d ∨ t.Commits v (t.exec d v).1 (t.exec d v).2 := by
  induction t generalizing v with
  | read failed next ih => exact (ih v v).imp_right commits_read.mpr
  | write failed stmt next ih =>
      cases hstmt : stmt v with
      | none =>
          left
          simp only [exec, hstmt]
      | some v' =>
          have hexec : (Script.write failed stmt next).exec d v = next.exec d v' := by
            simp only [exec, hstmt]
          rw [hexec]
          exact (ih v').imp_right fun hrest => commits_write.mpr ⟨v', hstmt, hrest⟩
  | commit failed ok => exact .inr (commits_commit.mpr ⟨rfl, rfl⟩)
  | drop a => exact .inl rfl

/-- What a transaction answers whose next step fails. -/
def failure : Script δ α → Option α
  | .read failed _ | .write failed _ _ | .commit failed _ => some failed
  | .drop _ => none

/-- `t.Refuses wrote a`: the transaction can answer `a` and leave the database as it is; `wrote` says that it has
written something already. -/
def Refuses : Bool → Script δ α → α → Prop
  | wrote, .read failed next, a => a = failed ∨ ∃ v, (next v).Refuses wrote a
  | _, .write failed _ next, a => a = failed ∨ next.Refuses true a
  | wrote, .commit failed ok, a => a = failed ∨ (wrote = false ∧ a = ok)
  | _, .drop b, a => a = b

/-- It can when its next step fails. -/
theorem refuses_of_failure {t : Script δ α} {a : α} (wrote : Bool) (h : t.failure = some a) :
    t.Refuses wrote a := by
  cases t with
  | read failed next => exact .inl (Option.some.inj h).symm
  | write failed stmt next => exact .inl (Option.some.inj h).symm
  | commit failed ok => exact .inl (Option.some.inj h).symm
  | drop b => exact absurd h (by simp [failure])

end Script

/-! ### Requests -/

/-- What is left of a request: a query outside a transaction, which may fail and end the request with an answer, the
transaction, or an answer without one. -/
inductive Request (δ α : Type*) where
  | ask (failed : α) (next : δ → Request δ α)
  | begin (t : Script δ α)
  | answer (a : α)

namespace Request

/-- `q.Begins R d t`: the request comes to the transaction `t`, when each of its queries has seen a database that `R`
relates to `d`. -/
inductive Begins (R : δ → δ → Prop) (d : δ) : Request δ α → Script δ α → Prop
  | begin {t : Script δ α} : Begins R d (.begin t) t
  | ask {seen : δ} {failed : α} {next : δ → Request δ α} {t : Script δ α} :
      R seen d → Begins R d (next seen) t → Begins R d (.ask failed next) t

/-- The request comes to a transaction that runs on the database without interference and commits. -/
def Commits (R : δ → δ → Prop) (q : Request δ α) (d : δ) (answer : α) (d' : δ) : Prop :=
  ∃ t, q.Begins R d t ∧ t.Commits d answer d'

section Commits

variable {R : δ → δ → Prop} {d d' : δ} {failed answer : α}

@[simp]
theorem commits_begin {t : Script δ α} :
    (Request.begin t).Commits R d answer d' ↔ t.Commits d answer d' := by
  constructor
  · rintro ⟨t', hbegins, h⟩
    cases hbegins with
    | begin => exact h
  · exact fun h => ⟨t, .begin, h⟩

@[simp]
theorem commits_answer {a : α} : ¬ (Request.answer a).Commits R d answer d' := by
  rintro ⟨t, hbegins, -⟩
  cases hbegins

@[simp]
theorem commits_ask {next : δ → Request δ α} :
    (Request.ask failed next).Commits R d answer d' ↔
      ∃ seen, R seen d ∧ (next seen).Commits R d answer d' := by
  constructor
  · rintro ⟨t, hbegins, h⟩
    cases hbegins with
    | ask hseen hrest => exact ⟨_, hseen, t, hrest, h⟩
  · rintro ⟨seen, hseen, t, hrest, h⟩
    exact ⟨t, .ask hseen hrest, h⟩

end Commits

/-- The request can answer `a` and leave the database as it is. -/
def Refuses : Request δ α → α → Prop
  | .ask failed next, a => a = failed ∨ ∃ d, (next d).Refuses a
  | .begin t, a => t.Refuses false a
  | .answer b, a => a = b

/-- What a request answers, and the database afterwards, when nobody interferes and no statement fails but those
that refuse. -/
def exec (d : δ) : Request δ α → α × δ
  | .ask _ next => exec d (next d)
  | .begin t => t.exec d d
  | .answer a => (a, d)

/-- A request that commits does so when it is executed. -/
theorem exec_of_commits {q : Request δ α} {d d' : δ} {answer : α} (h : q.Commits (· = ·) d answer d') :
    q.exec d = (answer, d') := by
  induction q with
  | ask failed next ih =>
      obtain ⟨seen, rfl, hrest⟩ := commits_ask.mp h
      exact ih seen hrest
  | begin t => exact Script.exec_of_commits (commits_begin.mp h)
  | answer a => exact absurd h commits_answer

/-- **A request that is executed** leaves the database as it is, or commits. -/
theorem exec_cases (q : Request δ α) (d : δ) :
    (q.exec d).2 = d ∨ q.Commits (· = ·) d (q.exec d).1 (q.exec d).2 := by
  induction q with
  | ask failed next ih => exact (ih d).imp_right fun hrest => commits_ask.mpr ⟨d, rfl, hrest⟩
  | begin t => exact (Script.exec_cases t d d).imp_right commits_begin.mpr
  | answer a => exact .inl rfl

end Request

/-! ### Clients -/

/-- How far a transaction is: nothing is read yet, or what it has read, or what it has written. -/
inductive Phase (δ : Type*) where
  | fresh
  | reading (snapshot : δ)
  | writing (view : δ)

/-- A client before its transaction, in it, or with its answer. -/
inductive Client (δ α : Type*) where
  | asking (q : Request δ α)
  | busy (phase : Phase δ) (rest : Script δ α)
  | done (answer : α)

/-- The client holds the write lock. -/
def Client.Writing : Client δ α → Prop
  | .busy (.writing _) _ => True
  | _ => False

/-- `ClientStep free d c d' c'`: the next step of a client leads from `c` to `c'` and the database from `d` to `d'`;
`free` says that nobody else is writing. -/
inductive ClientStep (free : Prop) : δ → Client δ α → δ → Client δ α → Prop
  | ask {d : δ} {failed : α} {next : δ → Request δ α} :
      ClientStep free d (.asking (.ask failed next)) d (.asking (next d))
  | askFails {d : δ} {failed : α} {next : δ → Request δ α} :
      ClientStep free d (.asking (.ask failed next)) d (.done failed)
  | begin {d : δ} {t : Script δ α} : ClientStep free d (.asking (.begin t)) d (.busy .fresh t)
  | answer {d : δ} {a : α} : ClientStep free d (.asking (.answer a)) d (.done a)
  | firstRead {d : δ} {failed : α} {next : δ → Script δ α} :
      ClientStep free d (.busy .fresh (.read failed next)) d (.busy (.reading d) (next d))
  | read {d snapshot : δ} {failed : α} {next : δ → Script δ α} :
      ClientStep free d (.busy (.reading snapshot) (.read failed next)) d
        (.busy (.reading snapshot) (next snapshot))
  | readBack {d view : δ} {failed : α} {next : δ → Script δ α} :
      ClientStep free d (.busy (.writing view) (.read failed next)) d
        (.busy (.writing view) (next view))
  | firstWrite {d view : δ} {phase : Phase δ} {failed : α} {stmt : δ → Option δ} {next : Script δ α} :
      free → phase = .fresh ∨ phase = .reading d → stmt d = some view →
        ClientStep free d (.busy phase (.write failed stmt next)) d (.busy (.writing view) next)
  | write {d view view' : δ} {failed : α} {stmt : δ → Option δ} {next : Script δ α} :
      stmt view = some view' →
        ClientStep free d (.busy (.writing view) (.write failed stmt next)) d
          (.busy (.writing view') next)
  | commit {d view : δ} {failed ok : α} :
      ClientStep free d (.busy (.writing view) (.commit failed ok)) view (.done ok)
  | commitRead {d : δ} {phase : Phase δ} {failed ok : α} :
      phase = .fresh ∨ (∃ snapshot, phase = .reading snapshot) →
        ClientStep free d (.busy phase (.commit failed ok)) d (.done ok)
  | drop {d : δ} {phase : Phase δ} {a : α} : ClientStep free d (.busy phase (.drop a)) d (.done a)
  | fail {d : δ} {phase : Phase δ} {rest : Script δ α} {a : α} :
      rest.failure = some a → ClientStep free d (.busy phase rest) d (.done a)

/-- The database and its clients. -/
structure Clients (ι δ α : Type*) where
  db : δ
  client : ι → Client δ α

/-- Nobody but the client is writing. -/
def Clients.Free (s : Clients ι δ α) (i : ι) : Prop :=
  ∀ j, j ≠ i → ¬ (s.client j).Writing

/-- Clients that run the given requests, in any order, on a database that is initial. -/
def clientSystem (init : δ → Prop) (requests : ι → Request δ α) : System (Clients ι δ α) ι where
  init s := init s.db ∧ ∀ i, s.client i = .asking (requests i)
  step s i t := ClientStep (s.Free i) s.db (s.client i) t.db (t.client i) ∧
    ∀ j, j ≠ i → t.client j = s.client j

/-! ### Serializability -/

/-- An order of the databases in which whatever commits leads upwards. -/
structure Upward (R : δ → δ → Prop) (requests : ι → Request δ α) : Prop where
  refl : ∀ d, R d d
  trans : ∀ d d' d'', R d d' → R d' d'' → R d d''
  commits : ∀ i d answer d', (requests i).Commits R d answer d' → R d d'

/-- Where a client is, against its request: on any database that is still to come, as long as it has read nothing in
its transaction, on the one that it read first, and, once it writes, on the database as it is; and what it can
refuse with from there, its request can. -/
def Client.Sound (R : δ → δ → Prop) (q : Request δ α) (db : δ) : Client δ α → Prop
  | .asking q' =>
      (∀ d, R db d → ∀ t, q'.Begins R d t → q.Begins R d t) ∧ ∀ a, q'.Refuses a → q.Refuses a
  | .busy .fresh rest => (∀ d, R db d → q.Begins R d rest) ∧ ∀ a, rest.Refuses false a → q.Refuses a
  | .busy (.reading snapshot) rest =>
      (∃ t, q.Begins R snapshot t ∧ ReflTransGen Script.Next (snapshot, t) (snapshot, rest)) ∧
        ∀ a, rest.Refuses false a → q.Refuses a
  | .busy (.writing view) rest =>
      (∃ t, q.Begins R db t ∧ ReflTransGen Script.Next (db, t) (view, rest)) ∧
        ∀ a, rest.Refuses true a → q.Refuses a
  | .done _ => True

section Sound

variable {R : δ → δ → Prop} {requests : ι → Request δ α}

/-- A client that does not write stays sound when somebody else commits. -/
theorem Client.Sound.of_not_writing {q : Request δ α} {db db' : δ} {c : Client δ α}
    (hR : Upward R requests) (h : c.Sound R q db) (hwriting : ¬ c.Writing) (hdb : R db db') :
    c.Sound R q db' := by
  rcases c with q' | ⟨phase, rest⟩ | answer
  · exact ⟨fun d hd => h.1 d (hR.trans _ _ _ hdb hd), h.2⟩
  · cases phase with
    | fresh => exact ⟨fun d hd => h.1 d (hR.trans _ _ _ hdb hd), h.2⟩
    | reading snapshot => exact h
    | writing view => exact absurd trivial hwriting
  · trivial

/-- **One step of one client**: it stays sound; it starts to write only when nobody else does; and either the
database stays as it is, and the client refuses if it answers, or it commits. -/
theorem ClientStep.sound {q : Request δ α} {free : Prop} {d d' : δ} {c c' : Client δ α}
    (hR : Upward R requests) (h : ClientStep free d c d' c') (hsound : c.Sound R q d) :
    c'.Sound R q d' ∧ (c'.Writing → c.Writing ∨ free) ∧
      ((d' = d ∧ ∀ a, c' = .done a → q.Refuses a) ∨
        c.Writing ∧ ∃ a, c' = .done a ∧ q.Commits R d a d') := by
  have hopen : ∀ {c' : Client δ α}, (∀ a, c' ≠ .done a) →
      (d = d ∧ ∀ a, c' = .done a → q.Refuses a) ∨ c.Writing ∧ ∃ a, c' = .done a ∧ q.Commits R d a d :=
    fun hne => .inl ⟨rfl, fun a ha => absurd ha (hne a)⟩
  have hrefuses : ∀ {a : α}, q.Refuses a → (d = d ∧ ∀ b, (.done a : Client δ α) = .done b → q.Refuses b) ∨
      c.Writing ∧ ∃ b, (.done a : Client δ α) = .done b ∧ q.Commits R d b d :=
    fun h => .inl ⟨rfl, fun b hb => Client.done.inj hb ▸ h⟩
  cases h with
  | ask =>
      exact ⟨⟨fun d' hd' t ht => hsound.1 d' hd' t (.ask hd' ht), fun a h => hsound.2 a (.inr ⟨_, h⟩)⟩,
        fun h => h.elim, hopen (by simp)⟩
  | askFails => exact ⟨trivial, fun h => h.elim, hrefuses (hsound.2 _ (.inl rfl))⟩
  | begin => exact ⟨⟨fun d' hd' => hsound.1 d' hd' _ .begin, hsound.2⟩, fun h => h.elim, hopen (by simp)⟩
  | answer => exact ⟨trivial, fun h => h.elim, hrefuses (hsound.2 _ rfl)⟩
  | firstRead =>
      exact ⟨⟨⟨_, hsound.1 d (hR.refl d), .single .read⟩, fun a h => hsound.2 a (.inr ⟨_, h⟩)⟩,
        fun h => h.elim, hopen (by simp)⟩
  | read =>
      obtain ⟨⟨t, hbegins, hleads⟩, hrest⟩ := hsound
      exact ⟨⟨⟨t, hbegins, hleads.tail .read⟩, fun a h => hrest a (.inr ⟨_, h⟩)⟩, fun h => h.elim,
        hopen (by simp)⟩
  | readBack =>
      obtain ⟨⟨t, hbegins, hleads⟩, hrest⟩ := hsound
      exact ⟨⟨⟨t, hbegins, hleads.tail .read⟩, fun a h => hrest a (.inr ⟨_, h⟩)⟩, fun _ => .inl trivial,
        hopen (by simp)⟩
  | firstWrite hfree hphase hstmt =>
      refine ⟨?_, fun _ => .inr hfree, hopen (by simp)⟩
      rcases hphase with rfl | rfl
      · exact ⟨⟨_, hsound.1 d (hR.refl d), .single (.write hstmt)⟩, fun a h => hsound.2 a (.inr h)⟩
      · obtain ⟨⟨t, hbegins, hleads⟩, hrest⟩ := hsound
        exact ⟨⟨t, hbegins, hleads.tail (.write hstmt)⟩, fun a h => hrest a (.inr h)⟩
  | write hstmt =>
      obtain ⟨⟨t, hbegins, hleads⟩, hrest⟩ := hsound
      exact ⟨⟨⟨t, hbegins, hleads.tail (.write hstmt)⟩, fun a h => hrest a (.inr h)⟩,
        fun _ => .inl trivial, hopen (by simp)⟩
  | commit =>
      obtain ⟨⟨t, hbegins, hleads⟩, -⟩ := hsound
      exact ⟨trivial, fun h => h.elim, .inr ⟨trivial, _, rfl, t, hbegins, _, hleads⟩⟩
  | commitRead hphase =>
      refine ⟨trivial, fun h => h.elim, hrefuses ?_⟩
      rcases hphase with rfl | ⟨snapshot, rfl⟩
      · exact hsound.2 _ (.inr ⟨rfl, rfl⟩)
      · exact hsound.2 _ (.inr ⟨rfl, rfl⟩)
  | @drop phase a =>
      refine ⟨trivial, fun h => h.elim, hrefuses ?_⟩
      cases phase <;> exact hsound.2 _ rfl
  | @fail phase rest a hfail =>
      refine ⟨trivial, fun h => h.elim, hrefuses ?_⟩
      cases phase <;> exact hsound.2 _ (Script.refuses_of_failure _ hfail)

end Sound

/-- Every client is sound, and at most one is writing. -/
structure Clients.Sound (R : δ → δ → Prop) (requests : ι → Request δ α) (s : Clients ι δ α) : Prop where
  client : ∀ i, (s.client i).Sound R (requests i) s.db
  single : ∀ i j, (s.client i).Writing → (s.client j).Writing → i = j

section Runs

variable {init : δ → Prop} {R : δ → δ → Prop} {requests : ι → Request δ α} {s t : Clients ι δ α} {i : ι}

/-- A step keeps the clients sound, and changes the database only by a commit. -/
theorem Clients.Sound.step (hR : Upward R requests) (h : s.Sound R requests)
    (hstep : (clientSystem init requests).step s i t) :
    t.Sound R requests ∧ ((t.db = s.db ∧ ∀ a, t.client i = .done a → (requests i).Refuses a) ∨
      ∃ a, t.client i = .done a ∧ (requests i).Commits R s.db a t.db) := by
  obtain ⟨hclient, hothers⟩ := hstep
  obtain ⟨hsound, hwriting, hdb⟩ := hclient.sound hR (h.client i)
  refine ⟨⟨fun j => ?_, ?_⟩, hdb.imp_right And.right⟩
  · by_cases hj : j = i
    · rw [hj]
      exact hsound
    · rw [hothers j hj]
      rcases hdb with ⟨hsame, -⟩ | ⟨hi, answer, -, hcommits⟩
      · rw [hsame]
        exact h.client j
      · refine (h.client j).of_not_writing hR (fun hj' => ?_) (hR.commits i _ _ _ hcommits)
        exact hj (h.single j i hj' hi)
  · have hone : ∀ j, j ≠ i → (t.client i).Writing → ¬ (t.client j).Writing := by
      intro j hj hi hj'
      rw [hothers j hj] at hj'
      rcases hwriting hi with hi | hfree
      · exact hj (h.single j i hj' hi)
      · exact hfree j hj hj'
    intro j k hj hk
    by_cases hji : j = i
    · by_cases hki : k = i
      · rw [hji, hki]
      · exact absurd hk (hone k hki (hji ▸ hj))
    · by_cases hki : k = i
      · exact absurd hj (hone j hji (hki ▸ hk))
      · rw [hothers j hji] at hj
        rw [hothers k hki] at hk
        exact h.single j k hj hk

theorem Clients.Sound.of_reachable (hR : Upward R requests) (h : (clientSystem init requests).Reachable s) :
    s.Sound R requests := by
  refine h.invariant ?_ fun s i t hs hst => (hs.step hR hst).1
  rintro s ⟨-, hfresh⟩
  refine ⟨fun i => ?_, fun i j hi _ => ?_⟩
  · rw [hfresh i]
    exact ⟨fun d _ t ht => ht, fun a h => h⟩
  · rw [hfresh i] at hi
    exact hi.elim

/-- **Serializability**: a step leaves the database as it is, and if the client answers, it refuses; or the client
commits and answers, and its transaction has run on the database as it was just before. -/
theorem step_commits (hR : Upward R requests) (h : (clientSystem init requests).Reachable s)
    (hstep : (clientSystem init requests).step s i t) :
    (t.db = s.db ∧ ∀ a, t.client i = .done a → (requests i).Refuses a) ∨
      ∃ a, t.client i = .done a ∧ (requests i).Commits R s.db a t.db :=
  ((Clients.Sound.of_reachable hR h).step hR hstep).2

/-- **Invariants of the database**: true initially and kept by whatever commits. -/
theorem Reachable.database {I : δ → Prop} (hR : Upward R requests) (hinit : ∀ d, init d → I d)
    (hcommit : ∀ i d answer d', I d → (requests i).Commits R d answer d' → I d')
    (h : (clientSystem init requests).Reachable s) : I s.db := by
  have hreachable : ∀ s, (clientSystem init requests).Reachable s →
      (clientSystem init requests).Reachable s := fun _ hs => hs
  refine h.invariant_of hreachable (fun s hs => hinit _ hs.1) fun s i t hs hI hst => ?_
  rcases step_commits hR hs hst with ⟨hsame, -⟩ | ⟨answer, -, hcommits⟩
  · exact hsame ▸ hI
  · exact hcommit i _ _ _ hI hcommits

/-- An answer is final. -/
theorem done_of_run {is : List ι} (h : Run (clientSystem init requests).step s is t) {answer : α}
    (hdone : s.client i = .done answer) : t.client i = .done answer := by
  have hkeep : ∀ s j t, s.client i = .done answer → (clientSystem init requests).step s j t →
      t.client i = .done answer := by
    rintro s j t hs ⟨hclient, hothers⟩
    by_cases hj : i = j
    · subst hj
      rw [hs] at hclient
      rcases hclient
    · rw [hothers i hj, hs]
  have hkept := Run.preserves hkeep h hdone
  exact hkept

/-- **A client that does not answer as a commit of its request does has changed nothing**, in any of its steps. -/
theorem unchanged_of_not_committed {is : List ι} {u : Clients ι δ α} {answer : α} (hR : Upward R requests)
    (h : (clientSystem init requests).Reachable s) (hstep : (clientSystem init requests).step s i t)
    (hrest : Run (clientSystem init requests).step t is u) (hdone : u.client i = .done answer)
    (hanswer : ∀ d d', ¬ (requests i).Commits R d answer d') : t.db = s.db := by
  rcases step_commits hR h hstep with ⟨hsame, -⟩ | ⟨answer', hdone', hcommits⟩
  · exact hsame
  · have heq := (done_of_run hrest hdone').symm.trans hdone
    obtain rfl := Client.done.inj heq
    exact absurd hcommits (hanswer _ _)

/-! ### A client that is alone -/

/-- `AloneTo i s d c`: steps of the client `i` lead from `s` to the database `d` and its own state `c`, and leave the
others as they are. -/
def AloneTo (init : δ → Prop) (requests : ι → Request δ α) (i : ι) (s : Clients ι δ α) (d : δ)
    (c : Client δ α) : Prop :=
  ∃ is t, Run (clientSystem init requests).step s is t ∧ t.db = d ∧ t.client i = c ∧
    ∀ j, j ≠ i → t.client j = s.client j

/-- One step, the others as they are. -/
theorem AloneTo.single {d : δ} {c : Client δ α} (h : ClientStep (s.Free i) s.db (s.client i) d c) :
    AloneTo init requests i s d c := by
  classical
  have hself : (Function.update s.client i c) i = c := Function.update_self _ _ _
  have hothers : ∀ j, j ≠ i → Function.update s.client i c j = s.client j :=
    fun j hj => Function.update_of_ne hj _ _
  refine ⟨[i], ⟨d, Function.update s.client i c⟩, .single ⟨?_, hothers⟩, rfl, hself, hothers⟩
  show ClientStep (s.Free i) s.db (s.client i) d (Function.update s.client i c i)
  rw [hself]
  exact h

/-- One step that leaves the database as it is, and then some more. -/
theorem AloneTo.cons {d : δ} {c c' : Client δ α} (hfree : s.Free i)
    (h : ClientStep (s.Free i) s.db (s.client i) s.db c)
    (hrest : ∀ t : Clients ι δ α, t.Free i → t.db = s.db → t.client i = c →
      AloneTo init requests i t d c') : AloneTo init requests i s d c' := by
  have hone : AloneTo init requests i s s.db c := .single h
  obtain ⟨is, t, hrun, hdb, hc, hothers⟩ := hone
  have hfree' : t.Free i := fun j hj => by
    rw [hothers j hj]
    exact hfree j hj
  obtain ⟨is', u, hrun', hdb', hc', hothers'⟩ := hrest t hfree' hdb hc
  exact ⟨is ++ is', u, hrun.trans hrun', hdb', hc', fun j hj => (hothers' j hj).trans (hothers j hj)⟩

/-- What a transaction sees. -/
def Phase.view (d : δ) : Phase δ → δ
  | .fresh => d
  | .reading snapshot => snapshot
  | .writing view => view

/-- A client that is alone in its transaction, and has read nothing that is not current. -/
theorem alone_script {rest : Script δ α} :
    ∀ {s : Clients ι δ α} {phase : Phase δ}, s.Free i → s.client i = .busy phase rest →
      (∀ d, phase = .reading d → d = s.db) →
        AloneTo init requests i s (rest.exec s.db (phase.view s.db)).2
          (.done (rest.exec s.db (phase.view s.db)).1) := by
  induction rest with
  | read failed next ih =>
      intro s phase hfree hclient hcurrent
      have hread : ∃ phase', ClientStep (s.Free i) s.db (s.client i) s.db
          (.busy phase' (next (phase.view s.db))) ∧ phase'.view s.db = phase.view s.db ∧
            ∀ d, phase' = .reading d → d = s.db := by
        rw [hclient]
        cases phase with
        | fresh => exact ⟨_, .firstRead, rfl, fun d hd => (Phase.reading.inj hd).symm⟩
        | reading snapshot => exact ⟨_, .read, rfl, hcurrent⟩
        | writing view => exact ⟨_, .readBack, rfl, by simp⟩
      obtain ⟨phase', hstep, hview, hcurrent'⟩ := hread
      refine .cons hfree hstep fun t hfree' hdb hnext => ?_
      have hrest := ih _ hfree' hnext (hdb ▸ hcurrent')
      rw [hdb, hview] at hrest
      exact hrest
  | write failed stmt next ih =>
      intro s phase hfree hclient hcurrent
      rcases hstmt : stmt (phase.view s.db) with _ | view
      · simp only [Script.exec, hstmt]
        exact .single (hclient ▸ .fail rfl)
      · simp only [Script.exec, hstmt]
        have hwrite : ClientStep (s.Free i) s.db (s.client i) s.db (.busy (.writing view) next) := by
          rw [hclient]
          cases phase with
          | fresh => exact .firstWrite hfree (.inl rfl) hstmt
          | reading snapshot =>
              obtain rfl := hcurrent snapshot rfl
              exact .firstWrite hfree (.inr rfl) hstmt
          | writing view' => exact .write hstmt
        refine .cons hfree hwrite fun t hfree' hdb hnext => ?_
        have hrest := ih hfree' hnext (by simp)
        rw [hdb] at hrest
        exact hrest
  | commit failed ok =>
      intro s phase hfree hclient hcurrent
      refine .single ?_
      rw [hclient]
      cases phase with
      | fresh => exact .commitRead (.inl rfl)
      | reading snapshot =>
          obtain rfl := hcurrent snapshot rfl
          exact .commitRead (.inr ⟨_, rfl⟩)
      | writing view => exact .commit
  | drop a =>
      intro s phase hfree hclient hcurrent
      exact .single (hclient ▸ .drop)

/-- **A client that is alone** can answer as its request says. -/
theorem run_exec {q : Request δ α} :
    ∀ {s : Clients ι δ α}, s.Free i → s.client i = .asking q →
      AloneTo init requests i s (q.exec s.db).2 (.done (q.exec s.db).1) := by
  induction q with
  | ask failed next ih =>
      intro s hfree hclient
      have hstep : ClientStep (s.Free i) s.db (s.client i) s.db (.asking (next s.db)) := hclient ▸ .ask
      refine .cons hfree hstep fun t hfree' hdb hnext => ?_
      have hrest := ih _ hfree' hnext
      rw [hdb] at hrest
      exact hrest
  | begin t =>
      intro s hfree hclient
      have hstep : ClientStep (s.Free i) s.db (s.client i) s.db (.busy .fresh t) := hclient ▸ .begin
      refine .cons hfree hstep fun t' hfree' hdb hnext => ?_
      have hrest : AloneTo init requests i t' (t.exec t'.db (Phase.fresh.view t'.db)).2
          (.done (t.exec t'.db (Phase.fresh.view t'.db)).1) := alone_script hfree' hnext (by simp)
      rw [hdb] at hrest
      exact hrest
  | answer a =>
      intro s hfree hclient
      exact .single (hclient ▸ .answer)

end Runs

end Cliptown.Lib
