import Cliptown.Task.Authority

/-!
# The log of the revisions of skills

A new text of a skill is written first, and then logged as a revision, with its author. The log is allowed to
fail, and it does for an author who has no row.

* `SkillEdit` — upserts and reverts, of agents and operators; `revisionSystem` — any sequence of them.
* `SkillEdit.text` — which skill an edit writes, and which text, if it passes its checks.
* `Numbered`, `RevisionLog` — the revisions of a skill are numbered from one, and the last one has the live text.
* `Logs` — the condition on an edit: its author has a row, or the text stays the same.
* `KeepsLog` — what an edit should do; `revision_log_iff` — the edits of a run do it exactly if each meets the
  condition.
-/

namespace Cliptown.Task

open Cliptown.Lib Cliptown.Town Cliptown.World Cliptown.Console

/-! ### Edits -/

/-- An upsert or a revert on behalf of a startup. -/
inductive SkillEdit where
  | upsert (env : Env) (startupId name contentMd : String) (author : Author)
  | revert (env : Env) (startupId skillId : String) (revSeq : ℤ) (author : Author)

namespace SkillEdit

def env : SkillEdit → Env
  | upsert env _ _ _ _ | revert env _ _ _ _ => env

def startupId : SkillEdit → String
  | upsert _ startupId _ _ _ | revert _ startupId _ _ _ => startupId

def author : SkillEdit → Author
  | upsert _ _ _ _ author | revert _ _ _ _ author => author

/-- The id of the skill, and the database after the edit. -/
def run (cfg : Config) (db : Db) : SkillEdit → Except SkillError (String × Db)
  | upsert env startupId name contentMd author => do
      let ((id, _), db) ← upsertWithAuthor cfg env db startupId name contentMd author
      return (id, db)
  | revert env startupId skillId revSeq author => do
      let (_, db) ← revertToRevision env db startupId skillId revSeq author
      return (skillId, db)

/-- The database after an edit. -/
def apply (cfg : Config) (db : Db) (e : SkillEdit) : Db :=
  (settle db (e.run cfg db)).2

/-- The id of a revision is new; an agent belongs to the startup. -/
def Possible (db : Db) (e : SkillEdit) : Prop :=
  db.skills.revisions.lookup e.env.newId = none ∧
    ∀ agentId, e.author = .agent agentId →
      ∃ agent, db.agents.lookup agentId = some agent ∧ agent.startupId = e.startupId

/-- The skill that is written, and the text, if the edit passes its checks. -/
def text (db : Db) : SkillEdit → Option (String × String)
  | upsert env startupId name contentMd _ =>
      if nameIsValid name ∧ contentMd.utf8ByteSize ≤ maxContentLen then
        match findSkill db startupId name with
        | some id => some (id, contentMd)
        | none => (insertSkill env db startupId name contentMd).map fun _ => (env.newId, contentMd)
      else none
  | revert _ startupId skillId revSeq _ =>
      if db.skills.ownerOf skillId = some startupId then
        (revisionContent db skillId revSeq).map fun text => (skillId, text)
      else none

end SkillEdit

/-- Upserts and reverts in any order; at first there are no skills. -/
def revisionSystem (cfg : Config) : System Db SkillEdit where
  init db := db.skills = .empty
  step db e db' := e.Possible db ∧ db' = e.apply cfg db

/-! ### The log -/

/-- A skill has a revision with a number and a text. -/
def SkillTables.HasRevision (t : SkillTables) (skillId : String) (revSeq : ℤ) (text : String) : Prop :=
  ∃ id r, t.revisions.lookup id = some r ∧ r.skillId = skillId ∧ r.revSeq = revSeq ∧ r.contentMd = text

/-- The revisions of a skill have exactly the numbers from one to `n`, each once. -/
structure Numbered (t : SkillTables) (skillId : String) (n : ℕ) : Prop where
  mem : ∀ k, (∃ text, t.HasRevision skillId k text) ↔ 1 ≤ k ∧ k ≤ n
  unique : ∀ id r id' r', t.revisions.lookup id = some r → t.revisions.lookup id' = some r' →
    r.skillId = skillId → r'.skillId = skillId → r.revSeq = r'.revSeq → id = id'

/-- The revisions of every skill are numbered, and the last one has the live text. -/
def RevisionLog (db : Db) : Prop :=
  ∀ skillId skill, db.skills.skills.lookup skillId = some skill →
    ∃ n, Numbered db.skills skillId n ∧ db.skills.HasRevision skillId n skill.contentMd

/-- The live text of a skill. -/
def Db.LiveText (db : Db) (skillId text : String) : Prop :=
  ∃ skill, db.skills.skills.lookup skillId = some skill ∧ skill.contentMd = text

/-- What an edit should do: the log agrees with the live texts, the revisions that exist stay as they are, and a
revert makes the text of its revision the live one. -/
structure KeepsLog (s : Db) (e : SkillEdit) (t : Db) : Prop where
  log : RevisionLog t
  kept : ∀ id r, s.skills.revisions.lookup id = some r → t.skills.revisions.lookup id = some r
  restored : ∀ env startupId skillId revSeq author content db', e = .revert env startupId skillId revSeq author →
    revertToRevision env s startupId skillId revSeq author = .ok (content, db') →
      s.skills.HasRevision skillId revSeq content ∧ t.LiveText skillId content

/-- The condition on an edit: if it passes its checks, its author has a row, or the skill has the text already. -/
def Logs (db : Db) (e : SkillEdit) : Prop :=
  ∀ skillId text, e.text db = some (skillId, text) → authorExists db e.author ∨ db.LiveText skillId text

section Numbers

variable {t t' : SkillTables} {skillId : String} {n m : ℕ} {id : String} {r : SkillRevision}

/-- A running maximum that reaches a bound. -/
theorem foldl_max_eq {ι : Type*} {f : ι → ℤ} {b : ℤ} (l : List ι) :
    ∀ a, a ≤ b → (∀ i ∈ l, f i ≤ b) → (a = b ∨ ∃ i ∈ l, f i = b) →
      l.foldl (fun m i => max m (f i)) a = b := by
  induction l with
  | nil =>
      intro a _ _ hreach
      exact hreach.resolve_right (by simp)
  | cons i l ih =>
      intro a ha hle hreach
      have hi := hle i List.mem_cons_self
      refine ih (max a (f i)) (max_le ha hi) (fun j hj => hle j (List.mem_cons_of_mem _ hj)) ?_
      rcases hreach with rfl | ⟨j, hj, hb⟩
      · exact .inl (max_eq_left hi)
      · rcases List.mem_cons.mp hj with rfl | hj
        · exact .inl ((congrArg (max a) hb).trans (max_eq_right ha))
        · exact .inr ⟨j, hj, hb⟩

/-- The number of the next revision. -/
theorem nextSeq_eq (h : Numbered t skillId n) : t.nextSeq skillId = n + 1 := by
  unfold SkillTables.nextSeq
  rw [foldl_max_eq (b := (n : ℤ)) _ 0 (Int.natCast_nonneg n)]
  · intro e he
    obtain ⟨hmem, hskill⟩ := List.mem_filter.mp he
    exact ((h.mem e.2.revSeq).mp
      ⟨_, e.1, e.2, AList.mem_lookup_iff.mpr hmem, of_decide_eq_true hskill, rfl, rfl⟩).2
  · rcases Nat.eq_zero_or_pos n with rfl | hpos
    · exact .inl rfl
    · obtain ⟨_, id, r, hr, hskill, hseq, -⟩ := (h.mem n).mpr ⟨by omega, le_rfl⟩
      exact .inr ⟨⟨id, r⟩, List.mem_filter.mpr ⟨AList.mem_lookup_iff.mp hr, decide_eq_true hskill⟩, hseq⟩

/-- The last number is determined. -/
theorem Numbered.inj (h : Numbered t skillId n) (h' : Numbered t skillId m) : n = m := by
  have hle : ∀ k : ℤ, (1 ≤ k ∧ k ≤ n) ↔ (1 ≤ k ∧ k ≤ m) := fun k => (h.mem k).symm.trans (h'.mem k)
  have hn := hle n
  have hm := hle m
  omega

/-- The text of a revision is determined by its number. -/
theorem Numbered.text_unique (h : Numbered t skillId n) {k : ℤ} {text text' : String}
    (hrev : t.HasRevision skillId k text) (hrev' : t.HasRevision skillId k text') : text = text' := by
  obtain ⟨id, r, hr, hskill, hseq, rfl⟩ := hrev
  obtain ⟨id', r', hr', hskill', hseq', rfl⟩ := hrev'
  obtain rfl := h.unique id r id' r' hr hr' hskill hskill' (hseq.trans hseq'.symm)
  rw [Option.some.inj (hr.symm.trans hr')]

/-- A skill that is not there has no revisions. -/
theorem numbered_zero (h : t.skills.lookup skillId = none) : Numbered t skillId 0 := by
  have hnone : ∀ id r, t.revisions.lookup id = some r → r.skillId ≠ skillId := by
    rintro id r hr rfl
    have hsome := t.revisionRefs id r hr
    rw [h] at hsome
    exact absurd hsome (by simp)
  constructor
  · intro k
    constructor
    · rintro ⟨_, id, r, hr, hskill, -⟩
      exact absurd hskill (hnone id r hr)
    · rintro ⟨hpos, hzero⟩
      exact absurd (hpos.trans hzero) (by decide)
  · intro id r _ _ hr _ hskill
    exact absurd hskill (hnone id r hr)

/-! ### A new revision -/

section Insert

variable (hnew : t.revisions.lookup id = none) (hinsert : t'.revisions = t.revisions.insert id r)

include hnew hinsert

theorem revisions_kept {id' : String} {r' : SkillRevision} (h : t.revisions.lookup id' = some r') :
    t'.revisions.lookup id' = some r' := by
  have hne : id' ≠ id := by
    rintro rfl
    exact absurd (hnew.symm.trans h) (by simp)
  rw [hinsert, AList.lookup_insert_ne hne]
  exact h

omit hnew in
theorem of_revisions_insert {id' : String} {r' : SkillRevision} (h : t'.revisions.lookup id' = some r') :
    id' = id ∧ r' = r ∨ t.revisions.lookup id' = some r' := by
  rw [hinsert, Table.lookup_insert_eq] at h
  split at h
  · rename_i heq
    exact .inl ⟨heq, (Option.some.inj h).symm⟩
  · exact .inr h

theorem hasRevision_insert {k : ℤ} {text : String} (h : t.HasRevision skillId k text) :
    t'.HasRevision skillId k text := by
  obtain ⟨id', r', hr', hrest⟩ := h
  exact ⟨id', r', revisions_kept hnew hinsert hr', hrest⟩

omit hnew in
/-- The new revision itself. -/
theorem hasRevision_new : t'.HasRevision r.skillId r.revSeq r.contentMd :=
  ⟨id, r, by rw [hinsert, AList.lookup_insert], rfl, rfl, rfl⟩

/-- The next revision of a skill. -/
theorem numbered_insert (h : Numbered t r.skillId n) (hseq : r.revSeq = n + 1) :
    Numbered t' r.skillId (n + 1) := by
  have hold : ∀ id' r', t.revisions.lookup id' = some r' → r'.skillId = r.skillId → r'.revSeq ≤ n :=
    fun id' r' hr' hskill => ((h.mem r'.revSeq).mp ⟨_, id', r', hr', hskill, rfl, rfl⟩).2
  constructor
  · intro k
    constructor
    · rintro ⟨text, id', r', hr', hskill, rfl, rfl⟩
      rcases of_revisions_insert hinsert hr' with ⟨-, rfl⟩ | hr'
      · rw [hseq]
        push_cast
        omega
      · have hbounds := (h.mem r'.revSeq).mp ⟨_, id', r', hr', hskill, rfl, rfl⟩
        push_cast
        omega
    · rintro ⟨hpos, hle⟩
      push_cast at hle
      by_cases hk : k ≤ n
      · obtain ⟨text, hrev⟩ := (h.mem k).mpr ⟨hpos, hk⟩
        exact ⟨text, hasRevision_insert hnew hinsert hrev⟩
      · obtain rfl : k = r.revSeq := by omega
        exact ⟨_, hasRevision_new hinsert⟩
  · intro id₁ r₁ id₂ r₂ hr₁ hr₂ hskill₁ hskill₂ heq
    rcases of_revisions_insert hinsert hr₁ with ⟨rfl, rfl⟩ | hr₁
    · rcases of_revisions_insert hinsert hr₂ with ⟨rfl, -⟩ | hr₂
      · rfl
      · have := hold id₂ r₂ hr₂ hskill₂
        omega
    · rcases of_revisions_insert hinsert hr₂ with ⟨-, rfl⟩ | hr₂
      · have := hold id₁ r₁ hr₁ hskill₁
        omega
      · exact h.unique id₁ r₁ id₂ r₂ hr₁ hr₂ hskill₁ hskill₂ heq

/-- A revision of another skill. -/
theorem numbered_insert_other (h : Numbered t skillId n) (hother : r.skillId ≠ skillId) :
    Numbered t' skillId n := by
  have hback : ∀ {id' r'}, t'.revisions.lookup id' = some r' → r'.skillId = skillId →
      t.revisions.lookup id' = some r' := by
    intro id' r' hr' hskill
    rcases of_revisions_insert hinsert hr' with ⟨-, rfl⟩ | hr'
    · exact absurd hskill hother
    · exact hr'
  constructor
  · intro k
    rw [← h.mem k]
    constructor
    · rintro ⟨text, id', r', hr', hskill, hrest⟩
      exact ⟨text, id', r', hback hr' hskill, hskill, hrest⟩
    · rintro ⟨text, hrev⟩
      exact ⟨text, hasRevision_insert hnew hinsert hrev⟩
  · intro id₁ r₁ id₂ r₂ hr₁ hr₂ hskill₁ hskill₂
    exact h.unique id₁ r₁ id₂ r₂ (hback hr₁ hskill₁) (hback hr₂ hskill₂) hskill₁ hskill₂

end Insert

/-- Only the revisions matter. -/
theorem hasRevision_congr (h : t'.revisions = t.revisions) {k : ℤ} {text : String} :
    t'.HasRevision skillId k text ↔ t.HasRevision skillId k text := by
  unfold SkillTables.HasRevision
  rw [h]

theorem numbered_congr (h : t'.revisions = t.revisions) : Numbered t' skillId n ↔ Numbered t skillId n := by
  constructor
  · intro hn
    exact ⟨fun k => (exists_congr fun _ => (hasRevision_congr h).symm).trans (hn.mem k), h ▸ hn.unique⟩
  · intro hn
    exact ⟨fun k => (exists_congr fun _ => hasRevision_congr h).trans (hn.mem k), h.symm ▸ hn.unique⟩

end Numbers

/-! ### What an edit writes -/

/-- The live text of a skill of the startup is written. The skill keeps its name and its flag, and the others stay
as they are. -/
structure Written (db db₁ : Db) (startupId skillId text : String) : Prop where
  live : db₁.LiveText skillId text
  owner : db₁.skills.ownerOf skillId = some startupId
  same : ∀ skill skill', db.skills.skills.lookup skillId = some skill →
    db₁.skills.skills.lookup skillId = some skill' → skill'.startupId = skill.startupId ∧
      skill'.name = skill.name ∧ skill'.isGlobal = skill.isGlobal
  others : ∀ id, id ≠ skillId → db₁.skills.skills.lookup id = db.skills.skills.lookup id
  revisions : db₁.skills.revisions = db.skills.revisions
  attachments : db₁.skills.attachments = db.skills.attachments
  agents : db₁.agents = db.agents
  operators : db₁.operators = db.operators

section Edits

variable {cfg : Config} {env : Env} {db db₁ s : Db} {e : SkillEdit} {startupId skillId name text : String}
  {author : Author}

variable (env text) in
theorem written_writeContent (h : db.skills.ownerOf skillId = some startupId) :
    Written db (writeContent env db skillId text) startupId skillId text := by
  obtain ⟨skill, hskill, hstartup⟩ := (SkillTables.ownerOf_eq_some_iff _).mp h
  have hrow : (writeContent env db skillId text).skills.skills.lookup skillId =
      some { skill with contentMd := text, updatedAt := env.now } := by
    change (db.skills.skills.modify skillId _).lookup skillId = _
    rw [Table.lookup_modify_self, hskill]
    rfl
  refine ⟨⟨_, hrow, rfl⟩, (SkillTables.ownerOf_eq_some_iff _).mpr ⟨_, hrow, hstartup⟩, ?_, fun id hne => ?_, rfl, rfl,
    rfl, rfl⟩
  · intro old new hold hnew
    obtain rfl := Option.some.inj (hskill.symm.trans hold)
    obtain rfl := Option.some.inj (hrow.symm.trans hnew)
    exact ⟨rfl, rfl, rfl⟩
  · exact Table.lookup_modify_ne _ hne _

theorem written_insertSkill (h : insertSkill env db startupId name text = some db₁) :
    Written db db₁ startupId env.newId text := by
  unfold insertSkill at h
  split at h
  · obtain ⟨t, ht, rfl⟩ := Option.map_eq_some_iff.mp h
    obtain ⟨hnone, hskills, -, hrevisions, hattachments⟩ := SkillTables.insertSkill_eq_some ht
    have hrow := (congrArg (AList.lookup env.newId) hskills).trans (AList.lookup_insert _)
    refine ⟨⟨_, hrow, rfl⟩, (SkillTables.ownerOf_eq_some_iff _).mpr ⟨_, hrow, rfl⟩, fun skill _ hold _ => ?_,
      fun id hne => ?_, hrevisions, hattachments, rfl, rfl⟩
    · exact absurd (hnone.symm.trans hold) (by simp)
    · exact (congrArg (AList.lookup id) hskills).trans (AList.lookup_insert_ne hne)
  · exact absurd h (by simp)

/-- The skill that is found by its name belongs to the startup. -/
theorem ownerOf_findSkill (h : findSkill db startupId name = some skillId) :
    db.skills.ownerOf skillId = some startupId := by
  obtain ⟨e, he, rfl⟩ := Option.map_eq_some_iff.mp h
  have hfound := List.find?_some he
  simp only [decide_eq_true_eq] at hfound
  exact (SkillTables.ownerOf_eq_some_iff _).mpr
    ⟨e.2, AList.mem_lookup_iff.mpr (List.mem_of_find?_eq_some he), hfound.1⟩

/-- The text of a revision is one that the skill has. -/
theorem hasRevision_of_revisionContent {k : ℤ} (h : revisionContent db skillId k = some text) :
    db.skills.HasRevision skillId k text := by
  obtain ⟨e, he, rfl⟩ := Option.map_eq_some_iff.mp h
  have hfound := List.find?_some he
  simp only [decide_eq_true_eq] at hfound
  exact ⟨e.1, e.2, AList.mem_lookup_iff.mpr (List.mem_of_find?_eq_some he), hfound.1, hfound.2, rfl⟩

/-- What a revert that is granted does. -/
theorem revertToRevision_eq_ok {k : ℤ} {content : String} {db' : Db}
    (h : revertToRevision env db startupId skillId k author = .ok (content, db')) :
    db.skills.ownerOf skillId = some startupId ∧ revisionContent db skillId k = some content ∧
      db' = appendRevision env (writeContent env db skillId content) skillId content author := by
  unfold revertToRevision at h
  simp only [bind_eq_ok, require_eq_ok, pure_eq_ok, Prod.mk.injEq] at h
  obtain ⟨u, hcheck, content', hcontent, rfl, rfl⟩ := h
  exact ⟨(SkillTables.ownerOf_eq_some_iff _).mpr (checkSkill_eq_ok.mp hcheck), hcontent, rfl⟩

variable (cfg) in
/-- An edit without a text is refused. -/
theorem run_of_text_none (h : e.text s = none) : ∃ err, e.run cfg s = .error err := by
  cases e with
  | upsert env startupId name text author =>
      simp only [SkillEdit.text] at h
      unfold SkillEdit.run upsertWithAuthor
      split at h
      · rename_i hchecks
        simp only [ensure, hchecks.1, hchecks.2, if_true]
        rcases hfind : findSkill s startupId name with _ | id
        · rw [hfind] at h
          simp only [Option.map_eq_none_iff] at h
          simp only [h]
          exact ⟨_, rfl⟩
        · rw [hfind] at h
          exact absurd h (by simp)
      · rename_i hchecks
        by_cases hname : nameIsValid name
        · simp only [ensure, hname, if_true, if_neg (fun hlen => hchecks ⟨hname, hlen⟩)]
          exact ⟨_, rfl⟩
        · simp only [ensure, if_neg hname]
          exact ⟨_, rfl⟩
  | revert env startupId skillId revSeq author =>
      simp only [SkillEdit.text] at h
      rcases hrevert : revertToRevision env s startupId skillId revSeq author with err | ⟨content, db'⟩
      · simp only [SkillEdit.run, hrevert]
        exact ⟨_, rfl⟩
      · obtain ⟨howner, hcontent, -⟩ := revertToRevision_eq_ok hrevert
        rw [if_pos howner, hcontent] at h
        exact absurd h (by simp)

variable (cfg) in
/-- An edit with a text writes it, and then logs it. -/
theorem run_of_text (h : e.text s = some (skillId, text)) :
    ∃ db₁, Written s db₁ e.startupId skillId text ∧
      e.run cfg s = .ok (skillId, appendRevision e.env db₁ skillId text e.author) := by
  cases e with
  | upsert env startupId name text' author =>
      simp only [SkillEdit.text] at h
      split at h
      · rename_i hchecks
        simp only [SkillEdit.run, upsertWithAuthor, ensure, hchecks.1, hchecks.2, if_true]
        rcases hfind : findSkill s startupId name with _ | id
        · rw [hfind] at h
          obtain ⟨db₁, hinsert, heq⟩ := Option.map_eq_some_iff.mp h
          obtain ⟨rfl, rfl⟩ := Prod.mk.inj heq
          refine ⟨db₁, written_insertSkill hinsert, ?_⟩
          simp only [hinsert]
          rfl
        · rw [hfind] at h
          obtain ⟨rfl, rfl⟩ := Prod.mk.inj (Option.some.inj h)
          exact ⟨_, written_writeContent env _ (ownerOf_findSkill hfind), rfl⟩
      · exact absurd h (by simp)
  | revert env startupId skillId' revSeq author =>
      simp only [SkillEdit.text] at h
      split at h
      · rename_i howner
        obtain ⟨content, hcontent, heq⟩ := Option.map_eq_some_iff.mp h
        obtain ⟨rfl, rfl⟩ := Prod.mk.inj heq
        refine ⟨_, written_writeContent env _ howner, ?_⟩
        have hcheck : checkSkill s startupId skillId' = .ok () :=
          checkSkill_eq_ok.mpr ((SkillTables.ownerOf_eq_some_iff _).mp howner)
        simp only [SkillEdit.run, revertToRevision, hcheck, hcontent]
        rfl
      · exact absurd h (by simp)

variable (cfg) in
theorem apply_of_text_none (h : e.text s = none) : e.apply cfg s = s := by
  obtain ⟨err, herr⟩ := run_of_text_none cfg h
  unfold SkillEdit.apply
  rw [herr]
  rfl

variable (cfg) in
theorem apply_of_text (h : e.text s = some (skillId, text)) :
    ∃ db₁, Written s db₁ e.startupId skillId text ∧
      e.apply cfg s = appendRevision e.env db₁ skillId text e.author := by
  obtain ⟨db₁, hwritten, hrun⟩ := run_of_text cfg h
  refine ⟨db₁, hwritten, ?_⟩
  unfold SkillEdit.apply
  rw [hrun]
  rfl

/-! ### One edit -/

/-- The revisions of every skill are numbered, also of one that is not there. -/
theorem exists_numbered (h : RevisionLog db) (skillId : String) : ∃ n, Numbered db.skills skillId n := by
  rcases hskill : db.skills.skills.lookup skillId with _ | skill
  · exact ⟨0, numbered_zero hskill⟩
  · obtain ⟨n, hn, -⟩ := h skillId skill hskill
    exact ⟨n, hn⟩

/-- The author of an edit is the same before and after the text is written. -/
theorem authorExists_of_written (h : Written db db₁ startupId skillId text) :
    authorExists db₁ author = authorExists db author := by
  cases author with
  | agent id =>
      unfold authorExists
      rw [h.agents]
  | operator id =>
      unfold authorExists
      rw [h.operators]

/-- What becomes of an edit that passes its checks. -/
inductive Edited (s : Db) (author : Author) (startupId skillId text : String) : Db → Prop
  /-- The text is the next revision of the skill. -/
  | logged {n : ℕ} {db₁ : Db} {id : String} {r : SkillRevision} {t : SkillTables} : authorExists s author →
      Written s db₁ startupId skillId text → Numbered s.skills skillId n → r.skillId = skillId → r.contentMd = text →
      r.revSeq = n + 1 → s.skills.revisions.lookup id = none → t.revisions = s.skills.revisions.insert id r →
      t.skills = db₁.skills.skills → Edited s author startupId skillId text (setSkills db₁ t)
  /-- The author has no row, and the text is kept without a revision. -/
  | unlogged {db₁ : Db} : ¬ authorExists s author → Written s db₁ startupId skillId text →
      Edited s author startupId skillId text db₁

variable (cfg) in
theorem edited_of_text (h : RevisionLog s) (hpossible : e.Possible s) (htext : e.text s = some (skillId, text)) :
    Edited s e.author e.startupId skillId text (e.apply cfg s) := by
  obtain ⟨db₁, hwritten, happly⟩ := apply_of_text cfg htext
  obtain ⟨n, hn⟩ := exists_numbered h skillId
  rw [happly]
  unfold appendRevision
  rw [authorExists_of_written hwritten]
  by_cases hauthor : authorExists s e.author
  · rw [if_pos hauthor]
    have hseq : (revisionRow e.env db₁ skillId text e.author).revSeq = n + 1 :=
      nextSeq_eq ((numbered_congr hwritten.revisions).mpr hn)
    -- the number of the new revision is free
    have hgranted : ∃ t, db₁.skills.insertRevision e.env.newId
        (revisionRow e.env db₁ skillId text e.author) = some t := by
      obtain ⟨skill, hskill, -⟩ := hwritten.live
      refine ⟨_, dif_pos ⟨hwritten.revisions ▸ hpossible.1, Option.isSome_of_mem hskill, fun r hr hsame => ?_⟩⟩
      rw [hwritten.revisions] at hr
      have hbounds := (hn.mem r.2.revSeq).mp ⟨_, r.1, r.2, AList.mem_lookup_iff.mpr hr, hsame, rfl, rfl⟩
      omega
    obtain ⟨t, ht⟩ := hgranted
    obtain ⟨-, hrevisions, hskills, -, -⟩ := SkillTables.insertRevision_eq_some ht
    rw [hwritten.revisions] at hrevisions
    rw [ht]
    exact .logged hauthor hwritten hn rfl rfl hseq hpossible.1 hrevisions hskills
  · rw [if_neg hauthor]
    exact .unlogged hauthor hwritten

/-- The text is live in any case. -/
theorem Edited.liveText {t : Db} (h : Edited s author startupId skillId text t) : t.LiveText skillId text := by
  cases h with
  | logged _ hwritten _ _ _ _ _ _ hskills =>
      obtain ⟨skill, hskill, hlive⟩ := hwritten.live
      exact ⟨skill, (congrArg (AList.lookup skillId) hskills).trans hskill, hlive⟩
  | unlogged _ hwritten => exact hwritten.live

/-- The revisions that exist stay as they are. -/
theorem Edited.kept {t : Db} (h : Edited s author startupId skillId text t) {id : String} {r : SkillRevision}
    (hr : s.skills.revisions.lookup id = some r) : t.skills.revisions.lookup id = some r := by
  cases h with
  | logged _ _ _ _ _ _ hnew hrevisions _ => exact revisions_kept hnew hrevisions hr
  | unlogged _ hwritten =>
      rw [hwritten.revisions]
      exact hr

/-- A text that is logged as the next revision. -/
theorem revisionLog_logged {n : ℕ} {id : String} {r : SkillRevision} {t : SkillTables} (h : RevisionLog db)
    (hwritten : Written db db₁ startupId r.skillId r.contentMd) (hn : Numbered db.skills r.skillId n)
    (hseq : r.revSeq = n + 1) (hnew : db.skills.revisions.lookup id = none)
    (hrevisions : t.revisions = db.skills.revisions.insert id r) (hskills : t.skills = db₁.skills.skills) :
    RevisionLog (setSkills db₁ t) := by
  intro skillId skill hskill
  have hskill₁ : db₁.skills.skills.lookup skillId = some skill :=
    (congrArg (AList.lookup skillId) hskills).symm.trans hskill
  by_cases hsame : skillId = r.skillId
  · subst hsame
    obtain ⟨skill', hskill', hlive⟩ := hwritten.live
    obtain rfl := Option.some.inj (hskill'.symm.trans hskill₁)
    refine ⟨n + 1, numbered_insert hnew hrevisions hn hseq, ?_⟩
    have hlast := hasRevision_new hrevisions
    rw [hseq, ← hlive] at hlast
    exact_mod_cast hlast
  · rw [hwritten.others skillId hsame] at hskill₁
    obtain ⟨m, hm, hlast⟩ := h skillId skill hskill₁
    exact ⟨m, numbered_insert_other hnew hrevisions hm (Ne.symm hsame), hasRevision_insert hnew hrevisions hlast⟩

/-- A text that is not logged: the log still agrees with it exactly if it is the same text as before. -/
theorem revisionLog_unlogged_iff (h : RevisionLog db) (hwritten : Written db db₁ startupId skillId text) :
    RevisionLog db₁ ↔ db.LiveText skillId text := by
  obtain ⟨skill₁, hskill₁, hlive⟩ := hwritten.live
  constructor
  · intro h₁
    obtain ⟨m, hm, hlast⟩ := h₁ skillId skill₁ hskill₁
    rw [numbered_congr hwritten.revisions] at hm
    rw [hasRevision_congr hwritten.revisions, hlive] at hlast
    rcases hskill : db.skills.skills.lookup skillId with _ | skill
    · -- a new skill has no revision that could agree
      have hbound := (hm.mem m).mp ⟨text, hlast⟩
      have hzero := hm.inj (numbered_zero hskill)
      omega
    · obtain ⟨n, hn, hlast'⟩ := h skillId skill hskill
      rw [hn.inj hm] at hlast'
      exact ⟨skill, hskill, hm.text_unique hlast' hlast⟩
  · rintro ⟨skill, hskill, hsame⟩ skillId' skill' hskill'
    have hback : (∃ n, Numbered db.skills skillId' n ∧ db.skills.HasRevision skillId' n skill'.contentMd) →
        ∃ n, Numbered db₁.skills skillId' n ∧ db₁.skills.HasRevision skillId' n skill'.contentMd := by
      simp only [numbered_congr hwritten.revisions, hasRevision_congr hwritten.revisions, imp_self]
    apply hback
    by_cases heq : skillId' = skillId
    · subst heq
      obtain rfl := Option.some.inj (hskill₁.symm.trans hskill')
      rw [hlive, ← hsame]
      exact h skillId' skill hskill
    · rw [hwritten.others skillId' heq] at hskill'
      exact h skillId' skill' hskill'

/-- The log agrees with the live texts after an edit exactly if the text is logged, or is the same as before. -/
theorem Edited.revisionLog_iff {t : Db} (h : RevisionLog s) (hedited : Edited s author startupId skillId text t) :
    RevisionLog t ↔ authorExists s author ∨ s.LiveText skillId text := by
  cases hedited with
  | logged hauthor hwritten hn hskill htext hseq hnew hrevisions hskills =>
      subst hskill htext
      exact iff_of_true (revisionLog_logged h hwritten hn hseq hnew hrevisions hskills) (.inl hauthor)
  | unlogged hauthor hwritten =>
      rw [revisionLog_unlogged_iff h hwritten]
      exact (or_iff_right hauthor).symm

/-- A revert that is granted passes the checks of its edit. -/
theorem text_of_revert {k : ℤ} {content : String} {db' : Db}
    (h : revertToRevision env s startupId skillId k author = .ok (content, db')) :
    (SkillEdit.revert env startupId skillId k author).text s = some (skillId, content) := by
  obtain ⟨howner, hcontent, -⟩ := revertToRevision_eq_ok h
  simp only [SkillEdit.text, if_pos howner, hcontent, Option.map_some]

variable (cfg) in
/-- **One edit** does what it should exactly if it meets the condition. -/
theorem keepsLog_iff (h : RevisionLog s) (hpossible : e.Possible s) :
    KeepsLog s e (e.apply cfg s) ↔ Logs s e := by
  constructor
  · intro hkeeps skillId text htext
    exact ((edited_of_text cfg h hpossible htext).revisionLog_iff h).mp hkeeps.log
  · intro hlogs
    rcases htext : e.text s with _ | ⟨skillId, text⟩
    · rw [apply_of_text_none cfg htext]
      refine ⟨h, fun _ _ hr => hr, ?_⟩
      rintro env startupId skillId revSeq author content db' rfl hrevert
      rw [text_of_revert hrevert] at htext
      exact absurd htext (by simp)
    · have hedited := edited_of_text cfg h hpossible htext
      refine ⟨(hedited.revisionLog_iff h).mpr (hlogs skillId text htext), fun _ _ hr => hedited.kept hr, ?_⟩
      rintro env startupId skillId' revSeq author content db' rfl hrevert
      obtain ⟨rfl, rfl⟩ := Prod.mk.inj (Option.some.inj ((text_of_revert hrevert).symm.trans htext))
      exact ⟨hasRevision_of_revisionContent (revertToRevision_eq_ok hrevert).2.1, hedited.liveText⟩

/-! ### Whose edits are logged -/

/-- The edits of an author who has a row. -/
theorem logs_of_authorExists (h : authorExists s e.author) : Logs s e :=
  fun _ _ _ => .inl h

/-- The edits of the agents of the startup. -/
theorem logs_of_agent {agentId : String} (hpossible : e.Possible s) (h : e.author = .agent agentId) : Logs s e := by
  obtain ⟨agent, hagent, -⟩ := hpossible.2 agentId h
  refine logs_of_authorExists ?_
  rw [h]
  exact Option.isSome_of_mem hagent

/-- The edits of every operator whom a token stands for, but the one who has no row. -/
theorem logs_of_validated {operators : Table String Operator} {token : String} {rewritten : Bool}
    {identity : OperatorIdentity}
    (hvalid : validateOperatorToken cfg s.operators token rewritten = .ok (identity, operators))
    (henv : identity ≠ envAdmin) (h : e.author = .operator identity.id) : Logs s e := by
  obtain ⟨row, hrow, -⟩ := Option.map_eq_some_iff.mp ((validateOperatorToken_eq_ok hvalid).1.resolve_left henv)
  refine logs_of_authorExists ?_
  rw [h]
  exact Option.isSome_of_mem hrow

/-! ### Where the edits come from -/

theorem handleSkillUpsert_edit {s s' : LoopState} {caller : AvatarView} {args v : Json}
    (h : handleSkillUpsert cfg env s caller args = .ok (v, s')) :
    ∃ name contentMd, s'.db =
      (SkillEdit.upsert env caller.startupId name contentMd (.agent caller.agentId)).apply cfg s.db := by
  unfold handleSkillUpsert at h
  simp only [bind_eq_ok, mapError_eq_ok, pure_eq_ok, Prod.mk.injEq] at h
  obtain ⟨name, -, contentMd, -, ⟨⟨id, created⟩, db⟩, hdb, -, rfl⟩ := h
  refine ⟨name, contentMd, ?_⟩
  simp only [SkillEdit.apply, SkillEdit.run, hdb]
  rfl

theorem handleSkillRevert_edit {s s' : LoopState} {caller : AvatarView} {args v : Json}
    (h : handleSkillRevert env s caller args = .ok (v, s')) :
    ∃ skillId revSeq, s'.db =
      (SkillEdit.revert env caller.startupId skillId revSeq (.agent caller.agentId)).apply cfg s.db := by
  unfold handleSkillRevert at h
  simp only [bind_eq_ok, mapError_eq_ok, pure_eq_ok, Prod.mk.injEq] at h
  obtain ⟨skillId, -, revSeq, -, ⟨contentMd, db⟩, hdb, -, rfl⟩ := h
  refine ⟨skillId, revSeq, ?_⟩
  simp only [SkillEdit.apply, SkillEdit.run, hdb]
  rfl

theorem skillUpsertOperator_edit {s s' : LoopState} {identity : OperatorIdentity} {contentMd : String} {v : Json}
    (h : skillUpsertOperator cfg env s identity startupId name contentMd = .ok (v, s')) :
    s'.db = (SkillEdit.upsert env startupId name contentMd (.operator identity.id)).apply cfg s.db := by
  unfold skillUpsertOperator at h
  simp only [bind_eq_ok, mapError_eq_ok, pure_eq_ok, Prod.mk.injEq] at h
  obtain ⟨_, -, ⟨⟨id, created⟩, db⟩, hdb, -, rfl⟩ := h
  simp only [SkillEdit.apply, SkillEdit.run, hdb]
  rfl

theorem skillRevertOperator_edit {s s' : LoopState} {identity : OperatorIdentity} {revSeq : ℤ} {v : Json}
    (h : skillRevertOperator env s identity startupId skillId revSeq = .ok (v, s')) :
    s'.db = (SkillEdit.revert env startupId skillId revSeq (.operator identity.id)).apply cfg s.db := by
  unfold skillRevertOperator at h
  simp only [bind_eq_ok, mapError_eq_ok, pure_eq_ok, Prod.mk.injEq] at h
  obtain ⟨_, -, ⟨contentMd, db⟩, hdb, -, rfl⟩ := h
  simp only [SkillEdit.apply, SkillEdit.run, hdb]
  rfl

end Edits

/-- There is nothing to agree with at first. -/
theorem revisionLog_of_empty {db : Db} (h : db.skills = .empty) : RevisionLog db := by
  intro skillId skill hskill
  rw [h] at hskill
  exact absurd hskill (by simp [SkillTables.empty])

/-- **The log of the revisions**: from no skills on, every edit of a run keeps the log in agreement with the live
texts exactly if each of them meets the condition. -/
theorem revision_log_iff (cfg : Config) {s t : Db} {es : List SkillEdit} (hs : (revisionSystem cfg).init s) :
    Run ((revisionSystem cfg).restrict Logs).step s es t ↔ Run ((revisionSystem cfg).keeping KeepsLog).step s es t := by
  refine System.run_restrict_iff_keeping ?_ (fun _ _ _ _ _ hkeeps => hkeeps.log) (revisionLog_of_empty hs)
  rintro s e _ ⟨hpossible, rfl⟩ h
  exact keepsLog_iff cfg h hpossible

/-! ### With and without a row -/

section Possible

variable {db : Db} {e : SkillEdit} (hnew : db.skills.revisions.lookup e.env.newId = none)

include hnew

theorem possible_agent {agentId : String} (h : e.author = .agent agentId)
    (hagent : (db.agents.lookup agentId).map Agent.startupId = some e.startupId) : e.Possible db := by
  refine ⟨hnew, fun agentId' h' => ?_⟩
  obtain rfl := Author.agent.inj (h.symm.trans h')
  exact Option.map_eq_some_iff.mp hagent

theorem possible_operator {operatorId : String} (h : e.author = .operator operatorId) : e.Possible db :=
  ⟨hnew, fun _ h' => nomatch h.symm.trans h'⟩

end Possible

/-- The engineer writes a skill, the admin changes it, and the engineer reverts it. -/
def sampleEdits : List SkillEdit :=
  [.upsert (sampleEnv 1 "1") "s-1" "notes" "first" (.agent "a-2"),
    .upsert (sampleEnv 2 "2") "s-1" "notes" "second" (.operator "op_default"),
    .revert (sampleEnv 3 "3") "s-1" "1" 1 (.agent "a-2")]

/-- All three authors have a row. -/
theorem revision_log_sample :
    Run ((revisionSystem sampleConfig).keeping KeepsLog).step sampleStartup.state.db sampleEdits
      (sampleEdits.foldl (SkillEdit.apply sampleConfig) sampleStartup.state.db) := by
  have hinit : (revisionSystem sampleConfig).init sampleStartup.state.db := rfl
  refine (revision_log_iff sampleConfig hinit).mp (.cons ⟨?_, ?_, rfl⟩ (.cons ⟨?_, ?_, rfl⟩
    (.cons ⟨?_, ?_, rfl⟩ (.nil _))))
  · exact logs_of_authorExists (by decide +kernel)
  · exact possible_agent (by decide +kernel) rfl (by decide +kernel)
  · exact logs_of_authorExists (by decide +kernel)
  · exact possible_operator (by decide +kernel) rfl
  · exact logs_of_authorExists (by decide +kernel)
  · exact possible_agent (by decide +kernel) rfl (by decide +kernel)

/-- **Not for every operator**: the one whom the token of the environment stands for has no row, so the text of a
new skill is kept without a revision. -/
theorem not_revision_log :
    ¬ ∀ (cfg : Config) (s t : Db) (es : List SkillEdit), (revisionSystem cfg).init s →
      (∀ e ∈ es, ∀ operatorId, e.author = .operator operatorId → ∃ token rewritten identity operators,
        validateOperatorToken cfg s.operators token rewritten = .ok (identity, operators) ∧
          identity.id = operatorId) →
      Run (revisionSystem cfg).step s es t → RevisionLog t := by
  intro h
  let e : SkillEdit := .upsert (sampleEnv 1 "1") "s-1" "notes" "first" (.operator "op_env")
  have hvalid : ∀ e' ∈ [e], ∀ operatorId, e'.author = .operator operatorId → ∃ token rewritten identity operators,
      validateOperatorToken deployedConfig sampleStartup.state.db.operators token rewritten =
        .ok (identity, operators) ∧ identity.id = operatorId := by
    intro e' he' operatorId hauthor
    obtain rfl := List.mem_singleton.mp he'
    obtain rfl := Author.operator.inj hauthor
    exact ⟨"ops-token", true, envAdmin, sampleStartup.state.db.operators, rfl, rfl⟩
  have hpossible : e.Possible sampleStartup.state.db := possible_operator (by decide +kernel) rfl
  have hlog := h deployedConfig sampleStartup.state.db _ [e] rfl hvalid (.cons ⟨hpossible, rfl⟩ (.nil _))
  have hskill : ((e.apply deployedConfig sampleStartup.state.db).skills.skills.lookup "1").map Skill.contentMd =
      some "first" := by decide +kernel
  have hrevisions : (e.apply deployedConfig sampleStartup.state.db).skills.revisions.entries = [] := by
    decide +kernel
  obtain ⟨skill, hskill, -⟩ := Option.map_eq_some_iff.mp hskill
  obtain ⟨n, -, id, r, hr, -⟩ := hlog "1" skill hskill
  have hmem := AList.mem_lookup_iff.mp hr
  rw [hrevisions] at hmem
  exact absurd hmem (List.not_mem_nil)

end Cliptown.Task
