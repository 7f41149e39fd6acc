import Cliptown.Task.SkillFrames

/-!
# The skills at a console

A console keeps the skills of all startups. It starts from the listing of the server, and takes a frame for every
operation after that.

* `SkillUpdate.effect` — what a frame does to the skill that it names; `shown_take` — that it does no more.
* `ReplicaState`, `replicaSystem` — the tables and the console, under any sequence of operations.
* `Converged` — the console shows what the listing of the server would.
* `OnlyAt` — an operation changes one skill; `converged_take_iff` — when its frame tells all of it.
* `Conveyed` — the condition on an operation: a text that is written without a row in the frame has the length of the
  text before, and a flag that is set has the value already.
* `replica_converges_iff` — the operations of a run keep the console converged exactly if each meets the condition.
-/

namespace Cliptown.Task

open Cliptown.Lib Cliptown.World Cliptown.Console

/-! ### Taking a frame -/

/-- What an update does to the skill that it is for. -/
def SkillUpdate.effect (shown : Option Shown) : SkillUpdate → Option Shown
  | put skill => some skill.shown
  | drop => none
  | attach agentId => shown.map fun s => { s with attachments := insert agentId s.attachments }
  | detach agentId => shown.map fun s => { s with attachments := s.attachments.erase agentId }
  | nothing => shown

section Taking

variable {r : SkillReplica} {m : SkillChanged} {startupId skillId id : String}

/-- The skills of one startup after an update. -/
theorem lookup_changeSkills (inner : Table String SkillVM) (update : SkillUpdate) :
    ((changeSkills skillId inner update).lookup id).map SkillVM.shown =
      if id = skillId then update.effect ((inner.lookup id).map SkillVM.shown)
      else (inner.lookup id).map SkillVM.shown := by
  by_cases hid : id = skillId
  · subst hid
    rw [if_pos rfl]
    cases update with
    | put skill => exact congrArg (Option.map SkillVM.shown) (AList.lookup_insert inner)
    | drop => exact congrArg (Option.map SkillVM.shown) (AList.lookup_erase id inner)
    | attach agentId =>
        simp only [changeSkills, SkillUpdate.effect]
        rw [Table.lookup_modify_self, Option.map_map, Option.map_map]
        congr 1
        funext skill
        by_cases hmem : agentId ∈ skill.attachments
        · simp [SkillVM.shown, hmem]
        · simp [SkillVM.shown, hmem]
    | detach agentId =>
        simp only [changeSkills, SkillUpdate.effect]
        rw [Table.lookup_modify_self, Option.map_map, Option.map_map]
        congr 1
        funext skill
        simp only [Function.comp_apply, SkillVM.shown, Shown.mk.injEq, true_and]
        ext a
        simp [and_comm]
    | nothing => rfl
  · rw [if_neg hid]
    cases update with
    | put skill => exact congrArg (Option.map SkillVM.shown) (AList.lookup_insert_ne hid)
    | drop => exact congrArg (Option.map SkillVM.shown) (AList.lookup_erase_ne hid)
    | attach agentId => exact congrArg (Option.map SkillVM.shown) (Table.lookup_modify_ne inner hid _)
    | detach agentId => exact congrArg (Option.map SkillVM.shown) (Table.lookup_modify_ne inner hid _)
    | nothing => rfl

/-- **A frame** changes the skill that it names, and no other. -/
theorem shown_take : (r.take m).shown startupId id =
    if startupId = m.startupId ∧ id = m.skillId then m.update.effect (r.shown startupId id)
    else r.shown startupId id := by
  have hinner : ∀ inner : Option (Table String SkillVM), (inner.getD ∅).lookup id = inner.bind (·.lookup id) := by
    intro inner
    cases inner with
    | none => exact AList.lookup_empty id
    | some inner => rfl
  unfold SkillReplica.shown SkillReplica.take
  by_cases hstartup : startupId = m.startupId
  · subst hstartup
    rw [AList.lookup_insert, Option.bind_some, lookup_changeSkills, hinner]
    by_cases hid : id = m.skillId
    · rw [if_pos hid, if_pos ⟨rfl, hid⟩]
    · rw [if_neg hid, if_neg fun h => hid h.2]
  · rw [AList.lookup_insert_ne hstartup, if_neg fun h => hstartup h.1]

end Taking

/-! ### Taking the listing -/

section Snapshot

variable {db : Db} {startupId id : String}

/-- A row survives the way to the console. -/
theorem shown_coerceSkill (s : SkillWithAttachments) :
    (coerceSkill (skillWithAttachmentsToJson s)).shown = s.shown := by
  have hattachments : (s.attachments.map Json.str).filterMap Json.asStr = s.attachments := by
    rw [List.filterMap_map]
    exact List.filterMap_some
  change Shown.mk s.id s.name s.len (decide (some s.isGlobal = some true))
    ((s.attachments.map Json.str).filterMap Json.asStr).toFinset = s.shown
  rw [hattachments]
  simp [SkillWithAttachments.shown]

/-- The skills of a startup, taken from the listing. -/
theorem lookup_takeRows (hids : db.skills.skills.lookup "" = none) :
    (takeRows ((listWithAttachments db startupId).map skillWithAttachmentsToJson)).lookup id =
      ((db.skills.skills.lookup id).filter fun skill => skill.startupId = startupId).map fun skill =>
        coerceSkill (skillWithAttachmentsToJson (db.skills.listRow id skill)) := by
  -- what the rows of the listing are once they are taken
  have hmem : ∀ k v, (k, v) ∈ ((((listWithAttachments db startupId).map skillWithAttachmentsToJson).filter
      jsonIsObject).map coerceSkill).filterMap (fun skill => if skill.id ≠ "" then some (skill.id, skill) else none) ↔
      ∃ skill, db.skills.skills.lookup k = some skill ∧ skill.startupId = startupId ∧
        coerceSkill (skillWithAttachmentsToJson (db.skills.listRow k skill)) = v := by
    intro k v
    have hall : ((listWithAttachments db startupId).map skillWithAttachmentsToJson).filter jsonIsObject =
        (listWithAttachments db startupId).map skillWithAttachmentsToJson := by
      refine List.filter_eq_self.mpr fun raw hraw => ?_
      obtain ⟨s, -, rfl⟩ := List.mem_map.mp hraw
      rfl
    rw [hall, List.mem_filterMap]
    constructor
    · rintro ⟨vm, hvm, htaken⟩
      obtain ⟨_, hraw, rfl⟩ := List.mem_map.mp hvm
      obtain ⟨s, hs, rfl⟩ := List.mem_map.mp hraw
      obtain ⟨k', skill, hskill, hstartup, rfl⟩ := mem_listWithAttachments.mp hs
      split at htaken
      · obtain ⟨rfl, rfl⟩ := Prod.mk.inj (Option.some.inj htaken)
        exact ⟨skill, hskill, hstartup, rfl⟩
      · exact absurd htaken (by simp)
    · rintro ⟨skill, hskill, hstartup, rfl⟩
      refine ⟨_, List.mem_map_of_mem (List.mem_map_of_mem
        (mem_listWithAttachments.mpr ⟨k, skill, hskill, hstartup, rfl⟩)), if_pos ?_⟩
      rintro rfl
      exact absurd (hids.symm.trans hskill) (by simp)
  refine Option.ext fun v => ?_
  unfold takeRows
  rw [Table.lookup_ofList_iff, hmem, Option.map_eq_some_iff]
  · simp only [Option.filter_eq_some_iff, decide_eq_true_eq, and_assoc]
  · intro k v v' hv hv'
    obtain ⟨skill, hskill, -, rfl⟩ := (hmem k v).mp hv
    obtain ⟨skill', hskill', -, rfl⟩ := (hmem k v').mp hv'
    rw [Option.some.inj (hskill.symm.trans hskill')]

/-- **The first frame** shows what the tables show. -/
theorem shown_takeSnapshot (r : SkillReplica) (hids : db.skills.skills.lookup "" = none) :
    (r.takeSnapshot (skillsSnapshot db)).shown startupId id = db.shown startupId id := by
  let taken (startupId : String) : Table String SkillVM :=
    takeRows ((listWithAttachments db startupId).map skillWithAttachmentsToJson)
  have hskills : (r.takeSnapshot (skillsSnapshot db)).skills =
      Table.ofList ((listAllWithAttachments db).map fun e => (e.1, takeRows (e.2.map skillWithAttachmentsToJson))) := by
    change Table.ofList (((listAllWithAttachments db).map _).filterMap _) = _
    rw [List.filterMap_map]
    exact congrArg Table.ofList (congrFun List.filterMap_eq_map _)
  have hmem : ∀ k inner, (k, inner) ∈ (listAllWithAttachments db).map
      (fun e => (e.1, takeRows (e.2.map skillWithAttachmentsToJson))) ↔
      inner = taken k ∧ ∃ id skill, db.skills.skills.lookup id = some skill ∧ skill.startupId = k := by
    intro k inner
    rw [List.mem_map]
    constructor
    · rintro ⟨e, he, heq⟩
      obtain ⟨rfl, rfl⟩ := Prod.mk.inj heq
      obtain ⟨hrows, hskill⟩ := mem_listAllWithAttachments.mp he
      exact ⟨by rw [hrows], hskill⟩
    · rintro ⟨rfl, hskill⟩
      exact ⟨(k, listWithAttachments db k), mem_listAllWithAttachments.mpr ⟨rfl, hskill⟩, rfl⟩
  have hlookup : ∀ inner, (r.takeSnapshot (skillsSnapshot db)).skills.lookup startupId = some inner ↔
      inner = taken startupId ∧ ∃ id skill, db.skills.skills.lookup id = some skill ∧ skill.startupId = startupId := by
    intro inner
    rw [hskills, Table.lookup_ofList_iff, hmem]
    intro k inner inner' h h'
    rw [((hmem k inner).mp h).1, ((hmem k inner').mp h').1]
  unfold SkillReplica.shown Db.shown
  rcases hinner : (r.takeSnapshot (skillsSnapshot db)).skills.lookup startupId with _ | inner
  · -- the startup has no skills
    have hnone : (db.skills.skills.lookup id).filter (fun skill => skill.startupId = startupId) = none := by
      refine Option.filter_eq_none_iff.mpr fun skill hskill hstartup => ?_
      have hsome := (hlookup _).mpr ⟨rfl, id, skill, hskill, of_decide_eq_true hstartup⟩
      exact absurd (hinner.symm.trans hsome) (by simp)
    rw [hnone]
    rfl
  · obtain ⟨rfl, -⟩ := (hlookup inner).mp hinner
    rw [Option.bind_some, lookup_takeRows hids, Option.map_map]
    congr 1
    funext skill
    exact shown_coerceSkill _

end Snapshot

/-! ### What an operation shows -/

/-- No other skill shows a change, and no agent. -/
structure OnlyAt (db db' : Db) (startupId skillId : String) : Prop where
  shown : ∀ S i, ¬ (S = startupId ∧ i = skillId) → db'.shown S i = db.shown S i
  agents : db'.agents = db.agents

section Tables

variable {db db' : Db} {startupId skillId id : String}

theorem shown_of_lookup {skill : Skill} (h : db.skills.skills.lookup id = some skill)
    (hstartup : skill.startupId = startupId) :
    db.shown startupId id = some (db.skills.listRow id skill).shown := by
  unfold Db.shown
  rw [h, Option.filter_some, if_pos (decide_eq_true hstartup), Option.map_some]

theorem shown_eq_none (h : ∀ skill, db.skills.skills.lookup id = some skill → skill.startupId ≠ startupId) :
    db.shown startupId id = none :=
  Option.map_eq_none_iff.mpr (Option.filter_eq_none_iff.mpr fun skill hskill => by simpa using h skill hskill)

/-- The agents that have a skill are all that a row takes from the attachments. -/
theorem listRow_congr (t t' : SkillTables) {skill : Skill}
    (h : ∀ a, (t'.attachments.lookup (a, id)).isSome = (t.attachments.lookup (a, id)).isSome) :
    (t'.listRow id skill).shown = (t.listRow id skill).shown := by
  have hattachments : (t'.attachmentsOf id).toFinset = (t.attachmentsOf id).toFinset := by
    ext a
    rw [List.mem_toFinset, List.mem_toFinset, mem_attachmentsOf, mem_attachmentsOf, h]
  simp only [SkillTables.listRow, SkillWithAttachments.shown, hattachments]

theorem shown_congr (hskill : db'.skills.skills.lookup id = db.skills.skills.lookup id)
    (hattachments : ∀ a, (db'.skills.attachments.lookup (a, id)).isSome =
      (db.skills.attachments.lookup (a, id)).isSome) :
    db'.shown startupId id = db.shown startupId id := by
  unfold Db.shown
  rw [hskill]
  congr 1
  funext skill
  exact listRow_congr _ _ hattachments

/-- A skill of one startup is written, and the others stay as they are. -/
theorem onlyAt_of (hbefore : ∀ S, db.skills.ownerOf skillId = some S → S = startupId)
    (hafter : ∀ S, db'.skills.ownerOf skillId = some S → S = startupId)
    (hskills : ∀ i, i ≠ skillId → db'.skills.skills.lookup i = db.skills.skills.lookup i)
    (hattachments : ∀ a i, i ≠ skillId → (db'.skills.attachments.lookup (a, i)).isSome =
      (db.skills.attachments.lookup (a, i)).isSome)
    (hagents : db'.agents = db.agents) : OnlyAt db db' startupId skillId := by
  refine ⟨fun S i hother => ?_, hagents⟩
  by_cases hi : i = skillId
  · subst hi
    have hS : S ≠ startupId := fun heq => hother ⟨heq, rfl⟩
    have hnone : ∀ db₀ : Db, (∀ S', db₀.skills.ownerOf i = some S' → S' = startupId) → db₀.shown S i = none := by
      intro db₀ howner
      refine shown_eq_none fun skill hskill heq => hS ?_
      exact howner S ((SkillTables.ownerOf_eq_some_iff _).mpr ⟨skill, hskill, heq⟩)
    rw [hnone db' hafter, hnone db hbefore]
  · exact shown_congr (hskills i hi) fun a => hattachments a i hi

end Tables

/-! ### Convergence -/

/-- The console shows what the listing of the server would. -/
def Converged (r : SkillReplica) (db : Db) : Prop :=
  ∀ startupId id, r.shown startupId id = shownIn (listAllWithAttachments db) startupId id

/-- **One frame** keeps the console converged exactly if it tells all that its operation changed. -/
theorem converged_take_iff {r : SkillReplica} {db db' : Db} {m : SkillChanged} (h : Converged r db)
    (honly : OnlyAt db db' m.startupId m.skillId) :
    Converged (r.take m) db' ↔
      m.update.effect (db.shown m.startupId m.skillId) = db'.shown m.startupId m.skillId := by
  have hshown : ∀ S i, r.shown S i = db.shown S i := fun S i => (h S i).trans shownIn_listAllWithAttachments
  simp only [Converged, shownIn_listAllWithAttachments, shown_take, hshown]
  constructor
  · intro hall
    have hat := hall m.startupId m.skillId
    rwa [if_pos ⟨rfl, rfl⟩] at hat
  · intro heq S i
    split
    · rename_i hat
      obtain ⟨rfl, rfl⟩ := hat
      exact heq
    · rename_i hother
      exact (honly.shown S i hother).symm

/-- The condition on an operation. A text that is written without a row in the frame has the length of the live text,
and a flag that is set has the value already. -/
def Conveyed (db : Db) : SkillOp → Prop
  | .edit (.upsert _ _ _ _ (.agent _)) => True
  | .edit e => ∀ skillId text, e.text db = some (skillId, text) →
      ∃ skill, db.skills.skills.lookup skillId = some skill ∧ sqlLength skill.contentMd = sqlLength text
  | .setGlobal _ skillId isGlobal => ∀ skill, db.skills.skills.lookup skillId = some skill →
      skill.isGlobal = isGlobal
  | _ => True

section Operations

variable {cfg : Config} {env : Env} {db db' db₁ : Db} {startupId skillId agentId text : String}

/-! ### Edits -/

/-- A revision is not in the listing. -/
theorem shown_appendRevision (author : Author) (S i : String) :
    (appendRevision env db skillId text author).shown S i = db.shown S i ∧
      (appendRevision env db skillId text author).agents = db.agents := by
  unfold appendRevision
  split
  · split
    · rename_i t ht
      obtain ⟨-, -, hskills, -, hattachments⟩ := SkillTables.insertRevision_eq_some ht
      refine ⟨shown_congr (congrArg (AList.lookup i) hskills) fun a => ?_, rfl⟩
      exact congrArg (fun rows => (AList.lookup (a, i) rows).isSome) hattachments
    · exact ⟨rfl, rfl⟩
  · exact ⟨rfl, rfl⟩

/-- Only the skill whose text is written shows a change. -/
theorem onlyAt_written (h : Written db db₁ startupId skillId text) : OnlyAt db db₁ startupId skillId := by
  refine onlyAt_of (fun S howner => ?_) (fun S howner => ?_) h.others (fun a i _ => by rw [h.attachments]) h.agents
  · -- the skill belonged to the startup before
    obtain ⟨skill, hskill, rfl⟩ := (SkillTables.ownerOf_eq_some_iff _).mp howner
    obtain ⟨skill', hskill', rfl⟩ := (SkillTables.ownerOf_eq_some_iff _).mp h.owner
    exact (h.same skill skill' hskill hskill').1.symm
  · exact Option.some.inj (howner.symm.trans h.owner)

/-- A text shows no change exactly if it has the length of the text before. -/
theorem shown_written_iff (h : Written db db₁ startupId skillId text) :
    db.shown startupId skillId = db₁.shown startupId skillId ↔
      ∃ skill, db.skills.skills.lookup skillId = some skill ∧ sqlLength skill.contentMd = sqlLength text := by
  obtain ⟨skill', hskill', hstartup⟩ := (SkillTables.ownerOf_eq_some_iff _).mp h.owner
  have htext : skill'.contentMd = text := by
    obtain ⟨skill₁, hskill₁, htext⟩ := h.live
    rw [Option.some.inj (hskill'.symm.trans hskill₁), htext]
  rw [shown_of_lookup hskill' hstartup]
  constructor
  · intro hshown
    obtain ⟨skill, hskill, hrow⟩ := Option.map_eq_some_iff.mp hshown
    refine ⟨skill, (Option.filter_eq_some_iff.mp hskill).1, ?_⟩
    rw [← htext]
    exact Rat.natCast_inj.mp (congrArg Shown.len hrow)
  · rintro ⟨skill, hskill, hlength⟩
    obtain ⟨hsame, hname, hglobal⟩ := h.same skill skill' hskill hskill'
    rw [shown_of_lookup hskill (hsame.symm.trans hstartup), listRow_congr db.skills db₁.skills
      fun a => by rw [h.attachments]]
    simp only [SkillTables.listRow, SkillWithAttachments.shown, hname, hglobal, htext, hlength]

/-- The row in the frame of an agent is the one of the listing. -/
theorem effect_row {m : SkillChanged} {S i : String} {skill : Skill}
    (hkind : m.kind = "upsert") (hskill : db.skills.skills.lookup i = some skill) (hstartup : skill.startupId = S)
    (hrow : m.skill = ((listWithAttachments db S).find? fun s => s.id = i).map skillWithAttachmentsToJson)
    (shown : Option Shown) : m.update.effect shown = db.shown S i := by
  have hupdate : m.update = .put (coerceSkill (skillWithAttachmentsToJson (db.skills.listRow i skill))) := by
    rw [find_listWithAttachments, hskill, Option.filter_some, if_pos (decide_eq_true hstartup), Option.map_some,
      Option.map_some] at hrow
    unfold SkillChanged.update
    rw [hkind, hrow]
    rfl
  rw [hupdate, shown_of_lookup hskill hstartup]
  exact congrArg some (shown_coerceSkill _)

/-- What a frame is to tell: its operation changes the skill that it names only, and what the console makes of the
frame is what the tables show exactly if the condition holds. -/
structure Tells (db db' : Db) (m : SkillChanged) (condition : Prop) : Prop where
  only : OnlyAt db db' m.startupId m.skillId
  iff : m.update.effect (db.shown m.startupId m.skillId) = db'.shown m.startupId m.skillId ↔ condition

theorem tells_edit {e : SkillEdit} {m : SkillChanged} (h : (SkillOp.edit e).run cfg db = .ok (db', m)) :
    Tells db db' m (Conveyed db (.edit e)) := by
  unfold SkillOp.run at h
  simp only [bind_eq_ok, pure_eq_ok, Prod.mk.injEq] at h
  obtain ⟨⟨id, db''⟩, hrun, rfl, rfl⟩ := h
  rcases htext : e.text db with _ | ⟨skillId, text⟩
  · obtain ⟨err, herr⟩ := run_of_text_none cfg htext
    exact nomatch herr.symm.trans hrun
  obtain ⟨db₁, hwritten, hok⟩ := run_of_text cfg htext
  obtain ⟨rfl, rfl⟩ := Prod.mk.inj (Except.ok.inj (hrun.symm.trans hok))
  have hshown : ∀ S i, (appendRevision e.env db₁ id text e.author).shown S i = db₁.shown S i :=
    fun S i => (shown_appendRevision e.author S i).1
  have honly : OnlyAt db (appendRevision e.env db₁ id text e.author) e.startupId id := by
    have hwrite := onlyAt_written hwritten
    exact ⟨fun S i hother => (hshown S i).trans (hwrite.shown S i hother),
      (shown_appendRevision e.author "" "").2.trans hwrite.agents⟩
  have hsilent : (db.shown e.startupId id = (appendRevision e.env db₁ id text e.author).shown e.startupId id ↔
      ∀ id' text', e.text db = some (id', text') →
        ∃ skill, db.skills.skills.lookup id' = some skill ∧ sqlLength skill.contentMd = sqlLength text') := by
    rw [hshown, shown_written_iff hwritten]
    constructor
    · intro hlength id' text' htext'
      obtain ⟨rfl, rfl⟩ := Prod.mk.inj (Option.some.inj (htext.symm.trans htext'))
      exact hlength
    · exact fun hall => hall id text htext
  cases e with
  | upsert env startupId name contentMd author =>
      cases author with
      | agent agentId =>
          obtain ⟨skill₁, hskill₁, hstartup₁⟩ := (SkillTables.ownerOf_eq_some_iff _).mp hwritten.owner
          obtain ⟨skill, hskill, -⟩ := Option.map_eq_some_iff.mp
            ((hshown startupId id).trans (shown_of_lookup hskill₁ hstartup₁))
          obtain ⟨hskill, hstartup⟩ := Option.filter_eq_some_iff.mp hskill
          exact ⟨honly, iff_of_true (effect_row rfl hskill (of_decide_eq_true hstartup) rfl _) trivial⟩
      | operator operatorId => exact ⟨honly, hsilent⟩
  | revert env startupId skillId revSeq author => exact ⟨honly, hsilent⟩

/-! ### The other operations -/

/-- The skill that is checked belongs to the startup. -/
theorem ownerOf_checkSkill {u : Unit} (h : checkSkill db startupId skillId = .ok u) :
    db.skills.ownerOf skillId = some startupId :=
  (SkillTables.ownerOf_eq_some_iff _).mpr (checkSkill_eq_ok.mp h)

theorem tells_delete {m : SkillChanged} (h : (SkillOp.delete startupId skillId).run cfg db = .ok (db', m)) :
    Tells db db' m True := by
  simp only [SkillOp.run, deleteSkill, bind_eq_ok, pure_eq_ok, Prod.mk.injEq] at h
  obtain ⟨_, ⟨_, hcheck, rfl⟩, rfl, rfl⟩ := h
  have howner := ownerOf_checkSkill hcheck
  have hgone : (db.skills.deleteSkill skillId).skills.lookup skillId = none := AList.lookup_erase _ _
  refine ⟨onlyAt_of (fun S hS => Option.some.inj (hS.symm.trans howner)) (fun S hS => ?_)
    (fun i hne => AList.lookup_erase_ne hne) (fun a i hne => ?_) rfl, iff_of_true ?_ trivial⟩
  · obtain ⟨skill, hskill, -⟩ := (SkillTables.ownerOf_eq_some_iff _).mp hS
    exact absurd (hgone.symm.trans hskill) (by simp)
  · change ((db.skills.attachments.deleteWhere fun key _ => decide (key.2 = skillId)).lookup (a, i)).isSome = _
    rw [Table.lookup_deleteWhere]
    simp [hne]
  · exact (shown_eq_none fun skill hskill => absurd (hgone.symm.trans hskill) (by simp)).symm

/-- The agents that have one skill change. -/
theorem tells_attachments {m : SkillChanged} {f : Finset String → Finset String}
    (howner : db.skills.ownerOf m.skillId = some m.startupId) (hskills : db'.skills.skills = db.skills.skills)
    (hagents : db'.agents = db.agents)
    (hothers : ∀ a i, i ≠ m.skillId → ((db'.skills.attachments.lookup (a, i)).isSome ↔
      (db.skills.attachments.lookup (a, i)).isSome))
    (hattachments : ∀ a, a ∈ db'.skills.attachmentsOf m.skillId ↔
      a ∈ f (db.skills.attachmentsOf m.skillId).toFinset)
    (heffect : ∀ shown, m.update.effect shown = shown.map fun s => { s with attachments := f s.attachments }) :
    Tells db db' m True := by
  have howner' : db'.skills.ownerOf m.skillId = some m.startupId := by
    unfold SkillTables.ownerOf
    rw [hskills]
    exact howner
  refine ⟨onlyAt_of (fun S hS => Option.some.inj (hS.symm.trans howner))
    (fun S hS => Option.some.inj (hS.symm.trans howner')) (fun i _ => by rw [hskills])
    (fun a i hi => Bool.eq_iff_iff.mpr (hothers a i hi)) hagents, iff_of_true ?_ trivial⟩
  obtain ⟨skill, hskill, hstartup⟩ := (SkillTables.ownerOf_eq_some_iff _).mp howner
  have hfinset : (db'.skills.attachmentsOf m.skillId).toFinset = f (db.skills.attachmentsOf m.skillId).toFinset := by
    ext a
    rw [List.mem_toFinset, hattachments]
  rw [heffect, shown_of_lookup hskill hstartup,
    shown_of_lookup ((congrArg (AList.lookup m.skillId) hskills).trans hskill) hstartup]
  simp only [Option.map_some, SkillTables.listRow, SkillWithAttachments.shown, hfinset]

/-- An agent that is checked has an id. -/
theorem ne_of_checkSkillAgent {u : Unit} (hids : db.agents.lookup "" = none)
    (h : checkSkillAgent db startupId agentId = .ok u) : agentId ≠ "" := by
  rintro rfl
  obtain ⟨agent, hlookup, -⟩ := checkSkillAgent_eq_ok.mp h
  exact absurd (hids.symm.trans hlookup) (by simp)

theorem tells_attach {m : SkillChanged} (hids : db.agents.lookup "" = none)
    (h : (SkillOp.attach env startupId agentId skillId).run cfg db = .ok (db', m)) : Tells db db' m True := by
  simp only [SkillOp.run, attachSkill, bind_eq_ok, require_eq_ok, pure_eq_ok, Prod.mk.injEq] at h
  obtain ⟨_, ⟨_, hcheck, _, hagent, t, ht, rfl⟩, rfl, rfl⟩ := h
  have hsome : ∀ key, ((setSkills db t).skills.attachments.lookup key).isSome ↔ _ := SkillTables.isSome_attach ht
  refine tells_attachments (f := insert agentId) (ownerOf_checkSkill hcheck) (SkillTables.attach_eq_some ht).1 rfl
    (fun a i hi => ?_) (fun a => ?_) fun shown => ?_
  · rw [hsome]
    simp [hi]
  · rw [mem_attachmentsOf, hsome]
    simp [mem_attachmentsOf]
  · simp only [SkillChanged.update, Option.filter_some, decide_eq_true (ne_of_checkSkillAgent hids hagent), if_true]
    rfl

theorem tells_detach {m : SkillChanged} (hids : db.agents.lookup "" = none)
    (h : (SkillOp.detach startupId agentId skillId).run cfg db = .ok (db', m)) : Tells db db' m True := by
  simp only [SkillOp.run, detachSkill, bind_eq_ok, pure_eq_ok, Prod.mk.injEq] at h
  obtain ⟨_, ⟨_, hcheck, _, hagent, rfl⟩, rfl, rfl⟩ := h
  have hsome : ∀ key, ((setSkills db (db.skills.detach agentId skillId)).skills.attachments.lookup key).isSome ↔ _ :=
    SkillTables.isSome_detach
  refine tells_attachments (f := fun agents => agents.erase agentId) (ownerOf_checkSkill hcheck) rfl rfl
    (fun a i hi => ?_) (fun a => ?_) fun shown => ?_
  · rw [hsome]
    simp [hi]
  · rw [mem_attachmentsOf, hsome]
    simp [mem_attachmentsOf]
  · simp only [SkillChanged.update, Option.filter_some, decide_eq_true (ne_of_checkSkillAgent hids hagent), if_true]
    rfl

/-- What setting the flag writes. -/
theorem setGlobal_eq_ok {isGlobal : Bool} (h : setGlobal env db skillId isGlobal = .ok db') :
    ∃ skill, db.skills.skills.lookup skillId = some skill ∧
      db'.skills.skills.lookup skillId = some { skill with isGlobal, updatedAt := env.now } ∧
      (∀ i, i ≠ skillId → db'.skills.skills.lookup i = db.skills.skills.lookup i) ∧
      db'.skills.attachments = db.skills.attachments ∧ db'.agents = db.agents := by
  simp only [setGlobal, bind_eq_ok, require_eq_ok, pure_eq_ok] at h
  obtain ⟨skill, hskill, rfl⟩ := h
  refine ⟨skill, hskill, ?_, fun i hne => Table.lookup_modify_ne _ hne _, rfl, rfl⟩
  change (db.skills.skills.modify skillId _).lookup skillId = _
  rw [Table.lookup_modify_self, hskill]
  rfl

theorem tells_setGlobal {isGlobal : Bool} {m : SkillChanged}
    (h : (SkillOp.setGlobal env skillId isGlobal).run cfg db = .ok (db', m)) :
    Tells db db' m (Conveyed db (.setGlobal env skillId isGlobal)) := by
  simp only [SkillOp.run, bind_eq_ok, pure_eq_ok, Prod.mk.injEq] at h
  obtain ⟨db', hset, rfl, rfl⟩ := h
  obtain ⟨skill, hskill, hrow, hothers, hattachments, hagents⟩ := setGlobal_eq_ok hset
  have howner : db.skills.ownerOf skillId = some skill.startupId :=
    (SkillTables.ownerOf_eq_some_iff _).mpr ⟨skill, hskill, rfl⟩
  have howner' : db'.skills.ownerOf skillId = some skill.startupId :=
    (SkillTables.ownerOf_eq_some_iff _).mpr ⟨_, hrow, rfl⟩
  have hsilent : ∀ shown, SkillUpdate.effect shown (SkillChanged.update ⟨skill.startupId,
      if isGlobal then "set_global" else "clear_global", skillId, none, none⟩) = shown := by
    intro shown
    cases isGlobal <;> rfl
  rw [howner', Option.getD_some]
  constructor
  · exact onlyAt_of (fun S hS => Option.some.inj (hS.symm.trans howner))
      (fun S hS => Option.some.inj (hS.symm.trans howner')) hothers (fun a i _ => by rw [hattachments]) hagents
  · rw [hsilent, shown_of_lookup hskill rfl, shown_of_lookup hrow rfl,
      listRow_congr db.skills db'.skills fun a => by rw [hattachments]]
    constructor
    · intro hshown skill' hskill'
      obtain rfl := Option.some.inj (hskill.symm.trans hskill')
      exact congrArg Shown.isGlobal (Option.some.inj hshown)
    · intro hflag
      obtain rfl := hflag skill hskill
      rfl

/-- Files are not in the listing. -/
theorem tells_files {m : SkillChanged} (hskills : db'.skills.skills = db.skills.skills)
    (hattachments : db'.skills.attachments = db.skills.attachments) (hagents : db'.agents = db.agents)
    (hupdate : m.update = .nothing) : Tells db db' m True := by
  have hshown : ∀ S i, db'.shown S i = db.shown S i :=
    fun S i => shown_congr (by rw [hskills]) fun a => by rw [hattachments]
  refine ⟨⟨fun S i _ => hshown S i, hagents⟩, iff_of_true ?_ trivial⟩
  rw [hupdate, hshown]
  rfl

/-- What the file operations write. -/
theorem upsertFile_listed {name content id : String}
    (h : upsertFile cfg env db startupId skillId name content = .ok (id, db')) :
    db'.skills.skills = db.skills.skills ∧ db'.skills.attachments = db.skills.attachments ∧
      db'.agents = db.agents := by
  unfold upsertFile at h
  simp only [bind_eq_ok] at h
  obtain ⟨_, -, _, -, _, -, h⟩ := h
  split at h
  · obtain ⟨-, rfl⟩ := Prod.mk.inj (pure_eq_ok.mp h)
    exact ⟨rfl, rfl, rfl⟩
  · simp only [bind_eq_ok, require_eq_ok, pure_eq_ok, Prod.mk.injEq] at h
    obtain ⟨t, ht, -, rfl⟩ := h
    obtain ⟨-, -, hskills, -, hattachments⟩ := SkillTables.insertFile_eq_some ht
    exact ⟨hskills, hattachments, rfl⟩

/-- **Every operation** changes the skill that its frame names, and the frame tells all of it exactly if the
operation meets the condition. -/
theorem tells_of_run {op : SkillOp} {m : SkillChanged} (hids : db.agents.lookup "" = none)
    (h : op.run cfg db = .ok (db', m)) : Tells db db' m (Conveyed db op) := by
  cases op with
  | edit e => exact tells_edit h
  | delete startupId skillId => exact tells_delete h
  | attach env startupId agentId skillId => exact tells_attach hids h
  | detach startupId agentId skillId => exact tells_detach hids h
  | setGlobal env skillId isGlobal => exact tells_setGlobal h
  | upsertFile env startupId skillId name content =>
      simp only [SkillOp.run, bind_eq_ok, pure_eq_ok, Prod.mk.injEq] at h
      obtain ⟨⟨id, db'⟩, hupsert, rfl, rfl⟩ := h
      obtain ⟨hskills, hattachments, hagents⟩ := upsertFile_listed hupsert
      exact tells_files hskills hattachments hagents rfl
  | deleteFile startupId skillId name =>
      simp only [SkillOp.run, deleteFile, bind_eq_ok, pure_eq_ok, Prod.mk.injEq] at h
      obtain ⟨_, ⟨_, -, _, -, rfl⟩, rfl, rfl⟩ := h
      exact tells_files rfl rfl rfl rfl

/-- An operation that is refused meets the condition. -/
theorem conveyed_of_error {op : SkillOp} {err : SkillError} (h : op.run cfg db = .error err) : Conveyed db op := by
  cases op with
  | edit e =>
      have hnone : e.text db = none := by
        by_contra hsome
        obtain ⟨⟨skillId, text⟩, htext⟩ := Option.ne_none_iff_exists'.mp hsome
        obtain ⟨db₁, -, hok⟩ := run_of_text cfg htext
        simp only [SkillOp.run, hok] at h
        exact nomatch h
      have hall : ∀ skillId text, e.text db = some (skillId, text) →
          ∃ skill, db.skills.skills.lookup skillId = some skill ∧ sqlLength skill.contentMd = sqlLength text := by
        intro skillId text htext
        exact absurd (hnone.symm.trans htext) (by simp)
      cases e with
      | upsert env startupId name contentMd author =>
          cases author with
          | agent agentId => trivial
          | operator operatorId => exact hall
      | revert env startupId skillId revSeq author => exact hall
  | setGlobal env skillId isGlobal =>
      intro skill hskill
      simp only [SkillOp.run, setGlobal, hskill] at h
      exact nomatch h
  | delete | attach | detach | upsertFile | deleteFile => trivial

end Operations

/-! ### Runs -/

/-- The tables of the server, and a console. -/
structure ReplicaState where
  db : Db
  replica : SkillReplica

/-- An operation, and the console taking its frame. -/
def ReplicaState.perform (cfg : Config) (s : ReplicaState) (op : SkillOp) : ReplicaState :=
  match op.run cfg s.db with
  | .ok (db, m) => ⟨db, s.replica.take m⟩
  | .error _ => s

/-- Any operations, after a console has taken the listing. No skill and no agent has an empty id. -/
def replicaSystem (cfg : Config) : System ReplicaState SkillOp where
  init s := (∃ r : SkillReplica, s.replica = r.takeSnapshot (skillsSnapshot s.db)) ∧
    s.db.skills.skills.lookup "" = none ∧ s.db.agents.lookup "" = none
  step s op t := t = s.perform cfg op

/-- The console of a state is converged. -/
def ReplicaState.Converges (s : ReplicaState) : Prop :=
  Converged s.replica s.db

/-- **The replica of the skills**: after the listing, the operations of a run keep the console converged exactly if
each of them meets the condition. -/
theorem replica_converges_iff (cfg : Config) {s t : ReplicaState} {ops : List SkillOp}
    (hs : (replicaSystem cfg).init s) :
    Run ((replicaSystem cfg).restrict fun s op => Conveyed s.db op).step s ops t ↔
      Run ((replicaSystem cfg).within ReplicaState.Converges).step s ops t := by
  obtain ⟨⟨r, hreplica⟩, hskills, hagents⟩ := hs
  have hconverges : s.Converges := by
    intro startupId id
    rw [hreplica, shown_takeSnapshot r hskills, shownIn_listAllWithAttachments]
  refine System.run_restrict_iff_keeping
    (I := fun s : ReplicaState => s.Converges ∧ s.db.agents.lookup "" = none)
    (K := fun _ _ (t : ReplicaState) => t.Converges) ?_ ?_ ⟨hconverges, hagents⟩
  · rintro s op _ rfl ⟨h, hids⟩
    unfold ReplicaState.perform
    split
    · rename_i db m hrun
      have htells := tells_of_run hids hrun
      exact (converged_take_iff h htells.only).trans htells.iff
    · rename_i err hrun
      exact iff_of_true h (conveyed_of_error hrun)
  · rintro s op _ rfl ⟨-, hids⟩ hkept
    refine ⟨hkept, ?_⟩
    unfold ReplicaState.perform
    split
    · rename_i db m hrun
      exact (congrArg (AList.lookup "") (tells_of_run hids hrun).only.agents).trans hids
    · exact hids

/-! ### With and without a row in the frame -/

/-- The tables of a new startup, and a console that has taken the listing. -/
def sampleReplica : ReplicaState where
  db := sampleStartup.state.db
  replica := (SkillReplica.mk ∅ ∅).takeSnapshot (skillsSnapshot sampleStartup.state.db)

theorem init_sampleReplica : (replicaSystem sampleConfig).init sampleReplica :=
  ⟨⟨_, rfl⟩, by decide +kernel, by decide +kernel⟩

/-- The engineer writes a skill and attaches it to the founder. -/
def sampleOps : List SkillOp :=
  [.edit (.upsert (sampleEnv 1 "1") "s-1" "notes" "first" (.agent "a-2")),
    .attach (sampleEnv 2 "2") "s-1" "a-1" "1"]

/-- The frames of an agent tell everything. -/
theorem replica_converges_sample :
    Run ((replicaSystem sampleConfig).within ReplicaState.Converges).step sampleReplica sampleOps
      (sampleOps.foldl (ReplicaState.perform sampleConfig) sampleReplica) :=
  (replica_converges_iff sampleConfig init_sampleReplica).mp
    (.cons ⟨trivial, rfl⟩ (.cons ⟨trivial, rfl⟩ (.nil _)))

/-- **Not after every operation**: the frame of an upsert at the console carries no row, and a console ignores it. -/
theorem not_replica_converges :
    ¬ ∀ (cfg : Config) (s t : ReplicaState) (ops : List SkillOp), (replicaSystem cfg).init s →
      Run (replicaSystem cfg).step s ops t → t.Converges := by
  intro h
  let op : SkillOp := .edit (.upsert (sampleEnv 1 "1") "s-1" "notes" "first" (.operator "op_default"))
  have hconverges := h sampleConfig sampleReplica _ [op] init_sampleReplica (.cons rfl (.nil _)) "s-1" "1"
  rw [shownIn_listAllWithAttachments] at hconverges
  have hconsole : ((sampleReplica.perform sampleConfig op).replica.shown "s-1" "1").isSome = false := by
    decide +kernel
  have hserver : ((sampleReplica.perform sampleConfig op).db.shown "s-1" "1").isSome = true := by
    decide +kernel
  rw [hconverges, hserver] at hconsole
  exact absurd hconsole (by decide)

end Cliptown.Task
