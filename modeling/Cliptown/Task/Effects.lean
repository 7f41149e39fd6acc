import Cliptown.Lib.Log
import Cliptown.Task.SchedulerBoard
import Cliptown.Task.Statements
import Cliptown.Worker.Frames

/-!
# What a request leaves behind

Besides the tables, a request leaves frames for the workers and rows of `system_events`. Which ones it may leave
is said once, together with the columns of tasks that the notices of the scheduler go by.

* `TaskRow.notices` — the columns.
* `Effects` — a request sends the frames it may send, records the events it may record, and keeps the columns of
  the tasks that it does not edit.
* `Effects.touch`, `Effects.push`, … — effects are put together from these.
-/

namespace Cliptown.Task

open Cliptown.Lib Cliptown.Town Cliptown.World Cliptown.Worker

/-- The columns that the notices of the scheduler go by. -/
abbrev TaskRow.notices (t : TaskRow) : Option String × Option ℤ × Option ℤ :=
  (t.blockedOn, t.deadlineAt, t.deadlineNotifiedAt)

/-- The log of `system_events`. -/
abbrev LoopState.systemEvents (s : LoopState) : List SystemEvent :=
  s.db.systemEvents

/-- A row stays there with its columns, and a new one has not been announced. -/
structure NoticesKept (K : String → Prop) (db db' : Db) : Prop where
  row : ∀ id t, K id → db.tasks.lookup id = some t →
    ∃ t', db'.tasks.lookup id = some t' ∧ t'.notices = t.notices
  new : ∀ id t', K id → db.tasks.lookup id = none → db'.tasks.lookup id = some t' →
    t'.deadlineNotifiedAt = none

/-- The frames that are sent satisfy `F`, the events that are recorded satisfy `E`, and the tasks of `K` keep
the columns of their notices. -/
structure Effects (F : String → Json → Prop) (E : SystemEvent → Prop) (K : String → Prop)
    (s s' : LoopState) : Prop where
  frames : Appends LoopState.frames (fun f => F f.1 f.2) s s'
  events : Appends LoopState.systemEvents E s s'
  notices : NoticesKept K s.db s'.db

/-- An update of references records nothing. -/
theorem systemEvents_relinkTask {db db' : Db} {id : String} {f : TaskRow → TaskRow}
    (h : db.relinkTask id f = some db') : db'.systemEvents = db.systemEvents := by
  unfold Db.relinkTask at h
  split at h
  · obtain rfl := Option.some.inj h
    rfl
  · exact absurd h (by simp)

/-- Nor does an insert. -/
theorem systemEvents_insertTask {db db' : Db} {id : String} {t : TaskRow}
    (h : db.insertTask id t = some db') : db'.systemEvents = db.systemEvents := by
  unfold Db.insertTask at h
  split at h
  · obtain rfl := Option.some.inj h
    rfl
  · exact absurd h (by simp)

section Notices

variable {K : String → Prop} {db db' db'' : Db} {id : String}

/-! ### The columns of the notices -/

theorem NoticesKept.of_tasks (h : db'.tasks = db.tasks) : NoticesKept K db db' where
  row _ t _ ht := ⟨t, h ▸ ht, rfl⟩
  new id t' _ hnone ht' := by
    rw [h, hnone] at ht'
    exact absurd ht' (by simp)

theorem NoticesKept.trans (h : NoticesKept K db db') (h' : NoticesKept K db' db'') :
    NoticesKept K db db'' where
  row id t hK ht := by
    obtain ⟨t', ht', hsame⟩ := h.row id t hK ht
    obtain ⟨t'', ht'', hsame'⟩ := h'.row id t' hK ht'
    exact ⟨t'', ht'', hsame'.trans hsame⟩
  new id t'' hK hnone ht'' := by
    rcases hmid : db'.tasks.lookup id with _ | t'
    · exact h'.new id t'' hK hmid ht''
    · obtain ⟨u, hu, hsame⟩ := h'.row id t' hK hmid
      obtain rfl := Option.some.inj (ht''.symm.trans hu)
      exact (congrArg (fun n => n.2.2) hsame).trans (h.new id t' hK hnone hmid)

/-- An update of a row. -/
theorem NoticesKept.modify {f : TaskRow → TaskRow} (hf : K id → ∀ t, (f t).notices = t.notices)
    (h : db'.tasks = db.tasks.modify id f) : NoticesKept K db db' where
  row u t hK ht := by
    rw [h, Table.lookup_modify]
    split
    · rename_i heq
      subst heq
      exact ⟨f t, by rw [ht]; rfl, hf hK t⟩
    · exact ⟨t, ht, rfl⟩
  new u t' _ hnone ht' := by
    rw [h, Table.lookup_modify, hnone] at ht'
    split at ht' <;> exact absurd ht' (by simp)

/-- A new row. -/
theorem NoticesKept.insert {t₀ : TaskRow} (hnone : db.tasks.lookup id = none)
    (hnew : t₀.deadlineNotifiedAt = none) (h : db'.tasks = db.tasks.insert id t₀) :
    NoticesKept K db db' where
  row u t _ ht := by
    have hne : u ≠ id := by
      rintro rfl
      exact absurd (hnone.symm.trans ht) (by simp)
    exact ⟨t, by rw [h, Table.lookup_insert_eq, if_neg hne, ht], rfl⟩
  new u t' _ hu ht' := by
    rw [h, Table.lookup_insert_eq] at ht'
    split at ht'
    · exact Option.some.inj ht' ▸ hnew
    · exact absurd (hu.symm.trans ht') (by simp)

end Notices

section Chains

variable {F : String → Json → Prop} {E : SystemEvent → Prop} {K : String → Prop} {env : Env}
  {s s' s'' : LoopState} {id agentId : String} {frame : Json}

/-! ### Effects one after the other -/

namespace Effects

/-- A step that leaves the tasks, the frames and the events alone. -/
theorem of_eq (htasks : s'.db.tasks = s.db.tasks) (hframes : s'.frames = s.frames)
    (hevents : s'.systemEvents = s.systemEvents) : Effects F E K s s' where
  frames := .of_eq hframes
  events := .of_eq hevents
  notices := .of_tasks htasks

theorem refl : Effects F E K s s :=
  of_eq rfl rfl rfl

theorem trans (h : Effects F E K s s') (h' : Effects F E K s' s'') : Effects F E K s s'' where
  frames := h.frames.trans h'.frames
  events := h.events.trans h'.events
  notices := h.notices.trans h'.notices

/-- A request may leave behind more, and edit more. -/
theorem mono {F' : String → Json → Prop} {E' : SystemEvent → Prop} {K' : String → Prop}
    (hF : ∀ agentId frame, F agentId frame → F' agentId frame) (hE : ∀ e, E e → E' e)
    (hK : ∀ id, K' id → K id) (h : Effects F E K s s') : Effects F' E' K' s s' where
  frames := h.frames.mono fun f => hF f.1 f.2
  events := h.events.mono hE
  notices :=
    { row := fun id t hid => h.notices.row id t (hK id hid)
      new := fun id t hid => h.notices.new id t (hK id hid) }

/-- A step on the tasks alone. -/
theorem write {db : Db} (h : Effects F E K s s') (hkept : NoticesKept K s'.db db)
    (hevents : db.systemEvents = s'.systemEvents) : Effects F E K s { s' with db := db } :=
  h.trans { frames := .of_eq rfl, events := .of_eq hevents, notices := hkept }

theorem touch {f : TaskRow → TaskRow} {hf : ∀ t, (f t).refs = t.refs} (h : Effects F E K s s')
    (hkept : K id → ∀ t, (f t).notices = t.notices) : Effects F E K s (s'.updateTask id f hf) :=
  h.write (.modify hkept rfl) rfl

theorem appendAudit {entry : Json} (h : Effects F E K s s') :
    Effects F E K s (s'.appendAudit env id entry) :=
  h.touch fun _ _ => rfl

theorem appendEpistemic {entry : Json} (h : Effects F E K s s') :
    Effects F E K s (s'.appendEpistemic env id entry) :=
  h.touch fun _ _ => rfl

theorem setStatus {status : TaskStatus} (h : Effects F E K s s') :
    Effects F E K s (s'.setStatus env id status) :=
  h.touch fun _ _ => rfl

theorem setAvatarStatus {status : AvatarStatus} (h : Effects F E K s s') :
    Effects F E K s (s'.setAvatarStatus agentId status) :=
  h.trans (.of_eq rfl rfl rfl)

theorem relink {f : TaskRow → TaskRow} {db : Db} (h : Effects F E K s s')
    (hdb : s'.db.relinkTask id f = some db) (hkept : K id → ∀ t, (f t).notices = t.notices) :
    Effects F E K s { s' with db := db } :=
  h.write (.modify hkept (lookup_relinkTask hdb).1) (systemEvents_relinkTask hdb)

theorem insert {t : TaskRow} {db : Db} (h : Effects F E K s s') (hdb : s'.db.insertTask id t = some db)
    (hnew : t.deadlineNotifiedAt = none) : Effects F E K s { s' with db := db } :=
  h.write (.insert (lookup_insertTask hdb).1 hnew (lookup_insertTask hdb).2.1)
    (systemEvents_insertTask hdb)

theorem message {m : Message} {db : Db} (h : Effects F E K s s') (hdb : s'.db.insertMessage id m = some db) :
    Effects F E K s { s' with db := db } := by
  obtain ⟨-, rfl⟩ := insertMessage_eq hdb
  exact h.trans (.of_eq rfl rfl rfl)

theorem emitSystemEvent {startupId : Option String} {kind severity : String} {payload : Json}
    (h : Effects F E K s s') (hE : E ⟨startupId, kind, payload, severity, env.now⟩) :
    Effects F E K s (s'.emitSystemEvent env startupId kind payload severity) :=
  h.trans { frames := .of_eq rfl, events := .single rfl hE, notices := .of_tasks rfl }

theorem push (h : Effects F E K s s') (hF : F agentId frame) :
    Effects F E K s (s'.push env agentId frame) := by
  refine h.trans ?_
  unfold LoopState.push
  split
  · exact { frames := .single rfl hF, events := .of_eq rfl, notices := .of_tasks rfl }
  · exact .refl

/-- A loop over effects. -/
theorem foldl {ι : Type*} {f : LoopState → ι → LoopState} (l : List ι)
    (hf : ∀ i ∈ l, ∀ s, Effects F E K s (f s i)) : ∀ s, Effects F E K s (l.foldl f s) := by
  induction l with
  | nil => exact fun _ => .refl
  | cons i l ih =>
      intro s
      have hrest := ih fun j hj => hf j (List.mem_cons_of_mem _ hj)
      exact (hf i List.mem_cons_self s).trans (hrest (f s i))

/-- A handler that is settled. -/
theorem settle {ε ρ : Type} {r : Except ε (ρ × LoopState)}
    (h : ∀ v s', r = .ok (v, s') → Effects F E K s s') : Effects F E K s (Lib.settle s r).2 := by
  rcases settle_cases s r with hs | ⟨v, s', hr, hs⟩
  · rw [hs]
    exact .refl
  · rw [hs]
    exact h v s' hr

end Effects

end Chains

end Cliptown.Task
