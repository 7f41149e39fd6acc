import Cliptown.Console.Link
import Cliptown.Console.Store
import Cliptown.Task.Kanban

/-!
# The view that a console is sent, and what it shows

* `ViewSource` — what the world reads when it builds a view: the avatars in memory, and the rows of its statements.
* `avatarJson`, `startupJson`, `taskJson`, `lockJson`, `buildConsoleSnapshot` — the view on the wire.
* `avatarVM`, `startupVM`, `taskVM` — a row as a console shows it.
* `lookup_indexRows_entries` — the rows of a table, written as a list, are read back under their ids.
* `Mirrors`, `mirrors_of_world` — a store that has taken a view shows the rows of the world, and no others.
* `groupBy`, `inColumn_iff_grouped` — the column in which the Kanban shows a task.
* `ReadBack`, `wireSystem` — the texts of the frames, and that they are read back as they were written.
* `console_shows` — what a console that is connected shows, whatever has come to it before the view and after it.
-/

namespace Cliptown.Console

open Cliptown.Lib Cliptown.Task Cliptown.World Cliptown.Town

/-! ### What the world reads -/

/-- An avatar with all that a view says of it. Source: `state.rs` `AvatarView` -/
structure AvatarRow extends AvatarView where
  backend : String
  lastSeenAt : Option ℤ
  health : Health

/-- A startup with all that a view says of it. Source: `migrations/0001_initial.sql`, `startups` -/
structure StartupRow extends Startup where
  name : String
  status : String
  createdAt : ℤ

/-- What a view is built from. Each avatar is held under its own id. Source: `http.rs` `build_console_snapshot` -/
structure ViewSource where
  tickSeq : ℕ
  backendCatalog : List (String × Json)
  avatars : Table String AvatarRow
  startups : Table String StartupRow
  tasks : Table String TaskRow
  agents : Table String Agent
  systemEvents : List SystemEvent
  actionLocks : LockTable
  operatorNames : Table String String
  avatar_id : ∀ id a, avatars.lookup id = some a → a.agentId = id

/-! ### The view -/

/-- A text or `null`. -/
def strOrNull (s : Option String) : Json := .ofOption .str s

/-- An integer or `null`. -/
def intOrNull (n : Option ℤ) : Json := .ofOption .int n

/-- A tile, which is a pair. -/
def tileJson (t : Tile) : Json := .arr [.int t.1, .int t.2]

/-- Source: `state.rs` `AvatarView::status` -/
def statusStr : AvatarStatus → String
  | .idle => "idle"
  | .working => "working"

/-- Source: `http.rs` `build_console_snapshot`, `avatars` -/
def avatarJson (a : AvatarRow) (isPeerReviewer : Bool) : Json :=
  .obj [("agent_id", .str a.agentId), ("startup_id", .str a.startupId), ("role", .str a.role),
    ("backend", .str a.backend), ("current_pos", tileJson a.currentPos), ("target_pos", .ofOption tileJson a.targetPos),
    ("room_id", .str a.roomId), ("status", .str (statusStr a.status)), ("last_seen_at", intOrNull a.lastSeenAt),
    ("health", .str a.health.asStr), ("is_peer_reviewer", .bool isPeerReviewer)]

/-- Source: `http.rs` `build_console_snapshot`, `startups` -/
def startupJson (id : String) (s : StartupRow) (lastEventTs : ℤ) : Json :=
  .obj [("id", .str id), ("name", .str s.name), ("budget_spent_usd", .float s.budgetSpentUsd),
    ("budget_cap_usd", .float s.budgetCapUsd), ("last_event_ts", .int lastEventTs),
    ("auto_steal_enabled", .bool s.autoStealEnabled), ("auto_steal_after_secs", .int s.autoStealAfterSecs),
    ("auto_recovery_enabled", .bool s.autoRecoveryEnabled),
    ("auto_recovery_max_attempts", .int s.autoRecoveryMaxAttempts)]

/-- Source: `http.rs` `build_console_snapshot`, `tasks` -/
def taskJson (maxReviewRounds : ℕ) (id : String) (t : TaskRow) : Json :=
  .obj [("id", .str id), ("startup_id", .str t.startupId), ("title", .str t.title), ("status", .str t.status.toStr),
    ("assignee_agent_id", strOrNull t.assigneeAgentId), ("required_room", strOrNull t.requiredRoom),
    ("review_round", .int t.reviewRound), ("max_review_rounds", .int maxReviewRounds),
    ("artifact_path", strOrNull t.artifactPath), ("blocked_on", strOrNull t.blockedOn),
    ("deadline_at", intOrNull t.deadlineAt)]

/-- Source: `action_locks.rs` `LockInfo` -/
def lockJson (info : LockInfo) : Json :=
  .obj [("lock_key", .str info.lockKey), ("operator_id", .str info.operatorId),
    ("operator_name", .str info.operatorName), ("expires_at", .int info.expiresAt)]

namespace ViewSource

variable (src : ViewSource)

/-- The time of the last event of a startup, or of its creation. -/
def lastEventTs (id : String) (s : StartupRow) : ℤ :=
  (((src.systemEvents.filter fun e => e.startupId = some id).map SystemEvent.ts).max?).getD s.createdAt

/-- Source: `http.rs` `build_console_snapshot`, `peer_reviewer` -/
def isPeerReviewer (agentId : String) : Bool := ((src.agents.lookup agentId).map Agent.isPeerReviewer).getD false

/-- A row of the locks, with the name of its holder. Source: `action_locks.rs` `list_active` -/
def lockInfo (key : String) (row : Lock) : LockInfo :=
  ⟨key, row.operatorId, (src.operatorNames.lookup row.operatorId).getD row.operatorId, row.expiresAt⟩

/-- Source: `action_locks.rs` `list_active` -/
def listActive (now : ℤ) : List LockInfo :=
  (src.actionLocks.entries.filter fun e => now ≤ e.2.expiresAt).map fun e => src.lockInfo e.1 e.2

/-- Source: `http.rs` `build_console_snapshot` -/
def snapshot (maxReviewRounds : ℕ) (now : ℤ) : Json :=
  .obj [("tick_seq", .int src.tickSeq), ("backend_catalog", .obj src.backendCatalog),
    ("avatars", .arr (src.avatars.entries.map fun e => avatarJson e.2 (src.isPeerReviewer e.2.agentId))),
    ("startups", .arr ((src.startups.entries.filter fun e => e.2.status = "active").map fun e =>
      startupJson e.1 e.2 (src.lastEventTs e.1 e.2))),
    ("tasks", .arr ((src.tasks.entries.filter fun e => e.2.status ∉ [.done, .failed]).map fun e =>
      taskJson maxReviewRounds e.1 e.2)),
    ("action_locks", .arr ((src.listActive now).map lockJson))]

end ViewSource

/-- Source: `http.rs` `build_console_snapshot` -/
def buildConsoleSnapshot (src : ViewSource) (maxReviewRounds : ℕ) (now : ℤ) : Json :=
  viewFrame (src.snapshot maxReviewRounds now)

/-! ### What a console shows of it -/

/-- A tile in the numbers of a console. -/
def posVM (t : Tile) : ℚ × ℚ := (t.1, t.2)

/-- An avatar as it is shown. -/
def avatarVM (a : AvatarRow) (isPeerReviewer : Bool) : AvatarVM where
  agentId := a.agentId
  startupId := a.startupId
  role := a.role
  backend := a.backend
  currentPos := posVM a.currentPos
  targetPos := a.targetPos.map posVM
  roomId := a.roomId
  status := statusStr a.status
  lastSeenAt := a.lastSeenAt.map fun n => (n : ℚ)
  health := a.health
  isPeerReviewer := isPeerReviewer

/-- A startup as it is shown. -/
def startupVM (id : String) (s : StartupRow) (lastEventTs : ℤ) : StartupVM where
  id := id
  name := s.name
  budgetSpentUsd := some s.budgetSpentUsd
  budgetCapUsd := some s.budgetCapUsd
  lastEventTs := some lastEventTs
  autoStealEnabled := some s.autoStealEnabled
  autoStealAfterSecs := some s.autoStealAfterSecs
  autoRecoveryEnabled := some s.autoRecoveryEnabled
  autoRecoveryMaxAttempts := some s.autoRecoveryMaxAttempts

/-- A task as it is shown. -/
def taskVM (maxReviewRounds : ℕ) (id : String) (t : TaskRow) : TaskVM where
  id := id
  startupId := t.startupId
  title := t.title
  status := t.status.toStr
  assigneeAgentId := t.assigneeAgentId
  requiredRoom := t.requiredRoom
  reviewRound := some t.reviewRound
  maxReviewRounds := some maxReviewRounds
  artifactPath := t.artifactPath
  blockedOn := t.blockedOn
  deadlineAt := t.deadlineAt.map fun n => (n : ℚ)

/-! ### Rows -/

section Rows

theorem asStr_str (s : String) : Json.asStr (.str s) = some s := rfl

theorem asStr_strOrNull (s : Option String) : (strOrNull s).asStr = s := by
  cases s <;> rfl

theorem asNumber_int (n : ℤ) : Js.asNumber (.int n) = some (n : ℚ) := rfl

theorem asNumber_float (q : ℚ) : Js.asNumber (.float q) = some q := rfl

theorem asNumber_intOrNull (n : Option ℤ) : Js.asNumber (intOrNull n) = n.map fun n => (n : ℚ) := by
  cases n <;> rfl

theorem asBool_bool (b : Bool) : Json.asBool (.bool b) = some b := rfl

theorem asPos_tileJson (t : Tile) : asPos (tileJson t) = some (posVM t) := rfl

theorem asPos_ofOption (t : Option Tile) : asPos (.ofOption tileJson t) = t.map posVM := by
  cases t <;> rfl

/-- An avatar is shown as it is. -/
theorem coerceAvatar_avatarJson (a : AvatarRow) (b : Bool) (id : String) :
    coerceAvatar (avatarJson a b) id = avatarVM a b := by
  simp [coerceAvatar, avatarJson, avatarVM, asString, Json.getStr, Json.get, getNumber, getBool, asStr_str, asBool_bool,
    asPos_tileJson, asPos_ofOption, asNumber_intOrNull, Health.ofStr_asStr]

theorem coerceStartup_startupJson (id : String) (s : StartupRow) (ts : ℤ) :
    coerceStartup (startupJson id s ts) id = startupVM id s ts := by
  simp [coerceStartup, startupJson, startupVM, asString, Json.getStr, Json.get, getNumber, getBool, asStr_str,
    asBool_bool, asNumber_int, asNumber_float]

theorem coerceTask_taskJson (maxReviewRounds : ℕ) (id : String) (t : TaskRow) :
    coerceTask (taskJson maxReviewRounds id t) id = taskVM maxReviewRounds id t := by
  simp [coerceTask, taskJson, taskVM, asString, Json.getStr, Json.get, getNumber, asStr_str, asStr_strOrNull,
    asNumber_int, asNumber_intOrNull]

/-- **The rows of a table, written as a list, are read back under their ids**; only a row without an id is not. -/
theorem lookup_indexRows_entries {β γ : Type} (t : Table String β) (p : β → Bool) (idKey : String)
    (coerce : Json → String → γ) (write : String → β → Json) (vm : String → β → γ)
    (hobject : ∀ id b, asObject (write id b) = some (write id b))
    (hid : ∀ id b, t.lookup id = some b → asString (write id b) idKey "" = id)
    (hvm : ∀ id b, t.lookup id = some b → coerce (write id b) id = vm id b) {id : String} (hne : id ≠ "") :
    (indexRows idKey coerce (.arr ((t.entries.filter fun e => p e.2).map fun e => write e.1 e.2))).lookup id =
      ((t.lookup id).filter p).map (vm id) := by
  let rows := ((t.entries.filter fun e => p e.2).map fun e => write e.1 e.2).filterMap fun v =>
    let id := asString v idKey ""
    if id = "" then none else some (id, coerce v id)
  have hlookup : ∀ e ∈ t.entries, t.lookup e.1 = some e.2 := fun e he => AList.mem_lookup_iff.mpr he
  have hmem : ∀ k x, (k, x) ∈ rows ↔ k ≠ "" ∧ ∃ b, t.lookup k = some b ∧ p b ∧ x = vm k b := by
    intro k x
    simp only [rows, List.mem_filterMap, List.mem_map, List.mem_filter]
    constructor
    · rintro ⟨v, ⟨e, ⟨he, hp⟩, rfl⟩, hv⟩
      rw [hid e.1 e.2 (hlookup e he)] at hv
      split_ifs at hv with hempty
      obtain ⟨rfl, rfl⟩ := Prod.mk.inj (Option.some.inj hv)
      exact ⟨hempty, e.2, hlookup e he, hp, hvm e.1 e.2 (hlookup e he)⟩
    · rintro ⟨hk, b, hb, hp, rfl⟩
      refine ⟨write k b, ⟨⟨k, b⟩, ⟨AList.mem_lookup_iff.mp hb, hp⟩, rfl⟩, ?_⟩
      rw [hid k b hb, if_neg hk, hvm k b hb]
  have hobjects : objectsOf (.arr ((t.entries.filter fun e => p e.2).map fun e => write e.1 e.2)) =
      (t.entries.filter fun e => p e.2).map fun e => write e.1 e.2 := by
    simp [objectsOf, jsonItems, List.filterMap_map, hobject]
  have hindex : indexRows idKey coerce (.arr ((t.entries.filter fun e => p e.2).map fun e => write e.1 e.2)) =
      Table.ofList rows := by
    rw [indexRows, hobjects]
    intro fields hfields
    cases hfields
  rw [hindex]
  refine Option.ext fun x => ?_
  rw [Table.lookup_ofList_iff, hmem, Option.map_eq_some_iff]
  · constructor
    · rintro ⟨-, b, hb, hp, rfl⟩
      exact ⟨b, by rw [hb, Option.filter_some, if_pos hp], rfl⟩
    · rintro ⟨b, hb, rfl⟩
      obtain ⟨hb, hp⟩ := Option.filter_eq_some_iff.mp hb
      exact ⟨hne, b, hb, hp, rfl⟩
  · intro k x x' hx hx'
    obtain ⟨-, b, hb, -, rfl⟩ := (hmem k x).mp hx
    obtain ⟨-, b', hb', -, rfl⟩ := (hmem k x').mp hx'
    rw [Option.some.inj (hb.symm.trans hb')]

end Rows

/-! ### A view that is taken -/

section Views

variable {num : Js.Numbers} {stringify : Json → String} {toNumber : Json → Option ℚ} {s : Store} {src : ViewSource}
  {maxReviewRounds : ℕ} {now : ℤ}

/-- The store shows the agents, the active startups and the tasks that are not over, and no others. -/
structure Mirrors (src : ViewSource) (maxReviewRounds : ℕ) (s : Store) : Prop where
  avatars : ∀ id, id ≠ "" → s.avatars.lookup id =
    (src.avatars.lookup id).map fun a => avatarVM a (src.isPeerReviewer id)
  startups : ∀ id, id ≠ "" → s.startups.lookup id =
    ((src.startups.lookup id).filter fun r => r.status = "active").map fun r => startupVM id r (src.lastEventTs id r)
  tasks : ∀ id, id ≠ "" → s.tasks.lookup id =
    ((src.tasks.lookup id).filter fun r => r.status ∉ [TaskStatus.done, .failed]).map fun r =>
      taskVM maxReviewRounds id r

theorem snapshot_view : ((buildConsoleSnapshot src maxReviewRounds now).get "snapshot").bind asObject =
    some (src.snapshot maxReviewRounds now) := by
  simp [buildConsoleSnapshot, viewFrame, Json.get, ViewSource.snapshot, asObject]

/-- The fields of a view. -/
theorem takeView_build : (takeView s (buildConsoleSnapshot src maxReviewRounds now)).world =
    (indexAvatars (.arr (src.avatars.entries.map fun e => avatarJson e.2 (src.isPeerReviewer e.2.agentId))),
      indexStartups (.arr ((src.startups.entries.filter fun e => e.2.status = "active").map fun e =>
        startupJson e.1 e.2 (src.lastEventTs e.1 e.2))),
      indexTasks (.arr ((src.tasks.entries.filter fun e => e.2.status ∉ [TaskStatus.done, .failed]).map fun e =>
        taskJson maxReviewRounds e.1 e.2))) := by
  rw [takeView, snapshot_view]
  simp [Store.world, ViewSource.snapshot, Json.get]

/-- **A store that has taken a view mirrors the world.** -/
theorem mirrors_of_world (h : s.world = (takeView s (buildConsoleSnapshot src maxReviewRounds now)).world) :
    Mirrors src maxReviewRounds s := by
  rw [takeView_build] at h
  obtain ⟨havatars, h⟩ := Prod.mk.inj h
  obtain ⟨hstartups, htasks⟩ := Prod.mk.inj h
  refine ⟨fun id hne => ?_, fun id hne => ?_, fun id hne => ?_⟩
  · have hrows := lookup_indexRows_entries src.avatars (fun _ => true) "agent_id" coerceAvatar
      (fun _ a => avatarJson a (src.isPeerReviewer a.agentId)) (fun id a => avatarVM a (src.isPeerReviewer id))
      (fun _ _ => rfl)
      (fun id a ha => by
        simp [asString, avatarJson, Json.getStr, Json.get, asStr_str, src.avatar_id id a ha])
      (fun id a ha => by rw [coerceAvatar_avatarJson, src.avatar_id id a ha]) hne
    have hall : ∀ o : Option AvatarRow, o.filter (fun _ => true) = o := fun o => by cases o <;> rfl
    rw [List.filter_true, hall] at hrows
    rw [havatars]
    exact hrows
  · rw [hstartups]
    exact lookup_indexRows_entries src.startups (fun r => r.status = "active") "id" coerceStartup
      (fun id r => startupJson id r (src.lastEventTs id r)) (fun id r => startupVM id r (src.lastEventTs id r))
      (fun _ _ => rfl) (fun _ _ _ => by simp [asString, startupJson, Json.getStr, Json.get, asStr_str])
      (fun id r _ => coerceStartup_startupJson id r _) hne
  · rw [htasks]
    exact lookup_indexRows_entries src.tasks (fun r => r.status ∉ [TaskStatus.done, .failed]) "id" coerceTask
      (fun id r => taskJson maxReviewRounds id r) (fun id r => taskVM maxReviewRounds id r)
      (fun _ _ => rfl) (fun _ _ _ => by simp [asString, taskJson, Json.getStr, Json.get, asStr_str])
      (fun id r _ => coerceTask_taskJson maxReviewRounds id r) hne

/-- The column of a task. Source: `Kanban.tsx` `groupBy` -/
def groupBy (t : TaskVM) : String := if t.status = "changes_requested" then "in_progress" else t.status

theorem groupBy_taskVM (id : String) (t : TaskRow) :
    groupBy (taskVM maxReviewRounds id t) = (columnOf t.status).status.toStr := by
  cases h : t.status <;> simp [groupBy, taskVM, h, columnOf, ColumnId.status, TaskStatus.toStr]

/-- **The column of the next snapshot** is the one in which a store that has taken it shows the task. -/
theorem inColumn_iff_grouped {loop : LoopState} {taskId : String} {toColumn : ColumnId}
    (h : Mirrors src maxReviewRounds s) (htasks : src.tasks = loop.db.tasks) (hne : taskId ≠ "") :
    InColumn taskId toColumn loop ↔
      ∃ t, s.tasks.lookup taskId = some t ∧ groupBy t = toColumn.status.toStr := by
  rw [h.tasks taskId hne, htasks, InColumn, shownStatus, statusIn]
  rcases loop.db.tasks.lookup taskId with _ | row
  · simp
  · have hcolumn : groupBy (taskVM maxReviewRounds taskId row) = toColumn.status.toStr ↔
        columnOf row.status = toColumn := by
      rw [groupBy_taskVM]
      cases columnOf row.status <;> cases toColumn <;> simp [ColumnId.status, TaskStatus.toStr]
    by_cases hover : row.status = .done ∨ row.status = .failed <;>
      simp_all [Option.filter_some]

end Views

/-! ### A console that is connected -/

section Shown

variable {parse : String → Option Json} {cfg : Config} {operatorToken : String} {s t : LinkState} {l : LinkLabel}
  {ls : List LinkLabel} {p : Peer} {m : Json} {i : ℕ} {num : Js.Numbers} {stringify : Json → String}
  {toNumber : Json → Option ℚ}

/-- The frame is a view of the world at some time. -/
def IsBuilt (m : Json) : Prop := ∃ src maxReviewRounds now, m = buildConsoleSnapshot src maxReviewRounds now

/-- The views of the label are built from the world. Source: `http.rs` `handle_console` -/
def LinkLabel.Built : LinkLabel → Prop
  | .view _ snapshot => IsBuilt (viewFrame snapshot)
  | .push _ frame => frame.getStr "type" = some "world_view_snapshot" → IsBuilt frame
  | _ => True

/-- Each view that the world has sent is built from it. -/
def SaidBuilt (s : LinkState) : Prop :=
  ∀ p ∈ s.peers, ∀ m ∈ p.said, m.getStr "type" = some "world_view_snapshot" → IsBuilt m

theorem SaidBuilt.modifyPeer {f : Peer → Peer} (h : SaidBuilt s)
    (hf : ∀ p, s.peers[i]? = some p → ∀ m ∈ (f p).said,
      m ∈ p.said ∨ (m.getStr "type" = some "world_view_snapshot" → IsBuilt m)) : SaidBuilt (s.modifyPeer i f) := by
  intro p hp m hm
  rcases mem_modify hp with hp | ⟨p', hp', rfl⟩
  · exact h p hp m hm
  · rcases hf p' hp' m hm with hm | hbuilt
    · exact h p' (List.mem_of_getElem? hp') m hm
    · exact hbuilt

/-- One frame more. -/
theorem mem_said_built {more : Json} (hbuilt : more.getStr "type" = some "world_view_snapshot" → IsBuilt more)
    {said : List Json} : ∀ m ∈ said ++ [more],
      m ∈ said ∨ (m.getStr "type" = some "world_view_snapshot" → IsBuilt m) := by
  intro m hm
  rcases List.mem_append.mp hm with hm | hm
  · exact .inl hm
  · rw [List.mem_singleton.mp hm]
    exact .inr hbuilt

theorem SaidBuilt.step (h : SaidBuilt s) (hl : l.Built) (hst : LinkStep parse cfg operatorToken s l t) :
    SaidBuilt t := by
  cases hst with
  | page hmessage hc =>
      intro p hp
      rcases List.mem_append.mp hp with hp | hp
      · exact h p hp
      · rw [List.eq_of_mem_replicate hp]
        exact fun m hm => absurd hm List.not_mem_nil
  | @receive i p m text c hp hm htext hc =>
      have hclient : SaidBuilt { s with client := c } := h
      exact hclient.modifyPeer fun p' _ m hm => .inl hm
  | @greet i operators rewritten p k frame hp hphase hk hframe =>
      refine h.modifyPeer fun p' _ => ?_
      rw [Peer.greet]
      split_ifs
      · exact fun m hm => .inl hm
      · split
        · exact mem_said_built fun htype => by simp [helloOk, Json.getStr, Json.get, Json.asStr] at htype
        · exact mem_said_built fun htype => by simp [authErrorFrame, Json.getStr, Json.get, Json.asStr] at htype
  | view hp hphase => exact h.modifyPeer fun p' _ => mem_said_built fun _ => hl
  | skills hp hphase =>
      refine h.modifyPeer fun p' _ => mem_said_built fun htype => ?_
      simp [skillsFrame, Json.getStr, Json.get, Json.asStr] at htype
  | push hp hphase hframe => exact h.modifyPeer fun p' _ => mem_said_built hl
  | leave hp => exact h.modifyPeer fun p' _ m hm => .inl hm

/-- What has been said to a console that has received a second frame begins with a view. -/
theorem Opening.view_mem_heard (h : Opening p.phase p.said) (hgot : 2 ≤ p.got) (hlength : p.got ≤ p.said.length) :
    ∃ m ∈ p.heard, m.getStr "type" = some "world_view_snapshot" := by
  have hsaid : ∀ {phase said}, Opening phase said → 2 ≤ said.length →
      ∃ snapshot, said[1]? = some (viewFrame snapshot) := by
    intro phase said h
    induction h with
    | greeting => simp
    | admitted identity => simp
    | viewed identity snapshot => exact fun _ => ⟨snapshot, rfl⟩
    | serving identity snapshot db hpushes => exact fun _ => ⟨snapshot, rfl⟩
    | refused => simp [authErrorFrame]
    | gone _ ih => exact ih
  obtain ⟨snapshot, hview⟩ := hsaid h (hgot.trans hlength)
  refine ⟨viewFrame snapshot, ?_, rfl⟩
  rw [Peer.heard, List.mem_filter]
  refine ⟨List.mem_of_getElem? (i := 1) ?_, by simp [viewFrame, Json.getStr, Json.get, Json.asStr]⟩
  rw [List.getElem?_take_of_lt (by omega), hview]

/-! ### Texts -/

variable (parse cfg operatorToken) (write : Json → String) in
/-- The steps, where what comes is the text of a frame, and what the console reads may be something else. -/
inductive WireStep (s : LinkState) : LinkLabel → LinkState → Prop
  | receive {i : ℕ} {p : Peer} {m : Json} {c : ConsoleClient} (hp : s.peers[i]? = some p)
      (hm : p.said[p.got]? = some m)
      (hc : (ClientLabel.onmessage i (.text (write m))).apply parse operatorToken s.client = some c) :
      WireStep s (.receive i) (({ s with client := c } : LinkState).modifyPeer i fun p => { p with got := p.got + 1 })
  | other {l : LinkLabel} {t : LinkState} (hl : ∀ i, l ≠ .receive i)
      (h : LinkStep parse cfg operatorToken s l t) : WireStep s l t

variable (parse cfg operatorToken) (write : Json → String) in
/-- A console whose page has started its client once, the world, and the texts between them. -/
def wireSystem : System LinkState LinkLabel where
  init := (linkSystem parse cfg operatorToken).init
  step := WireStep parse cfg operatorToken write

variable (parse) (write : Json → String) in
/-- Each frame that has been said is read back as it was written. For `JSON.parse` this takes integers of at most
2⁵³. -/
def ReadBack (s : LinkState) : Prop := ∀ p ∈ s.peers, ∀ m ∈ p.said, parse (write m) = some m

section Wire

variable {write : Json → String}

theorem WireStep.link (h : WireStep parse cfg operatorToken write s l t) (hread : ReadBack parse write s) :
    LinkStep parse cfg operatorToken s l t := by
  cases h with
  | receive hp hm hc => exact .receive hp hm (hread _ (List.mem_of_getElem? hp) _ (List.mem_of_getElem? hm)) hc
  | other _ h => exact h

theorem ReadBack.of_modifyPeer {f : Peer → Peer} (h : ReadBack parse write (s.modifyPeer i f))
    (hf : ∀ p, p.said ⊆ (f p).said) : ReadBack parse write s := by
  intro p hp m hm
  obtain ⟨j, hj⟩ := List.mem_iff_getElem?.mp hp
  have hmodified : (s.modifyPeer i f).peers[j]? = some (if i = j then f p else p) := by
    rw [LinkState.modifyPeer, List.getElem?_modify, hj]
    split_ifs <;> rfl
  refine h _ (List.mem_of_getElem? hmodified) m ?_
  split_ifs
  · exact hf p hm
  · exact hm

/-- What has been said stays so. -/
theorem ReadBack.of_step (h : WireStep parse cfg operatorToken write s l t) (hread : ReadBack parse write t) :
    ReadBack parse write s := by
  cases h with
  | receive hp hm hc => exact hread.of_modifyPeer fun p => List.Subset.refl p.said
  | other hl h =>
      cases h with
      | page hmessage hc => exact fun p hp => hread p (List.mem_append_left _ hp)
      | receive hp hm htext hc => exact absurd rfl (hl _)
      | @greet i operators rewritten p k frame hp hphase hk hframe =>
          refine hread.of_modifyPeer fun p => ?_
          rw [Peer.greet]
          split_ifs
          · exact List.Subset.refl p.said
          · split
            · exact List.subset_append_left _ _
            · exact List.subset_append_left _ _
      | view hp hphase => exact hread.of_modifyPeer fun p => List.subset_append_left _ _
      | skills hp hphase => exact hread.of_modifyPeer fun p => List.subset_append_left _ _
      | push hp hphase hframe => exact hread.of_modifyPeer fun p => List.subset_append_left _ _
      | leave hp => exact hread.of_modifyPeer fun p => List.Subset.refl p.said

/-- A run in which all is read back as it was written. -/
theorem run_link (hrun : Run (wireSystem parse cfg operatorToken write).step s ls t)
    (hread : ReadBack parse write t) :
    Run (linkSystem parse cfg operatorToken).step s ls t ∧ ReadBack parse write s := by
  induction hrun with
  | nil s => exact ⟨.nil s, hread⟩
  | cons hst _ ih =>
      obtain ⟨hlink, hmid⟩ := ih hread
      have hbefore := ReadBack.of_step hst hmid
      exact ⟨.cons (hst.link hbefore) hlink, hbefore⟩

/-- Without a frame that comes there is no text. -/
theorem run_wire (hrun : Run (linkSystem parse cfg operatorToken).step s ls t) (hl : ∀ l ∈ ls, ∀ i, l ≠ .receive i) :
    Run (wireSystem parse cfg operatorToken write).step s ls t := by
  induction hrun with
  | nil s => exact .nil s
  | cons hst _ ih =>
      exact .cons (.other (hl _ List.mem_cons_self) hst) (ih fun l hmem => hl l (List.mem_cons_of_mem _ hmem))

end Wire

/-- The last element with a property. -/
theorem exists_last {α : Type*} {P : α → Prop} {xs : List α} (h : ∃ a ∈ xs, P a) :
    ∃ before a after, xs = before ++ a :: after ∧ P a ∧ ∀ b ∈ after, ¬ P b := by
  induction xs using List.reverseRecOn with
  | nil => exact absurd h (by simp)
  | append_singleton xs x ih =>
      by_cases hx : P x
      · exact ⟨xs, x, [], rfl, hx, by simp⟩
      · have hxs : ∃ a ∈ xs, P a := by
          obtain ⟨a, ha, hP⟩ := h
          rcases List.mem_append.mp ha with ha | ha
          · exact ⟨a, ha, hP⟩
          · exact absurd hP (List.mem_singleton.mp ha ▸ hx)
        obtain ⟨before, a, after, rfl, hP, hafter⟩ := ih hxs
        refine ⟨before, a, after ++ [x], by simp, hP, fun b hb => ?_⟩
        rcases List.mem_append.mp hb with hb | hb
        · exact hafter b hb
        · rwa [List.mem_singleton.mp hb]

/-- The last element with a property is in the end of a list, if that has one. -/
theorem mem_of_last {α : Type*} {P : α → Prop} {pre xs before after : List α} {a : α} (hxs : ∃ b ∈ xs, P b)
    (h : pre ++ xs = before ++ a :: after) (hafter : ∀ b ∈ after, ¬ P b) : a ∈ xs := by
  rcases List.append_eq_append_iff.mp h with ⟨mid, rfl, hmid⟩ | ⟨mid, rfl, hmid⟩
  · rw [hmid]
    exact List.mem_append_right mid List.mem_cons_self
  · cases mid with
    | nil =>
        rw [List.nil_append] at hmid
        rw [← hmid]
        exact List.mem_cons_self
    | cons b mid =>
        obtain ⟨c, hc, hP⟩ := hxs
        obtain ⟨-, rfl⟩ := List.cons.inj hmid
        exact absurd hP (hafter c (List.mem_append_right mid hc))

/-- The messages among the actions of a page. -/
def Action.frame : Action → Option Json
  | .msg m => some m
  | _ => none

theorem Action.frame_eq_some {action : Action} : action.frame = some m ↔ action = .msg m := by
  cases action with
  | msg m' => simp [Action.frame]
  | status status => simp [Action.frame]
  | localToast severity body sticky => simp [Action.frame]
  | clearMintedOperatorToken => simp [Action.frame]

/-- **What a connected console shows is the world**, as it was when the world built a view for this very connection:
once two frames of its last connection have come, nothing that earlier connections brought is left of the agents, the
startups and the tasks. The page may have done anything else in between. What is said is to be read back as it was
written. -/
theorem console_shows {write : Json → String} (hinit : (wireSystem parse cfg operatorToken write).init s)
    (hwire : Run (wireSystem parse cfg operatorToken write).step s ls t) (hread : ReadBack parse write t)
    (hbuilt : ∀ l ∈ ls, l.Built) (hpeer : t.peers.getLast? = some p) (hgot : 2 ≤ p.got)
    {actions : List (Action × Moment)} (hactions : actions.filterMap (fun a => a.1.frame) = t.client.messages) :
    ∃ src maxReviewRounds now, buildConsoleSnapshot src maxReviewRounds now ∈ p.heard ∧
      Mirrors src maxReviewRounds (storeAfter num stringify toNumber actions).rest := by
  have hrun := (run_link hwire hread).1
  have hinit : (linkSystem parse cfg operatorToken).init s := hinit
  have hlinked : Linked operatorToken t := linked_of_reachable ((System.Reachable.init hinit).run hrun)
  have hsaid : SaidBuilt t := by
    refine hrun.preserves_of_mem (fun s l t hl hs hst => SaidBuilt.step hs (hbuilt l hl) hst) ?_
    obtain ⟨made, rfl⟩ := hinit
    intro p hp
    simp only [LinkState.withClient, List.nil_append] at hp
    rw [List.eq_of_mem_replicate hp]
    exact fun m hm => absurd hm List.not_mem_nil
  obtain ⟨peers, hpeers⟩ := List.getLast?_eq_some_iff.mp hpeer
  have hp : p ∈ t.peers := by
    rw [hpeers]
    exact List.mem_append_right peers List.mem_cons_self
  obtain ⟨hopening, hlength⟩ := hlinked.opening p hp
  obtain ⟨v, hv, hvtype⟩ := hopening.view_mem_heard hgot hlength
  have hmessages : actions.filterMap (fun a => a.1.frame) = peers.flatMap Peer.heard ++ p.heard := by
    rw [hactions, hlinked.messages, hpeers, List.flatMap_append, List.flatMap_singleton]
  -- the last view among the actions
  have hview : ∃ a ∈ actions, a.1.IsView := by
    have hmem : v ∈ actions.filterMap fun a => a.1.frame := by
      rw [hmessages]
      exact List.mem_append_right _ hv
    obtain ⟨a, ha, hframe⟩ := List.mem_filterMap.mp hmem
    refine ⟨a, ha, ?_⟩
    rw [Action.frame_eq_some.mp hframe]
    exact hvtype
  obtain ⟨before, ⟨action, env⟩, after, rfl, hisview, hafter⟩ := exists_last hview
  cases action with
  | msg m =>
      have hframes : peers.flatMap Peer.heard ++ p.heard = before.filterMap (fun a => a.1.frame) ++
          m :: after.filterMap fun a => a.1.frame := by
        rw [← hmessages, List.filterMap_append]
        rfl
      have hheard : m ∈ p.heard := by
        refine mem_of_last (P := fun m => m.getStr "type" = some "world_view_snapshot") ⟨v, hv, hvtype⟩ hframes ?_
        intro m' hm' htype
        obtain ⟨a, ha, hframe⟩ := List.mem_filterMap.mp hm'
        refine hafter a ha ?_
        rw [Action.frame_eq_some.mp hframe]
        exact htype
      obtain ⟨src, maxReviewRounds, now, rfl⟩ :=
        hsaid p hp m (List.mem_of_mem_take (List.mem_filter.mp hheard).1) hisview
      exact ⟨src, maxReviewRounds, now, hheard, mirrors_of_world (world_storeAfter hisview hafter)⟩
  | status status => cases hisview
  | localToast severity body sticky => cases hisview
  | clearMintedOperatorToken => cases hisview

/-- A world with an agent and the tasks of its startup. -/
def sampleSource (status : AvatarStatus) (tasks : Table String TaskRow) : ViewSource where
  tickSeq := 7
  backendCatalog := []
  avatars := Table.ofList [("a-1",
    { agentId := "a-1", startupId := "s-1", role := "founder", currentPos := (2, 3), targetPos := none,
      roomId := "lobby", status := status, backend := "codex", lastSeenAt := none, health := .offline })]
  startups := Table.ofList [("s-1",
    { budgetCapUsd := 100, budgetSpentUsd := 0, workspacePath := "workspaces/s-1", autoStealEnabled := false,
      autoStealAfterSecs := 900, autoRecoveryEnabled := false, autoRecoveryMaxAttempts := 3, name := "Startup",
      status := "active", createdAt := 0 })]
  tasks := tasks
  agents := ∅
  systemEvents := []
  actionLocks := ∅
  operatorNames := ∅
  avatar_id := by
    intro id a ha
    have hrow := (Table.lookup_ofList_iff fun _ _ _ h h' =>
      (Prod.mk.inj ((List.mem_singleton.mp h).trans (List.mem_singleton.mp h').symm)).2).mp ha
    obtain ⟨rfl, rfl⟩ := Prod.mk.inj (List.mem_singleton.mp hrow)
    rfl

/-- A task of the agent. -/
def sampleTask (status : TaskStatus) : TaskRow where
  startupId := "s-1"
  parentId := none
  title := "title"
  description := "description"
  assigneeAgentId := some "a-1"
  requiredRoom := none
  status := status
  reviewRound := 0
  auditTrail := []
  epistemicLog := []
  artifactPath := none
  preferredBackend := none
  preferredModel := none
  costEstimateUsd := none
  blockedOn := none
  deadlineAt := some 1000
  deadlineNotifiedAt := none
  selfReviewedAt := none
  createdAt := 0
  updatedAt := 0

/-- The world when the console connects first: one task is in progress. -/
def firstSource : ViewSource := sampleSource .working (Table.ofList [("T_1", sampleTask .inProgress)])

/-- The world when it connects again: that task is done, and another one has been created. -/
def secondSource : ViewSource :=
  sampleSource .idle (Table.ofList [("T_1", sampleTask .done), ("T_2", sampleTask .queued)])

mutual

/-- The text of a value without fractions and without characters that are escaped. -/
def textOf : Json → String
  | .null => "null"
  | .bool b => if b then "true" else "false"
  | .int n => toString n
  | .float q => toString q.num ++ ".0"
  | .str s => "\"" ++ s ++ "\""
  | .arr items => "[" ++ ",".intercalate (textsOf items) ++ "]"
  | .obj fields => "\x7b" ++ ",".intercalate (fieldTexts fields) ++ "\x7d"

def textsOf : List Json → List String
  | [] => []
  | v :: items => textOf v :: textsOf items

def fieldTexts : List (String × Json) → List String
  | [] => []
  | (key, v) :: fields => ("\"" ++ key ++ "\":" ++ textOf v) :: fieldTexts fields

end

/-- The frames that the world says. -/
def firstView : Json := buildConsoleSnapshot firstSource 5 0

def secondView : Json := buildConsoleSnapshot secondSource 5 0

/-- What their texts hold; others are none here. -/
def parseSample (text : String) : Option Json :=
  if text = textOf (helloOk envAdmin) then some (helloOk envAdmin)
  else if text = textOf firstView then some firstView
  else if text = textOf secondView then some secondView
  else none

/-- A frame of a console that both have. -/
theorem wire_receive {client : ConsoleClient} {peers : List Peer} {p : Peer} {m : Json} {i : ℕ}
    (hp : peers[i]? = some p) (hm : p.said[p.got]? = some m) (hread : parseSample (textOf m) = some m)
    (hopen : client.ready i = some .opened) (hframe : isObject m ∧ m.getStr "type" ≠ some "chunk_frame")
    (htype : m.getStr "type" ≠ some "auth_error") :
    WireStep parseSample sampleConfig "dev-token" textOf ⟨client, peers⟩ (.receive i)
      ⟨{ client with messages := client.messages ++ [m] }, peers.modify i fun p => { p with got := p.got + 1 }⟩ := by
  have hstep : WireStep parseSample sampleConfig "dev-token" textOf ⟨client, peers⟩ (.receive i) _ :=
    .receive hp hm (by rw [ClientLabel.apply, if_pos hopen, onmessage_frame hread hframe htype])
  exact hstep

theorem parseSample_hello : parseSample (textOf (helloOk envAdmin)) = some (helloOk envAdmin) :=
  if_pos rfl

theorem parseSample_first : parseSample (textOf firstView) = some firstView :=
  (if_neg (by decide +kernel)).trans (if_pos rfl)

theorem parseSample_second : parseSample (textOf secondView) = some secondView :=
  (if_neg (by decide +kernel)).trans ((if_neg (by decide +kernel)).trans (if_pos rfl))

/-- What the world has said over the two connections. -/
def firstPeer (got : ℕ) : Peer := ⟨.viewed envAdmin, [helloOk envAdmin, firstView], got⟩

def secondPeer (got : ℕ) : Peer := ⟨.viewed envAdmin, [helloOk envAdmin, secondView], got⟩

/-- The console receives a view, loses its connection, and receives a view over the next. -/
def viewingLabels : List LinkLabel :=
  [.page (.onopen 0), .greet 0 ∅ false] ++ [.view 0 (firstSource.snapshot 5 0), .receive 0, .receive 0] ++
    reconnectingLabels ++ [.view 1 (secondSource.snapshot 5 0), .receive 1, .receive 1]

/-- The console with both views. -/
def viewingLink : LinkState where
  client := { reopenedClient with messages := [helloOk envAdmin, firstView, helloOk envAdmin, secondView] }
  peers := [firstPeer 2, secondPeer 2]

theorem viewing_run : Run (wireSystem parseSample sampleConfig "dev-token" textOf).step
    (LinkState.withClient ⟨ConsoleClient.fresh, []⟩ (ConsoleClient.fresh.start .socket)) viewingLabels viewingLink := by
  have hadmitted := @run_wire _ _ _ _ _ _ textOf (admitted_run parseSample) (by simp)
  have hview : WireStep parseSample sampleConfig "dev-token" textOf
      ⟨openedClient, [⟨.admitted envAdmin, [helloOk envAdmin], 0⟩]⟩ (.view 0 (firstSource.snapshot 5 0))
      ⟨openedClient, [firstPeer 0]⟩ := .other (by simp) (.view rfl rfl)
  have hfirst : Run (wireSystem parseSample sampleConfig "dev-token" textOf).step ⟨openedClient, [firstPeer 0]⟩
      [.receive 0, .receive 0]
      ⟨{ openedClient with messages := [helloOk envAdmin, firstView] }, [firstPeer 2]⟩ :=
    .cons (wire_receive rfl rfl parseSample_hello rfl ⟨rfl, by decide⟩ (by decide))
      (.single (wire_receive rfl rfl parseSample_first rfl ⟨rfl, by decide⟩ (by decide)))
  have hagain := @run_wire _ _ _ _ _ _ textOf
    (reconnecting_run parseSample [helloOk envAdmin, firstView] (firstPeer 2)) (by simp [reconnectingLabels])
  have hview' : WireStep parseSample sampleConfig "dev-token" textOf
      ⟨{ reopenedClient with messages := [helloOk envAdmin, firstView] },
        [firstPeer 2, ⟨.admitted envAdmin, [helloOk envAdmin], 0⟩]⟩ (.view 1 (secondSource.snapshot 5 0))
      ⟨{ reopenedClient with messages := [helloOk envAdmin, firstView] }, [firstPeer 2, secondPeer 0]⟩ :=
    .other (by simp) (.view rfl rfl)
  have hsecond : Run (wireSystem parseSample sampleConfig "dev-token" textOf).step
      ⟨{ reopenedClient with messages := [helloOk envAdmin, firstView] }, [firstPeer 2, secondPeer 0]⟩
      [.receive 1, .receive 1] viewingLink :=
    .cons (wire_receive rfl rfl parseSample_hello rfl ⟨rfl, by decide⟩ (by decide))
      (.single (wire_receive rfl rfl parseSample_second rfl ⟨rfl, by decide⟩ (by decide)))
  exact ((hadmitted.trans (.cons hview hfirst)).trans hagain).trans (.cons hview' hsecond)

/-- It shows the second view: the task of the first is done, and another one is there. -/
theorem console_shows_greeted :
    viewingLink.client.messages = [helloOk envAdmin, firstView, helloOk envAdmin, secondView] ∧
    (secondPeer 2).heard = [helloOk envAdmin, secondView] ∧
    ∀ num stringify toNumber, let store := (storeAfter num stringify toNumber
        (viewingLink.client.messages.map fun m => (.msg m, ⟨"id", 0⟩))).rest
      ((store.tasks.lookup "T_1").isNone ∧ (store.tasks.lookup "T_2").isSome) ∧
      ∃ src maxReviewRounds now, buildConsoleSnapshot src maxReviewRounds now ∈ (secondPeer 2).heard ∧
        Mirrors src maxReviewRounds store := by
  have hread : ReadBack parseSample textOf viewingLink := by
    intro p hp m hm
    rcases List.mem_pair.mp hp with rfl | rfl <;> rcases List.mem_pair.mp hm with rfl | rfl
    · exact parseSample_hello
    · exact parseSample_first
    · exact parseSample_hello
    · exact parseSample_second
  have hbuilt : ∀ l ∈ viewingLabels, l.Built := by
    intro l hl
    simp only [viewingLabels, reconnectingLabels, List.cons_append, List.nil_append, List.mem_cons, List.not_mem_nil,
      or_false] at hl
    rcases hl with rfl | rfl | rfl | rfl | rfl | rfl | rfl | rfl | rfl | rfl | rfl | rfl
    on_goal 3 => exact ⟨firstSource, 5, 0, rfl⟩
    on_goal 9 => exact ⟨secondSource, 5, 0, rfl⟩
    all_goals trivial
  exact ⟨rfl, rfl, fun num stringify toNumber => ⟨⟨rfl, rfl⟩,
    console_shows ⟨.socket, rfl⟩ viewing_run hread hbuilt rfl (le_refl 2) (by simp [Action.frame])⟩⟩

end Shown

end Cliptown.Console
