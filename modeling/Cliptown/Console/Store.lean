import Cliptown.Console.Connection
import Cliptown.Console.MessageLog
import Cliptown.Task.SkillFrames

/-!
# The store of the console

What a console keeps of the world besides its messages, and what each frame does to it.

* `AvatarVM`, `StartupVM`, `TaskVM`, `ActionLockVM`, `PresenceVM`, … — what is shown, with the defaults for what a frame
  does not say (`coerceAvatar`, `coerceStartup`, …); `indexRows` collects the rows of a list or of an object.
* `Store`, `takeView`, `takePresence`, `takeSystemEvent`, … — the store, and a frame of each type.
* `storeOthers`, `storeAfter` — the reducer, as the rest of `reducer`, and a sequence of actions.
* `Store.news`, `store_windows` — the system events are the last ones, newest first, and the toasts the last ones.
* `Store.world`, `world_storeAfter` — what is shown of the world is that of the last view, whatever came before it.
-/

namespace Cliptown.Console

open Cliptown.Lib Cliptown.Task

/-! ### What is shown -/

/-- Source: `health.rs` `Health` -/
inductive Health where
  | online
  | recentlyLost
  | offline
  | aboutToGc
  deriving DecidableEq, Repr

/-- How a bucket is written. Source: `health.rs` `Health`, `serde` -/
def Health.asStr : Health → String
  | .online => "online"
  | .recentlyLost => "recently_lost"
  | .offline => "offline"
  | .aboutToGc => "about_to_gc"

/-- What a console makes of a text that is no bucket: the agent is offline. Source: `store.ts` `coerceAvatar` -/
def Health.ofStr (s : String) : Health :=
  ([.online, .recentlyLost, .offline, .aboutToGc].find? fun h => h.asStr = s).getD .offline

theorem Health.ofStr_asStr (h : Health) : Health.ofStr h.asStr = h := by
  cases h <;> decide

/-- Source: `store.ts` `AvatarVM` -/
structure AvatarVM where
  agentId : String
  startupId : String
  role : String
  backend : String
  currentPos : ℚ × ℚ
  targetPos : Option (ℚ × ℚ)
  roomId : String
  status : String
  lastSeenAt : Option ℚ
  health : Health
  isPeerReviewer : Bool
  deriving DecidableEq

/-- Source: `store.ts` `StartupVM` -/
structure StartupVM where
  id : String
  name : String
  budgetSpentUsd : Option ℚ
  budgetCapUsd : Option ℚ
  lastEventTs : Option ℚ
  autoStealEnabled : Option Bool
  autoStealAfterSecs : Option ℚ
  autoRecoveryEnabled : Option Bool
  autoRecoveryMaxAttempts : Option ℚ
  deriving DecidableEq

/-- Source: `store.ts` `TaskVM` -/
structure TaskVM where
  id : String
  startupId : String
  title : String
  status : String
  assigneeAgentId : Option String
  requiredRoom : Option String
  reviewRound : Option ℚ
  maxReviewRounds : Option ℚ
  artifactPath : Option String
  blockedOn : Option String
  deadlineAt : Option ℚ
  deriving DecidableEq

/-- Source: `store.ts` `ActionLockVM` -/
structure ActionLockVM where
  lockKey : String
  operatorId : String
  operatorName : String
  expiresAt : ℚ
  deriving DecidableEq

/-- Source: `store.ts` `PresenceVM` -/
structure PresenceVM where
  operatorId : String
  operatorName : String
  role : String
  focusedStartupId : Option String
  lastSeenAt : ℚ
  deriving DecidableEq

/-- Source: `store.ts` `SystemEventVM` -/
structure SystemEventVM where
  ts : ℚ
  severity : String
  kind : String
  startupId : Option String
  payload : Json

/-- Source: `store.ts` `ToastVM` -/
structure ToastVM where
  id : String
  ts : ℚ
  severity : String
  body : String
  sticky : Bool
  deriving DecidableEq

/-- Source: `store.ts` `ModalVM` -/
structure ModalVM where
  id : String
  kind : String
  payload : Json

/-- Source: `store.ts` `OperatorRow`; `none` is not a number. -/
structure OperatorRow where
  id : String
  name : String
  role : String
  createdAt : Option ℚ
  deriving DecidableEq

/-! ### What a frame says -/

/-- `typeof v === "object"` and no array. Source: `store.ts` `asObject` -/
def asObject : Json → Option Json
  | .obj fields => some (.obj fields)
  | _ => none

/-- The number under a key. -/
def getNumber (v : Json) (key : String) : Option ℚ := (v.get key).bind Js.asNumber

/-- The boolean under a key. -/
def getBool (v : Json) (key : String) : Option Bool := (v.get key).bind Json.asBool

/-- The text under a key, or a default. Source: `store.ts` `asString` -/
def asString (v : Json) (key fallback : String) : String := (v.getStr key).getD fallback

/-- The first two items of an array, if they are numbers. -/
def asPos : Json → Option (ℚ × ℚ)
  | .arr (x :: y :: _) => (Js.asNumber x).bind fun x => (Js.asNumber y).map fun y => (x, y)
  | _ => none

/-- Source: `store.ts` `coerceAvatar` -/
def coerceAvatar (a : Json) (agentId : String) : AvatarVM where
  agentId := asString a "agent_id" agentId
  startupId := asString a "startup_id" ""
  role := asString a "role" ""
  backend := asString a "backend" ""
  currentPos := ((a.get "current_pos").bind asPos).getD (0, 0)
  targetPos := (a.get "target_pos").bind asPos
  roomId := asString a "room_id" ""
  status := asString a "status" ""
  lastSeenAt := getNumber a "last_seen_at"
  health := .ofStr (asString a "health" "offline")
  isPeerReviewer := getBool a "is_peer_reviewer" = some true

/-- Source: `store.ts` `coerceStartup` -/
def coerceStartup (s : Json) (id : String) : StartupVM where
  id := asString s "id" id
  name := asString s "name" id
  budgetSpentUsd := getNumber s "budget_spent_usd"
  budgetCapUsd := getNumber s "budget_cap_usd"
  lastEventTs := getNumber s "last_event_ts"
  autoStealEnabled := getBool s "auto_steal_enabled"
  autoStealAfterSecs := getNumber s "auto_steal_after_secs"
  autoRecoveryEnabled := getBool s "auto_recovery_enabled"
  autoRecoveryMaxAttempts := getNumber s "auto_recovery_max_attempts"

/-- Source: `store.ts` `coerceTask` -/
def coerceTask (t : Json) (id : String) : TaskVM where
  id := asString t "id" id
  startupId := asString t "startup_id" ""
  title := asString t "title" ""
  status := asString t "status" ""
  assigneeAgentId := t.getStr "assignee_agent_id"
  requiredRoom := t.getStr "required_room"
  reviewRound := getNumber t "review_round"
  maxReviewRounds := getNumber t "max_review_rounds"
  artifactPath := t.getStr "artifact_path"
  blockedOn := t.getStr "blocked_on"
  deadlineAt := getNumber t "deadline_at"

/-- Source: `store.ts` `coerceActionLock` -/
def coerceActionLock (o : Json) : Option ActionLockVM :=
  let lockKey := asString o "lock_key" ""
  if lockKey = "" then none
  else some ⟨lockKey, asString o "operator_id" "", asString o "operator_name" "", (getNumber o "expires_at").getD 0⟩

/-- The objects among the items of an array. -/
def objectsOf (raw : Json) : List Json := ((jsonItems raw).getD []).filterMap asObject

/-- Source: `store.ts` `coerceActionLocks` -/
def coerceActionLocks (raw : Json) : Table String ActionLockVM :=
  Table.ofList (((objectsOf raw).filterMap coerceActionLock).map fun lock => (lock.lockKey, lock))

/-- Rows by their ids: those of an array that have one, or those of an object, under its keys. -/
def indexRows {β : Type} (idKey : String) (coerce : Json → String → β) (raw : Json) : Table String β :=
  match raw with
  | .obj fields => Table.ofList (fields.filterMap fun f => (asObject f.2).map fun v => (f.1, coerce v f.1))
  | _ => Table.ofList ((objectsOf raw).filterMap fun v =>
      let id := asString v idKey ""
      if id = "" then none else some (id, coerce v id))

/-- Source: `store.ts` `indexAvatars` -/
def indexAvatars : Json → Table String AvatarVM := indexRows "agent_id" coerceAvatar

/-- Source: `store.ts` `indexStartups` -/
def indexStartups : Json → Table String StartupVM := indexRows "id" coerceStartup

/-- Source: `store.ts` `indexTasks` -/
def indexTasks : Json → Table String TaskVM := indexRows "id" coerceTask

/-- Source: `store.ts` `reducer`, `operator_presence` -/
def coercePresence (o : Json) : Option PresenceVM :=
  let operatorId := asString o "operator_id" ""
  if operatorId = "" then none
  else some ⟨operatorId, asString o "operator_name" "", asString o "role" "viewer", o.getStr "focused_startup_id",
    (getNumber o "last_seen_at").getD 0⟩

/-- Source: `store.ts` `severityFromString` -/
def severityFromString (s : Option String) : String :=
  match s with
  | some s => if s ∈ ["warn", "alert", "critical"] then s else "info"
  | none => "info"

/-! ### The store -/

/-- Source: `store.ts` `WorldState`, without the messages -/
structure Store extends SkillReplica where
  status : String
  avatars : Table String AvatarVM
  startups : Table String StartupVM
  tasks : Table String TaskVM
  systemEvents : List SystemEventVM
  backendCatalog : Json
  toasts : List ToastVM
  modals : List ModalVM
  operators : Option (List OperatorRow)
  mintedOperatorToken : Option (String × String × String)
  currentOperator : Option (String × String × String)
  presence : List PresenceVM
  actionLocks : Table String ActionLockVM

/-- Source: `store.ts` `INITIAL` -/
def Store.initial : Store where
  skills := ∅
  skillRevisions := ∅
  status := "connecting"
  avatars := ∅
  startups := ∅
  tasks := ∅
  systemEvents := []
  backendCatalog := .obj []
  toasts := []
  modals := []
  operators := none
  mintedOperatorToken := none
  currentOperator := none
  presence := []
  actionLocks := ∅

/-- Source: `store.ts` `MAX_SYSTEM_EVENTS` -/
def maxSystemEvents : ℕ := 200

/-- Source: `store.ts` `MAX_TOASTS` -/
def maxToasts : ℕ := 20

/-- Source: `store.ts` `TOAST_WORTHY_KINDS` -/
def toastWorthyKinds : List String := ["task_stolen", "task_unblocked", "task_overdue", "task_recovered"]

variable (num : Js.Numbers) (stringify : Json → String) (toNumber : Json → Option ℚ)

/-- Source: `store.ts` `prettifySystemEventPayload` -/
def prettifySystemEventPayload (kind : String) (payload : Json) : String :=
  match asObject payload with
  | none => ""
  | some p =>
    let id := asString p "task_id" "?"
    match kind with
    | "task_stolen" =>
      let mode := ((p.getStr "mode").map fun mode => " (" ++ mode ++ ")").getD ""
      id ++ " stolen by " ++ asString p "new_assignee" "?" ++ " ← " ++ asString p "previous_assignee" "?" ++ mode
    | "task_unblocked" => id ++ " unblocked from " ++ asString p "blocker_id" "?"
    | "task_overdue" => id ++ " overdue by " ++ num.text ((getNumber p "overdue_by_secs").getD 0) ++ "s"
    | "task_recovered" =>
      id ++ " recovered " ++ asString p "from_agent_id" "?" ++ " → " ++ asString p "to_agent_id" "?" ++ " (" ++
        asString p "strategy" "auto" ++ ")"
    | _ => ""

/-- The last of the toasts, and one more. -/
def Store.pushToast (s : Store) (toast : ToastVM) : Store :=
  let next := s.toasts ++ [toast]
  { s with toasts := if maxToasts < next.length then next.drop (next.length - maxToasts) else next }

/-- The toast of a lock that someone else holds. Source: `store.ts` `reducer`, `error` -/
def lockedToast (m : Json) (env : Moment) : ToastVM :=
  let who := asString m "operator_name" "another operator"
  let exp := (getNumber m "expires_at").getD 0
  let remaining := max 0 (exp - (env.now / 1000).floor)
  { id := env.newId, ts := env.now, severity := "warn"
    body := if 0 < remaining then "Locked by " ++ who ++ " — " ++ num.text remaining ++ "s" else "Locked by " ++ who
    sticky := false }

/-- Source: `store.ts` `reducer`, `error` -/
def takeError (s : Store) (m : Json) (env : Moment) : Store :=
  if asString m "reason" "" = "locked_by" then s.pushToast (lockedToast num m env) else s

/-- Source: `store.ts` `reducer`, `action_locked` -/
def takeActionLocked (s : Store) (m : Json) : Store :=
  match ((m.get "info").bind asObject).bind coerceActionLock with
  | some lock => { s with actionLocks := s.actionLocks.insert lock.lockKey lock }
  | none => s

/-- Source: `store.ts` `reducer`, `action_unlocked` -/
def takeActionUnlocked (s : Store) (m : Json) : Store :=
  let key := asString m "lock_key" ""
  if key = "" then s else { s with actionLocks := s.actionLocks.erase key }

/-- Source: `store.ts` `reducer`, `operator_presence` -/
def takePresence (s : Store) (m : Json) : Store :=
  match (m.get "presences").bind jsonItems with
  | some items => { s with presence := (items.filterMap asObject).filterMap coercePresence }
  | none => s

/-- Source: `store.ts` `reducer`, `hello_ok` -/
def takeHelloOk (s : Store) (m : Json) : Store :=
  let operator := (asString m "operator_id" "", asString m "operator_name" "", asString m "role" "viewer")
  { s with currentOperator := some operator }

/-- A view: what it does not say of the startups, the tasks and the locks stays. Source: `store.ts` `reducer`,
`world_view_snapshot` -/
def takeView (s : Store) (m : Json) : Store :=
  let snap := ((m.get "snapshot").bind asObject).getD (.obj [])
  { s with
    avatars := ((snap.get "avatars").map indexAvatars).getD ∅
    startups := ((snap.get "startups").map indexStartups).getD s.startups
    tasks := ((snap.get "tasks").map indexTasks).getD s.tasks
    backendCatalog := ((snap.get "backend_catalog").bind asObject).getD (.obj [])
    actionLocks := ((snap.get "action_locks").map coerceActionLocks).getD s.actionLocks }

/-- The event of a frame. Source: `store.ts` `reducer`, `system_event` -/
def systemEventOf (m : Json) (env : Moment) : SystemEventVM where
  ts := (getNumber m "ts").getD env.now
  severity := severityFromString (m.getStr "severity")
  kind := asString m "kind" ""
  startupId := m.getStr "startup_id"
  payload := Js.valueOr (m.get "payload") .null

/-- The toast of an event that deserves one. Source: `store.ts` `reducer`, `system_event` -/
def eventToast (ev : SystemEventVM) (env : Moment) : Option ToastVM :=
  if ev.kind ∈ toastWorthyKinds then
    let pretty := prettifySystemEventPayload num ev.kind ev.payload
    let body := if pretty ≠ "" then pretty else ev.kind ++ ": " ++ stringify ev.payload
    some ⟨env.newId, env.now, ev.severity, body, ev.severity ∈ ["warn", "alert", "critical"]⟩
  else none

/-- Source: `store.ts` `reducer`, `system_event` -/
def takeSystemEvent (s : Store) (m : Json) (env : Moment) : Store :=
  let ev := systemEventOf m env
  let s := { s with systemEvents := (ev :: s.systemEvents).take maxSystemEvents }
  match eventToast num stringify ev env with
  | some toast => s.pushToast toast
  | none => s

/-- Source: `store.ts` `reducer`, `backend_catalog` -/
def takeBackendCatalog (s : Store) (m : Json) : Store :=
  { s with backendCatalog := ((m.get "entries").bind asObject).getD (.obj []) }

/-- Source: `store.ts` `reducer`, `toast` -/
def takeToast (s : Store) (m : Json) (env : Moment) : Store :=
  s.pushToast
    { id := env.newId, ts := env.now, severity := asString m "severity" "info", body := asString m "body" ""
      sticky := (getBool m "sticky").getD false }

/-- Source: `store.ts` `reducer`, `modal` -/
def takeModal (s : Store) (m : Json) (env : Moment) : Store :=
  let md : ModalVM :=
    { id := env.newId, kind := asString m "kind" "", payload := Js.valueOr (m.get "payload") .null }
  { s with modals := s.modals ++ [md] }

/-- Source: `store.ts` `reducer`, `skills_snapshot` -/
def takeSkillsSnapshot (s : Store) (m : Json) : Store :=
  { s with toSkillReplica := s.toSkillReplica.takeSnapshot (Js.valueOr (m.get "startups") (.obj [])) }

/-- What a frame says of a skill. Source: `store.ts` `reducer`, `skill_changed` -/
def skillChangedOf (m : Json) : SkillChanged where
  startupId := asString m "startup_id" ""
  kind := asString m "kind" ""
  skillId := asString m "skill_id" ""
  agentId := m.getStr "agent_id"
  skill := m.get "skill"

/-- Source: `store.ts` `reducer`, `skill_changed` -/
def takeSkillChanged (s : Store) (m : Json) : Store :=
  { s with toSkillReplica := s.toSkillReplica.take (skillChangedOf m) }

/-- `String(v ?? "")`; `none` where it throws. -/
def textOr (o : Json) (key : String) : Option String := Js.toText num (Js.valueOr (o.get key) (.str ""))

/-- A row of the list of operators. Source: `store.ts` `reducer`, `operator_list` -/
def operatorRow (o : Json) : Option OperatorRow := do
  let id ← textOr num o "id"
  let name ← textOr num o "name"
  let role ← textOr num o "role"
  return ⟨id, name, role, toNumber (Js.valueOr (o.get "created_at") (.int 0))⟩

/-- A row of the revisions of a skill. Source: `store.ts` `reducer`, `skill_revisions` -/
def revisionRow (skillId : String) (o : Json) : Option SkillRevisionVM :=
  let id := asString o "id" ""
  if id = "" then none
  else some {
    id := id
    skillId := asString o "skill_id" skillId
    revSeq := (getNumber o "rev_seq").getD 0
    contentMd := asString o "content_md" ""
    createdAt := (getNumber o "created_at").getD 0
    createdByAgentId := o.getStr "created_by_agent_id"
    createdByOperatorId := o.getStr "created_by_operator_id" }

/-- The replies that are shown; `none` where `String(v)` throws. Source: `store.ts` `reducer`, `ok` -/
def takeOk (s : Store) (m : Json) (env : Moment) : Option Store :=
  match asString m "kind" "", (m.get "operators").bind jsonItems, m.getStr "id" with
  | "operator_list", some items, _ => do
    let rows ← (items.filterMap asObject).mapM (operatorRow num toNumber)
    return { s with operators := some (rows.filter fun o => o.id ≠ "") }
  | "operator_create", _, some id =>
    match m.getStr "token" with
    | some token => do
      let name ← textOr num m "name"
      let role ← textOr num m "role"
      let row : OperatorRow := ⟨id, name, role, some (env.now / 1000).floor⟩
      return { s with
        operators := some ((s.operators.getD []) ++ [row])
        mintedOperatorToken := some (id, name, token) }
    | none => some s
  | "operator_revoke", _, some id =>
    some { s with operators := s.operators.map fun rows => rows.filter fun o => o.id ≠ id }
  | "operator_set_role", _, some id =>
    match m.getStr "role" with
    | some role => some { s with
        operators := s.operators.map fun rows => rows.map fun o => if o.id = id then { o with role := role } else o }
    | none => some s
  | "skill_revisions", _, _ =>
    match m.getStr "skill_id", (m.get "revisions").bind jsonItems with
    | some skillId, some items => some { s with
        skillRevisions :=
          s.skillRevisions.insert skillId ((items.filterMap asObject).filterMap (revisionRow skillId)) }
    | _, _ => some s
  | _, _, _ => some s

/-- What a frame does to the store; nothing where it throws. Source: `store.ts` `reducer` -/
def takeFrame (s : Store) (m : Json) (env : Moment) : Store :=
  match m.getStr "type" with
  | some "error" => takeError num s m env
  | some "action_locked" => takeActionLocked s m
  | some "action_unlocked" => takeActionUnlocked s m
  | some "operator_presence" => takePresence s m
  | some "hello_ok" => takeHelloOk s m
  | some "world_view_snapshot" => takeView s m
  | some "system_event" => takeSystemEvent num stringify s m env
  | some "backend_catalog" => takeBackendCatalog s m
  | some "toast" => takeToast s m env
  | some "modal" => takeModal s m env
  | some "skills_snapshot" => takeSkillsSnapshot s m
  | some "skill_changed" => takeSkillChanged s m
  | some "ok" => (takeOk num toNumber s m env).getD s
  | _ => s

/-- What an action does to the store besides the messages. Source: `store.ts` `reducer` -/
def storeOthers (state : WorldState Store) (action : Action) (env : Moment) : Store :=
  match action with
  | .status status => { state.rest with status := status }
  | .clearMintedOperatorToken => { state.rest with mintedOperatorToken := none }
  | .localToast severity body sticky =>
    state.rest.pushToast { id := env.newId, ts := env.now, severity, body, sticky := sticky.getD false }
  | .msg m => takeFrame num stringify toNumber state.rest m env

/-- The store after a sequence of actions. -/
def storeAfter (actions : List (Action × Moment)) : WorldState Store :=
  stateAfter num (storeOthers num stringify toNumber) Store.initial actions

/-! ### What is kept of the events -/

section Windows

variable {num stringify toNumber} {s : Store} {m : Json} {env : Moment} {action : Action}
  {actions : List (Action × Moment)}

/-- The event that an action brings. -/
def Action.event (env : Moment) : Action → Option SystemEventVM
  | .msg m => if m.getStr "type" = some "system_event" then some (systemEventOf m env) else none
  | _ => none

variable (num stringify) in
/-- The toast of a frame. -/
def frameToast (m : Json) (env : Moment) : Option ToastVM :=
  match m.getStr "type" with
  | some "error" => if asString m "reason" "" = "locked_by" then some (lockedToast num m env) else none
  | some "system_event" => eventToast num stringify (systemEventOf m env) env
  | some "toast" => some {
      id := env.newId, ts := env.now, severity := asString m "severity" "info", body := asString m "body" ""
      sticky := (getBool m "sticky").getD false }
  | _ => none

variable (num stringify) in
/-- The toast that an action raises. -/
def Action.toast (env : Moment) : Action → Option ToastVM
  | .msg m => frameToast num stringify m env
  | .localToast severity body sticky =>
    some { id := env.newId, ts := env.now, severity, body, sticky := sticky.getD false }
  | _ => none

/-- The events and the toasts that the store shows. -/
def Store.news (s : Store) : List SystemEventVM × List ToastVM := (s.systemEvents, s.toasts)

theorem news_pushToast (toast : ToastVM) :
    (s.pushToast toast).news = (s.systemEvents, keepLast maxToasts (s.toasts ++ [toast])) := by
  refine Prod.ext rfl ?_
  simp only [Store.pushToast, Store.news, keepLast]
  split_ifs with hlong
  · rfl
  · rw [show (s.toasts ++ [toast]).length - maxToasts = 0 by omega, List.drop_zero]

/-- What is kept of a kept end and one more. -/
theorem keepLast_keepLast_append {α : Type*} (cap : ℕ) (l : List α) (x : α) :
    keepLast cap (keepLast cap l ++ [x]) = keepLast cap (l ++ [x]) := by
  have hlength : (keepLast cap l).length = l.length - (l.length - cap) := List.length_drop
  have hdrop : keepLast cap l ++ [x] = (l ++ [x]).drop (l.length - cap) := by
    rw [keepLast, List.drop_append_of_le_length (by omega)]
  calc keepLast cap (keepLast cap l ++ [x])
      = (keepLast cap l ++ [x]).drop ((keepLast cap l ++ [x]).length - cap) := rfl
    _ = (l ++ [x]).drop ((l.length - cap) + ((keepLast cap l ++ [x]).length - cap)) := by
        rw [hdrop, List.drop_drop]
    _ = keepLast cap (l ++ [x]) := by
        rw [List.length_append, hlength, keepLast, List.length_append, List.length_singleton]
        congr 1
        omega

theorem filterMap_singleton {α β : Type*} (f : α → Option β) (a : α) : [a].filterMap f = (f a).toList := by
  cases h : f a with
  | none => rw [List.filterMap_cons_none h, List.filterMap_nil, Option.toList_none]
  | some b => rw [List.filterMap_cons_some h, List.filterMap_nil, Option.toList_some]

/-- What is kept of a kept beginning after one more. -/
theorem take_cons_take {α : Type*} (n : ℕ) (x : α) (l : List α) : (x :: l.take n).take n = (x :: l).take n := by
  cases n with
  | zero => rfl
  | succ n => rw [List.take_succ_cons, List.take_succ_cons, List.take_take, Nat.min_eq_left (Nat.le_succ n)]

/-- The other replies show nothing of the kind. -/
theorem news_takeOk {s' : Store} (h : takeOk num toNumber s m env = some s') : s'.news = s.news := by
  unfold takeOk at h
  split at h
  · obtain ⟨rows, -, h⟩ := Option.bind_eq_some_iff.mp h
    cases h
    rfl
  · split at h
    · obtain ⟨name, -, h⟩ := Option.bind_eq_some_iff.mp h
      obtain ⟨role, -, h⟩ := Option.bind_eq_some_iff.mp h
      cases h
      rfl
    · cases h
      rfl
  · cases h
    rfl
  · split at h <;> cases h <;> rfl
  · split at h <;> cases h <;> rfl
  · cases h
    rfl

theorem news_takeOk_getD : ((takeOk num toNumber s m env).getD s).news = s.news := by
  cases h : takeOk num toNumber s m env with
  | none => rfl
  | some s' => exact news_takeOk h

theorem news_takeActionLocked : (takeActionLocked s m).news = s.news := by
  rw [takeActionLocked]
  split <;> rfl

theorem news_takeActionUnlocked : (takeActionUnlocked s m).news = s.news := by
  rw [takeActionUnlocked]
  split_ifs <;> rfl

theorem news_takePresence : (takePresence s m).news = s.news := by
  rw [takePresence]
  split <;> rfl

/-- What a frame does to the events and the toasts. -/
theorem news_takeFrame : (takeFrame num stringify toNumber s m env).news =
    (((Action.msg m).event env).elim s.systemEvents fun ev => (ev :: s.systemEvents).take maxSystemEvents,
      (frameToast num stringify m env).elim s.toasts fun toast => keepLast maxToasts (s.toasts ++ [toast])) := by
  simp only [takeFrame, frameToast, Action.event]
  split
  · next htype =>
      rw [htype, takeError]
      by_cases hlocked : asString m "reason" "" = "locked_by"
      · simp only [if_pos hlocked, news_pushToast]
        rfl
      · simp only [if_neg hlocked]
        rfl
  · next htype =>
      rw [htype, news_takeActionLocked]
      rfl
  · next htype =>
      rw [htype, news_takeActionUnlocked]
      rfl
  · next htype =>
      rw [htype, news_takePresence]
      rfl
  · next htype =>
      rw [htype]
      rfl
  · next htype =>
      rw [htype]
      rfl
  · next htype =>
      simp only [htype, if_true, takeSystemEvent]
      cases eventToast num stringify (systemEventOf m env) env with
      | none => rfl
      | some toast => exact news_pushToast toast
  · next htype =>
      rw [htype]
      rfl
  · next htype =>
      rw [htype, takeToast, news_pushToast]
      rfl
  · next htype =>
      rw [htype]
      rfl
  · next htype =>
      rw [htype]
      rfl
  · next htype =>
      rw [htype]
      rfl
  · next htype =>
      rw [htype, news_takeOk_getD]
      rfl
  · next hother =>
      have hevent : m.getStr "type" ≠ some "system_event" := fun htype => by simp_all
      rw [if_neg hevent]
      split
      · next htype => exact absurd htype (by simp_all)
      · next htype => exact absurd htype (by simp_all)
      · next htype => exact absurd htype (by simp_all)
      · rfl

/-- What an action does to the rest of the store; the messages of the log touch nothing of it. -/
theorem rest_reducer (state : WorldState Store) :
    (reducer num (storeOthers num stringify toNumber) state action env).rest =
      storeOthers num stringify toNumber state action env := by
  rw [reducer]
  cases hmessage : action.message num env with
  | none => rfl
  | some msg =>
      have hothers : storeOthers num stringify toNumber state action env = state.rest := by
        cases action with
        | msg m =>
            simp only [Action.message] at hmessage
            split at hmessage
            · next htype =>
                rw [storeOthers, takeFrame, htype]
                rfl
            · next htype =>
                rw [storeOthers, takeFrame, htype]
                rfl
            · cases hmessage
        | status status => cases hmessage
        | localToast severity body sticky => cases hmessage
        | clearMintedOperatorToken => cases hmessage
      rw [hothers]
      dsimp only
      split_ifs <;> rfl

theorem rest_storeAfter_append (a : Action × Moment) :
    (storeAfter num stringify toNumber (actions ++ [a])).rest =
      storeOthers num stringify toNumber (storeAfter num stringify toNumber actions) a.1 a.2 := by
  rw [storeAfter, stateAfter, List.foldl_append]
  exact rest_reducer _

/-- What an action does to the events and the toasts. -/
theorem news_storeOthers (state : WorldState Store) :
    (storeOthers num stringify toNumber state action env).news =
      ((action.event env).elim state.rest.systemEvents fun ev => (ev :: state.rest.systemEvents).take maxSystemEvents,
        (action.toast num stringify env).elim state.rest.toasts fun toast =>
          keepLast maxToasts (state.rest.toasts ++ [toast])) := by
  cases action with
  | msg m => exact news_takeFrame
  | status status => rfl
  | localToast severity body sticky => exact news_pushToast _
  | clearMintedOperatorToken => rfl

/-- **What the console shows of what happened**: of all system events that have come the last ones, newest first, and of
all toasts that were raised the last ones, whatever else has come in between. -/
theorem store_windows (actions : List (Action × Moment)) :
    (storeAfter num stringify toNumber actions).rest.systemEvents =
        (actions.filterMap fun a => a.1.event a.2).reverse.take maxSystemEvents ∧
      (storeAfter num stringify toNumber actions).rest.toasts =
        keepLast maxToasts (actions.filterMap fun a => a.1.toast num stringify a.2) := by
  induction actions using List.reverseRecOn with
  | nil => exact ⟨rfl, rfl⟩
  | append_singleton actions a ih =>
      obtain ⟨hevents, htoasts⟩ := ih
      have hnews : (storeOthers num stringify toNumber (storeAfter num stringify toNumber actions) a.1 a.2).news = _ :=
        news_storeOthers _
      rw [← rest_storeAfter_append, hevents, htoasts] at hnews
      obtain ⟨hevents', htoasts'⟩ := Prod.mk.inj hnews
      constructor
      · rw [hevents', List.filterMap_append, filterMap_singleton, List.reverse_append]
        cases a.1.event a.2 with
        | none => rfl
        | some ev => exact take_cons_take _ _ _
      · rw [htoasts', List.filterMap_append, filterMap_singleton]
        cases a.1.toast num stringify a.2 with
        | none => rw [Option.toList_none, List.append_nil, Option.elim_none]
        | some toast => exact keepLast_keepLast_append maxToasts _ toast

end Windows

/-! ### What is shown of the world -/

section World

variable {num stringify toNumber} {s : Store} {m : Json} {env : Moment} {action : Action}
  {before after : List (Action × Moment)}

/-- The agents, the startups and the tasks that the store shows. -/
def Store.world (s : Store) : Table String AvatarVM × Table String StartupVM × Table String TaskVM :=
  (s.avatars, s.startups, s.tasks)

/-- The action brings a view. -/
def Action.IsView : Action → Prop
  | .msg m => m.getStr "type" = some "world_view_snapshot"
  | _ => False

theorem world_pushToast (toast : ToastVM) : (s.pushToast toast).world = s.world := rfl

theorem world_takeOk {s' : Store} (h : takeOk num toNumber s m env = some s') : s'.world = s.world := by
  unfold takeOk at h
  split at h
  · obtain ⟨rows, -, h⟩ := Option.bind_eq_some_iff.mp h
    cases h
    rfl
  · split at h
    · obtain ⟨name, -, h⟩ := Option.bind_eq_some_iff.mp h
      obtain ⟨role, -, h⟩ := Option.bind_eq_some_iff.mp h
      cases h
      rfl
    · cases h
      rfl
  · cases h
    rfl
  · split at h <;> cases h <;> rfl
  · split at h <;> cases h <;> rfl
  · cases h
    rfl

/-- Only a view changes what is shown of the world. -/
theorem world_takeFrame (h : m.getStr "type" ≠ some "world_view_snapshot") :
    (takeFrame num stringify toNumber s m env).world = s.world := by
  rw [takeFrame]
  split
  · rw [takeError]
    split_ifs
    · exact world_pushToast _
    · rfl
  · rw [takeActionLocked]
    split <;> rfl
  · rw [takeActionUnlocked]
    split_ifs <;> rfl
  · rw [takePresence]
    split <;> rfl
  · rfl
  · next htype => exact absurd htype h
  · rw [takeSystemEvent]
    split
    · exact world_pushToast _
    · rfl
  · rfl
  · exact world_pushToast _
  · rfl
  · rfl
  · rfl
  · cases hok : takeOk num toNumber s m env with
    | none => rfl
    | some s' => exact world_takeOk hok
  · rfl

theorem world_storeOthers (state : WorldState Store) (h : ¬ action.IsView) :
    (storeOthers num stringify toNumber state action env).world = state.rest.world := by
  cases action with
  | msg m => exact world_takeFrame h
  | status status => rfl
  | localToast severity body sticky => exact world_pushToast _
  | clearMintedOperatorToken => rfl

/-- What is shown of the world is that of the last view. -/
theorem world_storeAfter (hview : m.getStr "type" = some "world_view_snapshot") (hafter : ∀ a ∈ after, ¬ a.1.IsView) :
    (storeAfter num stringify toNumber (before ++ (.msg m, env) :: after)).rest.world =
      (takeView (storeAfter num stringify toNumber before).rest m).world := by
  induction after using List.reverseRecOn with
  | nil =>
      rw [rest_storeAfter_append, storeOthers, takeFrame, hview]
      rfl
  | append_singleton after a ih =>
      have hlast : ¬ a.1.IsView := hafter a (List.mem_append_right after List.mem_cons_self)
      have hrest : ∀ a ∈ after, ¬ a.1.IsView := fun b hb => hafter b (List.mem_append_left [a] hb)
      rw [← List.cons_append, ← List.append_assoc, rest_storeAfter_append, world_storeOthers _ hlast, ih hrest]

end World

end Cliptown.Console
