import Cliptown.Suite.Mirror
import Cliptown.Task.LoopEffects
import Cliptown.Task.Tenancy

/-!
# Who hears an agent

Startups come and go while their agents talk: `speak` sends chats and directives, and `task_request_changes` sends
directives of its own.

* `AgentRef`, `canSendDirective` — the predicate of `permissions.rs`.
* `OfficeState`, `officeSystem` — the loop, the tables, and the messages about suites on their way: requests,
  startups that are created and dissolved, and restarts, in any order.
* `Housed` — the invariant: every avatar but the operator's stands for an agent of its startup, and tasks are
  assigned within their startup.
* `Heard` — a directive reaches an agent of the sender's startup, and a chat an avatar in the sender's room that is
  of the sender's startup or in a public room.
* `handleSpeak_directive_iff` — a directive is accepted when it can be sent.
* `directives_isolated` — both, in every state that is reached.
-/

namespace Cliptown.Suite

open Cliptown.Lib Cliptown.Town Cliptown.World Cliptown.Task Cliptown.Console

/-! ### Permissions -/

/-- Source: `permissions.rs` `AgentKind` -/
inductive AgentKind where
  | agent
  | operator
  deriving DecidableEq, Repr

/-- Source: `permissions.rs` `AgentRef` -/
structure AgentRef where
  agentId : String
  startupId : String
  kind : AgentKind
  managerId : Option String

/-- Source: `permissions.rs` `can_send_directive` -/
def canSendDirective (sender recipient : AgentRef) : Bool :=
  if sender.kind = .operator then true
  else if sender.startupId ≠ recipient.startupId then false
  else recipient.managerId = some sender.agentId

/-- An agent as it is stored. -/
def agentRef (agentId : String) (row : Agent) : AgentRef where
  agentId := agentId
  startupId := row.startupId
  kind := .agent
  managerId := row.managerId

/-! ### The office -/

/-- The loop with its layout, the tables, and the messages about suites on their way. -/
structure OfficeState where
  loop : LoopState
  layout : TownLayout
  statuses : Table String StartupStatus
  rooms : Table String RoomRow
  pending : List SuiteMessage

namespace OfficeState

/-- The tables. -/
def town (s : OfficeState) : TownDb :=
  ⟨s.loop.db, s.statuses, s.rooms⟩

/-- The loop reads its own layout. -/
def config (cfg : Config) (s : OfficeState) : Config :=
  { cfg with layout := s.layout }

/-- A handler has committed, and is going to tell the loop. -/
def committed (s : OfficeState) (d : TownDb) (m : SuiteMessage) : OfficeState where
  loop := { s.loop with db := d.db }
  layout := s.layout
  statuses := d.statuses
  rooms := d.rooms
  pending := m :: s.pending

/-- The loop is told. -/
def told (s : OfficeState) (m : SuiteMessage) (pending : List SuiteMessage) : OfficeState where
  loop := { s.loop with world := (m.apply s.layout s.loop.world).2 }
  layout := (m.apply s.layout s.loop.world).1
  statuses := s.statuses
  rooms := s.rooms
  pending := pending

/-- The process stops, and boots again on the same database. -/
def restarted (s : OfficeState) : OfficeState where
  loop := { s.loop with
    world := ⟨∅⟩
    paths := ∅
    outBus := [] }
  layout := defaultTown
  statuses := s.statuses
  rooms := s.rooms
  pending := []

end OfficeState

/-- A request to the loop, a transaction that commits, a message that arrives, or a restart. -/
inductive OfficeLabel where
  | request (l : LoopEvent)
  | create (n : NewStartup)
  | delete (startupId : String)
  | deliver (m : SuiteMessage)
  | restart

/-- The steps. The messages of different handlers arrive in any order. -/
inductive OfficeStep (cfg : Config) (sqlText : String) : OfficeState → OfficeLabel → OfficeState → Prop
  | request {s : OfficeState} {l : LoopEvent} :
      OfficeStep cfg sqlText s (.request l) { s with loop := l.apply (s.config cfg) s.loop }
  | create {s : OfficeState} {identity : Option OperatorIdentity} {req : CreateStartupRequest} {m : Minted}
      {n : NewStartup} {d : TownDb} :
      (createStartup sqlText identity req m).Commits (· = ·) s.town (.created n) d →
        OfficeStep cfg sqlText s (.create n) (s.committed d (createdMessage n))
  | delete {s : OfficeState} {identity : Option OperatorIdentity} {startupId : String} {d : TownDb} :
      (deleteStartup sqlText identity startupId).Commits (· = ·) s.town (.dissolved startupId) d →
        OfficeStep cfg sqlText s (.delete startupId) (s.committed d (.releaseSuite startupId))
  | deliver {s : OfficeState} {m : SuiteMessage} {before after : List SuiteMessage} :
      s.pending = before ++ m :: after →
        OfficeStep cfg sqlText s (.deliver m) (s.told m (before ++ after))
  | restart {s : OfficeState} : OfficeStep cfg sqlText s .restart s.restarted

/-- The runs, from a process that has just started on a database whose tasks are assigned within their
startups. -/
def officeSystem (cfg : Config) (sqlText : String) : System OfficeState OfficeLabel where
  init s := s.loop.world.avatars = ∅ ∧ s.pending = [] ∧ AssignedAtHome s.loop.db
  step := OfficeStep cfg sqlText

/-! ### Avatars and agents -/

/-- The avatar stands for an agent of its startup. -/
def Backed (db : Db) (a : AvatarView) : Prop :=
  ∃ row, db.agents.lookup a.agentId = some row ∧ row.startupId = a.startupId ∧ row.role = a.role

/-- Every avatar but the operator's stands for an agent, under its id, and so does one that is announced; tasks are
assigned within their startup. -/
structure Housed (s : OfficeState) : Prop where
  present : ∀ key a, s.loop.world.avatars.lookup key = some a →
    a.agentId = key ∧ (key = operatorAvatarId ∨ Backed s.loop.db a)
  announced : ∀ avatars claim, SuiteMessage.insertAvatars avatars claim ∈ s.pending →
    ∀ a ∈ avatars, Backed s.loop.db a
  home : AssignedAtHome s.loop.db

section Invariant

variable {cfg : Config} {sqlText : String} {s t : OfficeState} {l : OfficeLabel} {db db' : Db}

/-- Agents that stay back the same avatars. -/
theorem Backed.mono (hagents : ∀ id row, db.agents.lookup id = some row →
      ∃ row', db'.agents.lookup id = some row' ∧ row'.membership = row.membership)
    {a a' : AvatarView} (hsame : a'.identity = a.identity) (h : Backed db a) : Backed db' a' := by
  obtain ⟨row, hrow, hstartup, hrole⟩ := h
  obtain ⟨row', hrow', hmember⟩ := hagents _ _ hrow
  simp only [AvatarView.identity, Prod.mk.injEq] at hsame
  simp only [Agent.membership, Prod.mk.injEq] at hmember
  refine ⟨row', hsame.1.symm ▸ hrow', ?_, ?_⟩
  · rw [hmember.1, hstartup, hsame.2.1]
  · rw [hmember.2, hrole, hsame.2.2]

/-- Where the avatars are housed, they agree with the agents. -/
theorem Housed.avatarsMatch (h : Housed s) : AvatarsMatch s.loop := by
  intro key avatar agent havatar hagent
  obtain ⟨hkey, hbacked⟩ := h.present key avatar havatar
  rw [hkey, or_self] at hagent
  rcases hbacked with rfl | ⟨row, hrow, hsame⟩
  · rw [s.loop.db.agentIds] at hagent
    exact absurd hagent (by simp)
  · obtain rfl := Option.some.inj (hrow.symm.trans (hkey ▸ hagent))
    exact hsame

/-- What holds of the avatars, and what is announced, is kept by a statement. -/
theorem Housed.statement {party : Party} {astray : Prop} {loop : LoopState} (h : Housed s)
    (hstatement : Statement party astray s.loop loop) : Housed { s with loop := loop } := by
  have hagents : ∀ id row, s.loop.db.agents.lookup id = some row →
      ∃ row', loop.db.agents.lookup id = some row' ∧ row'.membership = row.membership := by
    intro id row hrow
    have hmap := hstatement.agents id
    rw [hrow] at hmap
    exact Option.map_eq_some_iff.mp hmap
  refine ⟨fun key a' ha' => ?_, fun avatars claim hm a ha => ?_, ?_⟩
  · rcases hstatement.avatar_of ha' with ⟨a, ha, hsame⟩ | ⟨hkey, hid⟩
    · obtain ⟨hkey, hbacked⟩ := h.present key a ha
      refine ⟨?_, hbacked.imp_right (Backed.mono hagents hsame.symm)⟩
      simp only [AvatarView.identity, Prod.mk.injEq] at hsame
      exact hsame.1.symm.trans hkey
    · exact ⟨hid.trans hkey.symm, .inl hkey⟩
  · exact (h.announced avatars claim hm a ha).mono hagents rfl
  · exact hstatement.assignedAtHome h.avatarsMatch h.home

/-- A request keeps the avatars housed. -/
theorem Housed.request (h : Housed s) (l : LoopEvent) :
    Housed { s with loop := l.apply (s.config cfg) s.loop } := by
  have hrun := apply_statements (s.config cfg) s.loop l
  generalize l.apply (s.config cfg) s.loop = loop at hrun
  induction hrun with
  | refl => exact h
  | tail _ hstatement ih => exact ih.statement hstatement

/-! ### Transactions -/

/-- A new agent leaves the tasks alone. -/
theorem tasks_insertAgent {d d' : TownDb} {id : String} {row : Agent} (h : d.insertAgent id row = some d') :
    d'.db.tasks = d.db.tasks := by
  unfold TownDb.insertAgent at h
  split at h
  · obtain rfl := Option.some.inj h
    rfl
  · exact absurd h (by simp)

/-- So does a new startup. -/
theorem tasks_insertStartup {d d' : TownDb} {id : String} {row : Task.Startup}
    (h : d.insertStartup id row = some d') : d'.db.tasks = d.db.tasks := by
  unfold TownDb.insertStartup at h
  split at h
  · obtain rfl := Option.some.inj h
    rfl
  · exact absurd h (by simp)

/-- Agents that are inserted are there afterwards, and those that were there stay. -/
theorem agents_of_insertAgents {n : NewStartup} {agents : List (String × String × String × Option String)}
    {d d' : TownDb} {outcome : Outcome} (h : (insertAgents sqlText n agents).Commits d outcome d') :
    (∀ id row, d.db.agents.lookup id = some row → d'.db.agents.lookup id = some row) ∧
      (∀ a ∈ agents, d'.db.agents.lookup a.2.1 = some (n.agentRow a)) ∧ d'.db.tasks = d.db.tasks := by
  induction agents generalizing d with
  | nil =>
      obtain ⟨-, rfl⟩ := Script.commits_commit.mp h
      exact ⟨fun _ _ => id, fun _ ha => absurd ha List.not_mem_nil, rfl⟩
  | cons a agents ih =>
      obtain ⟨d₁, hd₁, hrest⟩ := Script.commits_write.mp h
      obtain ⟨hkept, hthere, htasks⟩ := ih hrest
      obtain ⟨hnew, hagents⟩ := TownDb.agents_of_insertAgent hd₁
      refine ⟨fun id row hrow => hkept id row ?_, fun b hb => ?_, htasks.trans (tasks_insertAgent hd₁)⟩
      · have hne : id ≠ a.2.1 := by
          rintro rfl
          exact absurd (hnew.symm.trans hrow) (by simp)
        rw [hagents, AList.lookup_insert_ne hne, hrow]
      · rcases List.mem_cons.mp hb with rfl | hb
        · exact hkept _ _ (by rw [hagents, AList.lookup_insert])
        · exact hthere b hb

/-- **A startup that is created** has its agents, and everything else about agents and tasks is as before. -/
theorem agents_of_createStartup {identity : Option OperatorIdentity} {req : CreateStartupRequest} {m : Minted}
    {n : NewStartup} {R : TownDb → TownDb → Prop} {d d' : TownDb}
    (h : (createStartup sqlText identity req m).Commits R d (.created n) d') :
    (∀ id row, d.db.agents.lookup id = some row → d'.db.agents.lookup id = some row) ∧
      (∀ a ∈ n.agents, d'.db.agents.lookup a.2.1 = some (n.agentRow a)) ∧ d'.db.tasks = d.db.tasks := by
  obtain ⟨suiteId, room, suite, d₁, -, -, -, hd₁, hagents⟩ := claims_of_createStartup h
  obtain ⟨hcreated, -, -, -⟩ := insertAgents_commits hagents
  obtain ⟨hkept, hthere, htasks⟩ := agents_of_insertAgents hagents
  obtain rfl := Outcome.created.inj hcreated
  have hagents₁ := (TownDb.new_of_insertStartup hd₁).2
  refine ⟨fun id row hrow => hkept id row ?_, hthere, ?_⟩
  · exact (congrArg (AList.lookup id) hagents₁).trans hrow
  · have htasks₁ := tasks_insertStartup hd₁
    exact htasks.trans htasks₁

/-- A transaction that keeps the agents and the tasks keeps the avatars housed, if the message that follows
announces agents only. -/
theorem Housed.committed (h : Housed s) {d : TownDb} {m : SuiteMessage}
    (hagents : ∀ id row, s.loop.db.agents.lookup id = some row → d.db.agents.lookup id = some row)
    (htasks : d.db.tasks = s.loop.db.tasks)
    (hm : ∀ avatars claim, m = .insertAvatars avatars claim → ∀ a ∈ avatars, Backed d.db a) :
    Housed (s.committed d m) := by
  have hbacked : ∀ a, Backed s.loop.db a → Backed d.db a :=
    fun a => Backed.mono (fun id row hrow => ⟨row, hagents id row hrow, rfl⟩) rfl
  refine ⟨fun key a ha => ?_, fun avatars claim hmem a ha => ?_, fun taskId task assignee htask hassignee => ?_⟩
  · obtain ⟨hkey, hrest⟩ := h.present key a ha
    exact ⟨hkey, hrest.imp_right (hbacked a)⟩
  · rcases List.mem_cons.mp hmem with heq | hmem
    · exact hm avatars claim heq.symm a ha
    · exact hbacked a (h.announced avatars claim hmem a ha)
  · have hrow : s.loop.db.tasks.lookup taskId = some task := htasks ▸ htask
    obtain ⟨agent, hagent, hhome⟩ := h.home taskId task assignee hrow hassignee
    exact ⟨agent, hagents _ _ hagent, hhome⟩

/-- The avatars of a startup that is created stand for its agents. -/
theorem backed_avatarView {n : NewStartup} {d : TownDb}
    (hthere : ∀ a ∈ n.agents, d.db.agents.lookup a.2.1 = some (n.agentRow a)) :
    ∀ a ∈ n.agents.map n.avatarView, Backed d.db a := by
  intro avatar havatar
  obtain ⟨a, ha, rfl⟩ := List.mem_map.mp havatar
  exact ⟨n.agentRow a, hthere a ha, rfl, rfl⟩

/-! ### Messages -/

theorem Housed.told (h : Housed s) {m : SuiteMessage} {before after : List SuiteMessage}
    (hpending : s.pending = before ++ m :: after) : Housed (s.told m (before ++ after)) := by
  have hrest : ∀ x ∈ before ++ after, x ∈ s.pending := by
    intro x hx
    rw [hpending]
    exact List.mem_append.mpr ((List.mem_append.mp hx).imp_right (List.mem_cons_of_mem m))
  have hm : m ∈ s.pending := hpending ▸ List.mem_append_right _ List.mem_cons_self
  refine ⟨fun key a ha => ?_, fun avatars claim hmem => h.announced avatars claim (hrest _ hmem), h.home⟩
  cases m with
  | insertAvatars avatars claim =>
      rcases mem_avatars_insert ha with ⟨hmem, hkey⟩ | ha
      · exact ⟨hkey, .inr (h.announced avatars claim hm a hmem)⟩
      · exact h.present key a ha
  | releaseSuite startupId => exact h.present key a (Table.of_lookup_deleteWhere ha).1

/-! ### Runs -/

/-- **One step** keeps the avatars housed. -/
theorem Housed.step (h : Housed s) (hst : OfficeStep cfg sqlText s l t) : Housed t := by
  cases hst with
  | request => exact h.request _
  | create hcommits =>
      obtain ⟨hkept, hthere, htasks⟩ := agents_of_createStartup hcommits
      refine h.committed hkept htasks fun avatars claim heq => ?_
      obtain ⟨rfl, -⟩ := SuiteMessage.insertAvatars.inj heq
      exact backed_avatarView hthere
  | delete hcommits =>
      obtain ⟨-, rfl, -⟩ := deleteStartup_commits hcommits
      exact h.committed (fun _ _ => id) rfl fun avatars claim heq => by cases heq
  | deliver hpending => exact h.told hpending
  | restart =>
      exact ⟨fun key a ha => absurd ha (by simp [OfficeState.restarted]),
        fun avatars claim hmem => absurd hmem List.not_mem_nil, h.home⟩

/-- **In every run** they are housed. -/
theorem Housed.of_reachable (h : (officeSystem cfg sqlText).Reachable s) : Housed s := by
  refine h.invariant ?_ fun s l t hs hst => hs.step hst
  rintro s ⟨hnobody, hnone, hhome⟩
  refine ⟨fun key a ha => ?_, fun avatars claim hmem => ?_, hhome⟩
  · rw [hnobody] at ha
    exact absurd ha (by simp)
  · rw [hnone] at hmem
    exact absurd hmem List.not_mem_nil

end Invariant

/-! ### Who hears what -/

/-- A directive reaches an agent of the sender's startup, and a chat an avatar in the sender's room that is of the
sender's startup or in a public room. -/
structure Heard (s : LoopState) (agentId : String) (sender : Agent) (f : String × Json) : Prop where
  directive : f.2.getStr "type" = some "directive" → AgentOf s.db f.1 sender.startupId
  chat : f.2.getStr "type" = some "chat_received" → ∃ caller peer,
    s.world.avatars.lookup agentId = some caller ∧ s.world.avatars.lookup f.1 = some peer ∧
      peer.roomId = caller.roomId ∧ (peer.startupId = sender.startupId ∨ isPublicRoom peer.roomId)

/-- The body of a call of `speak` is there and not too long, and its message can be stored. -/
def SpeechFits (env : Env) (db : Db) (caller : AvatarView) (args : Json) : Prop :=
  ∃ body, args.getStr "body" = some body ∧ body.length ≤ maxBodyLength ∧
    (db.insertMessage env.newId (speechMessage env caller args body)).isSome

/-- The sender may send a directive to the recipient that the call names, as both are stored. -/
def MayDirect (db : Db) (agentId : String) (sender : Agent) (args : Json) : Prop :=
  ∃ recipientId recipient, args.getStr "to_agent_id" = some recipientId ∧
    db.agents.lookup recipientId = some recipient ∧
      canSendDirective (agentRef agentId sender) (agentRef recipientId recipient)

section Calls

variable {cfg : Config} {env : Env} {s : LoopState} {caller : AvatarView} {args : Json} {agentId : String}
  {sender : Agent} {f : String × Json}

/-- A directive is granted to whom the sender manages in its startup. -/
theorem checkDirective_eq_ok {db : Db} {recipientId : String} :
    checkDirective db caller recipientId = .ok () ↔
      ∃ recipient, db.agents.lookup recipientId = some recipient ∧
        recipient.startupId = caller.startupId ∧ recipient.managerId = some caller.agentId := by
  unfold checkDirective
  simp only [bind_eq_ok, require_eq_ok, ensure_eq_ok, exists_const]

/-- Between agents, a directive goes to whom the sender manages in its startup. -/
theorem canSendDirective_iff {recipientId : String} {recipient : Agent} :
    canSendDirective (agentRef agentId sender) (agentRef recipientId recipient) ↔
      sender.startupId = recipient.startupId ∧ recipient.managerId = some agentId := by
  unfold canSendDirective agentRef
  by_cases hsame : sender.startupId = recipient.startupId
  · simp [hsame]
  · simp [hsame]

/-- The check of a directive is the predicate, where the sender's avatar is that of an agent. -/
theorem checkDirective_iff {db : Db} {recipientId : String} (hid : caller.agentId = agentId)
    (hhome : sender.startupId = caller.startupId) :
    checkDirective db caller recipientId = .ok () ↔ ∃ recipient, db.agents.lookup recipientId = some recipient ∧
      canSendDirective (agentRef agentId sender) (agentRef recipientId recipient) := by
  rw [checkDirective_eq_ok]
  refine exists_congr fun recipient => and_congr_right fun _ => ?_
  rw [canSendDirective_iff, hid, hhome, eq_comm]

/-- **A directive is accepted** when its message can be stored and it can be sent. -/
theorem handleSpeak_directive_iff (hid : caller.agentId = agentId) (hhome : sender.startupId = caller.startupId)
    (hkind : speechKind args = "directive") :
    (∃ r, handleSpeak cfg env s caller args = .ok r) ↔
      SpeechFits env s.db caller args ∧ MayDirect s.db agentId sender args := by
  constructor
  · rintro ⟨⟨v, s'⟩, h⟩
    obtain ⟨body, db, hbody, hlength, -, hspeech, hdb, -, -⟩ := handleSpeak_ok_iff.mp h
    rw [hkind] at hspeech
    obtain ⟨recipientId, hto, hcheck⟩ := checkSpeech_directive_iff.mp hspeech
    obtain ⟨recipient, hrecipient, hmay⟩ := (checkDirective_iff hid hhome).mp hcheck
    exact ⟨⟨body, hbody, hlength, by rw [hdb]; rfl⟩, recipientId, recipient, hto, hrecipient, hmay⟩
  · rintro ⟨⟨body, hbody, hlength, hstored⟩, recipientId, recipient, hto, hrecipient, hmay⟩
    obtain ⟨db, hdb⟩ := Option.isSome_iff_exists.mp hstored
    have hcheck := (checkDirective_iff hid hhome).mpr ⟨recipient, hrecipient, hmay⟩
    have hspeech : checkSpeech s.db caller (speechKind args) (args.getStr "to_agent_id") = .ok () := by
      rw [hkind]
      exact checkSpeech_directive_iff.mpr ⟨recipientId, hto, hcheck⟩
    exact ⟨_, handleSpeak_ok_iff.mpr ⟨body, db, hbody, hlength, .inr hkind, hspeech, hdb, rfl, rfl⟩⟩

/-- Who overhears a chat is in the room. -/
theorem heard_of_mem_listeners {peerId : String} (h : peerId ∈ listeners env s caller) :
    ∃ peer, s.world.avatars.lookup peerId = some peer ∧ peer.roomId = caller.roomId ∧
      (peer.startupId = caller.startupId ∨ isPublicRoom caller.roomId) := by
  have hany := (List.mem_filter.mp h).2
  obtain ⟨peer, hpeer, hoverhears⟩ := Option.any_eq_true _ _ |>.mp hany
  unfold overhears at hoverhears
  obtain ⟨-, hroom, hstartup⟩ := of_decide_eq_true hoverhears
  exact ⟨peer, hpeer, hroom, hstartup⟩

/-- **What a call sends** is heard where it may be. -/
theorem heard_of_callFrame (hcaller : s.world.avatars.lookup agentId = some caller)
    (hhome : sender.startupId = caller.startupId) (hassigned : AssignedAtHome s.db)
    (h : CallFrame env s caller f.1 f.2) : Heard s agentId sender f := by
  obtain ⟨recipientId, frame⟩ := f
  cases h with
  | chat hpeer =>
      refine ⟨fun htype => absurd htype (by simp [Json.getStr, Json.get, Json.asStr]), fun _ => ?_⟩
      obtain ⟨peer, hpeer, hroom, hstartup⟩ := heard_of_mem_listeners hpeer
      exact ⟨caller, peer, hcaller, hpeer, hroom, hhome ▸ hroom ▸ hstartup⟩
  | directive hcheck =>
      refine ⟨fun _ => ?_, fun htype => absurd htype (by simp [Json.getStr, Json.get, Json.asStr])⟩
      obtain ⟨recipient, hrecipient, hstartup, -⟩ := checkDirective_eq_ok.mp hcheck
      exact ⟨recipient, hrecipient, hstartup.trans hhome.symm⟩
  | sendBack htask hstartup hassignee =>
      refine ⟨fun _ => ?_, fun htype => absurd htype (by simp [Json.getStr, Json.get, Json.asStr])⟩
      exact hhome ▸ hstartup ▸ hassigned _ _ _ htask hassignee
  | subtaskDone _ =>
      constructor <;> exact fun htype => absurd htype (by simp [Json.getStr, Json.get, Json.asStr])
  | subtaskProposed =>
      constructor <;> exact fun htype => absurd htype (by simp [Json.getStr, Json.get, Json.asStr])

end Calls

/-- **Directives and chats are isolated**, in every run: whatever an agent calls, a directive goes to its own
startup, and a chat to those who overhear it; and a directive of `speak` that can be stored is accepted exactly when
it can be sent. -/
theorem directives_isolated {cfg : Config} {sqlText : String} {s : OfficeState} {agentId : String} {sender : Agent}
    (h : (officeSystem cfg sqlText).Reachable s) (hsender : s.loop.db.agents.lookup agentId = some sender)
    (env : Env) :
    (∀ msg, Appends LoopState.frames (Heard s.loop agentId sender) s.loop
        (dispatchMcp (s.config cfg) env s.loop agentId msg).2) ∧
      ∀ caller args, s.loop.world.avatars.lookup agentId = some caller → speechKind args = "directive" →
        ((∃ r, handleSpeak (s.config cfg) env s.loop caller args = .ok r) ↔
          SpeechFits env s.loop.db caller args ∧ MayDirect s.loop.db agentId sender args) := by
  have hhoused := Housed.of_reachable h
  have hcaller : ∀ caller, s.loop.world.avatars.lookup agentId = some caller →
      caller.agentId = agentId ∧ sender.startupId = caller.startupId := by
    intro caller hcaller
    have hid := (hhoused.present agentId caller hcaller).1
    exact ⟨hid, (hhoused.avatarsMatch agentId caller sender hcaller (.inl hsender)).1⟩
  refine ⟨fun msg => ?_, fun caller args hlookup hkind => ?_⟩
  · have hframes := (apply_effects (s.config cfg) s.loop (.mcp env agentId msg)).frames
    refine hframes.mono fun f hf => ?_
    obtain ⟨caller, hlookup, hframe⟩ := hf
    exact heard_of_callFrame hlookup (hcaller caller hlookup).2 hhoused.home hframe
  · obtain ⟨hid, hhome⟩ := hcaller caller hlookup
    exact handleSpeak_directive_iff hid hhome hkind

/-! ### A directive in a new startup -/

/-- A process that has started on the seeded database. -/
def emptyOffice : OfficeState where
  loop :=
    { world := ⟨∅⟩
      paths := ∅
      outBus := []
      db := seededTown.db
      frames := [] }
  layout := defaultTown
  statuses := seededTown.statuses
  rooms := seededTown.rooms
  pending := []

/-- Then a startup is created, and its avatars are there. -/
def staffedOffice : OfficeState :=
  (emptyOffice.committed ((createStartup "sql" (some sampleAdmin) sampleRequest sampleMinted).exec seededTown).2
    (createdMessage sampleCreated)).told (createdMessage sampleCreated) []

theorem reachable_staffedOffice : (officeSystem sampleConfig "sql").Reachable staffedOffice := by
  have hinit : (officeSystem sampleConfig "sql").Reachable emptyOffice := by
    refine .init ⟨rfl, rfl, fun taskId task assignee htask => ?_⟩
    exact absurd htask (by simp [emptyOffice, seededTown])
  have hcommits : (createStartup "sql" (some sampleAdmin) sampleRequest sampleMinted).Commits (· = ·)
      emptyOffice.town (.created sampleCreated)
      ((createStartup "sql" (some sampleAdmin) sampleRequest sampleMinted).exec seededTown).2 := by
    refine (Request.exec_cases _ seededTown).resolve_left fun hsame => ?_
    have hrow := congrArg (fun d => (d.statuses.lookup "s-1").isSome) hsame
    exact absurd hrow (by decide +kernel)
  exact (hinit.step (.create hcommits)).step (.deliver (show _ = [] ++ _ :: [] from rfl))

/-- The founder of the new startup. -/
def newFounder : Agent :=
  ⟨"s-1", "founder", "codex", none, false⟩

/-- A directive to the engineer. -/
def newDirective : Json :=
  .obj [("body", .str "build it"), ("kind", .str "directive"), ("to_agent_id", .str "a-2")]

/-- The founder of the new startup may direct its engineer. -/
theorem directives_isolated_founder :
    ∃ caller, staffedOffice.loop.world.avatars.lookup "a-1" = some caller ∧
      ∃ r, handleSpeak (staffedOffice.config sampleConfig) (sampleEnv 1 "m") staffedOffice.loop caller newDirective =
        .ok r := by
  have hsender : staffedOffice.loop.db.agents.lookup "a-1" = some newFounder := by decide +kernel
  have hthere : (staffedOffice.loop.world.avatars.lookup "a-1").isSome := by decide +kernel
  obtain ⟨caller, hcaller⟩ := Option.isSome_iff_exists.mp hthere
  refine ⟨caller, hcaller, ?_⟩
  have hiff := (directives_isolated reachable_staffedOffice hsender (sampleEnv 1 "m")).2 caller newDirective hcaller
    (by decide)
  refine hiff.mpr ⟨⟨"build it", by decide, by decide, ?_⟩, ?_⟩
  · have hstored : ∀ a ∈ staffedOffice.loop.world.avatars.lookup "a-1", (staffedOffice.loop.db.insertMessage "m"
        (speechMessage (sampleEnv 1 "m") a newDirective "build it")).isSome := by
      decide +kernel
    exact hstored caller hcaller
  · exact ⟨"a-2", ⟨"s-1", "engineer", "codex", some "a-1", false⟩, by decide, by decide +kernel, by decide⟩

end Cliptown.Suite
