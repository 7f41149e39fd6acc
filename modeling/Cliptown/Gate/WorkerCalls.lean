import Cliptown.Gate.WorkerLink

/-!
# Calls from end to end

Each call of a worker is a frame with an id of its own, which goes through the gate to the loop, and is settled by a
frame with the same id.

* `Unmarked` — a frame without the id of a call; `unmarked_apply` — nothing else is pushed.
* `answer_of_corrId` — an answer with an id is the answer to the call with that id.
* `Filed`, `filed_of_reachable` — the frames of the calls, and what has settled the calls.
* `link_calls` — a call is settled by the loop's answer to that very call, which it has handled once.
* `Waiting`, `link_calls_end` — a call that is not settled listens, and its timer runs.
-/

namespace Cliptown.Gate

open Cliptown.Lib Cliptown.Task Cliptown.Town Cliptown.World Cliptown.Console Cliptown.Worker Cliptown.Budget

/-! ### Ids of calls -/

/-- Source: `mcp_dispatch.rs` `dispatch`, the reply -/
def replyFrame (id : String) (result : Json) : Json :=
  .obj [("type", .str "mcp_reply"), ("v", .int 1), ("corr_id", .str id), ("result", result)]

/-- There is no id of a call in the frame. -/
def Unmarked (frame : Json) : Prop :=
  frame.getStr "corr_id" = none

section Frames

variable {cfg : Config} {env : Env} {s : LoopState} {st : BudgetState} {caller : AvatarView} {agentId : String}
  {frame : Json}

theorem unmarked_callFrame (h : CallFrame env s caller agentId frame) : Unmarked frame := by
  cases h <;> rfl

theorem unmarked_tickFrame (h : TickFrame agentId frame) : Unmarked frame := by
  cases h <;> rfl

theorem unmarked_consoleFrame (h : ConsoleFrame agentId frame) : Unmarked frame := by
  cases h
  rfl

theorem unmarked_request (cfg : Config) (s : LoopState) (l : LoopEvent) :
    Appends LoopState.frames (fun f => Unmarked f.2) s (l.apply cfg s) := by
  refine (apply_effects cfg s l).frames.mono fun f hf => ?_
  cases l with
  | tick env => exact unmarked_tickFrame hf
  | mcp env agentId msg =>
    obtain ⟨caller, -, hframe⟩ := hf
    exact unmarked_callFrame hframe
  | console env identity cmd => exact unmarked_consoleFrame hf
  | _ => exact hf.elim

/-- The news of the rooms. -/
theorem unmarked_computeAndEmit : Appends LoopState.frames (fun f => Unmarked f.2) s (computeAndEmit env s) := by
  have hnews : ∀ f ∈ proximityFrames env s.world, Unmarked f.2 := by
    intro f hf
    obtain ⟨id, a, -, rfl⟩ := mem_proximityFrames.mp hf
    rfl
  have hframes := frames_foldl_push env (proximityFrames env s.world) s
  exact ⟨_, hframes, fun f hf => hnews f (List.mem_filter.mp hf).1⟩

theorem unmarked_reportBudget (r : Report) :
    Appends LoopState.frames (fun f => Unmarked f.2) st.loop (reportBudget env st agentId r).2.loop := by
  have hannounce : ∀ (s : LoopState) (startupId : String) (t : Threshold) (spent cap : ℚ),
      Appends LoopState.frames (fun f => Unmarked f.2) s (announce env s startupId t spent cap) := by
    intro s startupId t spent cap
    have hbroadcast : ∀ {frame : Json}, Unmarked frame → Appends LoopState.frames (fun f => Unmarked f.2) s
        (broadcast env (recordThresholdEvent env s startupId t spent cap) startupId frame) :=
      fun hframe => Appends.foldl _ (fun agentId _ s => appends_push hframe) _
    cases t
    all_goals exact hbroadcast rfl
  unfold reportBudget
  split
  · exact .refl _
  · rename_i avatar _
    obtain ⟨db, hdb⟩ := loop_applyReport env st avatar.startupId agentId r
    dsimp only
    have hnote : Appends LoopState.frames (fun f => Unmarked f.2) st.loop
        (noteVariance env (applyReport env st avatar.startupId agentId r).2.loop avatar.startupId r) :=
      .of_eq (by rw [frames_noteVariance, hdb])
    split
    · exact hnote.trans (hannounce _ _ _ _ _)
    · exact hnote

theorem unmarked_moveIntent (targetRoom : String) (target : Tile) :
    Appends LoopState.frames (fun f => Unmarked f.2) s (moveIntent cfg env s agentId targetRoom target).2 := by
  unfold moveIntent
  generalize startMove cfg.astar s.world s.paths cfg.layout (graphFromLayout cfg.layout) agentId
    targetRoom target = r
  obtain ⟨result, world, paths⟩ := r
  have hmove : Appends LoopState.frames (fun f => Unmarked f.2) s { s with world := world, paths := paths } :=
    .of_eq rfl
  cases result with
  | ok | noSuchAgent => exact hmove
  | noPath | permissionDenied => exact hmove.trans (appends_push rfl)

/-- **Whatever is pushed is unmarked.** -/
theorem unmarked_apply (cfg : Config) (st : BudgetState) (l : LoopMessage) :
    Appends LoopState.frames (fun f => Unmarked f.2) st.loop (l.apply cfg st).loop := by
  cases l with
  | request l =>
    have hrequest := unmarked_request cfg st.loop l
    cases l with
    | tick env => exact hrequest.trans unmarked_computeAndEmit
    | _ => exact hrequest
  | budget action =>
    cases action with
    | report m => exact unmarked_reportBudget m.report
    | patch identity id budgetCapUsd =>
      refine .of_eq ?_
      simp only [LoopMessage.apply, BudgetAction.apply]
      unfold patchStartup
      split
      · rfl
      · split
        · rfl
        · split <;> rfl
  | moveIntent env agentId targetRoom target => exact unmarked_moveIntent _ _

/-- **An answer with an id** is the answer to the call with that id: its result, or an error. -/
theorem answer_of_corrId {parseText : Json → String} {msg : Json} {id : String}
    (h : (dispatchWorker cfg parseText env st agentId msg).1.getStr "corr_id" = some id) :
    msg.getStr "type" = some "mcp_call" ∧ (msg.getStr "corr_id").getD "" = id ∧
      ((∃ result, (dispatchWorker cfg parseText env st agentId msg).1 = replyFrame id result) ∨
        ∃ code message, (dispatchWorker cfg parseText env st agentId msg).1 = mcpErr id code message) := by
  unfold dispatchWorker at h ⊢
  by_cases htype : msg.getStr "type" = some "mcp_call"
  · rw [if_pos htype] at h ⊢
    refine ⟨htype, ?_⟩
    unfold dispatchMcp at h ⊢
    cases hcaller : st.loop.world.avatars.lookup agentId with
    | none =>
      simp only [hcaller] at h ⊢
      obtain rfl := Option.some.inj h
      exact ⟨rfl, .inr ⟨_, _, rfl⟩⟩
    | some caller =>
      simp only [hcaller] at h ⊢
      rcases hresult : callTool cfg env st.loop caller (McpCall.ofJson msg).args (McpCall.ofJson msg).tool with
        ⟨⟨code, message⟩ | result, s'⟩
      · rw [hresult] at h
        obtain rfl := Option.some.inj h
        exact ⟨rfl, .inr ⟨code, message, rfl⟩⟩
      · rw [hresult] at h
        obtain rfl := Option.some.inj h
        exact ⟨rfl, .inl ⟨result, rfl⟩⟩
  · rw [if_neg htype] at h
    exfalso
    split at h
    · cases h
    · cases h
    · unfold reportBudget at h
      split at h <;> cases h
    · unfold moveIntent at h
      dsimp only at h
      split at h <;> cases h
    · cases h

end Frames

/-! ### Calls -/

section Calls

variable {cfg : Config} {parseText : Json → String} {num : Js.Numbers} {seed c : ℕ} {hello : Json} {L L' : WorkerLink}

/-- What happens to a call leaves the ids alone. -/
theorem ids_mapCall (s : McpState) (i : ℕ) {f : PendingCall → PendingCall}
    (hf : ∀ call, (f call).corrId = call.corrId) :
    (s.mapCall i f).calls.map PendingCall.corrId = s.calls.map PendingCall.corrId := by
  refine List.ext_getElem? fun j => ?_
  simp only [McpState.mapCall, List.getElem?_map, List.getElem?_modify]
  cases s.calls[j]? with
  | none => rfl
  | some call => by_cases hj : i = j <;> simp [hj, hf]

theorem ids_timeout {s t : McpState} {i : ℕ} (h : s.step num seed (.timeout i) = some t) :
    t.calls.map PendingCall.corrId = s.calls.map PendingCall.corrId := by
  have hcleanup : ((s.clearTimer i).cleanup i).calls.map PendingCall.corrId = s.calls.map PendingCall.corrId := by
    have hcleared := ids_mapCall s i (f := fun call => { call with timer := false }) fun _ => rfl
    unfold McpState.cleanup
    split
    · split
      · exact hcleared
      · exact (ids_mapCall (s.clearTimer i) i (f := fun call => { call with removed := true }) fun _ => rfl).trans
          hcleared
    · exact hcleared
  simp only [McpState.step] at h
  split at h
  · rw [Option.ite_none_right_eq_some] at h
    obtain rfl := Option.some.inj h.2
    exact (ids_mapCall _ i (f := fun call => { call with settled := call.settled.or (some .timedOut) })
      fun _ => rfl).trans hcleanup
  · cases h

/-- A call has been settled by its timeout, or by one of the answers. -/
def SettledBy (num : Js.Numbers) (replies : List Json) (id : String) (o : Settlement) : Prop :=
  o = .timedOut ∨ ∃ reply ∈ replies, reply.getStr "corr_id" = some id ∧ settlementOf num reply = some o

/-- The frames of the calls, and what has settled them. -/
structure Filed (num : Js.Numbers) (seed c : ℕ) (L : WorkerLink) : Prop where
  pushed : ∀ f ∈ L.gate.mail.server.loop.frames, Unmarked f.2
  numbered : Numbered seed L.mcp
  quiet : Quiet L.mcp
  ids : L.asked.map (fun f => f.getStr "corr_id") = (L.mcp.calls.map PendingCall.corrId).map some
  calls : ∀ m ∈ L.sent, m.getStr "type" = some "mcp_call" → m ∈ L.asked
  once : L.sent.Pairwise fun m m' => m'.getStr "type" = some "mcp_call" → m ≠ m'
  down : ∀ m ∈ L.down, Unmarked m ∨ m ∈ Mailbox.takenBy c L.gate.mail.taken
  settled : ∀ call ∈ L.mcp.calls, ∀ o, call.settled = some o →
    SettledBy num (Mailbox.takenBy c L.gate.mail.taken) call.corrId o

/-- What is settled was settled before, or the event settles it. -/
theorem settled_of_correlated {s t : McpState} {e : McpEvent} {replies : List Json}
    (h : Correlated num s e t)
    (hold : ∀ call ∈ s.calls, ∀ o, call.settled = some o → SettledBy num replies call.corrId o)
    (hnew : ∀ i id o, Settles num s.calls.length i id o e → SettledBy num replies id o) :
    ∀ call ∈ t.calls, ∀ o, call.settled = some o → SettledBy num replies call.corrId o := by
  intro call hmem o ho
  obtain ⟨i, hi⟩ := List.mem_iff_getElem?.mp hmem
  rcases h.own i call o hi ho with ⟨before, hbefore, hsettled⟩ | hsettles
  · obtain ⟨call', hcall', hid, -⟩ := h.once i before hbefore
    obtain rfl := Option.some.inj (hi.symm.trans hcall')
    rw [hid]
    exact hold before (List.mem_of_getElem? hbefore) o hsettled
  · exact hnew i call.corrId o hsettles

/-- Something happens to the calls on the handle, none of which is new. -/
theorem Filed.event {e : McpEvent} {t : McpState} {phase : ClientPhase} {down : List Json} (h : Filed num seed c L)
    (hstep : L.mcp.step num seed e = some t) (hsent : Sent L.mcp e)
    (hids : t.calls.map PendingCall.corrId = L.mcp.calls.map PendingCall.corrId)
    (hnew : ∀ i id o, Settles num L.mcp.calls.length i id o e →
      SettledBy num (Mailbox.takenBy c L.gate.mail.taken) id o)
    (hdown : ∀ m ∈ down, m ∈ L.down) : Filed num seed c { L with mcp := t, phase := phase, down := down } := by
  obtain ⟨hcorrelated, hnumbered, hquiet⟩ := step_spec h.numbered h.quiet hstep hsent
  exact ⟨h.pushed, hnumbered, hquiet, h.ids.trans (congrArg (List.map some) hids.symm), h.calls, h.once,
    fun m hm => h.down m (hdown m hm), settled_of_correlated hcorrelated h.settled hnew⟩

/-- A call is made; its frame is written to the socket, or to one that is closed. -/
theorem Filed.call {now : ℕ} {tool : String} {args : Json} {t : McpState} {up sent : List Json}
    (h : Filed num seed c L) (hstep : L.mcp.step num seed (.call now none) = some t)
    (hsent : sent = L.sent ++ [callFrame tool args (corrId seed now (L.mcp.counter + 1))] ∨ sent = L.sent) :
    Filed num seed c { L with
      mcp := t
      asked := L.asked ++ [callFrame tool args (corrId seed now (L.mcp.counter + 1))]
      up := up
      sent := sent } := by
  obtain ⟨hcorrelated, hnumbered, hquiet⟩ := step_spec h.numbered h.quiet hstep trivial
  have hcalls : t.calls = L.mcp.calls ++ [.new (corrId seed now (L.mcp.counter + 1))] :=
    (congrArg McpState.calls (Option.some.inj hstep)).symm
  have hfresh := h.numbered.notMem now
  refine ⟨h.pushed, hnumbered, hquiet, ?_, fun m hm htype => ?_, ?_, h.down,
    settled_of_correlated hcorrelated h.settled nofun⟩
  · rw [hcalls]
    simp only [List.map_append, h.ids]
    rfl
  · rcases hsent with rfl | rfl
    · rcases List.mem_append.mp hm with hm | hm
      · exact List.mem_append_left _ (h.calls m hm htype)
      · exact List.mem_append_right _ hm
    · exact List.mem_append_left _ (h.calls m hm htype)
  · rcases hsent with rfl | rfl
    · refine List.pairwise_append.mpr ⟨h.once, List.pairwise_singleton _ _, fun m hm m' hm' htype heq => ?_⟩
      obtain rfl := List.mem_singleton.mp hm'
      subst heq
      -- it would have been a call before
      have hid := List.mem_map_of_mem (f := fun f : Json => f.getStr "corr_id") (h.calls _ hm htype)
      rw [h.ids, List.mem_map] at hid
      obtain ⟨id, hid, hsame⟩ := hid
      obtain rfl : id = corrId seed now (L.mcp.counter + 1) := Option.some.inj hsame
      exact hfresh hid
    · exact h.once

/-- A call that has been sent with the id of a call is that one. -/
theorem Filed.asked_of_corrId {i : ℕ} {call : PendingCall} {frame : Json} (h : Filed num seed c L)
    (hsent : frame ∈ L.sent) (htype : frame.getStr "type" = some "mcp_call") (hcall : L.mcp.calls[i]? = some call)
    (hid : (frame.getStr "corr_id").getD "" = call.corrId) :
    L.asked[i]? = some frame ∧ frame.getStr "corr_id" = some call.corrId := by
  obtain ⟨k, hk⟩ := List.mem_iff_getElem?.mp (h.calls frame hsent htype)
  have hids := congrArg (fun ids : List (Option String) => ids[k]?) h.ids
  simp only [List.getElem?_map, hk, Option.map_some] at hids
  obtain ⟨id, hcallid, hsame⟩ := Option.map_eq_some_iff.mp hids.symm
  obtain ⟨call', hcall', rfl⟩ := Option.map_eq_some_iff.mp hcallid
  rw [← hsame, Option.getD_some] at hid
  have hlt : k < (L.mcp.calls.map PendingCall.corrId).length := by
    simpa using (List.getElem?_eq_some_iff.mp hcall').1
  obtain rfl : k = i := (List.getElem?_inj hlt h.numbered.distinct).mp (by simp [hcall', hcall, hid])
  exact ⟨hk, hsame.symm.trans (congrArg some hid)⟩

/-- What the task writes is unmarked, or an answer that it takes. -/
theorem mem_writes {g : GateState} {l : GateLabel} {m : Json} (hm : m ∈ l.writes c g) :
    Unmarked m ∨ m ∈ l.takes c g := by
  cases l with
  | greet d vars frame =>
    cases frame with
    | none => exact absurd hm List.not_mem_nil
    | some f =>
      simp only [GateLabel.writes] at hm
      split at hm
      · unfold greetReplies at hm
        split at hm
        · exact .inl (List.mem_singleton.mp hm ▸ rfl)
        · split at hm
          · exact .inl (List.mem_singleton.mp hm ▸ rfl)
          · exact absurd hm List.not_mem_nil
      · exact absurd hm List.not_mem_nil
  | deliver d sent =>
    cases sent with
    | false => exact absurd hm List.not_mem_nil
    | true => exact .inr hm
  | _ => exact absurd hm List.not_mem_nil

/-- The loop goes on, and pushes nothing that is marked. -/
theorem pushed_step {g g' : GateState} {l : GateLabel} (hg : (gateSystem cfg parseText).Reachable g)
    (hstep : (gateSystem cfg parseText).step g l g') (h : ∀ f ∈ g.mail.server.loop.frames, Unmarked f.2) :
    ∀ f ∈ g'.mail.server.loop.frames, Unmarked f.2 := by
  obtain ⟨ls, hrun⟩ := gate_step_messages hg hstep
  refine hrun.preserves (I := fun st => ∀ f ∈ st.loop.frames, Unmarked f.2) (fun st l st' hst hl f hf => ?_) h
  obtain ⟨new, heq, hnew⟩ := unmarked_apply cfg st l
  rw [show st' = l.apply cfg st from hl, heq] at hf
  exact (List.mem_append.mp hf).elim (hst f) (hnew f)

/-- **The calls and what has settled them**, whatever happens. -/
theorem filed_of_reachable (h : (linkSystem cfg parseText num seed c hello).Reachable L) : Filed num seed c L := by
  refine h.invariant_of (I := Filed num seed c) (J := fun L => Stands c hello L ∧
    (gateSystem cfg parseText).Reachable L.gate) (fun L hL => ⟨stands_of_reachable hL, gate_reachable hL⟩) ?_ ?_
  · rintro L ⟨-, hframes, -, hmcp, -, hdown, hasked, hsent, -⟩
    constructor
    · simp [hframes]
    · rw [hmcp]
      exact ⟨by simp [McpState.new], by simp [McpState.new]⟩
    · rw [hmcp]
      exact fun i call hcall => absurd hcall (by simp [McpState.new])
    · rw [hasked, hmcp]
      rfl
    · simp [hsent]
    · simp [hsent]
    · simp [hdown]
    · simp [hmcp, McpState.new]
  · rintro L l L' ⟨hstands, hreachable⟩ h hstep
    cases l with
    | gate gl =>
      obtain ⟨hsocket, hg, -, heq⟩ := hstep
      have htaken := (gate_wires hg hsocket).2
      have hgrow : ∀ m ∈ Mailbox.takenBy c L.gate.mail.taken, m ∈ Mailbox.takenBy c L'.gate.mail.taken :=
        fun m hm => htaken ▸ List.mem_append_left _ hm
      rw [heq]
      refine ⟨pushed_step hreachable hg h.pushed, h.numbered, h.quiet, h.ids, h.calls, h.once, fun m hm => ?_,
        fun call hcall o ho => ?_⟩
      · rcases List.mem_append.mp hm with hm | hm
        · exact (h.down m hm).imp_right (hgrow m)
        · exact (mem_writes hm).imp_right fun hm => htaken ▸ List.mem_append_right _ hm
      · refine (h.settled call hcall o ho).imp_right ?_
        rintro ⟨reply, hreply, hrest⟩
        exact ⟨reply, hgrow reply hreply, hrest⟩
    | push frame =>
      obtain ⟨⟨agentId, -, hframe⟩, heq⟩ := hstep
      rw [heq]
      refine ⟨h.pushed, h.numbered, h.quiet, h.ids, h.calls, h.once, fun m hm => ?_, h.settled⟩
      rcases List.mem_append.mp hm with hm | hm
      · exact h.down m hm
      · exact .inl (List.mem_singleton.mp hm ▸ h.pushed _ hframe)
    | opened =>
      obtain ⟨-, -, heq⟩ := hstep
      rw [heq]
      exact ⟨h.pushed, h.numbered, h.quiet, h.ids, h.calls, h.once, h.down, h.settled⟩
    | helloTimeout =>
      obtain ⟨-, heq⟩ := hstep
      rw [heq]
      exact ⟨h.pushed, h.numbered, h.quiet, h.ids, h.calls, h.once, h.down, h.settled⟩
    | message =>
      obtain ⟨-, -, m, hm, heq⟩ := hstep
      rw [heq]
      refine h.event (e := .frame (some m)) rfl trivial (dispatch_spec m _ _ h.quiet).1.ids ?_
        fun f hf => hm ▸ List.mem_cons_of_mem _ hf
      rintro i id o ⟨hid, ho⟩
      rcases h.down m (hm ▸ List.mem_cons_self) with hunmarked | hreply
      · rw [show m.getStr "corr_id" = none from hunmarked] at hid
        cases hid
      · exact .inr ⟨m, hreply, hid, ho⟩
    | call now tool args =>
      obtain ⟨-, hcall, ⟨-, heq⟩ | ⟨-, heq⟩⟩ := hstep
      · rw [heq]
        exact h.call hcall (.inl rfl)
      · rw [heq]
        exact h.call hcall (.inr rfl)
    | elsewhere =>
      obtain ⟨hmcp, heq⟩ := hstep
      rw [heq]
      have hcalls : L'.mcp.calls = L.mcp.calls := (congrArg McpState.calls (Option.some.inj hmcp)).symm
      refine h.event hmcp trivial (by rw [hcalls]) (fun i id o ho => ?_) fun _ => id
      cases ho
    | report frame =>
      obtain ⟨-, htype, heq⟩ := hstep
      rw [heq]
      refine ⟨h.pushed, h.numbered, h.quiet, h.ids, fun m hm hcall => ?_, ?_, h.down, h.settled⟩
      · rcases List.mem_append.mp hm with hm | hm
        · exact h.calls m hm hcall
        · exact absurd hcall (List.mem_singleton.mp hm ▸ htype)
      · refine List.pairwise_append.mpr ⟨h.once, List.pairwise_singleton _ _, fun m hm m' hm' hcall => ?_⟩
        exact absurd hcall (List.mem_singleton.mp hm' ▸ htype)
    | timeout i =>
      obtain ⟨hmcp, heq⟩ := hstep
      rw [heq]
      exact h.event hmcp trivial (ids_timeout hmcp) (fun j id o ho => .inl ho.2) fun _ => id
    | close =>
      rw [hstep]
      exact ⟨h.pushed, h.numbered, h.quiet, h.ids, h.calls, h.once, h.down, h.settled⟩

end Calls

/-! ### What settles a call -/

section Results

variable {cfg : Config} {parseText : Json → String} {num : Js.Numbers} {seed c : ℕ} {hello : Json}
  {agentId startupId secret : String} {L L' : WorkerLink}

/-- What settles a call that is answered. -/
theorem settlementOf_answer {id : String} {reply : Json} {o : Settlement} (ho : settlementOf num reply = some o)
    (h : (∃ result, reply = replyFrame id result) ∨ ∃ code message, reply = mcpErr id code message) :
    (∃ result, reply = replyFrame id result ∧ o = .resolved (some result)) ∨
      ∃ code message, reply = mcpErr id code message ∧ o = .rejected message (some (.str code)) := by
  rcases h with ⟨result, rfl⟩ | ⟨code, message, rfl⟩
  · exact .inl ⟨result, rfl, (Option.some.inj ho).symm⟩
  · exact .inr ⟨code, message, rfl, (Option.some.inj ho).symm⟩

/-- Whatever the loop has handled for the worker, the worker has sent. -/
theorem handled_sent (h : (linkSystem cfg parseText num seed c hello).Reachable L) :
    (Mailbox.exchanges c L.gate.mail.served).map (fun e => e.1.2) <+: L.sent := by
  have hprefix := (gate_dialogue (gate_reachable h) c).2.1.map Prod.snd
  rw [List.map_map] at hprefix
  have hstands := stands_of_reachable h
  unfold Stands at hstands
  split at hstands
  · exact hprefix.trans (hstands.sent ▸ List.prefix_append _ _)
  · rw [hstands.questions] at hprefix
    rw [hstands.sent]
    exact hprefix

/-- The frame of a call is handled once: if it were handled twice, it would have been sent twice. -/
theorem exchange_once (h : (linkSystem cfg parseText num seed c hello).Reachable L) {frame reply reply' : Json}
    {m m' : String} {j j' : ℕ} (htype : frame.getStr "type" = some "mcp_call")
    (hj : (Mailbox.exchanges c L.gate.mail.served)[j]? = some ((m, frame), reply))
    (hj' : (Mailbox.exchanges c L.gate.mail.served)[j']? = some ((m', frame), reply')) : j = j' := by
  have honce := List.pairwise_iff_getElem.mp ((filed_of_reachable h).once.sublist (handled_sent h).sublist)
  have hframe : ∀ (n : ℕ) (m : String) (r : Json),
      (Mailbox.exchanges c L.gate.mail.served)[n]? = some ((m, frame), r) →
      ∃ hn : n < ((Mailbox.exchanges c L.gate.mail.served).map fun e => e.1.2).length,
        ((Mailbox.exchanges c L.gate.mail.served).map fun e => e.1.2)[n] = frame := by
    intro n m r hn
    exact List.getElem?_eq_some_iff.mp (by simp [hn])
  obtain ⟨hlt, heq⟩ := hframe j _ _ hj
  obtain ⟨hlt', heq'⟩ := hframe j' _ _ hj'
  rcases Nat.lt_trichotomy j j' with hless | hsame | hmore
  · exact absurd (heq.trans heq'.symm) (honce j j' hlt hlt' hless (by rwa [heq']))
  · exact hsame
  · exact absurd (heq'.trans heq.symm) (honce j' j hlt' hlt hmore (by rwa [heq]))

/-- **A call is settled by the answer to that very call**: whatever the sockets, the other workers and the loop do, a
call that does not time out is settled by what the loop has answered to the frame of the call itself, on behalf of the
agent of the greeting; it has handled that frame once, and what the call gets is the result, or the error, of that
answer. -/
theorem link_calls (h : (linkSystem cfg parseText num seed c (helloFrame agentId startupId secret)).Reachable L)
    {i : ℕ} {call : PendingCall} {o : Settlement} (hcall : L.mcp.calls[i]? = some call) (ho : call.settled = some o) :
    o = .timedOut ∨ ∃ (frame reply : Json) (j : ℕ) (env : Env) (st : BudgetState),
      L.asked[i]? = some frame ∧ frame.getStr "corr_id" = some call.corrId ∧
      (Mailbox.exchanges c L.gate.mail.served)[j]? = some ((agentId, frame), reply) ∧
      (∀ j' m reply', (Mailbox.exchanges c L.gate.mail.served)[j']? = some ((m, frame), reply') → j' = j) ∧
      (messageSystem cfg).Reachable st ∧ reply = (dispatchWorker cfg parseText env st agentId frame).1 ∧
      ((∃ result, reply = replyFrame call.corrId result ∧ o = .resolved (some result)) ∨
        ∃ code message, reply = mcpErr call.corrId code message ∧ o = .rejected message (some (.str code))) := by
  have hgate := gate_reachable h
  have hfiled := filed_of_reachable h
  refine (hfiled.settled call (List.mem_of_getElem? hcall) o ho).imp_right ?_
  rintro ⟨reply, hreply, hid, hsettlement⟩
  -- the answer has been taken, so it is one of the loop's
  obtain ⟨htaken, hasked, -⟩ := gate_dialogue hgate c
  obtain ⟨⟨⟨agentId', frame⟩, reply'⟩, hexchange, rfl⟩ := List.mem_map.mp (htaken.subset hreply)
  obtain ⟨env, st, hst, hdispatched⟩ := exchange_dispatched hgate hexchange
  -- on behalf of the agent
  have hagent : agentId' = agentId := by
    have hposted := hasked.subset (List.mem_map_of_mem (f := Prod.fst) hexchange)
    obtain ⟨⟨d, letter⟩, hletter, hquestion⟩ := List.mem_filterMap.mp hposted
    rw [Option.ite_none_right_eq_some] at hquestion
    obtain ⟨rfl, hquestion⟩ := hquestion
    cases letter with
    | tell n => cases hquestion
    | ask m =>
      obtain rfl := Option.some.inj hquestion
      exact agent_of_known h (.inr ⟨frame, hletter⟩)
  subst hagent
  dsimp only at hid hsettlement hdispatched
  rw [hdispatched] at hid hsettlement
  obtain ⟨htype, hframe, hshape⟩ := answer_of_corrId hid
  -- to the frame of this call
  have hsent : frame ∈ L.sent := (handled_sent h).subset (List.mem_map_of_mem (f := fun e => e.1.2) hexchange)
  obtain ⟨hasked, hmarked⟩ := hfiled.asked_of_corrId hsent htype hcall hframe
  obtain ⟨j, hj⟩ := List.mem_iff_getElem?.mp hexchange
  refine ⟨frame, reply', j, env, st, hasked, hmarked, hj, ?_, hst, hdispatched, ?_⟩
  · exact fun j' m reply'' hj' => exchange_once h htype hj' hj
  · rw [hdispatched]
    exact settlementOf_answer hsettlement hshape

end Results

/-! ### What is not settled -/

section Waits

variable {cfg : Config} {parseText : Json → String} {num : Js.Numbers} {seed c : ℕ} {hello : Json} {L L' : WorkerLink}
  {s t : McpState}

/-- A call that is not settled listens, and its timer runs. -/
def Waiting (s : McpState) : Prop :=
  ∀ (i : ℕ) call, s.calls[i]? = some call → call.settled = none → call.timer = true ∧ i ∈ s.listeners

/-- A call is settled. -/
theorem Waiting.finish (h : Waiting s) (i : ℕ) {f : PendingCall → PendingCall} (hf : ∀ call, (f call).settled ≠ none) :
    Waiting (s.finish i f) := by
  intro j call hcall hnone
  change (s.calls.modify i f)[j]? = _ at hcall
  rw [List.getElem?_modify] at hcall
  obtain ⟨before, hbefore, rfl⟩ := Option.map_eq_some_iff.mp hcall
  by_cases hij : i = j
  · rw [if_pos hij] at hnone
    exact absurd hnone (hf before)
  · rw [if_neg hij] at hnone ⊢
    obtain ⟨htimer, hlistens⟩ := h j before hbefore hnone
    exact ⟨htimer, List.mem_filter.mpr ⟨hlistens, by simpa using fun heq => hij heq.symm⟩⟩

/-- A listener gets a frame; the loop goes on unless the listener throws, which it does not over an answer of the
loop. -/
theorem Waiting.dispatch {m : Json} (hm : ∀ id, m.getStr "corr_id" = some id → (settlementOf num m).isSome)
    (visit : List ℕ) : ∀ s : McpState, Quiet s → Waiting s → Waiting (dispatch num m visit s) := by
  induction visit with
  | nil => exact fun s _ h => h
  | cons i rest ih =>
    intro s hquiet h
    rw [Worker.dispatch]
    by_cases hlistens : i ∈ s.listeners
    · rw [if_pos hlistens]
      have hquiet' : Quiet (onMsg num m i s).1 := (onMsg_spec hquiet m i).2
      have hon : Waiting (onMsg num m i s).1 := by
        unfold onMsg
        cases hc : s.calls[i]? with
        | none => exact h
        | some call =>
          by_cases hid : m.getStr "corr_id" ≠ some call.corrId
          · simp only [if_pos hid]
            exact h
          · simp only [if_neg hid]
            obtain ⟨o, ho⟩ := Option.isSome_iff_exists.mp (hm _ (not_not.mp hid))
            have hfinish : (s.finish i .close).settle i o =
                s.finish i fun c => { c.close with settled := c.settled.or (some o) } := by
              simp only [McpState.settle, McpState.mapCall, McpState.finish, List.modify_modify_eq]
              rfl
            simp only [ho, cleanup_clearTimer hquiet hc, hfinish]
            exact h.finish i fun call => by simp
      rcases hresult : onMsg num m i s with ⟨t, returns⟩
      rw [hresult] at hon hquiet'
      cases returns with
      | false => exact hon
      | true => exact ih t hquiet' hon
    · rw [if_neg hlistens]
      exact ih s hquiet h

/-- A call that has timed out, unless it was settled. -/
def timedOut (call : PendingCall) : PendingCall :=
  { call.close with settled := call.settled.or (some .timedOut) }

/-- The timer of a call fires. -/
theorem timeout_eq {i : ℕ} {call : PendingCall} (hquiet : Quiet s) (hcall : s.calls[i]? = some call)
    (htimer : call.timer = true) : s.step num seed (.timeout i) = some (s.finish i timedOut) := by
  have hfinish : (s.finish i .close).settle i .timedOut = s.finish i timedOut := by
    simp only [McpState.settle, McpState.mapCall, McpState.finish, List.modify_modify_eq]
    rfl
  simp only [McpState.step, hcall, htimer, if_true, cleanup_clearTimer hquiet hcall, hfinish]

/-- A call is made, and sent. -/
theorem Waiting.call {now : ℕ} (h : Waiting s) (hstep : s.step num seed (.call now none) = some t) : Waiting t := by
  obtain rfl := Option.some.inj hstep
  intro i call hcall hnone
  by_cases hlt : i < s.calls.length
  · rw [List.getElem?_append_left hlt] at hcall
    obtain ⟨htimer, hlistens⟩ := h i call hcall hnone
    exact ⟨htimer, List.mem_append_left _ hlistens⟩
  · rw [List.getElem?_append_right (by omega)] at hcall
    have hzero : i - s.calls.length = 0 := by
      have := (List.getElem?_eq_some_iff.mp hcall).1
      rw [List.length_singleton] at this
      omega
    rw [hzero] at hcall
    obtain rfl := Option.some.inj hcall
    exact ⟨rfl, List.mem_append_right _ (List.mem_singleton.mpr (by omega))⟩

theorem Waiting.timeout {i : ℕ} (h : Waiting s) (hquiet : Quiet s) (hstep : s.step num seed (.timeout i) = some t) :
    Waiting t := by
  cases hcall : s.calls[i]? with
  | none => simp [McpState.step, hcall] at hstep
  | some call =>
    cases htimer : call.timer with
    | false => simp [McpState.step, hcall, htimer] at hstep
    | true =>
      rw [timeout_eq hquiet hcall htimer] at hstep
      rw [← Option.some.inj hstep]
      exact h.finish i fun call => by simp [timedOut]

/-- A frame that settles a call settles it: no listener throws. -/
theorem settles_of_takenBy (h : (linkSystem cfg parseText num seed c hello).Reachable L) {m : Json}
    (hm : Unmarked m ∨ m ∈ Mailbox.takenBy c L.gate.mail.taken) :
    ∀ id, m.getStr "corr_id" = some id → (settlementOf num m).isSome := by
  intro id hid
  rcases hm with hunmarked | htaken
  · rw [show m.getStr "corr_id" = none from hunmarked] at hid
    cases hid
  · have htakes := (gate_dialogue (gate_reachable h) c).1
    obtain ⟨⟨⟨agentId, frame⟩, reply⟩, hexchange, rfl⟩ := List.mem_map.mp (htakes.subset htaken)
    obtain ⟨env, st, -, hreply⟩ := exchange_dispatched (gate_reachable h) hexchange
    dsimp only at hreply hid ⊢
    rw [hreply] at hid ⊢
    rcases (answer_of_corrId hid).2.2 with ⟨result, heq⟩ | ⟨code, message, heq⟩
    all_goals
      rw [heq]
      rfl

/-- **No call hangs**, whatever happens. -/
theorem waiting_of_reachable (h : (linkSystem cfg parseText num seed c hello).Reachable L) : Waiting L.mcp := by
  refine h.invariant_of (I := fun L => Waiting L.mcp)
    (J := (linkSystem cfg parseText num seed c hello).Reachable) (fun _ => id) ?_ ?_
  · rintro L ⟨-, -, -, hmcp, -⟩
    rw [hmcp]
    exact fun i call hcall => absurd hcall (by simp [McpState.new])
  · intro L l L' hreachable h hstep
    have hfiled := filed_of_reachable hreachable
    cases l with
    | gate gl =>
      rw [hstep.2.2.2]
      exact h
    | push frame | helloTimeout =>
      rw [hstep.2]
      exact h
    | opened | report frame =>
      rw [hstep.2.2]
      exact h
    | message =>
      obtain ⟨-, -, m, hm, heq⟩ := hstep
      rw [heq]
      have hsettles := settles_of_takenBy hreachable (hfiled.down m (hm ▸ List.mem_cons_self))
      exact Waiting.dispatch hsettles _ _ hfiled.quiet h
    | call now tool args =>
      obtain ⟨-, hcall, -⟩ := hstep
      exact h.call hcall
    | elsewhere =>
      obtain ⟨helsewhere, -⟩ := hstep
      rw [← Option.some.inj helsewhere]
      exact h
    | timeout i =>
      obtain ⟨htimeout, -⟩ := hstep
      exact h.timeout hfiled.quiet htimeout
    | close =>
      rw [hstep]
      exact h

/-- **Every call ends**: a call that is not settled listens for its answer, and its timer settles it if none comes. -/
theorem link_calls_end (h : (linkSystem cfg parseText num seed c hello).Reachable L) {i : ℕ} {call : PendingCall}
    (hcall : L.mcp.calls[i]? = some call) (hnone : call.settled = none) :
    i ∈ L.mcp.listeners ∧ ∃ L' call', (linkSystem cfg parseText num seed c hello).step L (.timeout i) L' ∧
      L'.mcp.calls[i]? = some call' ∧ call'.settled = some .timedOut := by
  obtain ⟨htimer, hlistens⟩ := waiting_of_reachable h i call hcall hnone
  have hstep : L.mcp.step num seed (.timeout i) = some (L.mcp.finish i timedOut) :=
    timeout_eq (filed_of_reachable h).quiet hcall htimer
  refine ⟨hlistens, { L with mcp := L.mcp.finish i timedOut }, timedOut call, ⟨hstep, rfl⟩, ?_, ?_⟩
  · change (L.mcp.calls.modify i timedOut)[i]? = _
    rw [List.getElem?_modify_eq, hcall]
    rfl
  · simp [timedOut, hnone]

end Waits

/-! ### An engineer that asks a peer -/

/-- The answer to the engineer's question. -/
def sampleAnswer : Json :=
  .obj [("response", .null)]

/-- The question of the engineer. -/
def sampleFrame : Json :=
  callFrame "ask_peer" .null (corrId 0 0 1)

/-- The engineer is registered, and has asked. -/
noncomputable def askingLink : WorkerLink where
  gate :=
    { ((freshGate.enter 0 .greeting).enter 0 (.greeted "a-2")).enter 0 (.serving "a-2") with
      mail := freshGate.mail.post 0 (.tell (.registerWorker "a-2")) }
  phase := .connected
  mcp := ⟨1, [.new (corrId 0 0 1)], [0]⟩
  up := [sampleFrame]
  down := []
  asked := [sampleFrame]
  sent := [sampleFrame]
  accepted := true

/-- The engineer connects, and asks a peer. -/
def askingLabels : List LinkLabel :=
  openingLabels ++ [.gate (.register 0), .call 0 "ask_peer" .null]

/-- The engineer gets the answer. -/
def answerLabels : List LinkLabel :=
  [.gate (.receive 0 sampleFrame), .gate (.read (sampleEnv 0 "m")), .gate (.read (sampleEnv 0 "m")),
    .gate (.deliver 0 true), .message]

theorem asking_run (num : Js.Numbers) :
    Run (linkSystem sampleConfig (fun _ => "") num 0 0 (helloFrame "a-2" "s-1" "dev-secret")).step freshLink
      askingLabels askingLink := by
  have hregister : (linkSystem sampleConfig (fun _ => "") num 0 0 (helloFrame "a-2" "s-1" "dev-secret")).step
      connectedLink (.gate (.register 0)) { askingLink with mcp := .new, up := [], asked := [], sent := [] } :=
    ⟨id, ⟨"a-2", rfl, rfl⟩, rfl, rfl⟩
  exact (opening_run num).trans (.cons hregister (.single ⟨.inl rfl, rfl, .inl ⟨rfl, rfl⟩⟩))

theorem askingLink_reachable : (linkSystem sampleConfig (fun _ => "") plainNumbers 0 0
    (helloFrame "a-2" "s-1" "dev-secret")).Reachable askingLink :=
  (System.Reachable.init (freshLink_init plainNumbers)).run (asking_run plainNumbers)

theorem answer_run (num : Js.Numbers) :
    ∃ L, Run (linkSystem sampleConfig (fun _ => "") num 0 0 (helloFrame "a-2" "s-1" "dev-secret")).step askingLink
        answerLabels L ∧
      L.mcp.calls = [⟨corrId 0 0 1, false, true, some (.resolved (some sampleAnswer))⟩] := by
  let hello := helloFrame "a-2" "s-1" "dev-secret"
  let reply := replyFrame (corrId 0 0 1) sampleAnswer
  let server := loopServer sampleConfig fun _ => ""
  let g₁ : GateState := { askingLink.gate.enter 0 (.waiting "a-2") with
    mail := askingLink.gate.mail.ask 0 ("a-2", sampleFrame) }
  let g₂ : GateState := { g₁ with mail := g₁.mail.read server (sampleEnv 0 "m") }
  let g₃ : GateState := { g₂ with mail := g₂.mail.read server (sampleEnv 0 "m") }
  let g₄ : GateState := { g₃.enter 0 (.serving "a-2") with mail := g₃.mail.take 0 reply }
  let L₄ : WorkerLink := { askingLink with gate := g₄, up := [], down := [reply] }
  have hanswer : g₃.mail.answers 0 = some reply := rfl
  have hreceive : (linkSystem sampleConfig (fun _ => "") num 0 0 hello).step askingLink
      (.gate (.receive 0 sampleFrame)) { askingLink with gate := g₁, up := [] } := ⟨id, ⟨"a-2", rfl, rfl⟩, rfl, rfl⟩
  have hread : (linkSystem sampleConfig (fun _ => "") num 0 0 hello).step { askingLink with gate := g₁, up := [] }
      (.gate (.read (sampleEnv 0 "m"))) { askingLink with gate := g₂, up := [] } :=
    ⟨id, ⟨List.cons_ne_nil _ _, rfl⟩, rfl, rfl⟩
  have hread' : (linkSystem sampleConfig (fun _ => "") num 0 0 hello).step { askingLink with gate := g₂, up := [] }
      (.gate (.read (sampleEnv 0 "m"))) { askingLink with gate := g₃, up := [] } :=
    ⟨id, ⟨List.cons_ne_nil _ _, rfl⟩, rfl, rfl⟩
  have hdeliver : (linkSystem sampleConfig (fun _ => "") num 0 0 hello).step { askingLink with gate := g₃, up := [] }
      (.gate (.deliver 0 true)) L₄ :=
    ⟨id, ⟨"a-2", reply, rfl, hanswer, rfl⟩, rfl, rfl⟩
  have hmessage : (linkSystem sampleConfig (fun _ => "") num 0 0 hello).step L₄ .message
      { L₄ with down := [], mcp := dispatch num reply askingLink.mcp.listeners askingLink.mcp } :=
    ⟨nofun, nofun, reply, rfl, rfl⟩
  refine ⟨_, .cons hreceive (.cons hread (.cons hread' (.cons hdeliver (.single hmessage)))), ?_⟩
  have hid : reply.getStr "corr_id" = some (corrId 0 0 1) := rfl
  have hsettlement : settlementOf num reply = some (.resolved (some sampleAnswer)) := rfl
  simp [askingLink, dispatch, onMsg, PendingCall.new, hid, hsettlement, McpState.clearTimer, McpState.mapCall,
    McpState.cleanup, McpState.settle]

/-- The engineer's question is settled by the answer to it. -/
theorem link_calls_askPeer : ∃ L : WorkerLink, ∃ call : PendingCall,
    L.mcp.calls[0]? = some call ∧ call.settled = some (.resolved (some sampleAnswer)) ∧
    (Settlement.resolved (some sampleAnswer) = .timedOut ∨
      ∃ (frame reply : Json) (j : ℕ) (env : Env) (st : BudgetState),
        L.asked[0]? = some frame ∧ frame.getStr "corr_id" = some call.corrId ∧
        (Mailbox.exchanges 0 L.gate.mail.served)[j]? = some (("a-2", frame), reply) ∧
        (∀ j' m reply', (Mailbox.exchanges 0 L.gate.mail.served)[j']? = some ((m, frame), reply') → j' = j) ∧
        (messageSystem sampleConfig).Reachable st ∧
        reply = (dispatchWorker sampleConfig (fun _ => "") env st "a-2" frame).1 ∧
        ((∃ result, reply = replyFrame call.corrId result ∧
            Settlement.resolved (some sampleAnswer) = .resolved (some result)) ∨
          ∃ code message, reply = mcpErr call.corrId code message ∧
            Settlement.resolved (some sampleAnswer) = .rejected message (some (.str code)))) := by
  obtain ⟨L, hrun, hcalls⟩ := answer_run plainNumbers
  have hcall : L.mcp.calls[0]? = some ⟨corrId 0 0 1, false, true, some (.resolved (some sampleAnswer))⟩ := by
    rw [hcalls]
    rfl
  exact ⟨L, _, hcall, rfl, link_calls (askingLink_reachable.run hrun) hcall rfl⟩

/-- The engineer waits for the answer, and not for ever. -/
theorem link_calls_end_askPeer : askingLink.mcp.calls.map PendingCall.settled = [none] ∧ 0 ∈ askingLink.mcp.listeners ∧
    ∃ L' call', (linkSystem sampleConfig (fun _ => "") plainNumbers 0 0 (helloFrame "a-2" "s-1" "dev-secret")).step
        askingLink (.timeout 0) L' ∧
      L'.mcp.calls[0]? = some call' ∧ call'.settled = some .timedOut := by
  have hcall : askingLink.mcp.calls[0]? = some (.new (corrId 0 0 1)) := rfl
  exact ⟨rfl, link_calls_end askingLink_reachable hcall rfl⟩

end Cliptown.Gate
