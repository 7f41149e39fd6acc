import Cliptown.Town.Replan

/-!
# Targets and queues

An avatar's target is in the world, its queue in the path store.

* `moveSystem` — requests and ticks in any order, in any layout, from avatars with no plan.
* `Coherent` — an avatar has a target exactly if it has a queue, which ends there; without one it stays.
* `StaysOnTile` — a move that is granted and whose route never leaves the tile that the avatar stands on.
* `planSteps_eq_nil_iff` — such a route, and no other, leaves nothing to queue.
* `coherent_iff` — the runs that keep targets and queues coherent are those in which no avatar with a queue is
  moved onto its own tile.
-/

namespace Cliptown.Town

open Cliptown.Lib Cliptown.World

/-- Requests and ticks in any order, from avatars with no plan. Source: `move_sys.rs` `start_move`, `step_all` -/
def moveSystem (A : AStar) (L : TownLayout) (g : RoomGraph) : System (WorldView × PathStore) MoveLabel where
  init s := ∀ id a, s.1.avatars.lookup id = some a → a.targetPos = none ∧ s.2.lookup id = none
  step s l t :=
    match l with
    | .start id room target => t = (startMove A s.1 s.2 L g id room target).2
    | .tick => t = ((stepAll s.1 s.2).1, (stepAll s.1 s.2).2.1)

/-- There is a target exactly if there is a queue, which ends on it. -/
structure Agree (target : Option Tile) (queue : Option (List Step)) : Prop where
  isSome_iff : target.isSome ↔ ∃ q ∈ queue, q ≠ []
  last : ∀ t ∈ target, ∀ q ∈ queue, q.getLast?.map Step.tile = some t

/-- However many ticks come, the avatar stays where it is. -/
def StaysPut (s : WorldView × PathStore) (id : String) (a : AvatarView) : Prop :=
  ∀ n, ∃ b, (ticks n s).1.1.avatars.lookup id = some b ∧ b.currentPos = a.currentPos ∧ b.roomId = a.roomId

/-- The target of every avatar agrees with its queue, and without one it stays. -/
def Coherent (s : WorldView × PathStore) : Prop :=
  ∀ id a, s.1.avatars.lookup id = some a →
    Agree a.targetPos (s.2.lookup id) ∧ (a.targetPos = none → StaysPut s id a)

section Conditions

variable (A : AStar) (L : TownLayout) (g : RoomGraph)

/-- The avatar may enter the room, and the route there is all on the tile that it stands on. -/
def StaysOnTile (a : AvatarView) (room : String) (target : Tile) : Prop :=
  canEnterLayoutRoom L a.startupId room = true ∧
    ∃ route ∈ fullRoute A g L.roomBoundsMap (a.roomId, a.currentPos) (room, target),
      ∀ leg ∈ route, ∀ t ∈ leg.2, t = a.currentPos

/-- No avatar that has steps left to take is moved onto its own tile. -/
def KeepsPlan (s : WorldView × PathStore) : MoveLabel → Prop
  | .start id room target => ∀ a q, s.1.avatars.lookup id = some a → s.2.lookup id = some q → q ≠ [] →
      ¬ StaysOnTile A L g a room target
  | .tick => True

end Conditions

/-! ### Queues of a route -/

/-- A list that moves at every step and is all on one tile is that tile. -/
theorem eq_singleton_of_forall {l : Tile} {seg : List Tile} (hne : seg ≠ []) (hchain : seg.IsChain (· ≠ ·))
    (h : ∀ t ∈ seg, t = l) : seg = [l] := by
  rcases seg with _ | ⟨t, _ | ⟨t', seg⟩⟩
  · exact absurd rfl hne
  · rw [h t List.mem_cons_self]
  · have htt' : t = t' := (h t List.mem_cons_self).trans (h t' (by simp)).symm
    exact absurd htt' (List.isChain_cons_cons.mp hchain).1

/-- A segment leaves nothing to push exactly if it is all on the last tile pushed. -/
theorem fresh_eq_nil_iff {l : Tile} {seg : List Tile} (hne : seg ≠ []) (hchain : seg.IsChain (· ≠ ·)) :
    fresh (some l) seg = [] ↔ ∀ t ∈ seg, t = l := by
  constructor
  · intro hnil t ht
    rcases fresh_eq_nil hnil with rfl | rfl
    · exact absurd ht List.not_mem_nil
    · exact List.mem_singleton.mp ht
  · intro h
    rw [eq_singleton_of_forall hne hchain h, fresh, if_pos rfl]

theorem annotate_eq_nil_iff {enter : Option String} {seg : List Tile} : annotate enter seg = [] ↔ seg = [] := by
  rcases seg with _ | ⟨t, _ | ⟨t', seg⟩⟩ <;> simp [annotate]

/-- A route leaves nothing to push exactly if it is all on the last tile pushed. -/
theorem planned_eq_nil {route : List (String × List Tile)} : ∀ {l : Tile}, Moving route →
    (planned (some l) route = [] ↔ ∀ leg ∈ route, ∀ t ∈ leg.2, t = l) := by
  induction route with
  | nil => exact fun _ => by simp [planned]
  | cons leg route ih =>
      intro l hmoving
      obtain ⟨room, seg⟩ := leg
      obtain ⟨hne, hchain⟩ := hmoving _ List.mem_cons_self
      rcases route with _ | ⟨⟨next, nextSeg⟩, route⟩
      · rw [planned, annotate_eq_nil_iff, fresh_eq_nil_iff hne hchain]
        simp
      · rw [planned, List.append_eq_nil_iff, annotate_eq_nil_iff, fresh_eq_nil_iff hne hchain,
          List.forall_mem_cons]
        refine and_congr_right fun hall => ?_
        -- the segment is the tile itself, so the next one starts from it as well
        have hseg : seg = [l] := eq_singleton_of_forall hne hchain hall
        rw [hseg, List.getLast?_singleton]
        exact ih fun e he => hmoving e (List.mem_cons_of_mem _ he)

/-- A queue with a step in it ends where it leads. -/
theorem getLast?_of_walkPos (p : Tile) {q : List Step} (hq : q ≠ []) :
    q.getLast?.map Step.tile = some (walkPos p q) := by
  obtain ⟨init, s, rfl⟩ := List.eq_nil_or_concat q |>.resolve_left hq
  simp [walkPos]

section Route

variable {A : AStar} {L : TownLayout} {g : RoomGraph} {a : AvatarView} {room : String} {target : Tile}
  {route : List (String × List Tile)}

/-- The queue of a route in closed form. -/
theorem planSteps_of_fullRoute (hA : A.Sound)
    (hroute : fullRoute A g L.roomBoundsMap (a.roomId, a.currentPos) (room, target) = some route) :
    planSteps a.currentPos route = planned (some a.currentPos) route := by
  obtain ⟨ws, -, hlegs⟩ := fullRoute_spec hA hroute
  obtain ⟨q, rest, rfl⟩ := hlegs.eq_cons
  exact planSteps_eq hlegs.moving

/-- **What leaves nothing to queue** is a route that is all on the tile of the avatar. -/
theorem planSteps_eq_nil_iff (hA : A.Sound)
    (hroute : fullRoute A g L.roomBoundsMap (a.roomId, a.currentPos) (room, target) = some route) :
    planSteps a.currentPos route = [] ↔ ∀ leg ∈ route, ∀ t ∈ leg.2, t = a.currentPos := by
  obtain ⟨ws, -, hlegs⟩ := fullRoute_spec hA hroute
  rw [planSteps_of_fullRoute hA hroute]
  exact planned_eq_nil hlegs.moving

/-- The queue of a route ends on its target. -/
theorem last_planSteps (hA : A.Sound)
    (hroute : fullRoute A g L.roomBoundsMap (a.roomId, a.currentPos) (room, target) = some route)
    (hne : planSteps a.currentPos route ≠ []) :
    (planSteps a.currentPos route).getLast?.map Step.tile = some target := by
  obtain ⟨ws, -, hlegs⟩ := fullRoute_spec hA hroute
  rw [getLast?_of_walkPos a.currentPos hne, planSteps_of_fullRoute hA hroute, walkPos_planned hlegs]

/-- **In a well-formed layout** a move stays on the tile only if it asks for the tile and the room where the
avatar is. -/
theorem eq_of_staysOnTile (hA : A.Sound) (hL : L.WellFormed)
    (h : StaysOnTile A L (graphFromLayout L) a room target) : a.roomId = room ∧ a.currentPos = target := by
  obtain ⟨-, route, hroute, hall⟩ := h
  obtain ⟨ws, hws, hlegs⟩ := fullRoute_spec hA hroute
  obtain ⟨hwalk, -⟩ := route_spec hA hws
  exact (planned_eq_nil_iff hL hws hwalk hlegs).mp ((planned_eq_nil hlegs.moving).mpr hall)

end Route

/-! ### One avatar -/

section Agree

variable {target : Option Tile} {queue : Option (List Step)} {q : List Step} {t : Tile}

theorem agree_some (hq : q ≠ []) (hlast : q.getLast?.map Step.tile = some t) : Agree (some t) (some q) where
  isSome_iff := iff_of_true rfl ⟨q, rfl, hq⟩
  last := by
    rintro _ ⟨⟩ _ ⟨⟩
    exact hlast

theorem agree_none_iff : Agree none queue ↔ ∀ q ∈ queue, q = [] := by
  constructor
  · intro h q hq
    by_contra hne
    exact absurd (h.isSome_iff.mpr ⟨q, hq, hne⟩) (by simp)
  · intro h
    exact ⟨iff_of_false (by simp) fun ⟨q, hq, hne⟩ => hne (h q hq), by simp⟩

/-- A tick keeps target and queue in agreement. -/
theorem agree_advance {a : AvatarView} (h : Agree a.targetPos (some q)) :
    Agree (advance q a).targetPos (remaining q) := by
  rcases q with _ | ⟨x, _ | ⟨y, rest⟩⟩
  · exact agree_none_iff.mpr (by simp [remaining])
  · exact agree_none_iff.mpr (by simp [remaining])
  · obtain ⟨t, ht⟩ := Option.isSome_iff_exists.mp (h.isSome_iff.mpr ⟨_, rfl, by simp⟩)
    have hlast := h.last t ht _ rfl
    rw [List.getLast?_cons_cons] at hlast
    have htarget : (advance (x :: y :: rest) a).targetPos = some t := ht
    rw [htarget]
    exact agree_some (by simp) hlast

end Agree

section Steps

variable {A : AStar} {L : TownLayout} {g : RoomGraph} {s t : WorldView × PathStore} {l : MoveLabel}
  {id : String}

/-- **Without a target** an avatar whose queue agrees stays where it is. -/
theorem staysPut_of_agree (n : ℕ) : ∀ {s : WorldView × PathStore} {a : AvatarView},
    s.1.avatars.lookup id = some a → a.targetPos = none → Agree a.targetPos (s.2.lookup id) →
      ∃ b, (ticks n s).1.1.avatars.lookup id = some b ∧ b.currentPos = a.currentPos ∧
        b.roomId = a.roomId := by
  induction n with
  | zero => exact fun ha _ _ => ⟨_, ha, rfl, rfl⟩
  | succ n ih =>
      intro s a ha hnone hagree
      rcases hps : s.2.lookup id with _ | q
      · obtain ⟨hw, hp, -⟩ := stepAll_of_none (w := s.1) hps
        rw [hps, ← hp] at hagree
        exact ih (hw.trans ha) hnone hagree
      · obtain ⟨hw, hp, -⟩ := stepAll_of_some hps ha
        rw [hnone] at hagree
        obtain rfl := agree_none_iff.mp hagree q hps
        refine ih (a := arrive a) hw rfl (agree_none_iff.mpr ?_)
        rw [hp]
        exact fun _ hq => absurd hq (by simp [remaining])

/-- That an avatar stays without a target follows. -/
theorem coherent_iff_agree :
    Coherent s ↔ ∀ id a, s.1.avatars.lookup id = some a → Agree a.targetPos (s.2.lookup id) :=
  ⟨fun h id a ha => (h id a ha).1,
    fun h id a ha => ⟨h id a ha, fun hnone n => staysPut_of_agree n ha hnone (h id a ha)⟩⟩

theorem coherent_of_init (h : (moveSystem A L g).init s) : Coherent s := by
  refine coherent_iff_agree.mpr fun id a ha => ?_
  obtain ⟨hnone, hps⟩ := h id a ha
  rw [hnone, hps]
  exact agree_none_iff.mpr (by simp)

/-- **A tick** keeps targets and queues coherent. -/
theorem coherent_stepAll (hs : Coherent s) : Coherent ((stepAll s.1 s.2).1, (stepAll s.1 s.2).2.1) := by
  refine coherent_iff_agree.mpr fun id b hb => ?_
  dsimp only at hb ⊢
  rcases hps : s.2.lookup id with _ | q
  · obtain ⟨hw, hp, -⟩ := stepAll_of_none (w := s.1) hps
    have hagree := coherent_iff_agree.mp hs id b (hw.symm.trans hb)
    rwa [hp, ← hps]
  · rcases ha : s.1.avatars.lookup id with _ | a
    · obtain ⟨hw, -, -⟩ := stepAll_of_no_avatar hps ha
      exact absurd (hw.symm.trans hb) (by simp)
    · obtain ⟨hw, hp, -⟩ := stepAll_of_some hps ha
      obtain rfl := Option.some.inj (hw.symm.trans hb)
      have hagree := coherent_iff_agree.mp hs id a ha
      rw [hps] at hagree
      rw [hp]
      exact agree_advance hagree

/-- A move that stays on the tile is granted, and leaves the path store alone. -/
theorem startMove_of_staysOnTile (hA : A.Sound) {w : WorldView} {ps : PathStore} {a : AvatarView}
    {room : String} {target : Tile} (ha : w.avatars.lookup id = some a)
    (h : StaysOnTile A L g a room target) :
    startMove A w ps L g id room target =
      (.ok, w.setAvatar id fun a => { a with targetPos := none }, ps) := by
  obtain ⟨henter, route, hroute, hall⟩ := h
  have hnil := (planSteps_eq_nil_iff hA hroute).mpr hall
  rw [startMove, ha]
  simp only [henter, if_true, Option.mem_def.mp hroute, hnil]

/-- Any other move that is granted queues its route. -/
theorem startMove_of_moves (hA : A.Sound) {w w' : WorldView} {ps ps' : PathStore} {a : AvatarView}
    {room : String} {target : Tile} (ha : w.avatars.lookup id = some a)
    (h : ¬ StaysOnTile A L g a room target)
    (hok : startMove A w ps L g id room target = (.ok, w', ps')) :
    ∃ q, q ≠ [] ∧ q.getLast?.map Step.tile = some target ∧ ps' = ps.insert id q ∧
      w' = w.setAvatar id fun a => { a with targetPos := some target } := by
  have henter := canEnter_of_startMove_ok ha hok
  obtain ⟨route, hroute, ⟨hnil, -, -⟩ | ⟨hne, hps, hw⟩⟩ := startMove_ok ha hok
  · exact absurd ⟨henter, route, hroute, (planSteps_eq_nil_iff hA hroute).mp hnil⟩ h
  · exact ⟨_, hne, last_planSteps hA hroute hne, hps, hw⟩

/-- What agreed before agrees after the target and the queue of one avatar were set, if these agree. -/
theorem coherent_setAvatar (hs : Coherent s) {target : Option Tile} {ps : PathStore}
    (hps : ∀ k, k ≠ id → ps.lookup k = s.2.lookup k)
    (h : ∀ a, s.1.avatars.lookup id = some a → Agree target (ps.lookup id)) :
    Coherent (s.1.setAvatar id fun a => { a with targetPos := target }, ps) := by
  refine coherent_iff_agree.mpr fun k b hb => ?_
  dsimp only at hb ⊢
  by_cases hk : k = id
  · subst hk
    rw [WorldView.lookup_setAvatar_self] at hb
    obtain ⟨a, ha, rfl⟩ := Option.map_eq_some_iff.mp hb
    exact h a ha
  · rw [WorldView.lookup_setAvatar_ne _ hk] at hb
    rw [hps k hk]
    exact coherent_iff_agree.mp hs k b hb

/-- **A request** keeps them coherent exactly if no avatar with steps left is moved onto its own tile. -/
theorem coherent_startMove_iff (hA : A.Sound) (hs : Coherent s) {room : String} {target : Tile} :
    Coherent (startMove A s.1 s.2 L g id room target).2 ↔ KeepsPlan A L g s (.start id room target) := by
  by_cases hstays : ∃ a, s.1.avatars.lookup id = some a ∧ StaysOnTile A L g a room target
  · -- the target is cleared, and the queue kept
    obtain ⟨a, ha, hstays⟩ := hstays
    rw [startMove_of_staysOnTile hA ha hstays]
    constructor
    · intro h b q hb hq hne
      have hagree := coherent_iff_agree.mp h id { a with targetPos := none }
        (by rw [WorldView.lookup_setAvatar_self, ha]; rfl)
      exact absurd (agree_none_iff.mp hagree q hq) hne
    · intro h
      refine coherent_setAvatar hs (fun _ _ => rfl) fun b hb => agree_none_iff.mpr fun q hq => ?_
      by_contra hne
      obtain rfl := Option.some.inj (ha.symm.trans hb)
      exact h a q ha hq hne hstays
  · have hkeeps : KeepsPlan A L g s (.start id room target) :=
      fun a _ ha _ _ hstay => hstays ⟨a, ha, hstay⟩
    refine iff_of_true ?_ hkeeps
    rcases h : startMove A s.1 s.2 L g id room target with ⟨res, w', ps'⟩
    by_cases hres : res = .ok
    · subst hres
      rcases ha : s.1.avatars.lookup id with _ | a
      · rw [startMove, ha] at h
        exact absurd (congrArg Prod.fst h) (by simp)
      · obtain ⟨q, hne, hlast, rfl, rfl⟩ := startMove_of_moves hA ha (fun hstay => hstays ⟨a, ha, hstay⟩) h
        refine coherent_setAvatar hs (fun k hk => AList.lookup_insert_ne hk) fun _ _ => ?_
        rw [AList.lookup_insert]
        exact agree_some hne hlast
    · obtain ⟨rfl, rfl⟩ := startMove_not_ok h hres
      exact hs

/-- **A step** keeps targets and queues coherent exactly if it meets the condition. -/
theorem coherent_step_iff (hA : A.Sound) (h : (moveSystem A L g).step s l t) (hs : Coherent s) :
    Coherent t ↔ KeepsPlan A L g s l := by
  cases l with
  | start id room target =>
      obtain rfl := h
      exact coherent_startMove_iff hA hs
  | tick =>
      obtain rfl := h
      exact iff_of_true (coherent_stepAll hs) trivial

/-- **Targets and queues** are coherent at first, and stay so in exactly those runs in which no avatar that has
steps left to take is moved onto its own tile. -/
theorem coherent_iff (hA : A.Sound) (hs : (moveSystem A L g).init s) :
    Coherent s ∧ ∀ t ls, Run ((moveSystem A L g).within Coherent).step s ls t ↔
      Run ((moveSystem A L g).restrict (KeepsPlan A L g)).step s ls t :=
  ⟨coherent_of_init hs, fun _ _ => (System.run_restrict_iff_within (fun _ _ _ => coherent_step_iff hA)
    (coherent_of_init hs)).symm⟩

end Steps

/-! ### Back onto its own tile -/

/-- One avatar with no plan is an initial state. -/
theorem moveSystem_init {A : AStar} {L : TownLayout} {g : RoomGraph} (room : String) (pos : Tile) :
    (moveSystem A L g).init (worldAt room pos, ∅) := by
  intro id a ha
  obtain ⟨-, rfl⟩ := Table.lookup_singleton_iff.mp ha
  exact ⟨rfl, rfl⟩

/-- An avatar in the lobby that is sent on its way. -/
theorem coherent_moveInLobby :
    Run ((moveSystem (.reference 4) defaultTown (graphFromLayout defaultTown)).within Coherent).step
      (worldAt "lobby" (8, 4), ∅) [.start "agent" "lobby" (10, 4)] moveInLobby.2 := by
  refine ((coherent_iff (AStar.reference_sound 4) (moveSystem_init "lobby" (8, 4))).2 _ _).mpr ?_
  exact .cons ⟨fun a q _ hq _ => absurd hq (by simp), rfl⟩ (.nil _)

/-- **Not in every run**: one tick later it is sent to the tile that it has come to, and keeps walking without a
target. -/
theorem not_coherent :
    ¬ ∀ A : AStar, A.Sound → ∀ (L : TownLayout) (g : RoomGraph) (s : WorldView × PathStore),
      (moveSystem A L g).Reachable s → Coherent s := by
  intro h
  have hcoherent := h (.reference 4) (AStar.reference_sound 4) defaultTown (graphFromLayout defaultTown) _
    (.step (l := .start "agent" "lobby" (9, 4)) (.step (l := .tick)
      (.step (l := .start "agent" "lobby" (10, 4)) (.init (moveSystem_init "lobby" (8, 4))) rfl) rfl) rfl)
  have hagree := (hcoherent "agent" (avatarAt "lobby" (9, 4)) (by decide)).1
  exact absurd (agree_none_iff.mp hagree [⟨(10, 4), none⟩] (by decide)) (by simp)

end Cliptown.Town
