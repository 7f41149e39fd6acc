import Cliptown.Town.Move

/-!
# Arrival

Where a granted move takes an avatar.

* `ticks`, `ticks_queue` — repeated ticks, and what they make of one queue.
* `eventuallyAt_iff` — where an avatar ends, whatever its queue.
* `planned`, `planSteps_eq` — the queue of a route in closed form: per segment the tiles not yet
  stood on, the last of them annotated with the room it enters.
* `walkPos_planned`, `walkRoom_planned`, `walkRoom_planned_ne` — where the queue leads: always to
  the target tile, and into the target room unless the last door tile is repeated.
* `LastDoorRepeated` — the last entry of "start tile, door tiles of the route" equals the one
  before it. The step with the room change is then de-duplicated away.
* `startMove_arrives_iff` — a granted move arrives if and only if the last door is not repeated.
-/

namespace Cliptown.Town

open Cliptown.Lib Cliptown.World

/-! ### Repeated ticks -/

/-- `n` ticks with nothing in between, and all their events. -/
def ticks : ℕ → WorldView × PathStore → (WorldView × PathStore) × List MoveEvent
  | 0, s => (s, [])
  | n + 1, s =>
      let r := stepAll s.1 s.2
      let rest := ticks n (r.1, r.2.1)
      (rest.1, r.2.2 ++ rest.2)

/-- The position after a list of steps. -/
def walkPos (p : Tile) (q : List Step) : Tile :=
  q.foldl (fun _ s => s.tile) p

/-- The room after a list of steps. -/
def walkRoom (r : String) (q : List Step) : String :=
  q.foldl (fun r s => s.enterRoom.getD r) r

/-- Ticking until the path is exhausted takes the avatar `id` to `target` in `room`, with no target
left and `count` events on the way; `n` is the number of ticks. -/
structure ArrivesAfter (w : WorldView) (ps : PathStore) (id room : String) (target : Tile)
    (count n : ℕ) : Prop where
  /-- After `n` ticks there is no path. -/
  exhausted : (ticks n (w, ps)).1.2.lookup id = none
  /-- Before, there is. -/
  before : ∀ m < n, (ticks m (w, ps)).1.2.lookup id ≠ none
  /-- Where the avatar is. -/
  avatar : ∃ a, (ticks n (w, ps)).1.1.avatars.lookup id = some a ∧
    a.currentPos = target ∧ a.roomId = room ∧ a.targetPos = none
  /-- The events about it. -/
  events : ((ticks n (w, ps)).2.filter fun e => e.agentId = id).length = count

/-- Ticking until the path is exhausted has the requested outcome. -/
def Arrives (w : WorldView) (ps : PathStore) (id room : String) (target : Tile) (count : ℕ) :
    Prop :=
  ∃ n, ArrivesAfter w ps id room target count n

/-- **The run of one queue**: as many ticks as steps exhaust it, the avatar has walked it, and
there was exactly one event. -/
theorem ticks_queue {id : String} (q : List Step) : ∀ (s : Step) (w : WorldView) (ps : PathStore)
    (a : AvatarView), ps.lookup id = some (s :: q) → w.avatars.lookup id = some a →
      (ticks (q.length + 1) (w, ps)).1.2.lookup id = none ∧
        (∀ m < q.length + 1, (ticks m (w, ps)).1.2.lookup id ≠ none) ∧
        (ticks (q.length + 1) (w, ps)).1.1.avatars.lookup id =
          some { a with
            currentPos := walkPos a.currentPos (s :: q)
            roomId := walkRoom a.roomId (s :: q)
            targetPos := none } ∧
        ((ticks (q.length + 1) (w, ps)).2.filter fun e => e.agentId = id).length = 1 := by
  induction q with
  | nil =>
      intro s w ps a hps ha
      obtain ⟨hw, hp, he⟩ := stepAll_of_some hps ha
      refine ⟨hp, ?_, hw, ?_⟩
      · intro m hm
        obtain rfl : m = 0 := by simpa using hm
        simp [ticks, hps]
      · simp [ticks, he, eventsOf]
  | cons s' q ih =>
      intro s w ps a hps ha
      obtain ⟨hw, hp, he⟩ := stepAll_of_some hps ha
      obtain ⟨hdone, hbefore, hend, hcount⟩ := ih s' _ _ _ hp hw
      refine ⟨hdone, ?_, hend, ?_⟩
      · intro m hm
        rcases m with _ | m
        · simp [ticks, hps]
        · exact hbefore m (by simpa using hm)
      · rw [ticks, List.filter_append, he]
        exact hcount

/-- The only way a queue can end. -/
theorem arrives_iff_of_queue {w : WorldView} {ps : PathStore} {id room : String} {target : Tile}
    {a : AvatarView} {q : List Step} (hq : q ≠ []) (hps : ps.lookup id = some q)
    (ha : w.avatars.lookup id = some a) :
    Arrives w ps id room target 1 ↔
      walkPos a.currentPos q = target ∧ walkRoom a.roomId q = room := by
  obtain ⟨s, q, rfl⟩ := List.exists_cons_of_ne_nil hq
  obtain ⟨hdone, hbefore, hend, hcount⟩ := ticks_queue q s w ps a hps ha
  constructor
  · rintro ⟨n, hn⟩
    have hlen : n = q.length + 1 := by
      rcases lt_trichotomy n (q.length + 1) with hlt | heq | hgt
      · exact absurd hn.exhausted (hbefore n hlt)
      · exact heq
      · exact absurd hdone (hn.before _ hgt)
    obtain ⟨b, hb, hpos, hroom, _⟩ := hn.avatar
    rw [hlen, hend] at hb
    obtain rfl := Option.some.inj hb
    exact ⟨hpos, hroom⟩
  · rintro ⟨hpos, hroom⟩
    exact ⟨q.length + 1, hdone, hbefore, ⟨_, hend, hpos, hroom, rfl⟩, hcount⟩

/-- From some tick on, the avatar is on the tile. -/
def EventuallyAt (s : WorldView × PathStore) (id : String) (tile : Tile) : Prop :=
  ∃ n₀, ∀ n, n₀ ≤ n → ∃ a, (ticks n s).1.1.avatars.lookup id = some a ∧ a.currentPos = tile

/-- After as many ticks as there are steps, an avatar has walked its queue. -/
theorem currentPos_ticks (n : ℕ) : ∀ {s : WorldView × PathStore} {id : String} {a : AvatarView},
    s.1.avatars.lookup id = some a → ((s.2.lookup id).getD []).length ≤ n →
      ∃ b, (ticks n s).1.1.avatars.lookup id = some b ∧
        b.currentPos = walkPos a.currentPos ((s.2.lookup id).getD []) := by
  induction n with
  | zero =>
      intro s id a ha hlen
      rw [List.eq_nil_of_length_eq_zero (Nat.le_zero.mp hlen)]
      exact ⟨a, ha, rfl⟩
  | succ n ih =>
      intro s id a ha hlen
      rcases hps : s.2.lookup id with _ | q
      · obtain ⟨hw, hp, -⟩ := stepAll_of_none (w := s.1) hps
        obtain ⟨b, hb, hpos⟩ := ih (s := ((stepAll s.1 s.2).1, (stepAll s.1 s.2).2.1)) (hw.trans ha)
          (by rw [hp]; exact Nat.zero_le n)
        rw [hp] at hpos
        exact ⟨b, hb, hpos⟩
      · obtain ⟨hw, hp, -⟩ := stepAll_of_some hps ha
        rw [hps] at hlen
        have hrest : ((remaining q).getD []).length ≤ n := by
          rcases q with _ | ⟨x, _ | ⟨y, rest⟩⟩
          · exact Nat.zero_le n
          · exact Nat.zero_le n
          · exact Nat.le_of_succ_le_succ hlen
        obtain ⟨b, hb, hpos⟩ := ih (s := ((stepAll s.1 s.2).1, (stepAll s.1 s.2).2.1)) hw
          (by rw [hp]; exact hrest)
        rw [hp] at hpos
        refine ⟨b, hb, hpos.trans ?_⟩
        rcases q with _ | ⟨x, _ | ⟨y, rest⟩⟩ <;> rfl

/-- **Where an avatar ends** is where its queue leads. -/
theorem eventuallyAt_iff {s : WorldView × PathStore} {id : String} {tile : Tile} {a : AvatarView}
    (ha : s.1.avatars.lookup id = some a) :
    EventuallyAt s id tile ↔ walkPos a.currentPos ((s.2.lookup id).getD []) = tile := by
  constructor
  · rintro ⟨n₀, h⟩
    obtain ⟨b, hb, hpos⟩ := h _ (Nat.le_max_left n₀ ((s.2.lookup id).getD []).length)
    obtain ⟨c, hc, hend⟩ := currentPos_ticks _ ha (Nat.le_max_right n₀ _)
    obtain rfl := Option.some.inj (hb.symm.trans hc)
    exact hend.symm.trans hpos
  · intro h
    refine ⟨((s.2.lookup id).getD []).length, fun n hn => ?_⟩
    obtain ⟨b, hb, hend⟩ := currentPos_ticks n ha hn
    exact ⟨b, hb, hend.trans h⟩

/-! ### The queue in closed form -/

/-- Steps onto the tiles of a segment, the last one entering `enter`. -/
def annotate (enter : Option String) : List Tile → List Step
  | [] => []
  | [t] => [⟨t, enter⟩]
  | t :: t' :: seg => ⟨t, none⟩ :: annotate enter (t' :: seg)

/-- The tiles of a segment without a first one that repeats the last tile pushed. -/
def fresh (lastTile : Option Tile) : List Tile → List Tile
  | [] => []
  | t :: seg => if lastTile = some t then seg else t :: seg

/-- The steps of a route when `lastTile` was the last tile pushed. -/
def planned : Option Tile → List (String × List Tile) → List Step
  | _, [] => []
  | lastTile, [(_, seg)] => annotate none (fresh lastTile seg)
  | lastTile, (_, seg) :: (next, nextSeg) :: route =>
      annotate (some next) (fresh lastTile seg) ++ planned seg.getLast? ((next, nextSeg) :: route)

/-- A segment whose first tile is new is pushed whole. -/
theorem pushSegment_of_new (enter : Option String) (seg : List Tile) :
    ∀ (steps : List Step) (lastTile : Option Tile), seg.IsChain (· ≠ ·) →
      (∀ t ∈ seg.head?, lastTile ≠ some t) →
        pushSegment enter seg (steps, lastTile) =
          (steps ++ annotate enter seg, seg.getLast?.or lastTile) := by
  induction seg with
  | nil => exact fun steps lastTile _ _ => by simp [pushSegment, annotate]
  | cons t seg ih =>
      intro steps lastTile hchain hnew
      rw [pushSegment, if_neg (hnew t rfl)]
      rcases seg with _ | ⟨t', seg⟩
      · simp [pushSegment, annotate]
      · rw [List.isChain_cons_cons] at hchain
        rw [ih _ _ hchain.2 (by simpa using hchain.1)]
        simp [annotate, List.getLast?_cons]

/-- **One segment**: what is pushed are its fresh tiles. -/
theorem pushSegment_eq (enter : Option String) {seg : List Tile} (steps : List Step)
    (lastTile : Option Tile) (hchain : seg.IsChain (· ≠ ·)) :
    pushSegment enter seg (steps, lastTile) =
      (steps ++ annotate enter (fresh lastTile seg), seg.getLast?.or lastTile) := by
  rcases seg with _ | ⟨t, seg⟩
  · simp [pushSegment, annotate, fresh]
  · by_cases hlast : lastTile = some t
    · subst hlast
      rw [pushSegment, if_pos rfl, fresh, if_pos rfl, pushSegment_of_new]
      · rcases seg with _ | ⟨t', seg⟩ <;> simp [List.getLast?_cons_cons]
      · exact hchain.tail
      · intro t' ht'
        rcases seg with _ | ⟨u, seg⟩
        · simp at ht'
        · obtain rfl : u = t' := by simpa using ht'
          rw [List.isChain_cons_cons] at hchain
          simpa using hchain.1
    · rw [fresh, if_neg hlast, pushSegment_of_new enter _ _ _ hchain (by simpa using hlast)]

/-- Every segment of the route is non-empty and moves at every step. -/
def Moving (route : List (String × List Tile)) : Prop :=
  ∀ e ∈ route, e.2 ≠ [] ∧ e.2.IsChain (· ≠ ·)

/-- **The whole route**: the two loops push the planned steps. -/
theorem buildSteps_eq (route : List (String × List Tile)) :
    ∀ (steps : List Step) (lastTile : Option Tile), Moving route →
      (buildSteps route (steps, lastTile)).1 = steps ++ planned lastTile route := by
  induction route with
  | nil => exact fun steps lastTile _ => by simp [buildSteps, planned]
  | cons e route ih =>
      intro steps lastTile hmov
      obtain ⟨room, seg⟩ := e
      have hseg := hmov _ List.mem_cons_self
      rcases route with _ | ⟨⟨next, nextSeg⟩, route⟩
      · simp [buildSteps, planned, pushSegment_eq none steps lastTile hseg.2]
      · have hlast : (seg.getLast?.or lastTile) = seg.getLast? := by
          rw [List.getLast?_eq_some_getLast hseg.1, Option.some_or]
        rw [buildSteps, pushSegment_eq _ _ _ hseg.2, hlast, ih _ _ fun e he =>
          hmov e (List.mem_cons_of_mem _ he), planned, List.append_assoc]

/-- Dropping the leading step of an annotated segment leaves the rest annotated. -/
theorem dropLeading_annotate (enter : Option String) (t : Tile) (seg : List Tile)
    (rest : List Step) :
    dropLeading t (annotate enter (t :: seg) ++ rest) = annotate enter seg ++ rest := by
  rcases seg with _ | ⟨t', seg⟩ <;> simp [annotate, dropLeading]

/-- **The queue of a move** is what is planned when the start tile counts as pushed already. -/
theorem planSteps_eq {pos : Tile} {room : String} {seg : List Tile}
    {route : List (String × List Tile)} (hmov : Moving ((room, pos :: seg) :: route)) :
    planSteps pos ((room, pos :: seg) :: route) =
      planned (some pos) ((room, pos :: seg) :: route) := by
  rw [planSteps, buildSteps_eq _ _ _ hmov, List.nil_append]
  rcases route with _ | ⟨⟨next, nextSeg⟩, route⟩
  · simpa [planned, fresh] using dropLeading_annotate none pos seg []
  · simp only [planned, fresh, reduceCtorEq, if_false, if_true]
    exact dropLeading_annotate (some next) pos seg _

/-! ### Where the queue leads -/

theorem walkPos_append (p : Tile) (q q' : List Step) :
    walkPos p (q ++ q') = walkPos (walkPos p q) q' :=
  List.foldl_append

theorem walkRoom_append (r : String) (q q' : List Step) :
    walkRoom r (q ++ q') = walkRoom (walkRoom r q) q' :=
  List.foldl_append

/-- An annotated segment ends on its last tile. -/
theorem walkPos_annotate (enter : Option String) (seg : List Tile) : ∀ p : Tile,
    walkPos p (annotate enter seg) = seg.getLast?.getD p := by
  induction seg with
  | nil => exact fun _ => rfl
  | cons t seg ih =>
      intro p
      rcases seg with _ | ⟨t', seg⟩
      · rfl
      · have h := ih t
        rw [List.getLast?_cons_cons]
        exact h.trans (by simp [List.getLast?_cons])

/-- Leaving out a repeated first tile does not change where a segment ends. -/
theorem getLast?_fresh (p : Tile) (seg : List Tile) :
    (fresh (some p) seg).getLast?.getD p = seg.getLast?.getD p := by
  rcases seg with _ | ⟨t, seg⟩
  · rfl
  · by_cases hp : p = t
    · subst hp
      simp [fresh, List.getLast?_cons]
    · simp [fresh, hp]

/-- An annotated segment enters its room on the last step, if it has one. -/
theorem walkRoom_annotate (enter : Option String) (seg : List Tile) : ∀ r : String,
    walkRoom r (annotate enter seg) = if seg = [] then r else enter.getD r := by
  induction seg with
  | nil => exact fun _ => rfl
  | cons t seg ih =>
      intro r
      rcases seg with _ | ⟨t', seg⟩
      · simp [annotate, walkRoom]
      · exact ih r

/-- The only segments without a fresh tile. -/
theorem fresh_eq_nil {p : Tile} {seg : List Tile} (h : fresh (some p) seg = []) :
    seg = [] ∨ seg = [p] := by
  rcases seg with _ | ⟨t, seg⟩
  · exact .inl rfl
  · by_cases hp : p = t
    · subst hp
      rw [fresh, if_pos rfl] at h
      exact .inr (by rw [h])
    · simp [fresh, hp] at h

section Legs

variable {L : TownLayout} {target tile : Tile} {room dest : String}
  {ws : List (String × Tile)} {segs : List (String × List Tile)}

/-- The first segment starts on the current tile. -/
theorem Legs.eq_cons (h : Legs L target room tile ws segs) :
    ∃ q rest, segs = (room, tile :: q) :: rest := by
  cases h with
  | last _ hseg =>
      obtain ⟨q, rfl⟩ := hseg.eq_cons
      exact ⟨q, [], rfl⟩
  | @door _ _ _ _ _ door _ _ _ _ _ _ _ hseg _ _ _ =>
      obtain ⟨q, hq⟩ := @toDoor_eq_cons _ _ _ door _ hseg
      exact ⟨q, _, by rw [hq]⟩

/-- The current tile lies in the current room. -/
theorem Legs.tile_mem (h : Legs L target room tile ws segs) :
    ∃ b, L.boundsOf room = some b ∧ tile ∈ b := by
  cases h with
  | last hb hseg => exact ⟨_, hb, hseg.src_mem⟩
  | door hb _ hseg _ _ _ => exact ⟨_, hb, hseg.src_mem⟩

/-- The target tile lies in the destination room. -/
theorem Legs.target_mem {g : RoomGraph} (h : Legs L target room tile ws segs)
    (hwalk : Walk g room ws dest) : ∃ b, L.boundsOf dest = some b ∧ target ∈ b := by
  induction h with
  | last hb hseg =>
      cases hwalk
      exact ⟨_, hb, hseg.dst_mem⟩
  | door _ _ _ _ _ _ ih =>
      rcases hwalk with _ | ⟨_, hwalk⟩
      exact ih hwalk

/-- The rooms of the legs are those of the walk. -/
theorem Legs.rooms (h : Legs L target room tile ws segs) :
    segs.map Prod.fst = room :: ws.map Prod.fst := by
  induction h with
  | last _ _ => rfl
  | door _ _ _ _ _ _ ih => rw [List.map_cons, ih, List.map_cons]

/-- Legs move at every step. -/
theorem Legs.moving (h : Legs L target room tile ws segs) : Moving segs := by
  induction h with
  | last _ hseg =>
      intro e he
      obtain rfl := List.mem_singleton.mp he
      obtain ⟨q, hq⟩ := hseg.eq_cons
      exact ⟨by rw [hq]; simp, hseg.isChain_ne⟩
  | door _ _ hseg _ _ _ ih =>
      intro e he
      rcases List.mem_cons.mp he with rfl | he
      · obtain ⟨q, hq⟩ := toDoor_eq_cons hseg
        exact ⟨by rw [hq]; simp, isChain_toDoor hseg⟩
      · exact ih e he

/-- The steps of a leg up to a door, and those of the legs behind it. -/
theorem planned_door {l entry door : Tile} {next : String} {seg : List Tile}
    (hlast : seg.getLast? = some door) (h : Legs L target next entry ws segs) :
    planned (some l) ((room, seg) :: segs) =
      annotate (some next) (fresh (some l) seg) ++ planned (some door) segs := by
  obtain ⟨q, rest, rfl⟩ := h.eq_cons
  rw [planned, hlast]

/-- **The queue ends on the target tile**, whatever was pushed last before it. -/
theorem walkPos_planned (h : Legs L target room tile ws segs) : ∀ l : Tile,
    walkPos l (planned (some l) segs) = target := by
  induction h with
  | last _ hseg =>
      intro l
      rw [planned, walkPos_annotate, getLast?_fresh, hseg.getLast?, Option.getD_some]
  | door _ _ hseg _ _ hrest ih =>
      intro l
      rw [planned_door (getLast?_toDoor hseg) hrest, walkPos_append, walkPos_annotate,
        getLast?_fresh, getLast?_toDoor hseg, Option.getD_some]
      exact ih _

/-- The last of the tiles `l, d₁, …, dₙ` (with `n ≥ 1`) equals the one before it. -/
def LastRepeated : Tile → List Tile → Prop
  | _, [] => False
  | l, [d] => d = l
  | _, d :: d' :: ds => LastRepeated d (d' :: ds)

instance decidableLastRepeated : (l : Tile) → (ds : List Tile) → Decidable (LastRepeated l ds)
  | _, [] => isFalse id
  | l, [d] => inferInstanceAs (Decidable (d = l))
  | _, d :: d' :: ds => decidableLastRepeated d (d' :: ds)

/-- **The queue ends in the destination room** when the last door tile is not repeated: its step is
pushed, and carries the room. -/
theorem walkRoom_planned {g : RoomGraph} (h : Legs L target room tile ws segs) :
    ∀ (l : Tile) (r : String), Walk g room ws dest → ¬ LastRepeated l (ws.map Prod.snd) →
      (ws = [] → r = room) → walkRoom r (planned (some l) segs) = dest := by
  induction h with
  | @last room tile b seg _ _ =>
      intro l r hwalk _ hr
      rcases hwalk
      rw [planned, walkRoom_annotate, hr rfl]
      split <;> rfl
  | @door room next tile exit entry door b nb seg ws segs _ _ hseg _ _ hrest ih =>
      intro l r hwalk hrep _
      rcases hwalk with _ | ⟨_, hwalk⟩
      rw [planned_door (getLast?_toDoor hseg) hrest, walkRoom_append, walkRoom_annotate]
      refine ih door _ hwalk ?_ ?_
      · rcases ws with _ | ⟨w, ws⟩
        · exact id
        · exact hrep
      · -- the door is the last one: its step survives unless `l` is the door tile itself
        rintro rfl
        have hfresh : fresh (some l) (toDoor seg exit door) ≠ [] := by
          intro hnil
          have hlast : (toDoor seg exit door).getLast? = some door := getLast?_toDoor hseg
          rcases fresh_eq_nil hnil with hnil | hnil
          · simp [hnil] at hlast
          · rw [hnil] at hlast
            have hdoor : l = door := by simpa using hlast
            exact hrep hdoor.symm
        rw [if_neg hfresh, Option.getD_some]

/-- **The queue does not end in the destination room** when the last door tile is repeated: the
segment to the door is then that tile alone, and it is not pushed again. The invariant is on the
last tile pushed: it is the current tile, or a door tile standing in the room before. -/
theorem walkRoom_planned_ne (hL : L.WellFormed) (h : Legs L target room tile ws segs) :
    ∀ (l : Tile) (r : String), Walk (graphFromLayout L) room ws dest →
      (room :: ws.map Prod.fst).Nodup → r ≠ dest →
      (l ≠ tile → ∃ prev pb, L.boundsOf prev = some pb ∧ l ∈ pb ∧ prev ∉ room :: ws.map Prod.fst) →
      LastRepeated l (ws.map Prod.snd) → walkRoom r (planned (some l) segs) ≠ dest := by
  induction h with
  | last _ _ => exact fun _ _ _ _ _ _ hrep => hrep.elim
  | @door room next tile exit entry door b nb seg ws segs hb hexit hseg hnb hentry hrest ih =>
      intro l r hwalk hnodup hr hl hrep
      rcases hwalk with _ | ⟨hdoor, hwalk⟩
      obtain ⟨b', nb', hb', hnb', hbetween⟩ := exists_doorBetween hL hdoor
      obtain rfl : b = b' := Option.some.inj (hb.symm.trans hb')
      obtain rfl : nb = nb' := Option.some.inj (hnb.symm.trans hnb')
      rw [planned_door (getLast?_toDoor hseg) hrest, walkRoom_append, walkRoom_annotate]
      rcases ws with _ | ⟨w, ws⟩
      · -- the last door: `l` is its tile
        obtain rfl : door = l := hrep
        rcases hwalk
        have htile : door = tile := by
          by_contra hne
          obtain ⟨prev, pb, hpb, hmem, hprev⟩ := hl hne
          have hside : prev = room ∨ prev = dest := by
            rcases hbetween with ⟨hin, _⟩ | ⟨hin, _⟩
            · exact .inl (hL.room_unique hpb hb hmem hin)
            · exact .inr (hL.room_unique hpb hnb hmem hin)
          exact hprev (by simpa using hside)
        have hself : exit = door := by
          rw [adjacentInside_of_mem (htile ▸ hseg.src_mem)] at hexit
          exact (Option.some.inj hexit).symm
        subst htile
        subst hself
        have hone : toDoor seg exit exit = [exit] := by
          rw [toDoor, if_neg (not_not.mpr rfl), hseg.eq_singleton]
        have hnil : fresh (some exit) (toDoor seg exit exit) = [] := by
          rw [hone, fresh, if_pos rfl]
        rw [if_pos hnil]
        obtain ⟨q, rest, rfl⟩ := hrest.eq_cons
        rcases hrest with ⟨_, hlast⟩
        rw [planned, walkRoom_annotate]
        split
        · exact hr
        · exact hr
      · -- an earlier door: neither the room before nor the room behind it is the destination
        have hnext : next ≠ dest := by
          rcases hwalk with _ | ⟨_, hwalk⟩
          rintro rfl
          exact (List.nodup_cons.mp (List.nodup_cons.mp hnodup).2).1 hwalk.dest_mem
        refine ih door _ hwalk (List.nodup_cons.mp hnodup).2 ?_ ?_ hrep
        · split
          · exact hr
          · exact hnext
        · intro hne
          refine ⟨room, b, hb, ?_, (List.nodup_cons.mp hnodup).1⟩
          rcases hbetween with ⟨hin, _⟩ | ⟨hin, _⟩
          · exact hin
          · rw [adjacentInside_of_mem hin] at hentry
            exact absurd (Option.some.inj hentry) hne

end Legs

/-! ### Arrival -/

/-- The avatar stands inside the bounds of its room. -/
def InRoom (L : TownLayout) (a : AvatarView) : Prop :=
  ∃ b ∈ L.boundsOf a.roomId, a.currentPos ∈ b

/-- On the route between two rooms, the last entry of "start tile, door tiles" equals the one
before it: the avatar starts on the tile of the only door, or the last two doors share a tile. -/
def LastDoorRepeated (A : AStar) (g : RoomGraph) (pos : Tile) (fromRoom toRoom : String) : Prop :=
  ∃ ws ∈ g.route A fromRoom toRoom, LastRepeated pos (ws.map Prod.snd)

section Arrival

variable {A : AStar} {L : TownLayout} {w w' : WorldView} {ps ps' : PathStore} {id room : String}
  {target : Tile} {a : AvatarView}

/-- A plan is empty only for an avatar that is there already. -/
theorem planned_eq_nil_iff (hL : L.WellFormed) {ws : List (String × Tile)}
    {route : List (String × List Tile)} (hws : (graphFromLayout L).route A a.roomId room = some ws)
    (hwalk : Walk (graphFromLayout L) a.roomId ws room)
    (hlegs : Legs L target a.roomId a.currentPos ws route) :
    planned (some a.currentPos) route = [] ↔ a.roomId = room ∧ a.currentPos = target := by
  constructor
  · intro hnil
    have hpos : a.currentPos = target := by
      have h := walkPos_planned hlegs a.currentPos
      rwa [hnil] at h
    obtain ⟨b, hb, hmem⟩ := hlegs.tile_mem
    obtain ⟨c, hc, htarget⟩ := hlegs.target_mem hwalk
    exact ⟨hL.room_unique hb hc hmem (hpos ▸ htarget), hpos⟩
  · rintro ⟨hroom, hpos⟩
    rw [RoomGraph.route, if_pos hroom, Option.some.injEq] at hws
    subst hws
    rcases hlegs with ⟨_, hseg⟩
    rw [hpos] at hseg
    simp [planned, hpos, hseg.eq_singleton, fresh, annotate]

/-- **Arrival.** A granted move of an avatar without a path takes it to the requested tile in the
requested room, with one event (none if it was there already), if and only if the last door of its
route is not repeated. Source: `move_sys.rs` `start_move`, `step_all` -/
theorem startMove_arrives_iff (hA : A.Sound) (hL : L.WellFormed)
    (ha : w.avatars.lookup id = some a) (hps : ps.lookup id = none)
    (hok : startMove A w ps L (graphFromLayout L) id room target = (.ok, w', ps')) :
    Arrives w' ps' id room target (if a.roomId = room ∧ a.currentPos = target then 0 else 1) ↔
      ¬ LastDoorRepeated A (graphFromLayout L) a.currentPos a.roomId room := by
  obtain ⟨route, hroute, hplan⟩ := startMove_ok ha hok
  obtain ⟨ws, hws, hlegs⟩ := fullRoute_spec hA hroute
  obtain ⟨hwalk, hnodup⟩ := route_spec hA hws
  have hrep : LastDoorRepeated A (graphFromLayout L) a.currentPos a.roomId room ↔
      LastRepeated a.currentPos (ws.map Prod.snd) := by
    simp [LastDoorRepeated, hws]
  have hsteps : planSteps a.currentPos route = planned (some a.currentPos) route := by
    obtain ⟨q, rest, rfl⟩ := hlegs.eq_cons
    exact planSteps_eq hlegs.moving
  have hnil := planned_eq_nil_iff hL hws hwalk hlegs
  rw [hsteps] at hplan
  rw [hrep]
  rcases hplan with ⟨hempty, rfl, rfl⟩ | ⟨hne, rfl, rfl⟩
  · -- there already: no queue, no event
    obtain ⟨hroom, hpos⟩ := hnil.mp hempty
    rw [RoomGraph.route, if_pos hroom, Option.some.injEq] at hws
    subst hws
    rw [if_pos ⟨hroom, hpos⟩]
    refine ⟨fun _ hlast => hlast, fun _ => ⟨0, hps, by simp, ?_, rfl⟩⟩
    exact ⟨{ a with targetPos := none }, by simp [ticks, ha], hpos, hroom, rfl⟩
  · rw [if_neg fun h => hne (hnil.mpr h), arrives_iff_of_queue hne (AList.lookup_insert _)
      (by rw [WorldView.lookup_setAvatar_self, ha]; rfl)]
    constructor
    · rintro ⟨_, hend⟩ hlast
      by_cases hroom : a.roomId = room
      · rw [RoomGraph.route, if_pos hroom, Option.some.injEq] at hws
        subst hws
        exact hlast
      · exact walkRoom_planned_ne hL hlegs _ _ hwalk hnodup hroom (fun h => absurd rfl h) hlast hend
    · intro hlast
      exact ⟨walkPos_planned hlegs _, walkRoom_planned hlegs _ _ hwalk hlast fun _ => rfl⟩

end Arrival

/-! ### At the lobby door of a suite -/

/-- An avatar standing on a tile of a room, with no target. -/
def avatarAt (room : String) (pos : Tile) : AvatarView :=
  ⟨"agent", "startup", "engineer", pos, none, room, .idle⟩

/-- The world with that avatar only. -/
def worldAt (room : String) (pos : Tile) : WorldView :=
  ⟨AList.singleton "agent" (avatarAt room pos)⟩

/-- In the default town, the move into `suite_1` of an avatar at `pos` in the lobby. -/
noncomputable def moveIntoSuite (pos : Tile) : StartMoveResult × WorldView × PathStore :=
  startMove (.reference 4) (worldAt "lobby" pos) ∅ defaultTown (graphFromLayout defaultTown) "agent"
    "suite_1" (6, 4)

/-- One step before the lobby door of `suite_1`, the move arrives. -/
theorem arrives_before_door_tile :
    Arrives (moveIntoSuite (8, 4)).2.1 (moveIntoSuite (8, 4)).2.2 "agent" "suite_1" (6, 4) 1 := by
  have hroute : (graphFromLayout defaultTown).route (.reference 4) "lobby" "suite_1" =
      some [("suite_1", (7, 4))] := by decide
  have hok : moveIntoSuite (8, 4) = (.ok, (moveIntoSuite (8, 4)).2) :=
    Prod.ext (by decide) rfl
  refine (startMove_arrives_iff (AStar.reference_sound 4) defaultTown_wellFormed
    (a := avatarAt "lobby" (8, 4)) (by decide) (by decide) hok).mpr ?_
  rintro ⟨ws, hws, hlast⟩
  obtain rfl := Option.some.inj (hroute.symm.trans hws)
  exact absurd hlast (by decide)

/-- On the lobby door tile of `suite_1`, the move is granted and does not arrive: the avatar ends
on its tile with `room_id` still `lobby`. -/
theorem not_arrives_from_door_tile :
    InRoom defaultTown (avatarAt "lobby" (7, 4)) ∧
      canEnterLayoutRoom defaultTown "startup" "suite_1" = true ∧
      (∃ b ∈ defaultTown.boundsOf "suite_1", ((6, 4) : Tile) ∈ b) ∧
      (moveIntoSuite (7, 4)).1 = .ok ∧
      ¬ Arrives (moveIntoSuite (7, 4)).2.1 (moveIntoSuite (7, 4)).2.2 "agent" "suite_1" (6, 4) 1 := by
  refine ⟨⟨⟨7, 4, 26, 4⟩, by decide, by decide⟩, by decide, ⟨⟨0, 0, 7, 6⟩, by decide, by decide⟩,
    by decide, ?_⟩
  rw [arrives_iff_of_queue (q := [⟨(6, 4), none⟩]) (by decide) (by decide)
    (a := { avatarAt "lobby" (7, 4) with targetPos := some (6, 4) }) (by decide)]
  decide

end Cliptown.Town
