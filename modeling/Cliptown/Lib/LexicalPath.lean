import Cliptown.Lib.FileTree

/-!
# Paths by name and paths in the tree

A path may be shortened by name, each `..` taking back the component before it, before the tree is asked. This leads
to the same place when what is taken back are directories.

* `normalizeWords` — a path shortened by name; `foldl_push_normalizeWords` — from a place it leads where the path does.
* `splitSlash_append_slash`, `splitSlash_last` — the components of a path in two parts, and the last one.
* `walk_bind`, `walk_none`, `walk_trans` — a walk along one path and then another.
* `walk_kept` — empty components and dots only matter at the end.
* `Straight` — what is taken back is a directory; `walk_normalize` — the shortened path leads to the same place.
* `pathText` — the text of a place; `pathText_prefix_iff` — when it begins with that of another.

Nothing here names a program.
-/

namespace Cliptown.Lib

namespace PosixPath

/-- Two dots. -/
abbrev up : List Char :=
  ['.', '.']

/-- Take back the last component, if there is one to take back; `above` keeps what goes up from the start. -/
def normalizeStep (above : Bool) (acc : List (List Char)) (w : List Char) : List (List Char) :=
  if w = up then
    match acc.getLast? with
    | none => if above then [up] else []
    | some v => if v = up then acc ++ [up] else acc.dropLast
  else acc ++ [w]

/-- The components of a path, shortened by name. -/
def normalizeWords (above : Bool) (ws : List (List Char)) : List (List Char) :=
  ws.foldl (normalizeStep above) []

section Normalize

variable {above : Bool} {ws ns : List (List Char)} {w v : List Char}

theorem normalizeWords_append : normalizeWords above (ws ++ [w]) = normalizeStep above (normalizeWords above ws) w := by
  unfold normalizeWords
  rw [List.foldl_append]
  rfl

/-- Another component is kept. -/
theorem normalizeWords_append_of_ne (h : w ≠ up) :
    normalizeWords above (ws ++ [w]) = normalizeWords above ws ++ [w] := by
  rw [normalizeWords_append, normalizeStep, if_neg h]

/-- The component before is taken back. -/
theorem normalizeWords_append_up (h : normalizeWords above ws = ns ++ [v]) (hv : v ≠ up) :
    normalizeWords above (ws ++ [up]) = ns := by
  rw [normalizeWords_append, h, normalizeStep, if_pos rfl, List.getLast?_concat]
  simp only [if_neg hv, List.dropLast_concat]

/-- What goes up is at the front. -/
theorem normalizeWords_eq (above : Bool) (ws : List (List Char)) :
    ∃ k rest, normalizeWords above ws = List.replicate k up ++ rest ∧ up ∉ rest := by
  induction ws using List.reverseRecOn with
  | nil => exact ⟨0, [], rfl, List.not_mem_nil⟩
  | append_singleton ws w ih =>
      obtain ⟨k, rest, heq, hrest⟩ := ih
      by_cases hw : w = up
      · subst hw
        rcases List.eq_nil_or_concat' rest with rfl | ⟨rest, v, rfl⟩
        · rw [List.append_nil] at heq
          rw [normalizeWords_append, heq, normalizeStep, if_pos rfl]
          cases k with
          | zero =>
              cases above with
              | true => exact ⟨1, [], rfl, List.not_mem_nil⟩
              | false => exact ⟨0, [], rfl, List.not_mem_nil⟩
          | succ k =>
              rw [List.replicate_succ', List.getLast?_concat]
              refine ⟨k + 2, [], ?_, List.not_mem_nil⟩
              simp [List.replicate_succ']
        · rw [List.mem_append, List.mem_singleton, not_or] at hrest
          rw [← List.append_assoc] at heq
          exact ⟨k, rest, normalizeWords_append_up heq (Ne.symm hrest.2), hrest.1⟩
      · refine ⟨k, rest ++ [w], ?_, ?_⟩
        · rw [normalizeWords_append_of_ne hw, heq, List.append_assoc]
        · rw [List.mem_append, List.mem_singleton, not_or]
          exact ⟨hrest, Ne.symm hw⟩

theorem foldl_push_concat (base : AbsPath) (ns : List (List Char)) (hv : v ≠ up) :
    (ns ++ [v]).foldl push base = ns.foldl push base ++ [v] := by
  rw [List.foldl_append]
  exact if_neg hv

/-- **What is taken back by name** is taken back from the place, too; where nothing goes up from the start, the place is
the root. -/
theorem foldl_push_normalizeWords {base : AbsPath} (above : Bool) (hbase : above = false → base = [])
    (ws : List (List Char)) :
    (normalizeWords above ws).foldl push base = ws.foldl push base := by
  induction ws using List.reverseRecOn with
  | nil => rfl
  | append_singleton ws w ih =>
      by_cases hw : w = up
      · subst hw
        rw [List.foldl_append, ← ih]
        rcases List.eq_nil_or_concat' (normalizeWords above ws) with hns | ⟨ns, v, hns⟩
        · rw [normalizeWords_append, hns, normalizeStep, if_pos rfl]
          cases habove : above with
          | true => rfl
          | false =>
              rw [hbase habove]
              rfl
        · by_cases hv : v = up
          · rw [normalizeWords_append, hns, normalizeStep, if_pos rfl, List.getLast?_concat]
            simp only [hv, if_pos, List.foldl_append]
          · rw [normalizeWords_append_up hns hv, hns, foldl_push_concat base ns hv]
            exact List.dropLast_concat.symm
      · rw [normalizeWords_append_of_ne hw, foldl_push_concat base _ hw, foldl_push_concat base _ hw, ih]

/-- Nothing goes up from the root. -/
theorem plain_normalizeWords (h : ∀ w ∈ ws, w ≠ up → Plain w) : ∀ w ∈ normalizeWords false ws, Plain w := by
  induction ws using List.reverseRecOn with
  | nil => exact fun w hw => absurd hw List.not_mem_nil
  | append_singleton ws w ih =>
      have hws := ih fun v hv => h v (List.mem_append_left _ hv)
      by_cases hw : w = up
      · subst hw
        rcases List.eq_nil_or_concat' (normalizeWords false ws) with hns | ⟨ns, v, hns⟩
        · rw [normalizeWords_append, hns]
          exact fun w hw => absurd hw List.not_mem_nil
        · have hv : Plain v := hws v (by rw [hns]; simp)
          rw [normalizeWords_append_up hns hv.ne_dotdot]
          exact fun w hw => hws w (by rw [hns]; exact List.mem_append_left _ hw)
      · rw [normalizeWords_append_of_ne hw]
        intro v hv
        rcases List.mem_append.mp hv with hv | hv
        · exact hws v hv
        · rw [List.mem_singleton.mp hv]
          exact h w (by simp) hw

/-- A path by name, from a place. -/
theorem normalizeWords_append_eq {base : AbsPath} (hbase : ∀ w ∈ base, Plain w) (h : ∀ w ∈ ws, w ≠ up → Plain w) :
    normalizeWords false (base ++ ws) = ws.foldl push base := by
  have hplain : ∀ w ∈ normalizeWords false (base ++ ws), Plain w := by
    refine plain_normalizeWords fun w hw hup => ?_
    rcases List.mem_append.mp hw with hw | hw
    · exact hbase w hw
    · exact h w hw hup
  have hfold := foldl_push_normalizeWords false (fun _ => rfl) (base ++ ws)
  rwa [foldl_push hplain, List.nil_append, List.foldl_append, foldl_push hbase, List.nil_append] at hfold

end Normalize

/-! ### Splitting in two -/

/-- There is at least one component, if only an empty one. -/
theorem splitSlash_ne_nil (cs : List Char) : splitSlash cs ≠ [] := by
  cases cs with
  | nil => exact List.cons_ne_nil [] []
  | cons c cs =>
      rw [splitSlash]
      split
      · exact List.cons_ne_nil _ _
      · split
        · exact List.cons_ne_nil _ _
        · exact List.cons_ne_nil _ _

/-- The components before a slash and those after it. -/
theorem splitSlash_append_slash (a b : List Char) : splitSlash (a ++ '/' :: b) = splitSlash a ++ splitSlash b := by
  induction a with
  | nil => exact splitSlash_append List.not_mem_nil
  | cons c a ih =>
      rw [List.cons_append, splitSlash, splitSlash, ih]
      split
      · rfl
      · obtain ⟨w, ws, hw⟩ := List.exists_cons_of_ne_nil (splitSlash_ne_nil a)
        rw [hw]
        rfl

/-- The last component is what comes after the last slash. -/
theorem splitSlash_last (cs : List Char) : ∃ init w before, splitSlash cs = init ++ [w] ∧ cs = before ++ w ∧
    (init = [] ∧ before = [] ∨ init ≠ [] ∧ before.getLast? = some '/') := by
  induction cs with
  | nil => exact ⟨[], [], [], rfl, rfl, .inl ⟨rfl, rfl⟩⟩
  | cons c cs ih =>
      obtain ⟨init, w, before, hsplit, rfl, hends⟩ := ih
      rw [splitSlash, hsplit]
      by_cases hc : c = '/'
      · subst hc
        refine ⟨[] :: init, w, '/' :: before, if_pos rfl, rfl, .inr ⟨List.cons_ne_nil _ _, ?_⟩⟩
        rcases hends with ⟨-, rfl⟩ | ⟨-, hlast⟩
        · rfl
        · rw [List.getLast?_cons, hlast]
          rfl
      · rw [if_neg hc]
        rcases hends with ⟨rfl, rfl⟩ | ⟨hinit, hlast⟩
        · exact ⟨[], c :: w, [], rfl, rfl, .inl ⟨rfl, rfl⟩⟩
        · obtain ⟨v, init, rfl⟩ := List.exists_cons_of_ne_nil hinit
          refine ⟨(c :: v) :: init, w, c :: before, rfl, rfl, .inr ⟨List.cons_ne_nil _ _, ?_⟩⟩
          rw [List.getLast?_cons, hlast]
          rfl

/-! ### Texts of places -/

/-- The text of a place. -/
def pathText (p : AbsPath) : List Char :=
  if p = [] then ['/'] else p.flatMap fun w => '/' :: w

section Text

variable {r p : AbsPath} {v u x y : List Char}

/-- What comes before the first slash is the same in both. -/
theorem eq_of_prefix_slash (hv : '/' ∉ v) (hu : '/' ∉ u) (hy : y = [] ∨ y.head? = some '/')
    (h : v ++ '/' :: x <+: u ++ y) : v = u ∧ '/' :: x <+: y := by
  obtain ⟨t, ht⟩ := h
  have hbefore : ∀ {z : List Char}, '/' ∉ z → ∀ a ∈ z, decide (a ≠ '/') = true := by
    rintro z hz a ha
    exact decide_eq_true fun heq => hz (heq ▸ ha)
  have hleft : (v ++ '/' :: x ++ t).takeWhile (fun a => decide (a ≠ '/')) = v := by
    rw [List.append_assoc, List.takeWhile_append_of_pos (hbefore hv)]
    simp
  have hright : (u ++ y).takeWhile (fun a => decide (a ≠ '/')) = u := by
    rw [List.takeWhile_append_of_pos (hbefore hu)]
    rcases hy with rfl | hy
    · simp
    · obtain ⟨y, rfl⟩ := List.head?_eq_some_iff.mp hy
      simp
  obtain rfl : v = u := by rw [← hleft, ht, hright]
  rw [List.append_assoc] at ht
  exact ⟨rfl, t, List.append_cancel_left ht⟩

theorem flatMap_slash_cases (ws : AbsPath) :
    (ws.flatMap fun w => '/' :: w) = [] ∨ (ws.flatMap fun w => '/' :: w).head? = some '/' := by
  cases ws with
  | nil => exact .inl rfl
  | cons w ws => exact .inr rfl

theorem exists_below_of_flatMap (hr : ∀ w ∈ r, Plain w) (hp : ∀ w ∈ p, Plain w)
    (h : (r.flatMap fun w => '/' :: w) ++ ['/'] <+: p.flatMap fun w => '/' :: w) : ∃ w ws, p = r ++ w :: ws := by
  induction r generalizing p with
  | nil =>
      rcases p with _ | ⟨w, ws⟩
      · exact absurd (List.prefix_nil.mp h) (by simp)
      · exact ⟨w, ws, rfl⟩
  | cons v r ih =>
      rcases p with _ | ⟨u, p⟩
      · exact absurd (List.prefix_nil.mp h) (by simp)
      have hv := hr v List.mem_cons_self
      have hu := hp u List.mem_cons_self
      rw [List.flatMap_cons, List.flatMap_cons, List.cons_append, List.cons_append, List.cons_append,
        List.cons_prefix_cons, List.append_assoc] at h
      obtain ⟨x, hx⟩ : ∃ x, (r.flatMap fun w => '/' :: w) ++ ['/'] = '/' :: x := by
        cases r with
        | nil => exact ⟨[], rfl⟩
        | cons w ws => exact ⟨_, rfl⟩
      rw [hx] at h
      obtain ⟨rfl, hrest⟩ := eq_of_prefix_slash hv.no_slash hu.no_slash (flatMap_slash_cases p) h.2
      rw [← hx] at hrest
      obtain ⟨w, ws, rfl⟩ := ih (fun w hw => hr w (List.mem_cons_of_mem v hw))
        (fun w hw => hp w (List.mem_cons_of_mem v hw)) hrest
      exact ⟨w, ws, rfl⟩

/-- The text of a place and a slash begin the texts of the places below, but for the root. -/
theorem pathText_prefix_iff (hr : ∀ w ∈ r, Plain w) (hp : ∀ w ∈ p, Plain w) :
    pathText r ++ ['/'] <+: pathText p ↔ r ≠ [] ∧ r <+: p ∧ p ≠ r := by
  unfold pathText
  constructor
  · intro h
    by_cases hroot : r = []
    · subst hroot
      rw [if_pos rfl] at h
      rcases p with _ | ⟨w, ws⟩
      · exact absurd h (by decide)
      · obtain ⟨c, w', hw⟩ := List.exists_cons_of_ne_nil (hp w List.mem_cons_self).ne_nil
        have hslash := (hp w List.mem_cons_self).no_slash
        simp only [reduceCtorEq, if_false, List.flatMap_cons, hw, List.cons_append, List.nil_append,
          List.cons_prefix_cons] at h
        rw [hw, ← h.2.1] at hslash
        exact absurd List.mem_cons_self hslash
    · have hne : p ≠ [] := by
        rintro rfl
        rw [if_neg hroot, if_pos rfl] at h
        have hlength := h.length_le
        obtain ⟨w, ws, rfl⟩ := List.exists_cons_of_ne_nil hroot
        simp at hlength
      rw [if_neg hroot, if_neg hne] at h
      obtain ⟨w, ws, rfl⟩ := exists_below_of_flatMap hr hp h
      exact ⟨hroot, List.prefix_append _ _, by simp⟩
  · rintro ⟨hroot, ⟨t, rfl⟩, hne⟩
    rcases t with _ | ⟨w, ws⟩
    · exact absurd (List.append_nil r) hne
    · rw [if_neg hroot, if_neg (by simp [hroot]), List.flatMap_append, List.flatMap_cons]
      exact (List.prefix_append_right_inj _).mpr ⟨_, rfl⟩

theorem splitSlash_flatMap {ws : AbsPath} (h : ∀ w ∈ ws, Plain w) :
    splitSlash (ws.flatMap fun w => '/' :: w) = [] :: ws := by
  induction ws with
  | nil => rfl
  | cons w ws ih =>
      have hws := ih fun v hv => h v (List.mem_cons_of_mem w hv)
      have hw := (h w List.mem_cons_self).no_slash
      rw [List.flatMap_cons, List.cons_append, splitSlash, if_pos rfl]
      congr 1
      rcases ws with _ | ⟨v, ws⟩
      · rw [List.flatMap_nil, List.append_nil]
        exact splitSlash_of_no_slash hw
      · rw [List.flatMap_cons, List.cons_append] at hws ⊢
        rw [splitSlash, if_pos rfl, List.cons_inj_right] at hws
        rw [splitSlash_append hw, hws]

/-- The components of the text of a place. -/
theorem components_pathText (hp : ∀ w ∈ p, Plain w) :
    (splitSlash (pathText p)).filter (fun w => w ≠ []) = p := by
  unfold pathText
  by_cases hroot : p = []
  · subst hroot
    rfl
  · rw [if_neg hroot, splitSlash_flatMap hp, List.filter_cons_of_neg (by simp), List.filter_eq_self]
    exact fun w hw => decide_eq_true (hp w hw).ne_nil

/-- Places are told apart by their texts. -/
theorem pathText_inj (hr : ∀ w ∈ r, Plain w) (hp : ∀ w ∈ p, Plain w) : pathText p = pathText r ↔ p = r :=
  ⟨fun h => by rw [← components_pathText hp, h, components_pathText hr], fun h => h ▸ rfl⟩

end Text

end PosixPath

namespace FileTree

open PosixPath

variable {T : FileTree} {n : ℕ} {cur p d : AbsPath} {w v : List Char} {ws vs pre : List (List Char)}
  {follow : AbsPath → List (List Char) → Option AbsPath}

/-! ### One walk after another -/

/-- What becomes of a walk that goes on after `pre`: it goes on from the place of `pre`, or it ends with it. -/
def Continues (T : FileTree) (f : List (List Char) → Option AbsPath) (result : Option AbsPath) : Prop :=
  match result with
  | some d => ∃ k, ∀ post, f post = T.walk false k d post
  | none => ∀ post, f post = none

theorem continues_walkWith (hwalk : T.walk false n = T.walkWith false follow)
    (hfollow : ∀ d ws, Continues T (fun post => follow d (ws ++ post)) (follow d ws)) :
    ∀ (pre : List (List Char)) (cur : AbsPath),
      Continues T (fun post => T.walkWith false follow cur (pre ++ post)) (T.walkWith false follow cur pre) := by
  intro pre
  induction pre with
  | nil =>
      intro cur
      refine ⟨n, fun post => ?_⟩
      rw [hwalk]
      rfl
  | cons w pre ih =>
      intro cur
      by_cases hcur : T.node cur ≠ some .dir
      · rw [walkWith, if_pos hcur]
        intro post
        change T.walkWith false follow cur (w :: (pre ++ post)) = none
        rw [walkWith, if_pos hcur]
      simp only [List.cons_append, walkWith, if_neg hcur]
      by_cases hdot : w = [] ∨ w = ['.']
      · simp only [if_pos hdot]
        exact ih cur
      simp only [if_neg hdot]
      by_cases hup : w = ['.', '.']
      · simp only [if_pos hup]
        exact ih cur.dropLast
      simp only [if_neg hup]
      rcases hnode : T.node (cur ++ [w]) with _ | node
      · intro post
        simp
      · cases node with
        | dir => exact ih (cur ++ [w])
        | file => exact ih (cur ++ [w])
        | link target =>
            have hgo := hfollow (start cur target) (splitSlash target.toList ++ pre)
            simpa only [List.append_assoc] using hgo

/-- **A walk along two paths**, one after the other. -/
theorem continues_walk (n : ℕ) (cur : AbsPath) (pre : List (List Char)) :
    Continues T (fun post => T.walk false n cur (pre ++ post)) (T.walk false n cur pre) := by
  induction n generalizing cur pre with
  | zero =>
      refine continues_walkWith (n := 0) rfl (fun d ws => ?_) pre cur
      intro post
      rfl
  | succ n ih => exact continues_walkWith (n := n + 1) rfl (fun d ws => ih d ws) pre cur

theorem walk_bind (h : T.walk false n cur pre = some d) :
    ∃ k, ∀ post, T.walk false n cur (pre ++ post) = T.walk false k d post := by
  have hgo := continues_walk (T := T) n cur pre
  rw [h] at hgo
  exact hgo

theorem walk_none (h : T.walk false n cur pre = none) (post : List (List Char)) :
    T.walk false n cur (pre ++ post) = none := by
  have hgo := continues_walk (T := T) n cur pre
  rw [h] at hgo
  exact hgo post

theorem walkWith_trans {follow' : AbsPath → List (List Char) → Option AbsPath} {q : AbsPath}
    (hfollow : ∀ c vs, follow c vs = some d → follow' c (vs ++ ws) = some q)
    (hend : T.walkWith false follow' d ws = some q) (h : T.walkWith false follow cur pre = some d) :
    T.walkWith false follow' cur (pre ++ ws) = some q := by
  induction pre generalizing cur with
  | nil =>
      obtain rfl := Option.some.inj h
      exact hend
  | cons w pre ih =>
      obtain ⟨hcur, hcomponent⟩ := walkWith_cons_eq_some.mp h
      refine walkWith_cons_eq_some.mpr ⟨hcur, ?_⟩
      rcases hcomponent with ⟨hdot, hrest⟩ | ⟨hdot, ⟨hup, hrest⟩ | ⟨hup, hname⟩⟩
      · exact .inl ⟨hdot, ih hrest⟩
      · exact .inr ⟨hdot, .inl ⟨hup, ih hrest⟩⟩
      refine .inr ⟨hdot, .inr ⟨hup, ?_⟩⟩
      rcases hname with ⟨target, hlink, hrest⟩ | ⟨hsolid, hrest⟩ | ⟨-, ⟨hnew, -⟩, -⟩
      · have hgo := hfollow _ _ hrest
        rw [List.append_assoc] at hgo
        exact .inl ⟨target, hlink, hgo⟩
      · exact .inr (.inl ⟨hsolid, ih hrest⟩)
      · exact absurd hnew (by decide)

/-- **Two walks make one**, with the links of both. -/
theorem walk_trans {m : ℕ} {q : AbsPath} (h : T.walk false n cur pre = some d) (hrest : T.walk false m d ws = some q) :
    T.walk false (n + m) cur (pre ++ ws) = some q := by
  have hmore : T.walk false (n + m) d ws = some q := walk_mono (fun hcreate => hcreate) (by omega) hrest
  induction n generalizing cur pre with
  | zero =>
      rw [Nat.zero_add] at hmore ⊢
      cases m with
      | zero => exact walkWith_trans (fun _ _ h => absurd h (by simp)) hmore h
      | succ m => exact walkWith_trans (fun _ _ h => absurd h (by simp)) hmore h
  | succ n ih =>
      have hless : T.walk false (n + m) d ws = some q := walk_mono (fun hcreate => hcreate) (by omega) hrest
      rw [Nat.add_right_comm] at hmore ⊢
      exact walkWith_trans (fun c vs hc => ih hc hless) hmore h

/-! ### Components that do not matter -/

/-- What remains of a path: its components, and an empty one at the end if that must be a directory. -/
def kept (cs : List (List Char)) : List (List Char) :=
  (cs.filter fun w => w ≠ [] ∧ w ≠ ['.']) ++
    match cs.getLast? with
    | some w => if w = [] ∨ w = ['.'] then [[]] else []
    | none => []

/-- Going on in two ways that lead to the same places. -/
theorem walk_congr (h : ∀ n cur, T.walk false n cur ws = T.walk false n cur vs) (pre : List (List Char)) :
    T.walk false n cur (pre ++ ws) = T.walk false n cur (pre ++ vs) := by
  rcases hpre : T.walk false n cur pre with _ | d
  · rw [walk_none hpre, walk_none hpre]
  · obtain ⟨k, hk⟩ := walk_bind hpre
    rw [hk, hk, h]

/-- A component that does not matter needs a directory. -/
theorem walk_cons_skip (hw : w = [] ∨ w = ['.']) :
    T.walk false n cur (w :: ws) = if T.node cur = some .dir then T.walk false n cur ws else none := by
  cases n <;> simp [walk, walkWith, hw]

theorem kept_ne_nil {cs : List (List Char)} (h : cs ≠ []) : kept cs ≠ [] := by
  obtain ⟨init, w, rfl⟩ := (List.eq_nil_or_concat' cs).resolve_left h
  unfold kept
  rw [List.getLast?_concat]
  by_cases hw : w = [] ∨ w = ['.']
  · simp [hw]
  · have hmem : w ∈ (init ++ [w]).filter fun w => w ≠ [] ∧ w ≠ ['.'] :=
      List.mem_filter.mpr ⟨by simp, decide_eq_true (not_or.mp hw)⟩
    exact List.append_ne_nil_of_left_ne_nil (List.ne_nil_of_mem hmem) _

/-- **Empty components and dots** only matter at the end. -/
theorem walk_kept (cs : List (List Char)) : ∀ n cur, T.walk false n cur cs = T.walk false n cur (kept cs) := by
  induction cs with
  | nil => exact fun _ _ => rfl
  | cons w cs ih =>
      intro n cur
      by_cases hw : w = [] ∨ w = ['.']
      · have hskip : ¬ (w ≠ [] ∧ w ≠ ['.']) := by
          rw [not_and_or, not_not, not_not]
          exact hw
        rcases cs with _ | ⟨v, cs⟩
        · have hkept : kept [w] = [[]] := by
            simp [kept, hskip, hw]
          rw [hkept, walk_cons_skip hw, walk_cons_skip (.inl rfl)]
        · have hkept : kept (w :: v :: cs) = kept (v :: cs) := by
            simp [kept, hskip]
          rw [hkept, walk_cons_skip hw, ih]
          split
          · rfl
          · rename_i hcur
            obtain ⟨u, us, hcs⟩ := List.exists_cons_of_ne_nil (kept_ne_nil (List.cons_ne_nil v cs))
            rw [hcs]
            exact (walk_of_not_dir hcur).symm
      · have hplain : w ≠ [] ∧ w ≠ ['.'] := not_or.mp hw
        have hkept : kept (w :: cs) = [w] ++ kept cs := by
          rcases cs with _ | ⟨v, cs⟩
          · simp [kept, hplain]
          · simp [kept, hplain]
        rw [hkept]
        exact walk_congr ih [w]

/-- A walk that ends somewhere ends there without the components that do not matter. -/
theorem walk_components {q : AbsPath} {target : String}
    (h : T.walk false n cur (splitSlash target.toList ++ ws) = some q) :
    T.walk false n cur (components target ++ ws) = some q := by
  unfold components
  generalize splitSlash target.toList = cs at h
  induction cs generalizing n cur with
  | nil => exact h
  | cons w cs ih =>
      by_cases hw : w = [] ∨ w = ['.']
      · have hskip : ¬ (w ≠ [] ∧ w ≠ ['.']) := by
          rw [not_and_or, not_not, not_not]
          exact hw
        rw [List.cons_append, walk_cons_skip hw] at h
        rw [List.filter_cons_of_neg (by simpa using hskip)]
        split at h
        · exact ih h
        · exact absurd h (by simp)
      · rw [List.filter_cons_of_pos (by simpa using not_or.mp hw)]
        have hfirst : T.walk false n cur ([w] ++ (cs ++ ws)) = some q := h
        obtain ⟨d, hd⟩ : ∃ d, T.walk false n cur [w] = some d := by
          by_contra hnone
          rw [walk_none (Option.eq_none_iff_forall_ne_some.mpr (not_exists.mp hnone))] at hfirst
          exact absurd hfirst (by simp)
        obtain ⟨k, hk⟩ := walk_bind hd
        rw [hk] at hfirst
        change T.walk false n cur ([w] ++ (_ ++ ws)) = some q
        rw [hk]
        exact ih hfirst

/-- The components of a path that does not end in a dot, and what a slash at its end leaves. -/
theorem kept_splitSlash {path : String} (hne : path ≠ "") (hdot : path.toList.getLast? ≠ some '.') :
    kept (splitSlash path.toList) =
      components path ++ if path.toList.getLast? = some '/' then [[]] else [] := by
  unfold kept components
  congr 1
  obtain ⟨init, w, before, hsplit, hpath, hends⟩ := splitSlash_last path.toList
  have hslash : '/' ∉ w := no_slash_of_mem_splitSlash (show w ∈ splitSlash path.toList by simp [hsplit])
  rw [hsplit, List.getLast?_concat]
  rcases List.eq_nil_or_concat' w with rfl | ⟨v, c, rfl⟩
  · rw [List.append_nil] at hpath
    rcases hends with ⟨-, rfl⟩ | ⟨-, hlast⟩
    · exact absurd (String.toList_eq_nil_iff.mp hpath) hne
    · simp [hpath, hlast]
  · have hlast : path.toList.getLast? = some c := by
      rw [hpath, ← List.append_assoc, List.getLast?_concat]
    rw [hlast] at hdot ⊢
    have hc : c ≠ '/' := by
      rintro rfl
      exact hslash (by simp)
    have hword : ¬ (v ++ [c] = [] ∨ v ++ [c] = ['.']) := by
      rintro (hw | hw)
      · exact absurd hw (by simp)
      · refine hdot ?_
        rw [← List.getLast?_concat (l := v), hw]
        rfl
    simp only [if_neg hword, Option.some.injEq, if_neg hc]

/-! ### The names of a place -/

/-- What is there has plain names. -/
theorem plain_of_solid (h : T.Solid p) : ∀ w ∈ p, Plain w := by
  induction p using List.reverseRecOn with
  | nil => exact fun _ hw => absurd hw List.not_mem_nil
  | append_singleton d v ih =>
      have hat : (T.node (d ++ [v])).isSome := by
        rcases h with h | h <;> rw [h] <;> rfl
      intro w hw
      rcases List.mem_append.mp hw with hw | hw
      · exact ih (.inl (dir_of_isSome hat)) w hw
      · rw [List.mem_singleton.mp hw]
        exact T.plain d v hat

/-! ### What is taken back by name -/

/-- What each `..` takes back by name is a directory, and no link, in the place of the path before it. -/
def Straight (T : FileTree) (n : ℕ) (cur : AbsPath) (above : Bool) (ws : List (List Char)) : Prop :=
  ∀ pre post, ws = pre ++ up :: post → ∀ ns v, normalizeWords above pre = ns ++ [v] → v ≠ up →
    ∃ d, T.walk false n cur ns = some d ∧ T.node (d ++ [v]) = some .dir

/-- Going up from a directory. -/
theorem walk_up (h : T.node cur = some .dir) : T.walk false n cur (up :: ws) = T.walk false n cur.dropLast ws := by
  cases n <;> simp [walk, walkWith, h]

/-- Going down to a directory and up again. -/
theorem walk_down_up (h : T.node (d ++ [v]) = some .dir) : T.walk false n d (v :: up :: ws) = T.walk false n d ws := by
  have hdown : T.walk false n d ([v] ++ up :: ws) = T.walk false n (d ++ [v]) (up :: ws) := walk_append (.inl h)
  rw [List.singleton_append] at hdown
  rw [hdown, walk_up h, List.dropLast_concat]

section Straight

variable {above : Bool} (hcur : T.node cur = some .dir) (habove : above = false → cur = [])

/-- A path that does not go up is straight. -/
theorem straight_of_notMem (h : up ∉ ws) : Straight T n cur above ws := by
  rintro pre post rfl
  exact absurd (by simp) h

theorem Straight.of_append (h : Straight T n cur above (ws ++ [w])) : Straight T n cur above ws := by
  rintro pre post rfl
  exact h pre (post ++ [w]) (by simp)

include hcur habove

/-- **A straight path** leads to the same place when it is shortened by name. -/
theorem walk_normalize (h : Straight T n cur above ws) (post : List (List Char)) :
    T.walk false n cur (ws ++ post) = T.walk false n cur (normalizeWords above ws ++ post) := by
  induction ws using List.reverseRecOn generalizing post with
  | nil => rfl
  | append_singleton ws w ih =>
      have hws := ih h.of_append
      rw [List.append_assoc, hws]
      by_cases hw : w = up
      · subst hw
        rcases List.eq_nil_or_concat' (normalizeWords above ws) with hns | ⟨ns, v, hns⟩
        · rw [normalizeWords_append, hns, normalizeStep, if_pos rfl]
          cases habv : above with
          | true => rfl
          | false =>
              -- at the root there is nothing above
              obtain rfl := habove habv
              exact walk_up hcur
        · by_cases hv : v = up
          · rw [normalizeWords_append, hns, normalizeStep, if_pos rfl, List.getLast?_concat]
            simp only [hv, if_pos, List.append_assoc]
          · rw [normalizeWords_append_up hns hv, hns]
            obtain ⟨d, hd, hdir⟩ := h ws [] rfl ns v hns hv
            obtain ⟨k, hk⟩ := walk_bind hd
            rw [List.append_assoc, hk, hk]
            exact walk_down_up hdir
      · rw [normalizeWords_append_of_ne hw, List.append_assoc]

/-- A straight path that ends by going up leads somewhere. -/
theorem exists_walk_up (h : Straight T n cur above (ws ++ [up])) : ∃ d, T.walk false n cur (ws ++ [up]) = some d ∧
    T.node d = some .dir := by
  -- going up again and again
  have hups : ∀ k (c : AbsPath), T.node c = some .dir →
      ∃ d, T.walk false n c (List.replicate k up) = some d ∧ T.node d = some .dir := by
    intro k
    induction k with
    | zero =>
        intro c hc
        exact ⟨c, walk_nil, hc⟩
    | succ k ih =>
        intro c hc
        rw [List.replicate_succ, walk_up hc]
        exact ih _ (dir_dropLast hc)
  have hwalk := walk_normalize hcur habove h []
  rw [List.append_nil, List.append_nil] at hwalk
  rw [hwalk]
  rcases List.eq_nil_or_concat' (normalizeWords above ws) with hns | ⟨ns, v, hns⟩
  · rw [normalizeWords_append, hns, normalizeStep, if_pos rfl]
    cases above with
    | true => exact hups 1 cur hcur
    | false => exact hups 0 cur hcur
  · by_cases hv : v = up
    · subst hv
      obtain ⟨k, rest, heq, hrest⟩ := normalizeWords_eq above (ws ++ [up])
      have hlast : normalizeWords above (ws ++ [up]) = ns ++ [up] ++ [up] := by
        rw [normalizeWords_append, hns, normalizeStep, if_pos rfl, List.getLast?_concat]
        rfl
      rcases List.eq_nil_or_concat' rest with rfl | ⟨rest, u, rfl⟩
      · rw [List.append_nil] at heq
        rw [heq]
        exact hups k cur hcur
      · rw [heq, ← List.append_assoc] at hlast
        obtain rfl : u = up := by simpa using (List.append_inj' hlast rfl).2
        exact absurd (by simp) hrest
    · rw [normalizeWords_append_up hns hv]
      obtain ⟨d, hd, hdir⟩ := h ws [] rfl ns v hns hv
      exact ⟨d, hd, dir_of_isSome (by rw [hdir]; rfl)⟩

/-- A path that is straight for a system that follows more links is so for one that follows it all the same. -/
theorem Straight.of_walk {m : ℕ} (h : Straight T m cur above ws) (hle : n ≤ m)
    (hwalk : T.walk false n cur (ws ++ vs) ≠ none) : Straight T n cur above ws := by
  induction ws using List.reverseRecOn generalizing vs with
  | nil =>
      intro pre post hsplit
      exact absurd hsplit (by simp)
  | append_singleton ws w ih =>
      rw [List.append_assoc] at hwalk
      have hws := ih h.of_append hwalk
      intro pre post hsplit ns v hns hv
      rcases List.eq_nil_or_concat' post with rfl | ⟨post, u, rfl⟩
      · -- the last component goes up, and the walk has come to what it takes back
        obtain ⟨d, hd, hdir⟩ := h pre [] hsplit ns v hns hv
        obtain ⟨rfl, -⟩ := List.append_inj' hsplit rfl
        refine ⟨d, ?_, hdir⟩
        rw [walk_normalize hcur habove hws, hns, List.append_assoc] at hwalk
        rcases hfound : T.walk false n cur ns with _ | e
        · exact absurd (walk_none hfound _) hwalk
        · have hmore := walk_mono (fun hcreate => hcreate) hle hfound
          exact hmore.symm.trans hd
      · rw [← List.cons_append, ← List.append_assoc] at hsplit
        obtain ⟨hsplit, -⟩ := List.append_inj' hsplit rfl
        exact hws pre post hsplit ns v hns hv

end Straight

end FileTree

end Cliptown.Lib
