import Cliptown.Lib.LexicalPath
import Mathlib.Logic.Relation

/-!
# A path with its links replaced by name

A resolver outside the system may look at one component of an absolute path after the other. At a link it asks the
system whether that leads anywhere, replaces it by its target, shortens the result by name, and starts again at the
root. It counts no links; the system does.

* `scan` — the resolver, with fuel for the links that it replaces.
* `Leads` — from one point of a scan to the next; `LinksByName` — each link on the way may be shortened by name.
* `exists_scan_of_walk` — a walk of the system is a part of the scan.
* `exists_scan_eq` — the scan comes to an end, and finds what the system finds.

Nothing here names a program.
-/

namespace Cliptown.Lib.FileTree

open PosixPath Relation

variable (T : FileTree) (maxLinks : ℕ)

/-- One component after the other; `restart` takes over with the path in which a link is replaced. `none` if that does
not come to an end, and `some none` if something is missing. -/
def scanWith (restart : AbsPath → Option (Option AbsPath)) : AbsPath → List (List Char) → Option (Option AbsPath)
  | cur, [] => some (some cur)
  | cur, w :: ws =>
      match T.node (cur ++ [w]) with
      | none => some none
      | some (.link target) =>
          if (T.openPath false maxLinks (cur ++ [w])).isSome then restart (resolve cur target ++ ws) else some none
      | some _ => scanWith restart (cur ++ [w]) ws

/-- Scan from a place, replacing a number of links. -/
def scan : ℕ → AbsPath → List (List Char) → Option (Option AbsPath)
  | 0 => T.scanWith maxLinks fun _ => none
  | links + 1 => T.scanWith maxLinks (scan links [])

/-- From one point of a scan to the next. -/
inductive Leads : AbsPath × List (List Char) → AbsPath × List (List Char) → Prop
  | down {cur : AbsPath} {w : List Char} {ws : List (List Char)} : T.Solid (cur ++ [w]) →
      Leads (cur, w :: ws) (cur ++ [w], ws)
  | link {cur : AbsPath} {w : List Char} {ws : List (List Char)} {target : String} :
      T.node (cur ++ [w]) = some (.link target) → (T.openPath false maxLinks (cur ++ [w])).isSome →
        Leads (cur, w :: ws) ([], resolve cur target ++ ws)

/-- What the target of each link on the way takes back by name is a directory, and no link. -/
def LinksByName (cur : AbsPath) (ws : List (List Char)) : Prop :=
  ∀ d w vs target, ReflTransGen (T.Leads maxLinks) (cur, ws) (d, w :: vs) → T.node (d ++ [w]) = some (.link target) →
    (T.openPath false maxLinks (d ++ [w])).isSome → T.Straight maxLinks [] false (start d target ++ components target)

variable {T : FileTree} {maxLinks n m : ℕ} {cur d e q : AbsPath} {w : List Char} {ws pre post : List (List Char)}
  {target : String} {r : Option AbsPath}

@[simp] theorem scan_nil : T.scan maxLinks m cur [] = some (some cur) := by
  cases m <;> rfl

theorem scan_missing (h : T.node (cur ++ [w]) = none) : T.scan maxLinks m cur (w :: ws) = some none := by
  cases m <;> simp [scan, scanWith, h]

theorem scan_solid (h : T.Solid (cur ++ [w])) :
    T.scan maxLinks m cur (w :: ws) = T.scan maxLinks m (cur ++ [w]) ws := by
  rcases h with h | h <;> cases m <;> simp [scan, scanWith, h]

theorem scan_broken (hlink : T.node (cur ++ [w]) = some (.link target))
    (h : T.openPath false maxLinks (cur ++ [w]) = none) : T.scan maxLinks m cur (w :: ws) = some none := by
  cases m <;> simp [scan, scanWith, hlink, h]

theorem scan_link (hlink : T.node (cur ++ [w]) = some (.link target))
    (h : (T.openPath false maxLinks (cur ++ [w])).isSome) :
    T.scan maxLinks (m + 1) cur (w :: ws) = T.scan maxLinks m [] (resolve cur target ++ ws) := by
  simp [scan, scanWith, hlink, h]

theorem scanWith_mono {restart restart' : AbsPath → Option (Option AbsPath)}
    (hrestart : ∀ p r, restart p = some r → restart' p = some r)
    (h : T.scanWith maxLinks restart cur ws = some r) : T.scanWith maxLinks restart' cur ws = some r := by
  induction ws generalizing cur with
  | nil => exact h
  | cons w ws ih =>
      rw [scanWith] at h ⊢
      rcases hnode : T.node (cur ++ [w]) with _ | node
      · rw [hnode] at h
        exact h
      rw [hnode] at h
      cases node with
      | dir | file => exact ih h
      | link target =>
          dsimp only at h ⊢
          split at h
          · rename_i hopen
            rw [if_pos hopen]
            exact hrestart _ _ h
          · rename_i hopen
            rw [if_neg hopen]
            exact h

/-- With more fuel the scan comes to the same end. -/
theorem scan_mono (hle : m ≤ n) (h : T.scan maxLinks m cur ws = some r) : T.scan maxLinks n cur ws = some r := by
  induction m generalizing n cur ws r with
  | zero =>
      cases n with
      | zero => exact h
      | succ n => exact scanWith_mono (fun _ _ h => absurd h (by simp)) h
  | succ m ih =>
      obtain ⟨n, rfl⟩ := Nat.exists_eq_succ_of_ne_zero (Nat.ne_of_gt (Nat.lt_of_lt_of_le m.succ_pos hle))
      exact scanWith_mono (fun _ _ => ih (Nat.le_of_succ_le_succ hle)) h

theorem walk_cons_solid (hcur : T.node cur = some .dir) (hw : Plain w) (h : T.Solid (cur ++ [w])) :
    T.walk false n cur (w :: ws) = T.walk false n (cur ++ [w]) ws := by
  cases n with
  | zero => exact walkWith_cons_solid hcur hw h
  | succ n => exact walkWith_cons_solid hcur hw h

theorem walk_cons_link (hcur : T.node cur = some .dir) (hw : Plain w)
    (hlink : T.node (cur ++ [w]) = some (.link target)) :
    T.walk false (n + 1) cur (w :: ws) = T.walk false n (start cur target) (splitSlash target.toList ++ ws) := by
  rw [walk, walkWith_cons hcur hw, hlink]

/-! ### The way of a scan -/

theorem LinksByName.of_leads (h : T.LinksByName maxLinks cur ws)
    (hleads : ReflTransGen (T.Leads maxLinks) (cur, ws) (d, pre)) : T.LinksByName maxLinks d pre :=
  fun _ _ _ _ hrest => h _ _ _ _ (hleads.trans hrest)

theorem Leads.append {p p' : AbsPath × List (List Char)} (h : T.Leads maxLinks p p') (post : List (List Char)) :
    T.Leads maxLinks (p.1, p.2 ++ post) (p'.1, p'.2 ++ post) := by
  cases h with
  | down hsolid => exact .down hsolid
  | link hlink hopen =>
      rw [List.append_assoc]
      exact .link hlink hopen

@[simp] theorem linksByName_nil : T.LinksByName maxLinks cur [] := by
  intro d w vs target hleads
  rcases hleads.cases_head with heq | ⟨_, hstep, -⟩
  · cases heq
  · cases hstep

theorem linksByName_missing (h : T.node (cur ++ [w]) = none) : T.LinksByName maxLinks cur (w :: ws) := by
  intro d w' vs target hleads hlink
  rcases hleads.cases_head with heq | ⟨_, hstep, -⟩
  · cases heq
    exact absurd (h.symm.trans hlink) (by simp)
  · cases hstep with
    | down hsolid => rcases hsolid with hsolid | hsolid <;> exact absurd (h.symm.trans hsolid) (by simp)
    | link hlink' _ => exact absurd (h.symm.trans hlink') (by simp)

theorem linksByName_solid (h : T.Solid (cur ++ [w])) (hrest : T.LinksByName maxLinks (cur ++ [w]) ws) :
    T.LinksByName maxLinks cur (w :: ws) := by
  intro d w' vs target hleads hlink
  rcases hleads.cases_head with heq | ⟨_, hstep, hleads⟩
  · cases heq
    rcases h with h | h <;> exact absurd (h.symm.trans hlink) (by simp)
  · cases hstep with
    | down _ => exact hrest d w' vs target hleads hlink
    | link hlink' _ => rcases h with h | h <;> exact absurd (h.symm.trans hlink') (by simp)

theorem linksByName_link (h : T.node (cur ++ [w]) = some (.link target))
    (hstraight : T.Straight maxLinks [] false (start cur target ++ components target))
    (hrest : T.LinksByName maxLinks [] (resolve cur target ++ ws)) : T.LinksByName maxLinks cur (w :: ws) := by
  intro d w' vs target' hleads hlink hopen
  rcases hleads.cases_head with heq | ⟨_, hstep, hleads⟩
  · cases heq
    obtain rfl : target = target' := by simpa using h.symm.trans hlink
    exact hstraight
  · cases hstep with
    | down hsolid => rcases hsolid with hsolid | hsolid <;> exact absurd (h.symm.trans hsolid) (by simp)
    | link hlink' _ =>
        cases (h.symm.trans hlink')
        exact hrest d w' vs target' hleads hlink hopen

/-- The way of the first part of a path. -/
theorem LinksByName.of_append (h : T.LinksByName maxLinks cur (pre ++ post)) : T.LinksByName maxLinks cur pre := by
  intro d w vs target hleads
  have hlift : ReflTransGen (T.Leads maxLinks) (cur, pre ++ post) (d, (w :: vs) ++ post) :=
    hleads.lift (fun p => (p.1, p.2 ++ post)) fun p p' hstep => hstep.append post
  exact h d w (vs ++ post) target hlift

/-! ### Links replaced by name -/

/-- The components of a place are plain. -/
theorem plain_resolve (hcur : ∀ v ∈ cur, Plain v) (target : String) : ∀ v ∈ resolve cur target, Plain v := by
  have hstart : ∀ v ∈ start cur target, Plain v := by
    unfold start
    split
    · exact fun v hv => absurd hv List.not_mem_nil
    · exact hcur
  have hresolve : resolve cur target = normalizeWords false (start cur target ++ components target) :=
    (normalizeWords_append_eq hstart fun _ => plain_of_mem_components).symm
  rw [hresolve]
  refine plain_normalizeWords fun v hv hup => ?_
  rcases List.mem_append.mp hv with hv | hv
  · exact hstart v hv
  · exact plain_of_mem_components hv hup

/-- **A link** whose target may be shortened by name, replaced. -/
theorem walk_replaced (hcur : T.node cur = some .dir) (hle : n ≤ maxLinks)
    (hstraight : T.Straight maxLinks [] false (start cur target ++ components target))
    (h : T.walk false n (start cur target) (splitSlash target.toList ++ ws) = some q) :
    T.walk false n [] (resolve cur target ++ ws) = some q := by
  have hstart := dir_start hcur target
  have hwalk := walk_components h
  have hroot : T.walk false n [] (start cur target ++ (components target ++ ws)) =
      T.walk false n ([] ++ start cur target) (components target ++ ws) := walk_append (.inl (by simpa using hstart))
  rw [List.nil_append, hwalk, ← List.append_assoc] at hroot
  have hnormal := walk_normalize T.root (fun _ => rfl)
    (hstraight.of_walk T.root (fun _ => rfl) hle (by rw [hroot]; simp)) ws
  rw [hroot, normalizeWords_append_eq (plain_of_solid (.inl hstart)) fun _ => plain_of_mem_components] at hnormal
  exact hnormal.symm

/-- The system asked for a link. -/
theorem openPath_link (hcur : T.node cur = some .dir) (hle : n ≤ maxLinks)
    (h : T.walk false n cur (w :: pre) = some e) : (T.openPath false maxLinks (cur ++ [w])).isSome := by
  rw [openPath_snoc hcur]
  rcases hfound : T.walk false n cur [w] with _ | d
  · exact absurd ((walk_none hfound pre).symm.trans h) (by simp)
  · rw [walk_mono (fun hcreate => hcreate) hle hfound]
    rfl

/-- **A walk is a part of the scan**, which then goes on from where the walk ends. -/
theorem exists_scan_of_walk (hle : n ≤ maxLinks) (hcur : T.Solid cur) (hplain : ∀ v ∈ pre, Plain v)
    (hnames : T.LinksByName maxLinks cur (pre ++ post)) (h : T.walk false n cur pre = some e) :
    ∃ k, (∀ m, T.scan maxLinks (k + m) cur (pre ++ post) = T.scan maxLinks m e post) ∧
      ReflTransGen (T.Leads maxLinks) (cur, pre ++ post) (e, post) := by
  induction n using Nat.strong_induction_on generalizing cur pre with
  | _ n ihn =>
    induction pre generalizing cur with
    | nil =>
        rw [walk_nil] at h
        obtain rfl := Option.some.inj h
        exact ⟨0, fun m => by rw [Nat.zero_add, List.nil_append], .refl⟩
    | cons w pre ih =>
        obtain ⟨hw, hpre⟩ := List.forall_mem_cons.mp hplain
        have hdir : T.node cur = some .dir := by
          by_contra hdir
          rw [walk_of_not_dir hdir] at h
          exact absurd h (by simp)
        rw [List.cons_append] at hnames ⊢
        rcases hnode : T.node (cur ++ [w]) with _ | node
        · cases n <;> simp [walk, walkWith_cons hdir hw, hnode] at h
        by_cases hsolid : T.Solid (cur ++ [w])
        · rw [walk_cons_solid hdir hw hsolid] at h
          have hstep : T.Leads maxLinks (cur, w :: (pre ++ post)) (cur ++ [w], pre ++ post) := .down hsolid
          obtain ⟨k, hk, hleads⟩ := ih hsolid hpre (hnames.of_leads (.single hstep)) h
          exact ⟨k, fun m => by rw [scan_solid hsolid, hk], hleads.head hstep⟩
        · obtain ⟨target, rfl⟩ : ∃ target, node = .link target := by
            cases node with
            | dir => exact absurd (.inl hnode) hsolid
            | file => exact absurd (.inr hnode) hsolid
            | link target => exact ⟨target, rfl⟩
          have hopen := openPath_link hdir hle h
          have hstep : T.Leads maxLinks (cur, w :: (pre ++ post)) ([], resolve cur target ++ (pre ++ post)) :=
            .link hnode hopen
          cases n with
          | zero => simp [walk, walkWith_cons hdir hw, hnode] at h
          | succ n =>
              have hreplaced := walk_replaced hdir (Nat.le_of_succ_le hle) (hnames _ _ _ _ .refl hnode hopen)
                (by rw [← walk_cons_link hdir hw hnode]; exact h)
              rw [← List.append_assoc] at hstep
              have hplain' : ∀ v ∈ resolve cur target ++ pre, Plain v := by
                intro v hv
                rcases List.mem_append.mp hv with hv | hv
                · exact plain_resolve (plain_of_solid hcur) target v hv
                · exact hpre v hv
              obtain ⟨k, hk, hleads⟩ := ihn n (Nat.lt_succ_self n) (Nat.le_of_succ_le hle) (.inl T.root) hplain'
                (hnames.of_leads (.single hstep)) hreplaced
              refine ⟨k + 1, fun m => ?_, hleads.head hstep⟩
              rw [Nat.add_right_comm, scan_link hnode hopen, ← List.append_assoc, hk]

/-- A link that leads somewhere is passed in the end, with the system. -/
theorem exists_passed (hcur : T.Solid cur) (hw : Plain w) (hnames : T.LinksByName maxLinks cur (w :: ws))
    (hlink : T.node (cur ++ [w]) = some (.link target)) (hopen : (T.openPath false maxLinks (cur ++ [w])).isSome) :
    ∃ e k, T.walk false maxLinks cur [w] = some e ∧ T.Solid e ∧ T.LinksByName maxLinks e ws ∧
      ∀ m, T.scan maxLinks (k + m) cur (w :: ws) = T.scan maxLinks m e ws := by
  have hdir : T.node cur = some .dir := dir_of_isSome (by rw [hlink]; rfl)
  rw [openPath_snoc hdir] at hopen
  obtain ⟨e, he⟩ := Option.isSome_iff_exists.mp hopen
  have hplain : ∀ v ∈ [w], Plain v := by
    intro v hv
    rw [List.mem_singleton.mp hv]
    exact hw
  rw [← List.singleton_append] at hnames
  obtain ⟨k, hk, hleads⟩ := exists_scan_of_walk le_rfl hcur hplain hnames he
  exact ⟨e, k, he, walk_solid hcur he, hnames.of_leads hleads, hk⟩

/-- What becomes of the first component of a scan: it is missing, or broken, or it is there, or it is passed. -/
theorem scan_cons_cases (hcur : T.Solid cur) (hw : Plain w) (hnames : T.LinksByName maxLinks cur (w :: ws)) :
    (∀ m, T.scan maxLinks m cur (w :: ws) = some none) ∨
      ∃ e k, T.walk false maxLinks cur [w] = some e ∧ T.Solid e ∧ T.LinksByName maxLinks e ws ∧
        ∀ m, T.scan maxLinks (k + m) cur (w :: ws) = T.scan maxLinks m e ws := by
  rcases hnode : T.node (cur ++ [w]) with _ | node
  · exact .inl fun m => scan_missing hnode
  by_cases hsolid : T.Solid (cur ++ [w])
  · have hdir : T.node cur = some .dir := dir_of_isSome (by rw [hnode]; rfl)
    refine .inr ⟨cur ++ [w], 0, ?_, hsolid, hnames.of_leads (.single (.down hsolid)), fun m => ?_⟩
    · rw [walk_cons_solid hdir hw hsolid, walk_nil]
    · rw [Nat.zero_add, scan_solid hsolid]
  · obtain ⟨target, rfl⟩ : ∃ target, node = .link target := by
      cases node with
      | dir => exact absurd (.inl hnode) hsolid
      | file => exact absurd (.inr hnode) hsolid
      | link target => exact ⟨target, rfl⟩
    by_cases hopen : (T.openPath false maxLinks (cur ++ [w])).isSome
    · exact .inr (exists_passed hcur hw hnames hnode hopen)
    · exact .inl fun m => scan_broken hnode (Option.not_isSome_iff_eq_none.mp hopen)

/-- **The scan comes to an end.** -/
theorem exists_scan_isSome (hcur : T.Solid cur) (hplain : ∀ v ∈ ws, Plain v) (hnames : T.LinksByName maxLinks cur ws) :
    ∃ m r, T.scan maxLinks m cur ws = some r := by
  induction ws generalizing cur with
  | nil => exact ⟨0, some cur, scan_nil⟩
  | cons w ws ih =>
      obtain ⟨hw, hws⟩ := List.forall_mem_cons.mp hplain
      rcases scan_cons_cases hcur hw hnames with hnone | ⟨e, k, -, hsolid, hrest, hk⟩
      · exact ⟨0, none, hnone 0⟩
      · obtain ⟨m, r, hr⟩ := ih hsolid hws hrest
        exact ⟨k + m, r, by rw [hk, hr]⟩

/-- What the scan finds, the system finds, if it counts no links. -/
theorem exists_walk_of_scan (hcur : T.Solid cur) (hplain : ∀ v ∈ ws, Plain v) (hnames : T.LinksByName maxLinks cur ws)
    (h : T.scan maxLinks m cur ws = some (some q)) : ∃ n, T.walk false n cur ws = some q := by
  induction ws generalizing cur with
  | nil =>
      rw [scan_nil] at h
      exact ⟨0, by rw [walk_nil, Option.some.inj h]⟩
  | cons w ws ih =>
      obtain ⟨hw, hws⟩ := List.forall_mem_cons.mp hplain
      rcases scan_cons_cases hcur hw hnames with hnone | ⟨e, k, he, hsolid, hrest, hk⟩
      · rw [hnone] at h
        exact absurd h (by simp)
      · have hmore := scan_mono (Nat.le_add_left m k) h
        rw [hk] at hmore
        obtain ⟨n, hn⟩ := ih hsolid hws hrest hmore
        exact ⟨maxLinks + n, walk_trans he hn⟩

/-- **The scan comes to an end**: in the place that the system finds, unless that counts too many links. -/
theorem exists_scan_eq (hplain : ∀ v ∈ ws, Plain v) (hnames : T.LinksByName maxLinks [] ws)
    (hfew : ∀ n q, T.walk false n [] ws = some q → T.walk false maxLinks [] ws = some q) :
    ∃ k, ∀ m, k ≤ m → T.scan maxLinks m [] ws = some (T.walk false maxLinks [] ws) := by
  obtain ⟨k, r, hr⟩ := exists_scan_isSome (.inl T.root) hplain hnames
  refine ⟨k, fun m hle => ?_⟩
  have hm := scan_mono hle hr
  rw [hm]
  rcases hfound : T.walk false maxLinks [] ws with _ | q
  · rcases r with _ | q
    · rfl
    · obtain ⟨n, hn⟩ := exists_walk_of_scan (.inl T.root) hplain hnames hr
      exact absurd (hfound.symm.trans (hfew n q hn)) (by simp)
  · rw [← List.append_nil ws] at hnames
    obtain ⟨k', hk', -⟩ := exists_scan_of_walk le_rfl (.inl T.root) hplain hnames hfound
    have hlarge := hk' m
    rw [List.append_nil, scan_nil, scan_mono (Nat.le_add_left m k') hm] at hlarge
    exact hlarge

end Cliptown.Lib.FileTree
