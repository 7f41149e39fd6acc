import Cliptown.Lib.PosixPath
import Cliptown.Lib.Table
import Mathlib.Data.List.Infix

/-!
# File trees

Directories, files and symbolic links, and how a system follows a path among them.

* `FileTree` — a finite tree; everything but the root is in a directory.
* `walk` — follow the components of a path from a place, through links up to a limit; the last component may be
  missing when a file is to be created. `walkWith_cons_eq_some` says what one component can lead to.
* `canonicalize`, `openPath` — the place of a path as a string, and what opening a place reaches.
* `Solid` — a place that is there and is no link; `walk_solid` says that a walk ends at such a place, or at one to
  create, and `openPath_of_solid` that it is reached as itself.
* `openPath_snoc` — what opening a name in a directory reaches.
* `remove`, `node_remove` — a name in a directory is removed with what is below it.

Nothing here names a program.
-/

namespace Cliptown.Lib

open PosixPath

/-- What is at a place. -/
inductive Node where
  | dir
  | file
  | link (target : String)
  deriving DecidableEq, Repr

/-- A finite tree. -/
structure FileTree where
  nodes : Table AbsPath Node
  root : nodes.lookup [] = some .dir
  /-- What is there is in a directory, under a plain name. -/
  parent : ∀ d w, (nodes.lookup (d ++ [w])).isSome → nodes.lookup d = some .dir
  plain : ∀ d w, (nodes.lookup (d ++ [w])).isSome → Plain w

namespace FileTree

/-- Where a path starts. -/
def start (cwd : AbsPath) (p : String) : AbsPath :=
  if p.toList.head? = some '/' then [] else cwd

variable (T : FileTree)

/-- What is at a place, if anything. -/
def node (p : AbsPath) : Option Node :=
  T.nodes.lookup p

/-- Follow components from a place; `follow` takes over at a link. -/
def walkWith (create : Bool) (follow : AbsPath → List (List Char) → Option AbsPath) :
    AbsPath → List (List Char) → Option AbsPath
  | cur, [] => some cur
  | cur, w :: ws =>
      if T.node cur ≠ some .dir then none
      else if w = [] ∨ w = ['.'] then walkWith create follow cur ws
      else if w = ['.', '.'] then walkWith create follow cur.dropLast ws
      else
        match T.node (cur ++ [w]) with
        | some (.link target) => follow (start cur target) (splitSlash target.toList ++ ws)
        | some _ => walkWith create follow (cur ++ [w]) ws
        | none => if create ∧ ws = [] then some (cur ++ [w]) else none

/-- Follow components from a place, through a number of links. -/
def walk (create : Bool) : ℕ → AbsPath → List (List Char) → Option AbsPath
  | 0 => T.walkWith create fun _ _ => none
  | links + 1 => T.walkWith create (walk create links)

/-- The place of a path. -/
def canonicalize (maxLinks : ℕ) (cwd : AbsPath) (p : String) : Option AbsPath :=
  if p = "" then none else T.walk false maxLinks (start cwd p) (splitSlash p.toList)

/-- What opening a place reaches; a link there is followed. -/
def openPath (create : Bool) (maxLinks : ℕ) (p : AbsPath) : Option AbsPath :=
  T.walk create maxLinks [] p

/-- Something that is no link is there. -/
def Solid (p : AbsPath) : Prop :=
  T.node p = some .dir ∨ T.node p = some .file

/-- Nothing is there yet, but the directory is. -/
def Creatable (p : AbsPath) : Prop :=
  T.node p = none ∧ ∃ d w, p = d ++ [w] ∧ T.node d = some .dir

/-- A tree from its rows, each of which is the root or a plain name in a directory. -/
def ofTable (nodes : Table AbsPath Node) (hroot : nodes.lookup [] = some .dir)
    (hrows : ∀ e ∈ nodes.entries, e.1 ≠ [] →
      nodes.lookup e.1.dropLast = some .dir ∧ Plain (e.1.getLastD [])) : FileTree :=
  have hrow : ∀ d w, (nodes.lookup (d ++ [w])).isSome → nodes.lookup d = some .dir ∧ Plain w := by
    intro d w h
    obtain ⟨node, hnode⟩ := Option.isSome_iff_exists.mp h
    have hchecked := hrows _ (AList.mem_lookup_iff.mp hnode) (by simp)
    rw [List.dropLast_concat] at hchecked
    simpa using hchecked
  { nodes
    root := hroot
    parent := fun d w h => (hrow d w h).1
    plain := fun d w h => (hrow d w h).2 }

instance (p : AbsPath) : Decidable (T.Solid p) :=
  inferInstanceAs (Decidable (_ ∨ _))

variable {T} {create : Bool} {n : ℕ} {cur p d : AbsPath} {w : List Char} {ws vs : List (List Char)}
  {follow : AbsPath → List (List Char) → Option AbsPath}

/-- The place of no components. -/
@[simp] theorem walk_nil : T.walk create n cur [] = some cur := by
  cases n <;> rfl

/-! ### Directories -/

/-- The parent of a place is a directory. -/
theorem dir_of_isSome (h : (T.node (d ++ [w])).isSome) : T.node d = some .dir :=
  T.parent d w h

/-- So is everything above it. -/
theorem dir_above (h : (T.node (d ++ ws)).isSome) (hne : ws ≠ []) : T.node d = some .dir := by
  induction ws using List.reverseRecOn with
  | nil => exact absurd rfl hne
  | append_singleton ws w ih =>
      rw [← List.append_assoc] at h
      have hdir := dir_of_isSome h
      rcases List.eq_nil_or_concat' ws with rfl | ⟨vs, v, rfl⟩
      · rwa [List.append_nil] at hdir
      · exact ih (by rw [hdir]; rfl) (by simp)

/-- Nothing is below a place where there is nothing. -/
theorem none_below (h : T.node p = none) (hpre : p <+: d) : T.node d = none := by
  obtain ⟨ws, rfl⟩ := hpre
  rcases List.eq_nil_or_concat' ws with rfl | ⟨vs, v, rfl⟩
  · rwa [List.append_nil]
  · by_contra hthere
    exact absurd (h.symm.trans (dir_above (Option.isSome_iff_ne_none.mpr hthere) (by simp))) (by simp)

/-- The directory above a directory. -/
theorem dir_dropLast (h : T.node cur = some .dir) : T.node cur.dropLast = some .dir := by
  rcases List.eq_nil_or_concat' cur with rfl | ⟨d, w, rfl⟩
  · exact h
  · rw [List.dropLast_concat]
    exact dir_of_isSome (by rw [h]; rfl)

/-! ### One component -/

/-- **One component of a walk** that ends somewhere: it does not matter, it goes up, or it leads through a link, to what
is there, or to what is to be created. -/
theorem walkWith_cons_eq_some : T.walkWith create follow cur (w :: ws) = some p ↔ T.node cur = some .dir ∧
    ((w = [] ∨ w = ['.']) ∧ T.walkWith create follow cur ws = some p ∨
      ¬ (w = [] ∨ w = ['.']) ∧ (w = ['.', '.'] ∧ T.walkWith create follow cur.dropLast ws = some p ∨
        w ≠ ['.', '.'] ∧
          ((∃ target, T.node (cur ++ [w]) = some (.link target) ∧
              follow (start cur target) (splitSlash target.toList ++ ws) = some p) ∨
            T.Solid (cur ++ [w]) ∧ T.walkWith create follow (cur ++ [w]) ws = some p ∨
              T.node (cur ++ [w]) = none ∧ (create ∧ ws = []) ∧ cur ++ [w] = p))) := by
  rw [walkWith]
  by_cases hcur : T.node cur = some .dir
  · rw [if_neg (not_not.mpr hcur)]
    by_cases hdot : w = [] ∨ w = ['.']
    · simp [hcur, hdot]
    by_cases hup : w = ['.', '.']
    · simp [hcur, hup]
    rw [if_neg hdot, if_neg hup]
    unfold Solid
    rcases hnode : T.node (cur ++ [w]) with _ | node
    · simp [hcur, hdot, hup]
    · cases node <;> simp [hcur, hdot, hup]
  · simp [hcur]

/-! ### Where a walk ends -/

section Ends

variable {I : AbsPath → Prop} (hdir : ∀ d, T.node d = some .dir → I d) (hfile : ∀ f, T.node f = some .file → I f)
  (hnew : ∀ f, create → T.Creatable f → I f)

include hdir hfile hnew

theorem walkWith_ends (hfollow : ∀ d ws p, T.node d = some .dir → follow d ws = some p → I p) :
    ∀ {ws : List (List Char)} {cur : AbsPath}, I cur → T.walkWith create follow cur ws = some p → I p := by
  intro ws
  induction ws with
  | nil =>
      intro cur hcur h
      obtain rfl := Option.some.inj h
      exact hcur
  | cons w ws ih =>
      intro cur hcur h
      obtain ⟨hcurdir, hcomponent⟩ := walkWith_cons_eq_some.mp h
      rcases hcomponent with ⟨-, hrest⟩ | ⟨-, ⟨-, hrest⟩ | ⟨-, hname⟩⟩
      · exact ih hcur hrest
      · exact ih (hdir _ (dir_dropLast hcurdir)) hrest
      rcases hname with ⟨target, -, hrest⟩ | ⟨hsolid, hrest⟩ | ⟨hnone, ⟨hcreate, -⟩, rfl⟩
      · refine hfollow _ _ _ ?_ hrest
        unfold start
        split
        · exact T.root
        · exact hcurdir
      · exact ih (hsolid.elim (hdir _) (hfile _)) hrest
      · exact hnew _ hcreate ⟨hnone, cur, w, rfl, hcurdir⟩

/-- A walk ends at a directory, at a file, at what is to be created, or where it starts. -/
theorem walk_ends (hcur : I cur) (h : T.walk create n cur ws = some p) : I p := by
  induction n generalizing cur ws p with
  | zero => exact walkWith_ends hdir hfile hnew (fun _ _ _ _ h => absurd h (by simp)) hcur h
  | succ n ih => exact walkWith_ends hdir hfile hnew (fun d ws p hd h => ih (hdir d hd) h) hcur h

end Ends

/-- A walk that creates nothing ends at what is there. -/
theorem walk_solid (hcur : T.Solid cur) (h : T.walk false n cur ws = some p) : T.Solid p :=
  walk_ends (fun _ => .inl) (fun _ => .inr) (fun _ hcreate => absurd hcreate (by decide)) hcur h

/-- Where a path starts is a directory. -/
theorem dir_start (hcur : T.node cur = some .dir) (target : String) : T.node (start cur target) = some .dir := by
  unfold start
  split
  · exact T.root
  · exact hcur

theorem canonicalize_solid {path : String} (hcwd : T.node cur = some .dir)
    (h : T.canonicalize n cur path = some p) : T.Solid p := by
  unfold canonicalize at h
  split at h
  · exact absurd h (by simp)
  · exact walk_solid (.inl (dir_start hcwd path)) h

/-! ### Walks along what is there -/

/-- One component of a walk. -/
theorem walkWith_cons (hcur : T.node cur = some .dir) (hw : Plain w) :
    T.walkWith create follow cur (w :: ws) =
      match T.node (cur ++ [w]) with
      | some (.link target) => follow (start cur target) (splitSlash target.toList ++ ws)
      | some _ => T.walkWith create follow (cur ++ [w]) ws
      | none => if create ∧ ws = [] then some (cur ++ [w]) else none := by
  rw [walkWith, if_neg (not_not.mpr hcur), if_neg (not_or.mpr ⟨hw.ne_nil, hw.ne_dot⟩), if_neg hw.ne_dotdot]

theorem walkWith_cons_solid (hcur : T.node cur = some .dir) (hw : Plain w) (h : T.Solid (cur ++ [w])) :
    T.walkWith create follow cur (w :: ws) = T.walkWith create follow (cur ++ [w]) ws := by
  rw [walkWith_cons hcur hw]
  rcases h with h | h <;> rw [h]

theorem walkWith_append (h : T.Solid (cur ++ ws)) :
    T.walkWith create follow cur (ws ++ vs) = T.walkWith create follow (cur ++ ws) vs := by
  induction ws generalizing cur with
  | nil => rw [List.append_nil, List.nil_append]
  | cons w ws ih =>
      have hsome : (T.node (cur ++ w :: ws)).isSome := by
        rcases h with h | h <;> rw [h] <;> rfl
      rw [List.append_cons] at h hsome ⊢
      have hsolid : T.Solid (cur ++ [w]) := by
        rcases ws with _ | ⟨v, ws⟩
        · simpa using h
        · exact .inl (dir_above hsome (by simp))
      have hat : (T.node (cur ++ [w])).isSome := by
        rcases hsolid with hsolid | hsolid <;> rw [hsolid] <;> rfl
      rw [List.cons_append, walkWith_cons_solid (dir_of_isSome hat) (T.plain cur w hat) hsolid]
      exact ih h

/-- Walking to a place that is there leads to it. -/
theorem walk_append (h : T.Solid (cur ++ ws)) :
    T.walk create n cur (ws ++ vs) = T.walk create n (cur ++ ws) vs := by
  cases n with
  | zero => exact walkWith_append h
  | succ n => exact walkWith_append h

/-- **A place that is there** is reached as itself. -/
theorem openPath_of_solid (h : T.Solid p) : T.openPath create n p = some p := by
  have hwalk : T.walk create n [] (p ++ []) = T.walk create n ([] ++ p) [] := walk_append (by simpa using h)
  unfold openPath
  rw [← List.append_nil p, hwalk, walk_nil, List.nil_append, List.append_nil]

/-- **A name in a directory** is looked up there. -/
theorem openPath_snoc (h : T.node d = some .dir) : T.openPath create n (d ++ [w]) = T.walk create n d [w] :=
  walk_append (.inl (by simpa using h))

/-- What is to be created is reached as itself, if it may be. -/
theorem walk_missing (hcur : T.node cur = some .dir) (hw : Plain w) (h : T.node (cur ++ [w]) = none) :
    T.walk create n cur [w] = if create then some (cur ++ [w]) else none := by
  cases n <;> simp [walk, walkWith_cons hcur hw, h]

/-- Only a link leads elsewhere. -/
theorem eq_of_walk (hcur : T.node cur = some .dir) (hw : Plain w)
    (hlink : ∀ target, T.node (cur ++ [w]) ≠ some (.link target)) (h : T.walk create n cur [w] = some p) :
    p = cur ++ [w] := by
  rcases hnode : T.node (cur ++ [w]) with _ | node
  · rw [walk_missing hcur hw hnode] at h
    split at h
    · exact (Option.some.inj h).symm
    · exact absurd h (by simp)
  · have hsolid : T.Solid (cur ++ [w]) := by
      cases node with
      | dir => exact .inl hnode
      | file => exact .inr hnode
      | link target => exact absurd hnode (hlink target)
    rw [← openPath_snoc hcur, openPath_of_solid hsolid] at h
    exact (Option.some.inj h).symm

/-- From a place that is no directory a walk leads nowhere. -/
theorem walk_of_not_dir (h : T.node cur ≠ some .dir) : T.walk create n cur (w :: ws) = none := by
  cases n <;> simp [walk, walkWith, h]

/-! ### Reading and creating -/

section Mono

variable {create' : Bool} {m : ℕ} (hcreate : create → create')

include hcreate

theorem walkWith_mono {follow' : AbsPath → List (List Char) → Option AbsPath}
    (hfollow : ∀ d ws p, follow d ws = some p → follow' d ws = some p)
    (h : T.walkWith create follow cur ws = some p) : T.walkWith create' follow' cur ws = some p := by
  induction ws generalizing cur with
  | nil => exact h
  | cons w ws ih =>
      obtain ⟨hcur, hcomponent⟩ := walkWith_cons_eq_some.mp h
      refine walkWith_cons_eq_some.mpr ⟨hcur, ?_⟩
      rcases hcomponent with ⟨hdot, hrest⟩ | ⟨hdot, ⟨hup, hrest⟩ | ⟨hup, hname⟩⟩
      · exact .inl ⟨hdot, ih hrest⟩
      · exact .inr ⟨hdot, .inl ⟨hup, ih hrest⟩⟩
      refine .inr ⟨hdot, .inr ⟨hup, ?_⟩⟩
      rcases hname with ⟨target, hlink, hrest⟩ | ⟨hsolid, hrest⟩ | ⟨hnone, ⟨hnew, hlast⟩, heq⟩
      · exact .inl ⟨target, hlink, hfollow _ _ _ hrest⟩
      · exact .inr (.inl ⟨hsolid, ih hrest⟩)
      · exact .inr (.inr ⟨hnone, ⟨hcreate hnew, hlast⟩, heq⟩)

/-- A walk that ends somewhere ends there also when files may be created and more links followed. -/
theorem walk_mono (hle : n ≤ m) (h : T.walk create n cur ws = some p) : T.walk create' m cur ws = some p := by
  induction n generalizing m cur ws p with
  | zero =>
      cases m with
      | zero => exact walkWith_mono hcreate (fun _ _ _ h => absurd h (by simp)) h
      | succ m => exact walkWith_mono hcreate (fun _ _ _ h => absurd h (by simp)) h
  | succ n ih =>
      obtain ⟨m, rfl⟩ := Nat.exists_eq_succ_of_ne_zero (Nat.ne_of_gt (Nat.lt_of_lt_of_le n.succ_pos hle))
      exact walkWith_mono hcreate (fun _ _ _ => ih (Nat.le_of_succ_le_succ hle)) h

end Mono

/-- What is opened for reading is also what is opened for creating. -/
theorem walk_create (h : T.walk false n cur ws = some p) : T.walk true n cur ws = some p :=
  walk_mono (fun _ => rfl) le_rfl h

/-! ### Removing -/

/-- Without what is below a name in a directory; a link there is removed, and not what it leads to. -/
def remove (T : FileTree) (d : AbsPath) (w : List Char) : FileTree where
  nodes := T.nodes.deleteWhere fun p _ => decide (d ++ [w] <+: p)
  root := by
    rw [Table.lookup_deleteWhere, T.root, Option.bind_some, if_neg (by simp)]
  parent := by
    intro e v h
    obtain ⟨node, hnode⟩ := Option.isSome_iff_exists.mp h
    obtain ⟨hthere, hkept⟩ := Table.of_lookup_deleteWhere hnode
    have habove : decide (d ++ [w] <+: e) = false := by
      rw [decide_eq_false_iff_not] at hkept ⊢
      exact fun hpre => hkept (hpre.trans (List.prefix_append _ _))
    rw [Table.lookup_deleteWhere, T.parent e v (by rw [hthere]; rfl), Option.bind_some, habove]
    rfl
  plain := by
    intro e v h
    obtain ⟨node, hnode⟩ := Option.isSome_iff_exists.mp h
    exact T.plain e v (by rw [(Table.of_lookup_deleteWhere hnode).1]; rfl)

theorem node_remove (T : FileTree) (d : AbsPath) (w : List Char) (p : AbsPath) :
    (T.remove d w).node p = if d ++ [w] <+: p then none else T.node p := by
  have hlookup : (T.remove d w).node p = (T.node p).bind fun b => if decide (d ++ [w] <+: p) then none else some b :=
    Table.lookup_deleteWhere _ _ _
  rw [hlookup]
  by_cases hpre : d ++ [w] <+: p <;> cases T.node p <;> simp [hpre]

end FileTree

end Cliptown.Lib
