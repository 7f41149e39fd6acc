import Cliptown.Lib.Realpath
import Cliptown.Sandbox.Resolve
import Mathlib.Data.String.Basic

/-!
# The sandbox of a worker

The worker has a resolver of its own, which is to mirror that of the world.

* `NodePath`, `normalize`, `nodeJoin`, `NodePath.dirname`, `NodePath.basename` — a path once it is normalized by name,
  and its parts; `NodePath.resolve`, `Host.realpathSync` — its place, which node looks up by name, too.
* `checkWorker` — what is refused for its text alone.
* `resolveSandbox` — the place of a candidate under a root, or of what its directory and its name make.
* `ByName` — a path that leads to the same place when it and the links on its way are shortened by name.
* `Alike` — when the two resolvers are asked the same: the candidate is short in bytes and without a colon in second
  place, the root is not that of the tree, both paths may be taken by name, and a slash at the end hides no file.
* `resolvers_agree` — then both give the same answer, on every candidate that the worker does not refuse for its text.
-/

namespace Cliptown.Sandbox

open Cliptown.Lib Cliptown.Lib.PosixPath

/-! ### Paths by name -/

/-- A path in its parts: the root or `.` if it has no segments. -/
structure NodePath where
  absolute : Bool
  segments : List (List Char)
  /-- It ends in a slash. -/
  slash : Bool
  deriving DecidableEq, Repr

/-- The parts of a path as it is written. -/
def nodePath (p : String) : NodePath where
  absolute := p.toList.head? = some '/'
  segments := components p
  slash := p.toList.getLast? = some '/'

/-- Source: `path.normalize` -/
def normalize (p : String) : NodePath where
  absolute := p.toList.head? = some '/'
  segments := normalizeWords (p.toList.head? ≠ some '/') (components p)
  slash := p.toList.getLast? = some '/'

/-- Source: `path.join`, of two segments -/
def nodeJoin (root candidate : String) : NodePath :=
  normalize (if root = "" then candidate else root ++ "/" ++ candidate)

namespace NodePath

/-- Source: `path.dirname` -/
def dirname (p : NodePath) : NodePath where
  absolute := p.absolute
  segments := p.segments.dropLast
  slash := false

/-- Source: `path.basename`; it is empty for the root, and for `.` it does not matter. -/
def basename (p : NodePath) : List Char :=
  p.segments.getLast?.getD []

/-- By name, from the working directory; a slash at the end is lost. Source: `path.resolve` -/
def resolve (cwd : AbsPath) (p : NodePath) : AbsPath :=
  p.segments.foldl push (if p.absolute then [] else cwd)

end NodePath

/-- The place of a path. The function resolves the path by name and asks the system with `lstat` for one component
after the other. At a link it asks with `stat` whether that leads anywhere, replaces it by its target, by name, and
starts again. `some none` if it throws, and `none` if it has not come to an end after so many links. Source:
`fs.realpathSync` -/
def Host.realpathSync (h : Host) (fuel : ℕ) (p : NodePath) : Option (Option AbsPath) :=
  h.tree.scan h.maxLinks fuel [] (p.resolve h.cwd)

/-- Source: `path.join`, of a place and a name -/
def joinName (p : AbsPath) (name : List Char) : AbsPath :=
  if name = [] then p else push p name

/-- Source: `sandbox.ts` `resolveSandbox`, the comparison of texts -/
def Within (realRoot real : AbsPath) : Prop :=
  pathText realRoot ++ ['/'] <+: pathText real ∨ pathText real = pathText realRoot

instance (realRoot real : AbsPath) : Decidable (Within realRoot real) :=
  inferInstanceAs (Decidable (_ ∨ _))

/-! ### The resolver -/

/-- The length of a text in code units: one for a character, and one more for those beyond the first plane. Source:
`String.prototype.length` -/
def utf16Length (s : String) : ℕ :=
  s.toList.length + s.toList.countP fun c => 0x10000 ≤ c.val

/-- The checks on the text. Source: `sandbox.ts` `resolveSandbox`, up to the join -/
def checkWorker (nfc : String → String) (candidate : String) : Except String Unit := do
  ensure (candidate ≠ "") "empty path"
  ensure ('\x00' ∉ candidate.toList) "nul byte"
  ensure (utf16Length candidate ≤ 4096) "too long"
  ensure (candidate.toList.head? ≠ some '/') "absolute forbidden"
  ensure (¬ (candidate.toList.head?.any Char.isAlpha ∧ candidate.toList[1]? = some ':') ∧
    candidate.toList.take 2 ≠ ['\\', '\\'] ∧ candidate.toList.take 2 ≠ ['/', '/']) "windows abs"
  ensure (¬ candidate.toList.any fun c => forbiddenCtrl.contains c) "bidi control"
  ensure (nfc candidate = candidate) "non-NFC"
  ensure (candidate.toList.getLast? ≠ some '.' ∧ candidate.toList.getLast? ≠ some ' ') "trailing dot/space"

/-- The place of a path, or else its name in the place of its directory. Source: `sandbox.ts` `resolveSandbox`, from
the join -/
def locateWorker (h : Host) (fuel : ℕ) (realRoot : AbsPath) (joined : NodePath) (text : String) :
    Option (Except String AbsPath) :=
  (h.realpathSync fuel joined).bind fun place =>
    match place with
    | some real => some (.ok real)
    | none => (h.realpathSync fuel joined.dirname).map fun parent => do
        let parentReal ← require parent (h.ioError text)
        ensure (Within realRoot parentReal) "parent escapes root"
        return joinName parentReal joined.basename

/-- `none` if it has not come to an end. Source: `sandbox.ts` `resolveSandbox` -/
def resolveSandbox (h : Host) (fuel : ℕ) (root candidate : String) : Option (Except String AbsPath) :=
  match checkWorker h.nfc candidate with
  | .error e => some (.error e)
  | .ok _ => (h.realpathSync fuel (nodePath root)).bind fun place =>
      match place with
      | none => some (.error (h.ioError root))
      | some realRoot => (locateWorker h fuel realRoot (nodeJoin root candidate) candidate).map fun located => do
          let real ← located
          ensure (Within realRoot real) "escapes root"
          return real

section Resolve

variable {h : Host} {fuel : ℕ} {root candidate text : String} {realRoot p : AbsPath} {joined : NodePath}

/-! ### The checks -/

/-- A code unit needs a byte at least. -/
theorem utf16Length_le (s : String) : utf16Length s ≤ s.utf8ByteSize := by
  have hlist : ∀ l : List Char, (l.length + l.countP fun c => 0x10000 ≤ c.val) ≤ String.utf8Len l := by
    intro l
    induction l with
    | nil => exact le_rfl
    | cons c l ih =>
        have hpos := Char.utf8Size_pos c
        rw [List.length_cons, List.countP_cons, String.utf8Len_cons]
        split
        · rename_i hlarge
          have hsize : (0xffff : UInt32) < 0x10000 := by decide
          have hfour : c.utf8Size = 4 :=
            Char.utf8Size_eq_four_iff.mpr (UInt32.lt_of_lt_of_le hsize (of_decide_eq_true hlarge))
          omega
        · omega
  unfold utf16Length
  rw [← String.ofList_toList (s := s), String.utf8ByteSize_ofList, String.toList_ofList]
  exact hlist _

/-- What the world lets through, the worker lets through. -/
theorem checkWorker_of_checkCandidate {nfc : String → String} (hcheck : checkCandidate nfc candidate = .ok ()) :
    checkWorker nfc candidate = .ok () := by
  simp only [checkCandidate, bind_eq_ok, ensure_eq_ok, exists_const] at hcheck
  obtain ⟨hne, hnul, hlen, hhead, hcolon, htake, hbidi, hnfc, hlast⟩ := hcheck
  simp only [checkWorker, bind_eq_ok, ensure_eq_ok, exists_const]
  exact ⟨hne, hnul, (utf16Length_le candidate).trans hlen, hhead, ⟨fun h => hcolon h.2, htake⟩, hbidi, hnfc, hlast⟩

/-- What the worker lets through, the world lets through if it is short in bytes and has no colon in second place. -/
theorem checkCandidate_of_checkWorker {nfc : String → String} (hcheck : checkWorker nfc candidate = .ok ())
    (hlen : candidate.utf8ByteSize ≤ 4096) (hcolon : candidate.toList[1]? ≠ some ':') :
    checkCandidate nfc candidate = .ok () := by
  simp only [checkWorker, bind_eq_ok, ensure_eq_ok, exists_const] at hcheck
  obtain ⟨hne, hnul, -, hhead, ⟨-, htake⟩, hbidi, hnfc, hlast⟩ := hcheck
  simp only [checkCandidate, bind_eq_ok, ensure_eq_ok, exists_const]
  exact ⟨hne, hnul, hlen, hhead, hcolon, htake, hbidi, hnfc, hlast⟩

/-! ### The same place -/

/-- Both compare the places alike, but for the root of the tree. -/
theorem within_iff {canonRoot : AbsPath} (hne : canonRoot ≠ []) (hroot : ∀ w ∈ canonRoot, Plain w)
    (hp : ∀ w ∈ p, Plain w) : Within canonRoot p ↔ canonRoot <+: p := by
  unfold Within
  rw [pathText_prefix_iff hroot hp, pathText_inj hroot hp]
  constructor
  · rintro (⟨-, hprefix, -⟩ | rfl)
    · exact hprefix
    · exact List.prefix_refl p
  · intro hprefix
    by_cases heq : p = canonRoot
    · exact .inr heq
    · exact .inl ⟨hne, hprefix, heq⟩

/-- The texts that are joined differ by a slash at most. -/
theorem pathJoin_cases (hroot : root ≠ "") : pathJoin root candidate = root ++ "/" ++ candidate ∨
    ∃ front, root.toList = front ++ ['/'] ∧ pathJoin root candidate = root ++ candidate := by
  unfold pathJoin
  split
  · rename_i hends
    obtain ⟨front, hfront⟩ := List.getLast?_eq_some_iff.mp (hends.resolve_left hroot)
    exact .inr ⟨front, hfront, rfl⟩
  · exact .inl rfl

theorem components_pathJoin (hroot : root ≠ "") :
    components (pathJoin root candidate) = components (root ++ "/" ++ candidate) := by
  rcases pathJoin_cases hroot with hjoin | ⟨front, hfront, hjoin⟩
  · rw [hjoin]
  · have hslash : "/".toList = ['/'] := rfl
    unfold components
    rw [hjoin, String.toList_append, String.toList_append, String.toList_append, hfront, hslash]
    simp only [List.append_assoc, List.cons_append, splitSlash_append_slash, List.filter_append]
    rfl

theorem head?_pathJoin (hroot : root ≠ "") : (pathJoin root candidate).toList.head? = root.toList.head? := by
  obtain ⟨c, cs, hcs⟩ := List.exists_cons_of_ne_nil (mt String.toList_eq_nil_iff.mp hroot)
  unfold pathJoin
  split <;> simp [hcs]

theorem getLast?_pathJoin (root : String) (hcand : candidate ≠ "") :
    (pathJoin root candidate).toList.getLast? = candidate.toList.getLast? := by
  have hne : candidate.toList ≠ [] := mt String.toList_eq_nil_iff.mp hcand
  unfold pathJoin
  split
  · rw [String.toList_append, List.getLast?_append_of_ne_nil _ hne]
  · rw [String.toList_append, List.getLast?_append_of_ne_nil _ hne]

/-- Both join the same path, once it is normalized. -/
theorem nodeJoin_eq (hroot : root ≠ "") (hcand : candidate ≠ "") :
    nodeJoin root candidate = normalize (pathJoin root candidate) := by
  have hlast : (root ++ "/" ++ candidate).toList.getLast? = (pathJoin root candidate).toList.getLast? := by
    rw [getLast?_pathJoin root hcand, String.toList_append,
      List.getLast?_append_of_ne_nil _ (mt String.toList_eq_nil_iff.mp hcand)]
  have hhead : (root ++ "/" ++ candidate).toList.head? = (pathJoin root candidate).toList.head? := by
    obtain ⟨c, cs, hcs⟩ := List.exists_cons_of_ne_nil (mt String.toList_eq_nil_iff.mp hroot)
    rw [head?_pathJoin hroot, String.toList_append, String.toList_append, hcs]
    rfl
  unfold nodeJoin normalize
  rw [if_neg hroot, hlast, hhead, components_pathJoin hroot]

/-! ### By name -/

/-- Taking a path by name, as node does, is following it. -/
structure ByName (h : Host) (path : String) : Prop where
  /-- What the path takes back by name is a directory, and no link. -/
  straight : h.tree.Straight h.maxLinks [] false (FileTree.start h.cwd path ++ components path)
  /-- So is what the targets of the links on its way take back. -/
  links : h.tree.LinksByName h.maxLinks [] (PosixPath.resolve h.cwd path)

section ByName

variable {path : String} {ws : List (List Char)} {w : List Char}

theorem start_of_relative (hpath : decide (path.toList.head? ≠ some '/') = false) : FileTree.start h.cwd path = [] :=
  if_pos (not_not.mp (of_decide_eq_false hpath))

theorem plain_start (h : Host) (path : String) : ∀ v ∈ FileTree.start h.cwd path, Plain v :=
  FileTree.plain_of_solid (.inl (FileTree.dir_start h.cwd_dir path))

/-- A path that is normalized first leads by name where it leads by name itself. -/
theorem resolve_normalize : (normalize path).resolve h.cwd = PosixPath.resolve h.cwd path := by
  have hfold := foldl_push_normalizeWords (decide (path.toList.head? ≠ some '/'))
    (@start_of_relative h path) (components path)
  unfold NodePath.resolve normalize PosixPath.resolve
  unfold FileTree.start at hfold
  simpa only [decide_eq_true_eq] using hfold

theorem resolve_nodePath : (nodePath path).resolve h.cwd = PosixPath.resolve h.cwd path := by
  unfold NodePath.resolve nodePath PosixPath.resolve
  simp only [decide_eq_true_eq]

/-- Following a path without what does not matter. -/
theorem walk_start {n : ℕ} (post : List (List Char)) :
    h.tree.walk false n (FileTree.start h.cwd path) (ws ++ post) =
      h.tree.walk false n [] (FileTree.start h.cwd path ++ ws ++ post) := by
  have hsolid : h.tree.Solid ([] ++ FileTree.start h.cwd path) := .inl (FileTree.dir_start h.cwd_dir path)
  rw [List.append_assoc]
  exact (FileTree.walk_append hsolid).symm

/-- **The place of a straight path** is the place of the path by name, except that a slash at its end asks for a
directory. -/
theorem canonicalize_eq
    (hstraight : h.tree.Straight h.maxLinks [] false (FileTree.start h.cwd path ++ components path)) (hne : path ≠ "")
    (hdot : path.toList.getLast? ≠ some '.') :
    h.canonicalize path = h.tree.walk false h.maxLinks []
      (PosixPath.resolve h.cwd path ++ if path.toList.getLast? = some '/' then [[]] else []) := by
  have hkept := FileTree.walk_kept (T := h.tree) (splitSlash path.toList) h.maxLinks (FileTree.start h.cwd path)
  rw [FileTree.kept_splitSlash hne hdot, walk_start, FileTree.walk_normalize h.tree.root (fun _ => rfl) hstraight,
    normalizeWords_append_eq (plain_start h path) fun _ => plain_of_mem_components] at hkept
  unfold Host.canonicalize FileTree.canonicalize
  rw [if_neg hne]
  exact hkept

/-- A straight path whose place is known. -/
theorem canonicalize_of_walk {q : AbsPath}
    (hstraight : h.tree.Straight h.maxLinks [] false (FileTree.start h.cwd path ++ components path)) (hne : path ≠ "")
    (hdot : path.toList.getLast? ≠ some '.')
    (hq : h.tree.walk false h.maxLinks [] (PosixPath.resolve h.cwd path) = some q) :
    h.canonicalize path = if path.toList.getLast? = some '/' ∧ h.tree.node q ≠ some .dir then none else some q := by
  rw [canonicalize_eq hstraight hne hdot]
  by_cases hslash : path.toList.getLast? = some '/'
  · obtain ⟨k, hk⟩ := FileTree.walk_bind hq
    rw [if_pos hslash, hk, FileTree.walk_cons_skip (.inl rfl), FileTree.walk_nil]
    by_cases hdir : h.tree.node q = some .dir
    · rw [if_pos hdir, if_neg fun hboth => hboth.2 hdir]
    · rw [if_neg hdir, if_pos ⟨hslash, hdir⟩]
  · rw [if_neg hslash, if_neg fun hboth => hslash hboth.1, List.append_nil, hq]

/-- A path that ends at a name, in its directory. -/
theorem resolve_concat (h : Host) (hws : components path = ws ++ [w]) (hw : w ≠ up) :
    PosixPath.resolve h.cwd path = ws.foldl push (FileTree.start h.cwd path) ++ [w] := by
  rw [← foldl_push_concat _ _ hw, ← hws]
  rfl

/-- The parts of such a path once it is normalized. -/
theorem normalize_concat (h : Host) (hws : components path = ws ++ [w]) (hw : w ≠ up) :
    (normalize path).dirname.resolve h.cwd = ws.foldl push (FileTree.start h.cwd path) ∧
      (normalize path).basename = w := by
  have hsegments : (normalize path).segments = normalizeWords (path.toList.head? ≠ some '/') ws ++ [w] := by
    unfold normalize
    rw [hws, normalizeWords_append_of_ne hw]
  constructor
  · have hfold := foldl_push_normalizeWords (decide (path.toList.head? ≠ some '/'))
      (@start_of_relative h path) ws
    rw [← hfold]
    unfold NodePath.resolve NodePath.dirname
    rw [hsegments, List.dropLast_concat]
    unfold normalize FileTree.start
    simp only [decide_eq_true_eq]
  · unfold NodePath.basename
    rw [hsegments, List.getLast?_concat]
    rfl

/-- The place of the directory of a straight path that ends at a name. -/
theorem canonicalizeParent_eq
    (hstraight : h.tree.Straight h.maxLinks [] false (FileTree.start h.cwd path ++ components path))
    (hws : components path = ws ++ [w]) :
    h.canonicalizeParent path ws =
      h.tree.walk false h.maxLinks [] (ws.foldl push (FileTree.start h.cwd path)) := by
  rw [hws, ← List.append_assoc] at hstraight
  have hplain : ∀ v ∈ ws, v ≠ up → Plain v := fun v hv =>
    plain_of_mem_components (p := path) (by rw [hws]; exact List.mem_append_left _ hv)
  have hwalk := FileTree.walk_normalize h.tree.root (fun _ => rfl) hstraight.of_append []
  rw [normalizeWords_append_eq (plain_start h path) hplain, ← walk_start, List.append_nil, List.append_nil] at hwalk
  exact hwalk

/-- Where a straight path ends that does not lead to a directory: at a name. -/
theorem exists_name
    (hstraight : h.tree.Straight h.maxLinks [] false (FileTree.start h.cwd path ++ components path))
    (hnot : ∀ d, h.tree.walk false h.maxLinks [] (PosixPath.resolve h.cwd path) = some d → h.tree.node d ≠ some .dir) :
    ∃ ws w, components path = ws ++ [w] ∧ w ≠ up := by
  have hnormal := FileTree.walk_normalize h.tree.root (fun _ => rfl) hstraight []
  rw [normalizeWords_append_eq (plain_start h path) fun _ => plain_of_mem_components, List.append_nil,
    List.append_nil] at hnormal
  rcases List.eq_nil_or_concat' (components path) with hnil | ⟨ws, w, hws⟩
  · have hstart := FileTree.dir_start h.cwd_dir path
    refine absurd hstart (hnot _ ?_)
    have hplace : h.tree.openPath false h.maxLinks (FileTree.start h.cwd path) = some (FileTree.start h.cwd path) :=
      FileTree.openPath_of_solid (.inl hstart)
    unfold PosixPath.resolve
    rw [hnil]
    exact hplace
  · refine ⟨ws, w, hws, ?_⟩
    rintro rfl
    rw [hws, ← List.append_assoc] at hstraight hnormal
    obtain ⟨d, hd, hdir⟩ := FileTree.exists_walk_up h.tree.root (fun _ => rfl) hstraight
    have hplace : PosixPath.resolve h.cwd path = (ws ++ [up]).foldl push (FileTree.start h.cwd path) := by
      rw [← hws]
      rfl
    exact hnot d (by rw [hplace, ← hnormal, hd]) hdir

end ByName

/-! ### Agreement -/

/-- The two resolvers are asked the same. -/
structure Alike (h : Host) (root candidate : String) (canonRoot : AbsPath) : Prop where
  /-- The candidate is short in bytes also, and it has no colon after something else than a letter. -/
  short : candidate.utf8ByteSize ≤ 4096
  no_colon : candidate.toList[1]? ≠ some ':'
  /-- The root is not that of the tree. -/
  below : canonRoot ≠ []
  root_name : ByName h root
  name : ByName h (pathJoin root candidate)
  /-- The system does not give up on the path or its directory because of the number of their links. -/
  few_links : ∀ ws ∈ [PosixPath.resolve h.cwd (pathJoin root candidate),
      (PosixPath.resolve h.cwd (pathJoin root candidate)).dropLast], ∀ n p,
    h.tree.walk false n [] ws = some p → h.tree.walk false h.maxLinks [] ws = some p
  /-- A slash at the end does not come after a link to a file, or after the root, if that is a file. -/
  slash : candidate.toList.getLast? = some '/' → ∀ ns w d f,
    PosixPath.resolve h.cwd (pathJoin root candidate) = ns ++ [w] → h.tree.walk false h.maxLinks [] ns = some d →
      h.tree.walk false h.maxLinks [] (ns ++ [w]) = some f → h.tree.node f = some .file → f = d ++ [w] ∧ f ≠ canonRoot

variable {canonRoot : AbsPath}

/-- What is located by its name: the parts of the path, and what they make. -/
theorem parts_of_components {path : String} {ws : List (List Char)} {w : List Char}
    (hws : components path = ws ++ [w]) (hw : w ≠ up) : parent path = some ws ∧ fileName path = some w := by
  constructor
  · unfold parent
    rw [hws, if_neg (by simp), List.dropLast_concat]
  · unfold fileName
    rw [hws, List.getLast?_concat]
    exact Option.filter_some_pos (decide_eq_true hw)

theorem joinName_plain {w : List Char} (hw : Plain w) (d : AbsPath) : joinName d w = d ++ [w] := by
  rw [joinName, if_neg hw.ne_nil, push, if_neg hw.ne_dotdot]

/-- A name in a directory. -/
theorem plain_concat {d : AbsPath} {w : List Char} (hd : ∀ v ∈ d, Plain v) (hw : Plain w) :
    ∀ v ∈ d ++ [w], Plain v := by
  intro v hv
  rcases List.mem_append.mp hv with hv | hv
  · exact hd v hv
  · rw [List.mem_singleton.mp hv]
    exact hw

/-- The joined path is not empty, and ends as the candidate does. -/
theorem pathJoin_of_check (root : String) {nfc : String → String} (hcheck : checkCandidate nfc candidate = .ok ()) :
    candidate ≠ "" ∧ pathJoin root candidate ≠ "" ∧ (pathJoin root candidate).toList.getLast? ≠ some '.' := by
  obtain ⟨hcand, -, -, -, -, -, -, -, hdot, -⟩ :
      candidate ≠ "" ∧ _ ∧ _ ∧ _ ∧ _ ∧ _ ∧ _ ∧ _ ∧ candidate.toList.getLast? ≠ some '.' ∧ _ := by
    simpa only [checkCandidate, bind_eq_ok, ensure_eq_ok, exists_const] using hcheck
  refine ⟨hcand, fun heq => ?_, by rwa [getLast?_pathJoin root hcand]⟩
  have hlast := getLast?_pathJoin root hcand
  rw [heq] at hlast
  exact hcand (String.toList_eq_nil_iff.mp (List.getLast?_eq_none_iff.mp hlast.symm))

/-- What node finds by name is plain. -/
theorem plain_resolve_cwd (h : Host) (path : String) : ∀ v ∈ PosixPath.resolve h.cwd path, Plain v :=
  FileTree.plain_resolve (FileTree.plain_of_solid (.inl h.cwd_dir)) path

/-- **Node finds the place** of a path that may be taken by name. -/
theorem exists_realpathSync_eq {q : NodePath} (hlinks : h.tree.LinksByName h.maxLinks [] (q.resolve h.cwd))
    (hplain : ∀ v ∈ q.resolve h.cwd, Plain v)
    (hfew : ∀ n p, h.tree.walk false n [] (q.resolve h.cwd) = some p →
      h.tree.walk false h.maxLinks [] (q.resolve h.cwd) = some p) :
    ∃ k, ∀ fuel, k ≤ fuel → h.realpathSync fuel q = some (h.tree.walk false h.maxLinks [] (q.resolve h.cwd)) :=
  FileTree.exists_scan_eq hplain hlinks hfew

/-- What the world locates by its name. -/
theorem locate_name {path : String} {ws : List (List Char)} {w : List Char}
    (hstraight : h.tree.Straight h.maxLinks [] false (FileTree.start h.cwd path ++ components path))
    (hnone : h.canonicalize path = none) (hws : components path = ws ++ [w]) (hw : w ≠ up) (p : AbsPath) :
    locate h canonRoot path = .ok p ↔
      ∃ d, h.tree.walk false h.maxLinks [] (ws.foldl push (FileTree.start h.cwd path)) = some d ∧
        canonRoot <+: d ∧ p = d ++ [w] := by
  obtain ⟨hparent, hfile⟩ := parts_of_components hws hw
  rw [locate_eq_ok, hnone, hparent, hfile, ← canonicalizeParent_eq hstraight hws]
  constructor
  · rintro (hfound | ⟨-, _, d, _, ⟨⟩, hd, hunder, ⟨⟩, rfl⟩)
    · exact absurd hfound (by simp)
    · exact ⟨d, hd, hunder, rfl⟩
  · rintro ⟨d, hd, hunder, rfl⟩
    exact .inr ⟨rfl, ws, d, w, rfl, hd, hunder, rfl, rfl⟩

/-- A file that node finds, though a slash comes after it, is what the world makes of its directory and its name. -/
theorem locate_file {f : AbsPath} (hroot : h.canonicalize root = some canonRoot)
    (hcheck : checkCandidate h.nfc candidate = .ok ()) (halike : Alike h root candidate canonRoot)
    (hf : h.tree.walk false h.maxLinks [] (PosixPath.resolve h.cwd (pathJoin root candidate)) = some f)
    (hslash : candidate.toList.getLast? = some '/') (hdir : h.tree.node f ≠ some .dir) (p : AbsPath) :
    locate h canonRoot (pathJoin root candidate) = .ok p ∧ canonRoot <+: p ↔ p = f ∧ Within canonRoot p := by
  obtain ⟨hcand, hne, hdot⟩ := pathJoin_of_check root hcheck
  have hnone := canonicalize_of_walk halike.name.straight hne hdot hf
  rw [if_pos ⟨by rw [getLast?_pathJoin root hcand]; exact hslash, hdir⟩] at hnone
  obtain ⟨ws, w, hws, hw⟩ := exists_name halike.name.straight fun d hd => by
    obtain rfl := Option.some.inj (hf.symm.trans hd)
    exact hdir
  have hsolid : h.tree.Solid f := FileTree.walk_solid (.inl h.tree.root) hf
  have hfile : h.tree.node f = some .file := hsolid.resolve_left hdir
  have hwithin : Within canonRoot f ↔ canonRoot <+: f := within_iff halike.below
    (FileTree.plain_of_solid (FileTree.canonicalize_solid h.cwd_dir hroot)) (FileTree.plain_of_solid hsolid)
  have hconcat := resolve_concat h hws hw
  rw [hconcat] at hf
  rw [locate_name halike.name.straight hnone hws hw]
  rcases hparent : h.tree.walk false h.maxLinks [] (ws.foldl push (FileTree.start h.cwd (pathJoin root candidate)))
    with _ | d
  · exact absurd ((FileTree.walk_none hparent [w]).symm.trans hf) (by simp)
  · obtain ⟨rfl, hother⟩ := halike.slash hslash _ w d f hconcat hparent hf hfile
    constructor
    · rintro ⟨⟨_, ⟨⟩, -, rfl⟩, hprefix⟩
      exact ⟨rfl, hwithin.mpr hprefix⟩
    · rintro ⟨rfl, hinside⟩
      have hprefix := hwithin.mp hinside
      have hunder := (List.prefix_concat_iff.mp hprefix).resolve_left (Ne.symm hother)
      exact ⟨⟨d, rfl, hunder, rfl⟩, hprefix⟩

/-- **Both locate the same place.** -/
theorem exists_locateWorker (hroot : h.canonicalize root = some canonRoot)
    (hcheck : checkCandidate h.nfc candidate = .ok ()) (halike : Alike h root candidate canonRoot) :
    ∃ k, ∀ fuel, k ≤ fuel → ∃ r, locateWorker h fuel canonRoot (nodeJoin root candidate) candidate = some r ∧
      ∀ p, (locate h canonRoot (pathJoin root candidate) = .ok p ∧ canonRoot <+: p ↔
        r = .ok p ∧ Within canonRoot p) := by
  obtain ⟨hcand, hne, hdot⟩ := pathJoin_of_check root hcheck
  have hrootne : root ≠ "" := by
    rintro rfl
    exact absurd hroot (by simp [Host.canonicalize, FileTree.canonicalize])
  have hjoin := nodeJoin_eq hrootne hcand
  have hslash := getLast?_pathJoin root hcand
  have hnode : (nodeJoin root candidate).resolve h.cwd = PosixPath.resolve h.cwd (pathJoin root candidate) := by
    rw [hjoin, resolve_normalize]
  have hplain := plain_resolve_cwd h (pathJoin root candidate)
  obtain ⟨k, hk⟩ := exists_realpathSync_eq (h := h) (q := nodeJoin root candidate)
    (by rw [hnode]; exact halike.name.links) (by rw [hnode]; exact hplain)
    (by rw [hnode]; exact halike.few_links _ List.mem_cons_self)
  rw [hnode] at hk
  have hbelow : ∀ {q : AbsPath}, (∀ v ∈ q, Plain v) → (Within canonRoot q ↔ canonRoot <+: q) :=
    within_iff halike.below (FileTree.plain_of_solid (FileTree.canonicalize_solid h.cwd_dir hroot))
  rcases hplace : h.tree.walk false h.maxLinks [] (PosixPath.resolve h.cwd (pathJoin root candidate)) with _ | q
  · -- both look for the name in the place of the directory
    obtain ⟨ws, w, hws, hw⟩ := exists_name halike.name.straight fun d hd => by
      rw [hplace] at hd
      exact absurd hd (by simp)
    have hnone : h.canonicalize (pathJoin root candidate) = none := by
      rw [canonicalize_eq halike.name.straight hne hdot]
      exact FileTree.walk_none hplace _
    have hconcat := resolve_concat h hws hw
    obtain ⟨hdirname, hbasename⟩ := normalize_concat h hws hw
    rw [← hjoin] at hdirname hbasename
    have hword : Plain w := plain_of_mem_components (by rw [hws]; simp) hw
    have hlinks := halike.name.links
    rw [hconcat] at hlinks hplain
    obtain ⟨k', hk'⟩ := exists_realpathSync_eq (h := h) (q := (nodeJoin root candidate).dirname)
      (by rw [hdirname]; exact hlinks.of_append)
      (by rw [hdirname]; exact fun v hv => hplain v (List.mem_append_left _ hv))
      (by
        rw [hdirname]
        refine halike.few_links _ ?_
        rw [hconcat, List.dropLast_concat]
        simp)
    rw [hdirname] at hk'
    refine ⟨max k k', fun fuel hle => ?_⟩
    rw [locateWorker, hk fuel (le_of_max_le_left hle), hplace, Option.bind_some, hk' fuel (le_of_max_le_right hle)]
    refine ⟨_, rfl, fun p => ?_⟩
    rw [locate_name halike.name.straight hnone hws hw]
    simp only [bind_eq_ok, require_eq_ok, ensure_eq_ok, pure_eq_ok, hbasename, joinName_plain hword]
    have hsolid : ∀ {d}, h.tree.walk false h.maxLinks []
        (ws.foldl push (FileTree.start h.cwd (pathJoin root candidate))) = some d → ∀ v ∈ d, Plain v :=
      fun hd => FileTree.plain_of_solid (FileTree.walk_solid (.inl h.tree.root) hd)
    constructor
    · rintro ⟨⟨d, hd, hunder, rfl⟩, hprefix⟩
      exact ⟨⟨d, hd, (), (hbelow (hsolid hd)).mpr hunder, rfl⟩, (hbelow (plain_concat (hsolid hd) hword)).mpr hprefix⟩
    · rintro ⟨⟨d, hd, _, hunder, rfl⟩, hwithin⟩
      exact ⟨⟨d, hd, (hbelow (hsolid hd)).mp hunder, rfl⟩, (hbelow (plain_concat (hsolid hd) hword)).mp hwithin⟩
  · refine ⟨k, fun fuel hle => ⟨.ok q, ?_, fun p => ?_⟩⟩
    · rw [locateWorker, hk fuel hle, hplace]
      rfl
    · have hcanon := canonicalize_of_walk halike.name.straight hne hdot hplace
      have hq := FileTree.plain_of_solid (FileTree.walk_solid (.inl h.tree.root) hplace)
      split at hcanon
      · rename_i hboth
        rw [locate_file hroot hcheck halike hplace (by rw [← hslash]; exact hboth.1) hboth.2, Except.ok.injEq, eq_comm]
      · rw [locate_eq_ok, hcanon]
        simp only [Option.some.injEq, reduceCtorEq, false_and, or_false, Except.ok.injEq]
        constructor
        · rintro ⟨rfl, hprefix⟩
          exact ⟨rfl, (hbelow hq).mpr hprefix⟩
        · rintro ⟨rfl, hwithin⟩
          exact ⟨rfl, (hbelow hq).mp hwithin⟩

/-- **Both find the root.** -/
theorem exists_realpathSync_root (hroot : h.canonicalize root = some canonRoot) (hname : ByName h root) :
    ∃ k, ∀ fuel, k ≤ fuel → h.realpathSync fuel (nodePath root) = some (some canonRoot) := by
  have hplace : h.tree.walk false h.maxLinks [] (PosixPath.resolve h.cwd root) = some canonRoot := by
    unfold Host.canonicalize FileTree.canonicalize at hroot
    split at hroot
    · exact absurd hroot (by simp)
    · rw [← List.append_nil (splitSlash _)] at hroot
      have hwalk := FileTree.walk_components hroot
      rw [walk_start, FileTree.walk_normalize h.tree.root (fun _ => rfl) hname.straight,
        normalizeWords_append_eq (plain_start h root) fun _ => plain_of_mem_components, List.append_nil] at hwalk
      exact hwalk
  have hfew : ∀ n p, h.tree.walk false n [] (PosixPath.resolve h.cwd root) = some p →
      h.tree.walk false h.maxLinks [] (PosixPath.resolve h.cwd root) = some p := by
    intro n p hp
    have hmore := FileTree.walk_mono (fun hcreate => hcreate) (Nat.le_max_left n h.maxLinks) hp
    have hsame := FileTree.walk_mono (fun hcreate => hcreate) (Nat.le_max_right n h.maxLinks) hplace
    rw [hplace]
    exact hsame.symm.trans hmore
  rw [← resolve_nodePath] at hplace hfew
  obtain ⟨k, hk⟩ := exists_realpathSync_eq (by rw [resolve_nodePath]; exact hname.links)
    (by rw [resolve_nodePath]; exact plain_resolve_cwd h root) hfew
  exact ⟨k, fun fuel hle => by rw [hk fuel hle, hplace]⟩

end Resolve

/-- **Agreement.** Asked the same, the two resolvers accept the same candidates, with the same places, and that of the
worker comes to an end. -/
theorem resolvers_agree (h : Host) (root candidate : String) (canonRoot : AbsPath)
    (hroot : h.canonicalize root = some canonRoot)
    (halike : checkWorker h.nfc candidate = .ok () → Alike h root candidate canonRoot) :
    ∃ k, ∀ fuel, k ≤ fuel → ∃ r, resolveSandbox h fuel root candidate = some r ∧
      ∀ p, resolve h root candidate = .ok p ↔ r = .ok p := by
  rcases hcheck : checkWorker h.nfc candidate with e | u
  · refine ⟨0, fun fuel _ => ⟨.error e, by rw [resolveSandbox, hcheck], fun p => ?_⟩⟩
    rw [resolve_eq_ok hroot]
    refine ⟨fun hok => ?_, fun herror => absurd herror (by simp)⟩
    exact absurd (hcheck.symm.trans (checkWorker_of_checkCandidate hok.1)) (by simp)
  · have halike := halike hcheck
    have hcandidate := checkCandidate_of_checkWorker hcheck halike.short halike.no_colon
    obtain ⟨k, hk⟩ := exists_realpathSync_root hroot halike.root_name
    obtain ⟨k', hk'⟩ := exists_locateWorker hroot hcandidate halike
    refine ⟨max k k', fun fuel hle => ?_⟩
    obtain ⟨r, hr, hsame⟩ := hk' fuel (le_of_max_le_right hle)
    refine ⟨_, by rw [resolveSandbox, hcheck, hk fuel (le_of_max_le_left hle)]; simp only [Option.bind_some, hr]; rfl,
      fun p => ?_⟩
    rw [resolve_eq_ok hroot, hsame]
    simp only [bind_eq_ok, ensure_eq_ok, pure_eq_ok]
    constructor
    · rintro ⟨-, hr, hwithin⟩
      exact ⟨p, hr, (), hwithin, rfl⟩
    · rintro ⟨_, hr, _, hwithin, rfl⟩
      exact ⟨hcandidate, hr, hwithin⟩

/-! ### A path that goes up and a link, and a name with a colon -/

/-- A workspace with a link to its documents. -/
def linkedTree : FileTree :=
  .ofTable
    (Table.ofList [([], .dir), (["ws".toList], .dir), (["ws".toList, "real".toList], .dir),
      (["ws".toList, "docs".toList], .link "real")])
    (by decide +kernel) (by decide +kernel)

def linkedHost : Host where
  tree := linkedTree
  cwd := []
  maxLinks := 40
  ioError := fun _ => "No such file or directory (os error 2)"
  nfc := id
  cwd_dir := linkedTree.root

theorem node_ws : linkedTree.node ["ws".toList] = some .dir := by decide +kernel

theorem node_docs : linkedTree.node (["ws".toList] ++ ["docs".toList]) = some (.link "real") := by decide +kernel

theorem node_real : linkedTree.node (["ws".toList] ++ ["real".toList]) = some .dir := by decide +kernel

/-- Through the link, which is one link more. -/
theorem walk_docs (n : ℕ) (ws : List (List Char)) :
    linkedTree.walk false (n + 1) [] ("ws".toList :: "docs".toList :: ws) =
      linkedTree.walk false n ["ws".toList, "real".toList] ws := by
  rw [FileTree.walk_cons_solid linkedTree.root (by decide) (.inl node_ws)]
  exact (FileTree.walk_cons_link node_ws (by decide) node_docs).trans
    (FileTree.walk_cons_solid node_ws (by decide) (.inl node_real))

/-- Without links there is no way through. -/
theorem walk_docs_zero (ws : List (List Char)) :
    linkedTree.walk false 0 [] ("ws".toList :: "docs".toList :: ws) = none := by
  rw [FileTree.walk_cons_solid linkedTree.root (by decide) (.inl node_ws), FileTree.walk, List.nil_append,
    FileTree.walkWith_cons node_ws (by decide), node_docs]

/-- What is to be created behind the link. -/
theorem linksByName_docs :
    linkedTree.LinksByName 40 [] ["ws".toList, "docs".toList, "notes.md".toList] := by
  refine FileTree.linksByName_solid (.inl node_ws) ?_
  refine FileTree.linksByName_link node_docs (FileTree.straight_of_notMem (by decide +kernel)) ?_
  have hreplaced : PosixPath.resolve ([] ++ ["ws".toList]) "real" ++ ["notes.md".toList] =
      ["ws".toList, "real".toList, "notes.md".toList] := by decide +kernel
  rw [hreplaced]
  refine FileTree.linksByName_solid (.inl node_ws) (FileTree.linksByName_solid (.inl node_real) ?_)
  exact FileTree.linksByName_missing (by decide +kernel)

/-- What goes up again from the workspace goes up from a directory. -/
theorem straight_docs : linkedTree.Straight 40 [] false
    (FileTree.start linkedHost.cwd (pathJoin "/ws" "../ws/docs/notes.md") ++
      components (pathJoin "/ws" "../ws/docs/notes.md")) := by
  intro pre post hsplit ns v hns hv
  rw [show FileTree.start linkedHost.cwd (pathJoin "/ws" "../ws/docs/notes.md") ++
    components (pathJoin "/ws" "../ws/docs/notes.md") =
      ["ws".toList, up, "ws".toList, "docs".toList, "notes.md".toList] by decide +kernel] at hsplit
  obtain rfl : pre = ["ws".toList] := by
    rcases pre with _ | ⟨a, _ | ⟨b, _ | ⟨c, _ | ⟨d, _ | ⟨e, pre⟩⟩⟩⟩⟩ <;> simp_all
  have hwords : normalizeWords false ["ws".toList] = [] ++ ["ws".toList] := by decide +kernel
  rw [hwords] at hns
  obtain ⟨rfl, hlast⟩ := List.append_inj' hns rfl
  obtain rfl := (List.cons.inj hlast).1
  exact ⟨[], FileTree.walk_nil, node_ws⟩

/-- The artifact is asked for alike. -/
theorem alike_docs : Alike linkedHost "/ws" "../ws/docs/notes.md" ["ws".toList] := by
  have hjoined : PosixPath.resolve linkedHost.cwd (pathJoin "/ws" "../ws/docs/notes.md") =
      ["ws".toList, "docs".toList, "notes.md".toList] := by decide +kernel
  have hroot : PosixPath.resolve linkedHost.cwd "/ws" = ["ws".toList] := by decide +kernel
  refine ⟨by decide +kernel, by decide +kernel, by decide, ⟨?_, ?_⟩, ⟨straight_docs, ?_⟩, ?_, ?_⟩
  · exact FileTree.straight_of_notMem (by decide +kernel)
  · rw [hroot]
    exact FileTree.linksByName_solid (.inl node_ws) FileTree.linksByName_nil
  · rw [hjoined]
    exact linksByName_docs
  · rw [hjoined]
    intro ws hws n p hp
    have hmore : ∀ {ws}, linkedTree.walk false n [] ("ws".toList :: "docs".toList :: ws) = some p →
        linkedTree.walk false (n - 1) ["ws".toList, "real".toList] ws = some p := by
      intro ws hp
      cases n with
      | zero => exact absurd ((walk_docs_zero ws).symm.trans hp) (by simp)
      | succ n => exact (walk_docs n ws).symm.trans hp
    rcases List.mem_pair.mp hws with rfl | rfl
    · have hfound : linkedTree.walk false (n - 1) ["ws".toList, "real".toList] ["notes.md".toList] = some p := hmore hp
      have hnone : linkedTree.walk false (n - 1) ["ws".toList, "real".toList] ["notes.md".toList] = none :=
        FileTree.walk_missing node_real (by decide) (by decide +kernel)
      exact absurd (hnone.symm.trans hfound) (by simp)
    · have hfound : linkedTree.walk false (n - 1) ["ws".toList, "real".toList] [] = some p := hmore hp
      rw [FileTree.walk_nil] at hfound
      exact (walk_docs 39 []).trans (FileTree.walk_nil.trans hfound)
  · intro hslash
    exact absurd hslash (by decide +kernel)

/-- An artifact that is not there yet, by a path that goes up and down again, and through a link. -/
theorem resolvers_agree_artifact : ∃ k, ∀ fuel, k ≤ fuel →
    resolveSandbox linkedHost fuel "/ws" "../ws/docs/notes.md" =
      some (.ok ["ws".toList, "real".toList, "notes.md".toList]) := by
  obtain ⟨k, hk⟩ := resolvers_agree linkedHost "/ws" "../ws/docs/notes.md" ["ws".toList] (by decide +kernel)
    fun _ => alike_docs
  refine ⟨k, fun fuel hle => ?_⟩
  obtain ⟨r, hr, hsame⟩ := hk fuel hle
  rw [hr, (hsame ["ws".toList, "real".toList, "notes.md".toList]).mp (by decide +kernel)]

/-- **Not on every candidate**: the world takes a colon in second place for a drive, the worker only after a letter. -/
theorem not_resolvers_agree :
    ¬ ∀ (h : Host) (root candidate : String) (canonRoot p : AbsPath), h.canonicalize root = some canonRoot →
      (resolve h root candidate = .ok p ↔ ∃ fuel, resolveSandbox h fuel root candidate = some (.ok p)) := by
  intro h
  have hagree := h sampleHost "/ws" "1:x" ["ws".toList] ["ws".toList, "1:x".toList] (by decide +kernel)
  exact absurd (hagree.mpr ⟨0, by decide +kernel⟩) (by decide +kernel)

end Cliptown.Sandbox
