import Cliptown.Lib.FileTree
import Cliptown.Lib.Checks

/-!
# The sandbox of a startup

The paths that agents name are resolved under the workspace of their startup.

* `Host` — the system that it is asked on.
* `checkCandidate` — what is refused for its text alone.
* `pathJoin`, `parent`, `fileName` — the parts of a path that are used.
* `resolve` — the place of a candidate under a root, or of what its directory and its name make.
* `Contained` — what the sandbox promises of that place.
* `LeadsOut` — the candidate ends in a link that cannot be resolved as it is written, and that leads out when it is
  opened; `resolve_contained_iff` — the promise is kept to exactly the other candidates.
-/

namespace Cliptown.Sandbox

open Cliptown.Lib Cliptown.Lib.PosixPath

/-- A system: its tree, the working directory, how many links it follows, what it says of a path that it cannot
resolve, and the normal form NFC. -/
structure Host where
  tree : FileTree
  cwd : AbsPath
  maxLinks : ℕ
  ioError : String → String
  nfc : String → String
  cwd_dir : tree.node cwd = some .dir

namespace Host

variable (h : Host)

/-- The place of a path. -/
def canonicalize (p : String) : Option AbsPath :=
  h.tree.canonicalize h.maxLinks h.cwd p

/-- What opening a place reaches. -/
def openPath (create : Bool) (p : AbsPath) : Option AbsPath :=
  h.tree.openPath create h.maxLinks p

end Host

/-! ### The resolver -/

/-- Source: `sandbox.rs` `FORBIDDEN_CTRL` -/
def forbiddenCtrl : List Char :=
  ['\u202E', '\u202D', '\u202A', '\u202B', '\u202C', '\u200E', '\u200F']

/-- The checks on the text. Source: `sandbox.rs` `resolve`, up to the join -/
def checkCandidate (nfc : String → String) (candidate : String) : Except String Unit := do
  ensure (candidate ≠ "") "empty path"
  ensure ('\x00' ∉ candidate.toList) "nul byte in path"
  ensure (candidate.utf8ByteSize ≤ 4096) "path too long"
  ensure (candidate.toList.head? ≠ some '/') "absolute path forbidden"
  ensure (candidate.toList[1]? ≠ some ':') "windows absolute"
  ensure (candidate.toList.take 2 ≠ ['\\', '\\'] ∧ candidate.toList.take 2 ≠ ['/', '/']) "UNC path forbidden"
  ensure (¬ candidate.toList.any fun c => forbiddenCtrl.contains c) "bidi control char"
  ensure (nfc candidate = candidate) "non-NFC path"
  ensure (candidate.toList.getLast? ≠ some '.' ∧ candidate.toList.getLast? ≠ some ' ') "trailing dot or space"

/-- Source: `Path::join`, of a relative path -/
def pathJoin (root candidate : String) : String :=
  if root = "" ∨ root.toList.getLast? = some '/' then root ++ candidate else root ++ "/" ++ candidate

/-- The components of the directory of a path. Source: `Path::parent` -/
def parent (p : String) : Option (List (List Char)) :=
  if components p = [] then none else some (components p).dropLast

/-- Source: `Path::file_name` -/
def fileName (p : String) : Option (List Char) :=
  (components p).getLast?.filter (· ≠ ['.', '.'])

/-- The place of the directory of a path. -/
def Host.canonicalizeParent (h : Host) (p : String) (dir : List (List Char)) : Option AbsPath :=
  h.tree.walk false h.maxLinks (FileTree.start h.cwd p) dir

/-- The place of a path, or else its name in the place of its directory. Source: `sandbox.rs` `resolve`, from the
`realpath` of the joined path -/
def locate (h : Host) (canonRoot : AbsPath) (joined : String) : Except String AbsPath :=
  match h.canonicalize joined with
  | some c => .ok c
  | none => do
      let dir ← require (parent joined) "no parent"
      let parentC ← require (h.canonicalizeParent joined dir) ("parent canonicalize: " ++ h.ioError joined)
      ensure (canonRoot <+: parentC) "parent escapes root"
      let name ← require (fileName joined) "no file name"
      return parentC ++ [name]

/-- Source: `sandbox.rs` `resolve` -/
def resolve (h : Host) (root candidate : String) : Except String AbsPath := do
  checkCandidate h.nfc candidate
  let joined := pathJoin root candidate
  let canonRoot ← require (h.canonicalize root) ("root canonicalize: " ++ h.ioError root)
  let canon ← locate h canonRoot joined
  ensure (canonRoot <+: canon) "path escapes root"
  return canon

/-! ### Containment -/

/-- What the sandbox promises: the place is under the root, and opening it leads nowhere else. -/
structure Contained (h : Host) (canonRoot p : AbsPath) : Prop where
  under : canonRoot <+: p
  opens : ∀ create q, h.openPath create p = some q → canonRoot <+: q

/-- The candidate names a link in a directory under the root. As it is written it cannot be resolved, and opening the
link leads out. -/
def LeadsOut (h : Host) (root candidate : String) (canonRoot : AbsPath) : Prop :=
  h.canonicalize (pathJoin root candidate) = none ∧
    ∃ dir d w target q, parent (pathJoin root candidate) = some dir ∧
      h.canonicalizeParent (pathJoin root candidate) dir = some d ∧ canonRoot <+: d ∧
      fileName (pathJoin root candidate) = some w ∧ h.tree.node (d ++ [w]) = some (.link target) ∧
      h.openPath true (d ++ [w]) = some q ∧ ¬ canonRoot <+: q

section Resolve

variable {h : Host} {root candidate : String} {canonRoot p : AbsPath}

/-- A name at the end of a path is a plain one. -/
theorem plain_fileName {path : String} {w : List Char} (hw : fileName path = some w) : Plain w := by
  obtain ⟨hlast, hup⟩ := Option.filter_eq_some_iff.mp hw
  have hmem := List.mem_of_getLast? hlast
  exact plain_of_mem_components hmem (by simpa using hup)

/-- What is located: a place that is there, or a name in the place of a directory. -/
theorem locate_eq_ok {joined : String} : locate h canonRoot joined = .ok p ↔
    h.canonicalize joined = some p ∨
      h.canonicalize joined = none ∧ ∃ dir d w, parent joined = some dir ∧
        h.canonicalizeParent joined dir = some d ∧ canonRoot <+: d ∧ fileName joined = some w ∧ p = d ++ [w] := by
  unfold locate
  split
  · rename_i c hc
    simp only [hc, Except.ok.injEq, Option.some.injEq, reduceCtorEq, false_and, or_false]
  · rename_i hnone
    simp only [bind_eq_ok, require_eq_ok, ensure_eq_ok, pure_eq_ok, hnone, reduceCtorEq, false_or, true_and]
    constructor
    · rintro ⟨dir, hdir, d, hd, _, hescape, w, hw, rfl⟩
      exact ⟨dir, d, w, hdir, hd, hescape, hw, rfl⟩
    · rintro ⟨dir, d, w, hdir, hd, hescape, hw, rfl⟩
      exact ⟨dir, hdir, d, hd, (), hescape, w, hw, rfl⟩

/-- What is taken: it passes the checks, and is located under the root. -/
theorem resolve_eq_ok (hroot : h.canonicalize root = some canonRoot) :
    resolve h root candidate = .ok p ↔ checkCandidate h.nfc candidate = .ok () ∧
      locate h canonRoot (pathJoin root candidate) = .ok p ∧ canonRoot <+: p := by
  unfold resolve
  simp only [bind_eq_ok, require_eq_ok, ensure_eq_ok, pure_eq_ok, hroot, Option.some.injEq]
  constructor
  · rintro ⟨u, hcheck, _, rfl, canon, hcanon, u', hunder, rfl⟩
    exact ⟨hcheck, hcanon, hunder⟩
  · rintro ⟨hcheck, hcanon, hunder⟩
    exact ⟨(), hcheck, canonRoot, rfl, p, hcanon, (), hunder, rfl⟩

/-- A name that is no link, in a directory under the root. -/
theorem contained_of_not_link {d : AbsPath} {w : List Char} (hd : h.tree.Solid d) (hunder : canonRoot <+: d)
    (hw : Plain w) (hlink : ∀ target, h.tree.node (d ++ [w]) ≠ some (.link target)) :
    Contained h canonRoot (d ++ [w]) := by
  have hbelow : canonRoot <+: d ++ [w] := hunder.trans (List.prefix_append d [w])
  refine ⟨hbelow, fun create q hq => ?_⟩
  have hwalk : h.tree.walk create h.maxLinks d [w] = some q := by
    have happend : h.tree.walk create h.maxLinks [] (d ++ [w]) = h.tree.walk create h.maxLinks ([] ++ d) [w] :=
      FileTree.walk_append hd
    exact happend.symm.trans hq
  by_cases hdir : h.tree.node d = some .dir
  · rw [FileTree.eq_of_walk hdir hw hlink hwalk]
    exact hbelow
  · rw [FileTree.walk_of_not_dir hdir] at hwalk
    exact absurd hwalk (by simp)

/-- **Containment** holds of exactly those candidates that do not end in a link that leads out unresolved. -/
theorem resolve_contained_iff (h : Host) (root candidate : String) (canonRoot : AbsPath)
    (hroot : h.canonicalize root = some canonRoot) :
    (∀ p, resolve h root candidate = .ok p → Contained h canonRoot p) ↔
      ¬ (checkCandidate h.nfc candidate = .ok () ∧ LeadsOut h root candidate canonRoot) := by
  constructor
  · rintro hcontained ⟨hcheck, hnone, dir, d, w, target, q, hdir, hd, hescape, hw, hlink, hopen, hout⟩
    have hlocate : locate h canonRoot (pathJoin root candidate) = .ok (d ++ [w]) :=
      locate_eq_ok.mpr (.inr ⟨hnone, dir, d, w, hdir, hd, hescape, hw, rfl⟩)
    have hok := (resolve_eq_ok hroot).mpr ⟨hcheck, hlocate, hescape.trans (List.prefix_append d [w])⟩
    exact hout ((hcontained _ hok).opens true q hopen)
  · intro hstays p hok
    obtain ⟨hcheck, hlocate, hunder⟩ := (resolve_eq_ok hroot).mp hok
    rcases locate_eq_ok.mp hlocate with hcanon | ⟨hnone, dir, d, w, hdir, hd, hescape, hw, rfl⟩
    · -- a place that is there is opened as itself
      refine ⟨hunder, fun create q hq => ?_⟩
      have hsolid : h.tree.Solid p := FileTree.canonicalize_solid h.cwd_dir hcanon
      obtain rfl := Option.some.inj ((FileTree.openPath_of_solid hsolid).symm.trans hq)
      exact hunder
    · have hsolid : h.tree.Solid d := FileTree.walk_solid (.inl (FileTree.dir_start h.cwd_dir _)) hd
      by_cases hlink : ∃ target, h.tree.node (d ++ [w]) = some (.link target)
      · -- opening the link leads under the root, or it would lead out
        obtain ⟨target, hlink⟩ := hlink
        have hcreate : ∀ q, h.openPath true (d ++ [w]) = some q → canonRoot <+: q := by
          intro q hq
          by_contra hout
          exact hstays ⟨hcheck, hnone, dir, d, w, target, q, hdir, hd, hescape, hw, hlink, hq, hout⟩
        refine ⟨hunder, fun create q hq => ?_⟩
        cases create with
        | true => exact hcreate q hq
        | false => exact hcreate q (FileTree.walk_create hq)
      · exact contained_of_not_link hsolid hescape (plain_fileName hw) (not_exists.mp hlink)

end Resolve

/-! ### A link to create outside -/

/-- A workspace with a link to a file that is not there yet. -/
def sampleTree : FileTree :=
  .ofTable
    (Table.ofList [([], .dir), (["ws".toList], .dir), (["etc".toList], .dir),
      (["ws".toList, "out".toList], .link "/etc/new")])
    (by decide +kernel) (by decide +kernel)

def sampleHost : Host where
  tree := sampleTree
  cwd := []
  maxLinks := 40
  ioError := fun _ => "No such file or directory (os error 2)"
  nfc := id
  cwd_dir := sampleTree.root

/-- An artifact that is not there yet. -/
theorem resolve_contained_artifact : Contained sampleHost ["ws".toList] ["ws".toList, "notes.md".toList] := by
  have hresolved : resolve sampleHost "/ws" "notes.md" = .ok ["ws".toList, "notes.md".toList] := by decide +kernel
  refine (resolve_contained_iff sampleHost "/ws" "notes.md" ["ws".toList] (by decide +kernel)).mpr ?_ _ hresolved
  rintro ⟨-, -, dir, d, w, target, q, hdir, hd, -, hw, hlink, -⟩
  obtain rfl : ["ws".toList] = dir := Option.some.inj hdir
  obtain rfl : ["ws".toList] = d := Option.some.inj ((by decide +kernel : sampleHost.canonicalizeParent
    (pathJoin "/ws" "notes.md") ["ws".toList] = some ["ws".toList]).symm.trans hd)
  obtain rfl : "notes.md".toList = w := Option.some.inj hw
  have hnone : sampleHost.tree.node (["ws".toList] ++ ["notes.md".toList]) = none := by decide +kernel
  exact absurd (hnone.symm.trans hlink) (by simp)

/-- **Not of every candidate**: the link is taken by its name, and creating it creates the file outside. -/
theorem not_resolve_contained :
    ¬ ∀ (h : Host) (root candidate : String) (canonRoot p : AbsPath), h.canonicalize root = some canonRoot →
      h.tree.node canonRoot = some .dir → resolve h root candidate = .ok p → Contained h canonRoot p := by
  intro h
  have hcontained := h sampleHost "/ws" "out" ["ws".toList] ["ws".toList, "out".toList] (by decide +kernel)
    (by decide +kernel) (by decide +kernel)
  exact absurd (hcontained.opens true ["etc".toList, "new".toList] (by decide +kernel)) (by decide +kernel)

end Cliptown.Sandbox
