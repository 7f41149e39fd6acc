import Cliptown.Lib.PosixPath
import Mathlib.Data.List.Infix
import Mathlib.Logic.Function.Basic

/-!
# Writing files

Directories, files with their contents and symbolic links, and what writing does to them.

* `Disk` — what is at each place below the root.
* `mkdirAll`, `writeFile`, `symlink` — the operations; none follows a link.
* `Dirs` — a place is a directory, and so is everything above it; `mkdirAll_of_dirs`, `mkdirAll_concat`.
* `writeFile_eq` — a file is written in a directory.
* `writeFiles_spec` — several files with different names in one directory.
-/

namespace Cliptown.Lib

open PosixPath

inductive Entry where
  | dir
  | file (content : String)
  | link (target : AbsPath)
  deriving DecidableEq

/-- What is at each place. The root is not listed, and is a directory. -/
abbrev Disk := AbsPath → Option Entry

namespace Disk

def IsDir (d : Disk) (p : AbsPath) : Prop := p = [] ∨ d p = some .dir

instance (d : Disk) (p : AbsPath) : Decidable (d.IsDir p) := inferInstanceAs (Decidable (_ ∨ _))

/-- Put something at a place. -/
def set (d : Disk) (p : AbsPath) (e : Entry) : Disk := Function.update d p (some e)

/-- Make the directories below one that is there. -/
def mkdirFrom (d : Disk) (cur : AbsPath) : List (List Char) → Option Disk
  | [] => some d
  | w :: ws =>
      match d (cur ++ [w]) with
      | none => mkdirFrom (d.set (cur ++ [w]) .dir) (cur ++ [w]) ws
      | some .dir => mkdirFrom d (cur ++ [w]) ws
      | some _ => none

/-- Make a directory and those above it. -/
def mkdirAll (d : Disk) (p : AbsPath) : Option Disk := mkdirFrom d [] p

/-- Write a file, over the one that is there. -/
def writeFile (d : Disk) (p : AbsPath) (content : String) : Option Disk :=
  if p ≠ [] ∧ d.IsDir p.dropLast then
    match d p with
    | none | some (.file _) => some (d.set p (.file content))
    | some _ => none
  else none

/-- Make a link, or find it. -/
def symlink (d : Disk) (p target : AbsPath) : Option Disk :=
  if p ≠ [] ∧ d.IsDir p.dropLast then
    match d p with
    | none => some (d.set p (.link target))
    | some (.link existing) => if existing = target then some d else none
    | some _ => none
  else none

/-- Files in one directory. -/
def writeFiles (dir : AbsPath) (files : List (String × String)) (d : Disk) : Option Disk :=
  files.foldlM (fun d f => d.writeFile (join dir [f.1]) f.2) d

/-- The place and all above it are directories. -/
def Dirs (d : Disk) (p : AbsPath) : Prop := ∀ q, q ≠ [] → q <+: p → d q = some .dir

variable {d : Disk} {p q dir : AbsPath} {w : List Char} {e : Entry}

@[simp] theorem set_self : d.set p e p = some e := Function.update_self _ _ _

@[simp] theorem set_of_ne (h : q ≠ p) : d.set p e q = d q := Function.update_of_ne h _ _

theorem Dirs.isDir (h : d.Dirs p) : d.IsDir p := by
  by_cases hp : p = []
  · exact .inl hp
  · exact .inr (h p hp (List.prefix_refl p))

theorem Dirs.of_prefix (h : d.Dirs p) (hq : q <+: p) : d.Dirs q :=
  fun r hr hrq => h r hr (hrq.trans hq)

/-- What is written elsewhere leaves directories alone. -/
theorem Dirs.congr {d' : Disk} (h : d.Dirs p) (heq : ∀ q, q <+: p → d' q = d q) : d'.Dirs p :=
  fun q hq hqp => (heq q hqp).trans (h q hq hqp)

/-- What is above a place is not below it. -/
theorem ne_below_of_above {rest : AbsPath} (h : q <+: p) : q ≠ p ++ w :: rest := by
  rintro rfl
  exact absurd h.length_le (by simp)

theorem Dirs.set_below (h : d.Dirs p) : (d.set (p ++ [w]) e).Dirs p :=
  h.congr fun _ hq => set_of_ne (ne_below_of_above hq)

/-- A directory made in a directory. -/
theorem Dirs.set_dir (h : d.Dirs p) : (d.set (p ++ [w]) .dir).Dirs (p ++ [w]) := by
  intro q hq hprefix
  rcases List.prefix_concat_iff.mp hprefix with rfl | hprefix
  · exact set_self
  · exact (set_of_ne (ne_below_of_above hprefix)).trans (h q hq hprefix)

/-! ### Directories -/

theorem mkdirFrom_of_dirs {cur ws : List (List Char)} (h : d.Dirs (cur ++ ws)) :
    mkdirFrom d cur ws = some d := by
  induction ws generalizing cur with
  | nil => rfl
  | cons w ws ih =>
      have hword : cur ++ w :: ws = (cur ++ [w]) ++ ws := by simp
      rw [hword] at h
      have hdir := h (cur ++ [w]) (by simp) (List.prefix_append _ _)
      simp only [mkdirFrom, hdir]
      exact ih h

/-- A directory that is there. -/
theorem mkdirAll_of_dirs (h : d.Dirs p) : d.mkdirAll p = some d := mkdirFrom_of_dirs (by simpa using h)

theorem mkdirFrom_append {cur ws vs : List (List Char)} :
    mkdirFrom d cur (ws ++ vs) = (mkdirFrom d cur ws).bind fun d => mkdirFrom d (cur ++ ws) vs := by
  induction ws generalizing d cur with
  | nil => simp [mkdirFrom]
  | cons w ws ih =>
      simp only [List.cons_append, mkdirFrom]
      split
      · rw [ih]
        simp
      · rw [ih]
        simp
      · rfl

/-- A new directory in one that is there. -/
theorem mkdirAll_concat (h : d.Dirs dir) (hnone : d (dir ++ [w]) = none) :
    d.mkdirAll (dir ++ [w]) = some (d.set (dir ++ [w]) .dir) := by
  rw [mkdirAll, mkdirFrom_append, mkdirFrom_of_dirs (by simpa using h), Option.bind_some,
    List.nil_append, mkdirFrom, hnone]
  rfl

/-! ### Files -/

/-- A new file in a directory. -/
theorem writeFile_eq {content : String} (h : d.IsDir dir) (hnone : d (dir ++ [w]) = none) :
    d.writeFile (dir ++ [w]) content = some (d.set (dir ++ [w]) (.file content)) := by
  have hdir : dir ++ [w] ≠ [] ∧ d.IsDir (dir ++ [w]).dropLast := ⟨by simp, by simpa using h⟩
  simp only [writeFile, if_pos hdir, hnone]

theorem symlink_eq {target : AbsPath} (h : d.IsDir dir) (hnone : d (dir ++ [w]) = none) :
    d.symlink (dir ++ [w]) target = some (d.set (dir ++ [w]) (.link target)) := by
  have hdir : dir ++ [w] ≠ [] ∧ d.IsDir (dir ++ [w]).dropLast := ⟨by simp, by simpa using h⟩
  simp only [symlink, if_pos hdir, hnone]

/-- New files with different names: each has its content, and nothing else changes. -/
theorem writeFiles_spec {files : List (String × String)} (h : d.IsDir dir)
    (hplain : ∀ f ∈ files, Plain f.1.toList) (hnodup : (files.map Prod.fst).Nodup)
    (hnone : ∀ f ∈ files, d (dir ++ [f.1.toList]) = none) :
    ∃ d', writeFiles dir files d = some d' ∧
      (∀ f ∈ files, d' (dir ++ [f.1.toList]) = some (.file f.2)) ∧
        ∀ p, (∀ f ∈ files, p ≠ dir ++ [f.1.toList]) → d' p = d p := by
  induction files generalizing d with
  | nil => exact ⟨d, rfl, by simp, fun _ _ => rfl⟩
  | cons f files ih =>
      rw [List.map_cons, List.nodup_cons] at hnodup
      rw [List.forall_mem_cons] at hplain hnone
      have hne : ∀ g ∈ files, dir ++ [g.1.toList] ≠ dir ++ [f.1.toList] := by
        intro g hg heq
        have hname : g.1 = f.1 := String.toList_inj.mp (by simpa using heq)
        exact hnodup.1 (hname ▸ List.mem_map_of_mem hg)
      have hself : dir ≠ dir ++ [f.1.toList] := by simp
      have hdir : (d.set (dir ++ [f.1.toList]) (.file f.2)).IsDir dir :=
        h.imp_right fun hd => (set_of_ne hself).trans hd
      obtain ⟨d', hrun, hfiles, hframe⟩ := ih hdir hplain.2 hnodup.2 fun g hg =>
        (set_of_ne (hne g hg)).trans (hnone.2 g hg)
      refine ⟨d', ?_, ?_, fun p hp => ?_⟩
      · have hjoin : join dir [f.1] = dir ++ [f.1.toList] := join_plain (by simpa using hplain.1)
        rw [writeFiles, List.foldlM_cons, hjoin, writeFile_eq h hnone.1]
        exact hrun
      · rw [List.forall_mem_cons]
        exact ⟨(hframe _ fun g hg => (hne g hg).symm).trans set_self, hfiles⟩
      · rw [List.forall_mem_cons] at hp
        exact (hframe p hp.2).trans (set_of_ne hp.1)

end Disk

end Cliptown.Lib
