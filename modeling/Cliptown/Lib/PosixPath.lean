import Mathlib.Data.List.Basic

/-!
# POSIX paths

Lexical resolution of slash-separated paths.

* `splitSlash`, `components` — the components of a path, without empty ones and dots.
* `AbsPath`, `resolve`, `join` — absolute paths as lists of components, and how a path resolves
  from one, with `..` going up.
* `Plain` — a component that is none of the special ones; `resolve_plain` and `join_plain` say that
  plain components are appended.
-/

namespace Cliptown.Lib.PosixPath

/-- Split at the slashes. -/
def splitSlash : List Char → List (List Char)
  | [] => [[]]
  | c :: cs =>
      if c = '/' then [] :: splitSlash cs
      else
        match splitSlash cs with
        | [] => [[c]]
        | w :: ws => (c :: w) :: ws

/-- The components of a path that matter: no empty ones, no dots. -/
def components (p : String) : List (List Char) :=
  (splitSlash p.toList).filter fun w => w ≠ [] ∧ w ≠ ['.']

/-- An absolute path in normal form, as its components from the root. -/
abbrev AbsPath := List (List Char)

/-- Go to a component, `..` going up. -/
def push (base : AbsPath) (w : List Char) : AbsPath :=
  if w = ['.', '.'] then base.dropLast else base ++ [w]

/-- Resolve a path from a directory; an absolute path starts at the root. -/
def resolve (base : AbsPath) (p : String) : AbsPath :=
  (components p).foldl push (if p.toList.head? = some '/' then [] else base)

/-- Join path segments to a directory; a leading slash of a segment does not matter. -/
def join (base : AbsPath) (segments : List String) : AbsPath :=
  segments.foldl (fun b s => (components s).foldl push b) base

/-- A component without slashes that is neither empty, nor a dot, nor two dots. -/
structure Plain (w : List Char) : Prop where
  ne_nil : w ≠ []
  ne_dot : w ≠ ['.']
  ne_dotdot : w ≠ ['.', '.']
  no_slash : '/' ∉ w

instance (w : List Char) : Decidable (Plain w) :=
  decidable_of_iff (w ≠ [] ∧ w ≠ ['.'] ∧ w ≠ ['.', '.'] ∧ '/' ∉ w)
    ⟨fun h => ⟨h.1, h.2.1, h.2.2.1, h.2.2.2⟩, fun h => ⟨h.1, h.2, h.3, h.4⟩⟩

section Plain

variable {w : List Char} {rest : List Char} {base : AbsPath}

/-- A word without slashes is one component. -/
theorem splitSlash_of_no_slash (h : '/' ∉ w) : splitSlash w = [w] := by
  induction w with
  | nil => rfl
  | cons c w ih =>
      rw [List.mem_cons, not_or] at h
      rw [splitSlash, if_neg (Ne.symm h.1), ih h.2]

/-- The first component ends at the first slash. -/
theorem splitSlash_append (h : '/' ∉ w) :
    splitSlash (w ++ '/' :: rest) = w :: splitSlash rest := by
  induction w with
  | nil => rw [List.nil_append, splitSlash, if_pos rfl]
  | cons c w ih =>
      rw [List.mem_cons, not_or] at h
      rw [List.cons_append, splitSlash, if_neg (Ne.symm h.1), ih h.2]

/-- No component has a slash. -/
theorem no_slash_of_mem_splitSlash {cs : List Char} : ∀ {v : List Char}, v ∈ splitSlash cs → '/' ∉ v := by
  induction cs with
  | nil =>
      intro v hv
      rw [splitSlash, List.mem_singleton] at hv
      rw [hv]
      exact List.not_mem_nil
  | cons c cs ih =>
      intro v hv
      rw [splitSlash] at hv
      split at hv
      · rcases List.mem_cons.mp hv with rfl | hv
        · exact List.not_mem_nil
        · exact ih hv
      · rename_i hc
        rcases hsplit : splitSlash cs with _ | ⟨u, us⟩
        · rw [hsplit, List.mem_singleton] at hv
          rw [hv, List.mem_singleton]
          exact Ne.symm hc
        · rw [hsplit] at hv ih
          rcases List.mem_cons.mp hv with rfl | hv
          · rw [List.mem_cons, not_or]
            exact ⟨Ne.symm hc, ih List.mem_cons_self⟩
          · exact ih (List.mem_cons_of_mem u hv)

/-- The components of a path are plain, but for those that go up. -/
theorem plain_of_mem_components {p : String} (h : w ∈ components p) (hup : w ≠ ['.', '.']) : Plain w := by
  obtain ⟨hmem, hkept⟩ := List.mem_filter.mp h
  simp only [decide_eq_true_eq] at hkept
  exact ⟨hkept.1, hkept.2, hup, no_slash_of_mem_splitSlash hmem⟩

/-- Words separated by slashes. -/
def slashed : List (List Char) → List Char
  | [] => []
  | [w] => w
  | w :: v :: ws => w ++ '/' :: slashed (v :: ws)

/-- Splitting undoes separating. -/
theorem splitSlash_slashed {ws : List (List Char)} (hne : ws ≠ []) (h : ∀ w ∈ ws, '/' ∉ w) :
    splitSlash (slashed ws) = ws := by
  induction ws with
  | nil => exact absurd rfl hne
  | cons w ws ih =>
      rcases ws with _ | ⟨v, ws⟩
      · exact splitSlash_of_no_slash (h w List.mem_cons_self)
      · rw [slashed, splitSlash_append (h w List.mem_cons_self),
          ih (by simp) fun u hu => h u (List.mem_cons_of_mem w hu)]

/-- The components of plain words separated by slashes are the words. -/
theorem components_slashed {p : String} {ws : List (List Char)} (hp : p.toList = slashed ws)
    (hne : ws ≠ []) (h : ∀ w ∈ ws, Plain w) : components p = ws := by
  unfold components
  rw [hp, splitSlash_slashed hne fun w hw => (h w hw).no_slash, List.filter_eq_self]
  intro w hw
  simp [(h w hw).ne_nil, (h w hw).ne_dot]

/-- Plain components are appended. -/
theorem foldl_push {ws : List (List Char)} (h : ∀ w ∈ ws, Plain w) :
    ws.foldl push base = base ++ ws := by
  induction ws generalizing base with
  | nil => simp
  | cons w ws ih =>
      have hpush : push base w = base ++ [w] := if_neg (h w List.mem_cons_self).ne_dotdot
      rw [List.foldl_cons, hpush, ih fun u hu => h u (List.mem_cons_of_mem w hu)]
      simp

/-- The first character of plain words separated by slashes is no slash. -/
theorem head?_slashed {v : List Char} {ws : List (List Char)} (hv : Plain v) :
    (slashed (v :: ws)).head? ≠ some '/' := by
  obtain ⟨c, v', rfl⟩ := List.exists_cons_of_ne_nil hv.ne_nil
  have hc : c ≠ '/' := by
    rintro rfl
    exact hv.no_slash List.mem_cons_self
  cases ws with
  | nil => simpa [slashed] using hc
  | cons u ws => simpa [slashed] using hc

/-- **A relative path of plain components is appended to the directory.** -/
theorem resolve_plain {p : String} {v : List Char} {ws : List (List Char)}
    (hp : p.toList = slashed (v :: ws)) (h : ∀ w ∈ v :: ws, Plain w) :
    resolve base p = base ++ v :: ws := by
  unfold resolve
  rw [hp, if_neg (head?_slashed (h v List.mem_cons_self)), components_slashed hp (by simp) h,
    foldl_push h]

/-- **Plain segments are appended to the directory.** -/
theorem join_plain {segments : List String} (h : ∀ s ∈ segments, Plain s.toList) :
    join base segments = base ++ segments.map String.toList := by
  unfold join
  induction segments generalizing base with
  | nil => simp
  | cons s segments ih =>
      have hs : components s = [s.toList] :=
        components_slashed rfl (by simp) (by simpa using h s List.mem_cons_self)
      have hpush : [s.toList].foldl push base = base ++ [s.toList] :=
        foldl_push (by simpa using h s List.mem_cons_self)
      rw [List.foldl_cons, hs, hpush, ih fun t ht => h t (List.mem_cons_of_mem s ht)]
      simp

end Plain

end Cliptown.Lib.PosixPath
