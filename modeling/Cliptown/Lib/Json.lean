import Mathlib.Data.Rat.Defs

/-!
# JSON values

* `Json` — a JSON value; an object holds each key once.
* `get`, `asStr`, `asBool`, `asI64`, `isNull` — the partial accessors, `none` on a value of another
  type. `asI64` also refuses what does not fit 64 bits.
* `ofOption` — an absent value as `null`.
* `get_of_mem` — the fields of an object are found under their keys.
-/

namespace Cliptown.Lib

/-- A JSON value. -/
inductive Json where
  | null
  | bool (b : Bool)
  | int (n : ℤ)
  | float (q : ℚ)
  | str (s : String)
  | arr (items : List Json)
  | obj (fields : List (String × Json))

namespace Json

/-- The value of a key of an object. -/
def get (v : Json) (key : String) : Option Json :=
  match v with
  | .obj fields => (fields.find? fun f => f.1 = key).map Prod.snd
  | _ => none

/-- The text of a string. -/
def asStr : Json → Option String
  | .str s => some s
  | _ => none

/-- The value of a boolean. -/
def asBool : Json → Option Bool
  | .bool b => some b
  | _ => none

/-- The value of an integer that fits 64 bits with sign. -/
def asI64 : Json → Option ℤ
  | .int n => if -0x8000000000000000 ≤ n ∧ n < 0x8000000000000000 then some n else none
  | _ => none

/-- Whether a value is `null`. -/
def isNull : Json → Bool
  | .null => true
  | _ => false

/-- An absent value is `null`. -/
def ofOption {α : Type*} (f : α → Json) : Option α → Json
  | some a => f a
  | none => .null

/-- The text under a key of an object. -/
def getStr (v : Json) (key : String) : Option String :=
  (v.get key).bind asStr

/-- Where the keys of an object are different, each of its fields is found. -/
theorem get_of_mem {fields : List (String × Json)} {f : String × Json}
    (hkeys : (fields.map Prod.fst).Nodup) (hf : f ∈ fields) : (Json.obj fields).get f.1 = some f.2 := by
  have hfind : fields.find? (fun g => g.1 = f.1) = some f := by
    induction fields with
    | nil => exact absurd hf List.not_mem_nil
    | cons g fields ih =>
        obtain ⟨hnew, hkeys⟩ := List.nodup_cons.mp hkeys
        rw [List.find?_cons]
        rcases List.mem_cons.mp hf with rfl | hf
        · simp
        · have hne : g.1 ≠ f.1 := fun heq => hnew (heq ▸ List.mem_map_of_mem hf)
          simpa [hne] using ih hkeys hf
  simp only [get, hfind, Option.map_some]

end Json

end Cliptown.Lib
