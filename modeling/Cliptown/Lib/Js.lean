import Cliptown.Lib.Json

/-!
# JavaScript operators on JSON values

* `truthy` — what a condition makes of a value.
* `isWhitespace` — what `trim` takes off the ends of a string.
* `asNumber`, `valueOr` — `typeof v === "number"` and `v ?? default`.
* `Numbers` — how numbers are added and written, left open.
* `toText`, `toPrim` — the conversions of `String(v)` and of an operand of `+`; both throw on an
  object with a key of its own named `toString`, since no JSON value can be called, also where the
  object is an element of an array.
* `convertible` — the values that convert.
* `orZero`, `plus` — `v ?? 0` and `a + b`.
* `isSome_toPrim`, `isSome_orZero` — a value converts if and only if it is convertible.
-/

namespace Cliptown.Lib.Js

/-- What a condition makes of a value. -/
def truthy : Json → Bool
  | .null => false
  | .bool b => b
  | .int n => n ≠ 0
  | .float q => q ≠ 0
  | .str s => s ≠ ""
  | .arr _ => true
  | .obj _ => true

/-- What `trim` takes off the ends of a string. -/
def isWhitespace (c : Char) : Bool :=
  c ∈ ['\t', '\n', '\x0B', '\x0C', '\r', ' ', '\u00A0', '\u1680', '\u2028', '\u2029', '\u202F', '\u205F',
    '\u3000', '\uFEFF'] || ('\u2000' ≤ c && c ≤ '\u200A')

/-- The number, where `typeof` says that the value is one. -/
def asNumber : Json → Option ℚ
  | .int n => some n
  | .float q => some q
  | _ => none

/-- `v ?? default`. -/
def valueOr (v : Option Json) (default : Json) : Json :=
  match v with
  | some .null => default
  | some v => v
  | none => default

/-- How numbers are added and written. -/
structure Numbers where
  add : ℚ → ℚ → ℚ
  text : ℚ → String

variable (num : Numbers)

/-- A value that is no object. -/
inductive Prim where
  | bool (b : Bool)
  | num (q : ℚ)
  | str (s : String)
  deriving DecidableEq

/-- The object has a key of its own named `toString`. -/
def shadowsToString (fields : List (String × Json)) : Bool := fields.any fun f => f.1 = "toString"

mutual

/-- `String(v)`; `none` where it throws. -/
def toText : Json → Option String
  | .null => some "null"
  | .bool b => some (if b then "true" else "false")
  | .int n => some (num.text n)
  | .float q => some (num.text q)
  | .str s => some s
  | .arr items => (elementTexts items).map (String.intercalate ",")
  | .obj fields => if shadowsToString fields then none else some "[object Object]"

/-- The texts of the elements of an array, `null` as nothing. -/
def elementTexts : List Json → Option (List String)
  | [] => some []
  | item :: items =>
    match toText item, elementTexts items with
    | some text, some texts => some ((if item.isNull then "" else text) :: texts)
    | _, _ => none

end

/-- An operand of `+`; `none` where the conversion throws. -/
def toPrim : Json → Option Prim
  | .null => some (.num 0)
  | .bool b => some (.bool b)
  | .int n => some (.num n)
  | .float q => some (.num q)
  | .str s => some (.str s)
  | .arr items => (toText num (.arr items)).map .str
  | .obj fields => (toText num (.obj fields)).map .str

/-- `v ?? 0` as an operand of `+`. -/
def orZero : Option Json → Option Prim
  | none => some (.num 0)
  | some v => toPrim num v

/-- The value of an operand. -/
def Prim.json : Prim → Json
  | .bool b => .bool b
  | .num q => .float q
  | .str s => .str s

/-- The text of an operand of a concatenation. -/
def Prim.text : Prim → String
  | .bool b => if b then "true" else "false"
  | .num q => num.text q
  | .str s => s

/-- The number of an operand of a sum. -/
def Prim.number : Prim → ℚ
  | .bool b => if b then 1 else 0
  | .num q => q
  | .str _ => 0

/-- `a + b`: a concatenation where an operand is a string, a sum otherwise. -/
def plus (a b : Prim) : Prim :=
  match a, b with
  | .str s, b => .str (s ++ b.text num)
  | a, .str t => .str (a.text num ++ t)
  | a, b => .num (num.add a.number b.number)

mutual

/-- The value converts. -/
def convertible : Json → Bool
  | .obj fields => !shadowsToString fields
  | .arr items => allConvertible items
  | _ => true

/-- Each of the values converts. -/
def allConvertible : List Json → Bool
  | [] => true
  | item :: items => convertible item && allConvertible items

end

mutual

theorem isSome_toText : ∀ v, (toText num v).isSome = convertible v
  | .null => rfl
  | .bool _ => rfl
  | .int _ => rfl
  | .float _ => rfl
  | .str _ => rfl
  | .arr items => by rw [toText, convertible, Option.isSome_map, isSome_elementTexts items]
  | .obj fields => by
    rw [toText, convertible]
    cases shadowsToString fields <;> rfl

theorem isSome_elementTexts : ∀ items, (elementTexts num items).isSome = allConvertible items
  | [] => rfl
  | item :: items => by
    rw [allConvertible, ← isSome_toText item, ← isSome_elementTexts items, elementTexts]
    cases toText num item <;> cases elementTexts num items <;> rfl

end

theorem isSome_toPrim (v : Json) : (toPrim num v).isSome = convertible v := by
  cases v with
  | arr items => rw [toPrim, Option.isSome_map, isSome_toText]
  | obj fields => rw [toPrim, Option.isSome_map, isSome_toText]
  | _ => rfl

theorem isSome_orZero (v : Option Json) : (orZero num v).isSome = v.all convertible := by
  cases v with
  | none => rfl
  | some v => exact isSome_toPrim num v

end Cliptown.Lib.Js
