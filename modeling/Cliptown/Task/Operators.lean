import Cliptown.Lib.Table
import Mathlib.Data.Nat.Notation

/-!
# Operators

* `OperatorRole`, `OperatorIdentity` — the roles, and whom a token stands for.
* `Operator` — a row of `operators`.
-/

namespace Cliptown.Task

open Cliptown.Lib

/-- Source: `auth.rs` `OperatorRole` -/
inductive OperatorRole where
  | viewer
  | manager
  | admin
  deriving DecidableEq, Repr

namespace OperatorRole

/-- Source: `auth.rs` `OperatorRole::from_str` -/
def ofStr : String → Option OperatorRole
  | "viewer" => some viewer
  | "manager" => some manager
  | "admin" => some admin
  | _ => none

/-- Source: `auth.rs` `OperatorRole::as_str` -/
def asStr : OperatorRole → String
  | viewer => "viewer"
  | manager => "manager"
  | admin => "admin"

/-- The discriminant. -/
def rank : OperatorRole → ℕ
  | viewer => 0
  | manager => 1
  | admin => 2

/-- Source: `auth.rs` `OperatorRole::at_least` -/
def atLeast (role other : OperatorRole) : Bool :=
  other.rank ≤ role.rank

/-- What a role may do, a higher role may do. -/
theorem atLeast_trans {a b c : OperatorRole} (h : a.atLeast b) (h' : b.atLeast c) :
    a.atLeast c := by
  simp only [atLeast, decide_eq_true_eq] at *
  omega

/-- Every role is at least the lowest. -/
theorem atLeast_viewer (role : OperatorRole) : role.atLeast .viewer :=
  decide_eq_true (Nat.zero_le _)

end OperatorRole

/-- Source: `auth.rs` `OperatorIdentity` -/
structure OperatorIdentity where
  id : String
  name : String
  role : OperatorRole
  deriving DecidableEq, Repr

/-- A row of `operators`; the `CHECK` of the table keeps the role to the three names. A row from before
the tokens were hashed has its token in plain text. Source: `migrations/0003_operators.sql`, `0009` -/
structure Operator where
  name : String
  role : OperatorRole
  token : Option String
  tokenHash : Option String
  deriving DecidableEq, Repr

end Cliptown.Task
