import Cliptown.Town.Layout

/-!
# The world view

* `AvatarView`, `WorldView` — the in-memory state that the world loop owns.
* `WorldView.setAvatar` — change one avatar in place, with how it reads back.
-/

namespace Cliptown.World

open Cliptown.Lib Cliptown.Town

/-- Whether the scheduler may hand the avatar a task. Source: the strings `"idle"` and `"working"`,
the only ones that are ever written to `AvatarView::status` -/
inductive AvatarStatus where
  | idle
  | working
  deriving DecidableEq, Repr

/-- Source: `state.rs` `AvatarView` -/
structure AvatarView where
  agentId : String
  startupId : String
  role : String
  currentPos : Tile
  targetPos : Option Tile
  roomId : String
  status : AvatarStatus
  deriving DecidableEq, Repr

/-- The columns that say whose avatar it is. -/
def AvatarView.identity (a : AvatarView) : String × String × String :=
  (a.agentId, a.startupId, a.role)

/-- Source: `state.rs` `WorldView` -/
structure WorldView where
  avatars : Table String AvatarView

namespace WorldView

/-- Change the avatar of one agent, if it has one. Source: `world.avatars.get_mut(id)` -/
def setAvatar (w : WorldView) (id : String) (f : AvatarView → AvatarView) : WorldView where
  avatars := w.avatars.modify id f

@[simp]
theorem lookup_setAvatar_self (w : WorldView) (id : String) (f : AvatarView → AvatarView) :
    (w.setAvatar id f).avatars.lookup id = (w.avatars.lookup id).map f :=
  Table.lookup_modify_self _ _ _

theorem lookup_setAvatar_ne (w : WorldView) {id other : String} (h : other ≠ id)
    (f : AvatarView → AvatarView) :
    (w.setAvatar id f).avatars.lookup other = w.avatars.lookup other :=
  Table.lookup_modify_ne _ h _

/-- The same avatars, of the same agents. -/
def SameAvatars (w w' : WorldView) : Prop :=
  ∀ key, (w'.avatars.lookup key).map AvatarView.identity =
    (w.avatars.lookup key).map AvatarView.identity

theorem SameAvatars.refl (w : WorldView) : SameAvatars w w :=
  fun _ => rfl

/-- An avatar afterwards is that of the same agent before. -/
theorem SameAvatars.of_lookup {w w' : WorldView} (h : SameAvatars w w') {key : String}
    {a' : AvatarView} (ha : w'.avatars.lookup key = some a') :
    ∃ a, w.avatars.lookup key = some a ∧ a.identity = a'.identity := by
  have hmap := h key
  rw [ha] at hmap
  exact Option.map_eq_some_iff.mp hmap.symm

/-- Changing an avatar in other columns. -/
theorem sameAvatars_setAvatar {w : WorldView} {id : String} {f : AvatarView → AvatarView}
    (hf : ∀ a, (f a).identity = a.identity) : SameAvatars w (w.setAvatar id f) := by
  intro key
  by_cases hkey : key = id
  · rw [hkey, lookup_setAvatar_self, Option.map_map,
      show AvatarView.identity ∘ f = AvatarView.identity from funext hf]
  · rw [lookup_setAvatar_ne w hkey]

end WorldView

end Cliptown.World
