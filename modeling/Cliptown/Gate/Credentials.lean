import Cliptown.Task.State

/-!
# The credentials of an agent

* `stripPrefix`, `splitOnce` — how a text is taken apart; `stripPrefix_eq_some_iff`, `splitOnce_eq_some_iff`.
* `headerText`, `bearer` — the text of a header, and the two halves of a bearer token.
* `validateAgentSecret` — whether a secret is that of an agent; `validateAgentSecret_isOk_iff`.
* `bearerOf`, `bearer_bearerOf` — the header that a worker sends, and how it is read.
-/

namespace Cliptown.Gate

open Cliptown.Lib Cliptown.Task

/-! ### Taking texts apart -/

/-- What follows a prefix. Source: `str::strip_prefix` -/
def stripPrefix (pre s : String) : Option String :=
  if pre.toList <+: s.toList then some (String.ofList (s.toList.drop pre.length)) else none

/-- The parts around the first occurrence of a letter. -/
def splitFirst (c : Char) : List Char → Option (List Char × List Char)
  | [] => none
  | d :: rest => if d = c then some ([], rest) else (splitFirst c rest).map fun parts => (d :: parts.1, parts.2)

/-- Source: `str::split_once` -/
def splitOnce (c : Char) (s : String) : Option (String × String) :=
  (splitFirst c s.toList).map fun parts => (String.ofList parts.1, String.ofList parts.2)

/-- A prefix that is there. -/
theorem stripPrefix_eq_some_iff {pre s rest : String} : stripPrefix pre s = some rest ↔ s = pre ++ rest := by
  unfold stripPrefix
  constructor
  · intro h
    split at h
    · rename_i hprefix
      obtain rfl := Option.some.inj h
      obtain ⟨tail, htail⟩ := hprefix
      apply String.toList_injective
      simp [← htail, String.length_toList.symm]
    · exact absurd h (by simp)
  · rintro rfl
    simp [String.length_toList.symm]

/-- What stands before the first occurrence does not hold the letter. -/
theorem splitFirst_eq_some_iff {c : Char} {l a b : List Char} :
    splitFirst c l = some (a, b) ↔ c ∉ a ∧ l = a ++ c :: b := by
  induction l generalizing a with
  | nil => simp [splitFirst]
  | cons d rest ih =>
    by_cases hd : d = c
    · rw [splitFirst, if_pos hd]
      rcases a with _ | ⟨x, a⟩
      · simp [hd, eq_comm]
      · constructor
        · intro h
          exact absurd h (by simp)
        · rintro ⟨hnot, heq⟩
          obtain ⟨rfl, -⟩ := List.cons.inj heq
          exact absurd List.mem_cons_self (hd ▸ hnot)
    · rw [splitFirst, if_neg hd]
      rcases a with _ | ⟨x, a⟩
      · simp [hd]
      · simp only [Option.map_eq_some_iff, Prod.exists, Prod.mk.injEq, List.cons.injEq, List.cons_append,
          List.mem_cons, not_or]
        constructor
        · rintro ⟨a', b', h, ⟨rfl, rfl⟩, rfl⟩
          obtain ⟨hnot, rfl⟩ := ih.mp h
          exact ⟨⟨fun h => hd h.symm, hnot⟩, rfl, rfl⟩
        · rintro ⟨⟨-, hnot⟩, rfl, rfl⟩
          exact ⟨a, b, ih.mpr ⟨hnot, rfl⟩, ⟨rfl, rfl⟩, rfl⟩

/-- A text without the letter has no parts. -/
theorem splitFirst_eq_none {c : Char} {l : List Char} (h : splitFirst c l = none) : c ∉ l := by
  induction l with
  | nil => exact List.not_mem_nil
  | cons d rest ih =>
    rw [splitFirst] at h
    split at h
    · exact absurd h (by simp)
    · rename_i hne
      have hrest := ih (Option.map_eq_none_iff.mp h)
      exact fun hmem => (List.mem_cons.mp hmem).elim (fun heq => hne heq.symm) hrest

theorem splitOnce_eq_some_iff {c : Char} {s a b : String} :
    splitOnce c s = some (a, b) ↔ c ∉ a.toList ∧ s.toList = a.toList ++ c :: b.toList := by
  unfold splitOnce
  rw [← splitFirst_eq_some_iff, Option.map_eq_some_iff]
  constructor
  · rintro ⟨⟨x, y⟩, h, heq⟩
    obtain ⟨rfl, rfl⟩ := Prod.mk.inj heq
    simpa using h
  · intro h
    exact ⟨_, h, by simp⟩

/-! ### Bearer tokens -/

/-- A text that a header can carry. -/
def Visible (s : String) : Prop :=
  ∀ c ∈ s.toList, ('\x20' ≤ c ∧ c < '\x7F') ∨ c = '\t'

instance (s : String) : Decidable (Visible s) :=
  List.decidableBAll _ _

/-- What can be read of a header as text. Source: `http::HeaderValue::to_str` -/
def headerText (value : String) : Option String :=
  if Visible value then some value else none

/-- The token of a header. Source: `mcp_http.rs` `authenticate`, `api_skills.rs` `get_agent_skills` -/
def bearer (authorization : Option String) : Option String :=
  stripPrefix "Bearer " ((authorization.bind headerText).getD "")

/-- The header of a worker. Source: `skills_client.ts` `fetchSkillsForAgent`, `main.ts` `mcpToken` -/
def bearerOf (agentId secret : String) : String :=
  "Bearer " ++ (agentId ++ ":" ++ secret)

theorem visible_append {s t : String} : Visible (s ++ t) ↔ Visible s ∧ Visible t := by
  unfold Visible
  simp only [String.toList_append, List.mem_append, or_imp, forall_and]

theorem visible_bearerOf {agentId secret : String} :
    Visible (bearerOf agentId secret) ↔ Visible agentId ∧ Visible secret := by
  have hscheme : Visible "Bearer " := by decide
  have hcolon : Visible ":" := by decide
  simp only [bearerOf, visible_append, hscheme, hcolon, true_and, and_true]

/-- **The header of a worker is read as its token**, if it can be read. -/
theorem bearer_bearerOf {agentId secret : String} :
    bearer (some (bearerOf agentId secret)) =
      if Visible agentId ∧ Visible secret then some (agentId ++ ":" ++ secret) else none := by
  unfold bearer headerText
  rw [Option.bind_some]
  simp only [visible_bearerOf]
  split
  · exact stripPrefix_eq_some_iff.mpr rfl
  · decide

/-! ### Secrets -/

/-- The secret that an agent should have. Source: `auth.rs` `validate_agent_secret`, `std::env::var` -/
def expectedSecret (vars : String → Option String) (agentId : String) : String :=
  (vars ("CLIPTOWN_AGENT_SECRET_" ++ agentId)).getD "dev-secret"

/-- The startup of the agent, if the secret is its own. Source: `auth.rs` `validate_agent_secret` -/
def validateAgentSecret (vars : String → Option String) (db : Db) (agentId secret : String) :
    Except String String :=
  match db.agents.lookup agentId with
  | none => .error "unknown_agent"
  | some agent => if secret ≠ expectedSecret vars agentId then .error "invalid_agent_secret" else .ok agent.startupId

/-- An agent has proved who it is: it is in the table, and the secret is its own. -/
structure Proved (vars : String → Option String) (db : Db) (agentId secret : String) : Prop where
  known : (db.agents.lookup agentId).isSome
  secret : secret = expectedSecret vars agentId

theorem validateAgentSecret_isOk_iff {vars : String → Option String} {db : Db} {agentId secret : String} :
    (∃ startupId, validateAgentSecret vars db agentId secret = .ok startupId) ↔ Proved vars db agentId secret := by
  unfold validateAgentSecret
  constructor
  · rintro ⟨startupId, h⟩
    split at h
    · exact absurd h (by simp)
    · rename_i agent hagent
      split at h
      · exact absurd h (by simp)
      · rename_i hsecret
        exact ⟨by rw [hagent]; rfl, by simpa using hsecret⟩
  · rintro ⟨hknown, hsecret⟩
    obtain ⟨agent, hagent⟩ := Option.isSome_iff_exists.mp hknown
    exact ⟨agent.startupId, by rw [hagent]; simp [hsecret]⟩

end Cliptown.Gate
