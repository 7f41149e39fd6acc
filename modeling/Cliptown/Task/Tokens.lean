import Cliptown.Task.Admins

/-!
# Tokens of revoked operators

A token is looked up by its hash, then in plain text among the rows from before the tokens were hashed, and
then in the environment.

* `Operator.Takes` — the row lets the token in; `SessionState.StandsFor`, `SessionState.Refuses` — what the
  lookups make of it.
* `TokenStep` — what one step does to the rows; `tokenStep_of_step` — that it does no more.
* `Owned` — the invariant: every operator has a token of its own, seeded or minted.
* `owned_of_run` — a run keeps the tokens of the operators that stay.
* `revoked_refused_iff` — the token of a revoked operator is refused from then on, unless it is the one that
  stands in for the token of the environment.
-/

namespace Cliptown.Task

open Cliptown.Lib Cliptown.Town Cliptown.World Cliptown.Console

/-- The token of the environment, from the variable if it is set. Source: `auth.rs` `validate_operator_token` -/
def envToken (var : Option String) : String :=
  var.getD "dev-token"

/-- The row lets the token in: by its hash, or in plain text where there is no hash. -/
def Operator.Takes (cfg : Config) (row : Operator) (token : String) : Prop :=
  row.tokenHash = some (cfg.hashToken token) ∨ row.token = some token ∧ row.tokenHash = none

/-- Some row of the operator lets the token in. -/
def SessionState.StandsFor (cfg : Config) (s : SessionState) (token operatorId : String) : Prop :=
  ∃ rewritten identity operators,
    validateOperatorToken cfg s.loop.db.operators token rewritten = .ok (identity, operators) ∧
      identity.id = operatorId

/-- The token lets nobody in. -/
def SessionState.Refuses (cfg : Config) (s : SessionState) (token : String) : Prop :=
  ∀ rewritten, ∃ e, validateOperatorToken cfg s.loop.db.operators token rewritten = .error e

/-- The token that a step mints. -/
def SessionEvent.minted : SessionEvent → List String
  | .message _ env (.operatorCreate _ _) => ["opt_" ++ env.newToken]
  | _ => []

/-- The tokens that a run mints. -/
def mintedTokens (ls : List SessionEvent) : List String :=
  ls.flatMap SessionEvent.minted

theorem mintedTokens_append (ls ls' : List SessionEvent) :
    mintedTokens (ls ++ ls') = mintedTokens ls ++ mintedTokens ls' :=
  List.flatMap_append

/-- The operators are those that the migrations seed. -/
def Seeded (s : SessionState) : Prop :=
  s.loop.db.operators = Table.ofList [("op_default", NewStartup.seededAdmin)]

section Lookups

variable {cfg : Config} {s : SessionState} {token token' operatorId : String} {row : Operator}

/-! ### The three lookups -/

/-- A row takes one token only, as far as their hashes differ. -/
theorem Operator.Takes.unique {tokens : Set String} (hinj : Set.InjOn cfg.hashToken tokens)
    (h : row.Takes cfg token) (h' : row.Takes cfg token') (hmem : token ∈ tokens) (hmem' : token' ∈ tokens) :
    token = token' := by
  rcases h with hhash | ⟨hplain, hnone⟩
  · rcases h' with hhash' | ⟨-, hnone'⟩
    · exact hinj hmem hmem' (Option.some.inj (hhash.symm.trans hhash'))
    · rw [hnone'] at hhash
      exact absurd hhash (by simp)
  · rcases h' with hhash' | ⟨hplain', -⟩
    · rw [hnone] at hhash'
      exact absurd hhash' (by simp)
    · exact Option.some.inj (hplain.symm.trans hplain')

/-- The row that a lookup finds meets its condition. -/
theorem of_findOperator {operators : Table String Operator} {p : Operator → Bool}
    {found : Σ _ : String, Operator} (h : findOperator operators p = some found) : p found.2 := by
  have hfound := List.find?_some h
  exact hfound

/-- A lookup that finds nothing. -/
theorem findOperator_eq_none {operators : Table String Operator} {p : Operator → Bool}
    (h : ∀ id row, operators.lookup id = some row → p row = false) : findOperator operators p = none := by
  apply List.find?_eq_none.mpr
  intro found hfound
  simp [h found.1 found.2 (AList.mem_lookup_iff.mpr hfound)]

/-- Whoever a token stands for has a row that takes it, but for the token of the environment. -/
theorem takes_of_standsFor (h : s.StandsFor cfg token operatorId) (henv : token ≠ cfg.operatorToken) :
    ∃ row, s.loop.db.operators.lookup operatorId = some row ∧ row.Takes cfg token := by
  obtain ⟨rewritten, identity, operators, hvalid, rfl⟩ := h
  unfold validateOperatorToken at hvalid
  split at hvalid
  · exact absurd hvalid (by simp)
  · split at hvalid
    · rename_i found hfind
      obtain ⟨rfl, -⟩ := Prod.mk.inj (Except.ok.inj hvalid)
      exact ⟨found.2, lookup_of_findOperator hfind, .inl (of_decide_eq_true (of_findOperator hfind))⟩
    · split at hvalid
      · rename_i found hfind
        obtain ⟨rfl, -⟩ := Prod.mk.inj (Except.ok.inj hvalid)
        exact ⟨found.2, lookup_of_findOperator hfind, .inr (of_decide_eq_true (of_findOperator hfind))⟩
      · exact absurd hvalid (by simp)

/-- A token that no row takes is refused, unless it is the one of the environment. -/
theorem refuses_of_not_takes (henv : token ≠ cfg.operatorToken)
    (h : ∀ id row, s.loop.db.operators.lookup id = some row → ¬ row.Takes cfg token) :
    s.Refuses cfg token := by
  intro rewritten
  unfold validateOperatorToken
  split
  · exact ⟨_, rfl⟩
  · rw [findOperator_eq_none fun id row hrow => decide_eq_false fun hhash => h id row hrow (.inl hhash),
      findOperator_eq_none fun id row hrow => decide_eq_false fun hplain => h id row hrow (.inr hplain)]
    exact ⟨_, rfl⟩

/-- The token of the environment is never refused. -/
theorem not_refuses_envToken (hne : cfg.operatorToken ≠ "") : ¬ s.Refuses cfg cfg.operatorToken := by
  intro h
  obtain ⟨e, he⟩ := h true
  unfold validateOperatorToken at he
  rw [if_neg hne, if_pos rfl] at he
  split at he
  · exact absurd he (by simp)
  · split at he <;> exact absurd he (by simp)

end Lookups

/-! ### What a step does to the rows -/

/-- Nothing, or a row with its token in plain text is rewritten, or a row is new, gone, or has another role. -/
inductive TokenStep (cfg : Config) (minted : List String) (operators : Table String Operator) :
    Table String Operator → Prop
  | same : TokenStep cfg minted operators operators
  | rewritten {id token : String} {row : Operator} : operators.lookup id = some row →
      row.token = some token → row.tokenHash = none →
      TokenStep cfg minted operators (operators.modify id fun o => { o with
        tokenHash := some (cfg.hashToken token), token := none })
  | created {id name token : String} {role : OperatorRole} : token ∈ minted → operators.lookup id = none →
      TokenStep cfg minted operators (operators.insert id (newOperator cfg name role token))
  | erased {id : String} : TokenStep cfg minted operators (operators.erase id)
  | recast {id : String} {role : OperatorRole} :
      TokenStep cfg minted operators (operators.modify id fun o => { o with role := role })

/-- A token is looked up, and rewritten. -/
theorem tokenStep_of_validate {cfg : Config} {operators operators' : Table String Operator} {token : String}
    {rewritten : Bool} {identity : OperatorIdentity} {minted : List String}
    (h : validateOperatorToken cfg operators token rewritten = .ok (identity, operators')) :
    TokenStep cfg minted operators operators' := by
  unfold validateOperatorToken at h
  split at h
  · exact absurd h (by simp)
  · split at h
    · obtain ⟨-, rfl⟩ := Prod.mk.inj (Except.ok.inj h)
      exact .same
    · split at h
      · rename_i found hfind
        obtain ⟨-, rfl⟩ := Prod.mk.inj (Except.ok.inj h)
        obtain ⟨hplain, hnone⟩ := of_decide_eq_true (of_findOperator hfind)
        split
        · exact .rewritten (lookup_of_findOperator hfind) hplain hnone
        · exact .same
      · split at h
        · obtain ⟨-, rfl⟩ := Prod.mk.inj (Except.ok.inj h)
          exact .same
        · exact absurd h (by simp)

/-- **Any step** does one of these to the rows. -/
theorem tokenStep_of_step {cfg : Config} {s t : SessionState} {l : SessionEvent}
    (h : (sessionSystem cfg).step s l t) :
    TokenStep cfg l.minted s.loop.db.operators t.loop.db.operators := by
  obtain ⟨hpossible, happly⟩ := h
  cases l with
  | hello id token rewritten now =>
      simp only [SessionEvent.apply, openSession] at happly
      split at happly
      · split at happly
        · rename_i identity operators hvalid
          obtain rfl := Option.some.inj happly
          exact tokenStep_of_validate hvalid
        · exact absurd happly (by simp)
      · exact absurd happly (by simp)
  | message id env cmd =>
      obtain ⟨identity, -, rfl⟩ := Option.map_eq_some_iff.mp happly
      have hafter := dispatchConsole_operators cfg env s.loop identity cmd
      show TokenStep cfg _ s.loop.db.operators (dispatchConsole cfg env s.loop identity cmd).2.db.operators
      generalize (dispatchConsole cfg env s.loop identity cmd).2.db.operators = operators at hafter
      cases hafter with
      | same => exact .same
      | created hcmd hnew =>
          subst hcmd
          exact .created List.mem_cons_self hnew
      | revoked => exact .erased
      | assigned => exact .recast
  | heartbeat id focus now =>
      obtain ⟨identity, -, rfl⟩ := Option.map_eq_some_iff.mp happly
      exact .same
  | close id =>
      obtain ⟨identity, -, rfl⟩ := Option.map_eq_some_iff.mp happly
      exact .same
  | request l =>
      obtain rfl := Option.some.inj happly
      show TokenStep cfg _ s.loop.db.operators (l.apply cfg s.loop).db.operators
      rw [apply_operators cfg s.loop hpossible]
      exact .same
  | gc now =>
      obtain rfl := Option.some.inj happly
      exact .same

/-! ### The tokens of the operators -/

/-- Every operator has a token, and no two have the same. -/
structure Owned (cfg : Config) (tokens : List String) (operators : Table String Operator)
    (tokenOf : String → String) : Prop where
  mem : ∀ id row, operators.lookup id = some row → tokenOf id ∈ tokens
  takes : ∀ id row, operators.lookup id = some row → row.Takes cfg (tokenOf id)
  distinct : ∀ id id', (operators.lookup id).isSome → (operators.lookup id').isSome →
    tokenOf id = tokenOf id' → id = id'

/-- The operators that are there afterwards were there before, with the same token, or have a minted one. -/
def Keeps (minted : List String) (operators operators' : Table String Operator)
    (tokenOf tokenOf' : String → String) : Prop :=
  ∀ id, (operators'.lookup id).isSome →
    (operators.lookup id).isSome ∧ tokenOf' id = tokenOf id ∨ tokenOf' id ∈ minted

section Tokens

variable {cfg : Config} {tokens minted : List String} {operators operators' : Table String Operator}
  {tokenOf : String → String}

/-- Where every row was there before and takes the same token. -/
theorem Owned.of_rows (h : Owned cfg tokens operators tokenOf)
    (hrows : ∀ id row', operators'.lookup id = some row' →
      ∃ row, operators.lookup id = some row ∧ (row.Takes cfg (tokenOf id) → row'.Takes cfg (tokenOf id))) :
    Owned cfg tokens operators' tokenOf := by
  have hbefore : ∀ id, (operators'.lookup id).isSome → (operators.lookup id).isSome := by
    intro id hid
    obtain ⟨row', hrow'⟩ := Option.isSome_iff_exists.mp hid
    obtain ⟨row, hrow, -⟩ := hrows id row' hrow'
    exact Option.isSome_of_mem hrow
  refine ⟨fun id row' hrow' => ?_, fun id row' hrow' => ?_, fun id id' hid hid' => ?_⟩
  · obtain ⟨row, hrow, -⟩ := hrows id row' hrow'
    exact h.mem id row hrow
  · obtain ⟨row, hrow, htakes⟩ := hrows id row' hrow'
    exact htakes (h.takes id row hrow)
  · exact h.distinct id id' (hbefore id hid) (hbefore id' hid')

theorem Owned.mono {tokens' : List String} (h : Owned cfg tokens operators tokenOf)
    (hsub : tokens ⊆ tokens') : Owned cfg tokens' operators tokenOf :=
  ⟨fun id row hrow => hsub (h.mem id row hrow), h.takes, h.distinct⟩

/-- A new operator with a token that nobody has. -/
theorem Owned.insert {id name token : String} {role : OperatorRole} (h : Owned cfg tokens operators tokenOf)
    (hfresh : token ∉ tokens) :
    Owned cfg (tokens ++ [token]) (operators.insert id (newOperator cfg name role token))
      (Function.update tokenOf id token) := by
  have hold : ∀ other, other ≠ id → ∀ row,
      (AList.insert id (newOperator cfg name role token) operators).lookup other = some row →
        operators.lookup other = some row := by
    intro other hne row hrow
    rwa [AList.lookup_insert_ne hne] at hrow
  refine ⟨fun other row hrow => ?_, fun other row hrow => ?_, fun other other' hsome hsome' heq => ?_⟩
  · by_cases hne : other = id
    · subst hne
      simp
    · rw [Function.update_of_ne hne]
      exact List.mem_append_left _ (h.mem other row (hold other hne row hrow))
  · by_cases hne : other = id
    · subst hne
      rw [AList.lookup_insert] at hrow
      obtain rfl := Option.some.inj hrow
      rw [Function.update_self]
      exact .inl rfl
    · rw [Function.update_of_ne hne]
      exact h.takes other row (hold other hne row hrow)
  · obtain ⟨row, hrow⟩ := Option.isSome_iff_exists.mp hsome
    obtain ⟨row', hrow'⟩ := Option.isSome_iff_exists.mp hsome'
    by_cases hne : other = id
    · by_cases hne' : other' = id
      · rw [hne, hne']
      · rw [hne, Function.update_self, Function.update_of_ne hne'] at heq
        exact absurd (heq ▸ h.mem other' row' (hold other' hne' row' hrow')) hfresh
    · by_cases hne' : other' = id
      · rw [hne', Function.update_self, Function.update_of_ne hne] at heq
        exact absurd (heq ▸ h.mem other row (hold other hne row hrow)) hfresh
      · rw [Function.update_of_ne hne, Function.update_of_ne hne'] at heq
        exact h.distinct other other' (Option.isSome_of_mem (hold other hne row hrow))
          (Option.isSome_of_mem (hold other' hne' row' hrow')) heq

/-- **A step** keeps the tokens of the operators that stay. -/
theorem owned_of_tokenStep (hstep : TokenStep cfg minted operators operators')
    (h : Owned cfg tokens operators tokenOf) (hfresh : ∀ token ∈ minted, token ∉ tokens) :
    ∃ tokenOf', Owned cfg (tokens ++ minted) operators' tokenOf' ∧
      Keeps minted operators operators' tokenOf tokenOf' := by
  cases hstep with
  | same => exact ⟨tokenOf, h.mono (List.subset_append_left _ _), fun id hid => .inl ⟨hid, rfl⟩⟩
  | @rewritten id token row hrow hplain hnone =>
      refine ⟨tokenOf, (h.of_rows fun other row' hrow' => ?_).mono (List.subset_append_left _ _),
        fun other hother => .inl ⟨?_, rfl⟩⟩
      · rw [Table.lookup_modify] at hrow'
        split at hrow'
        · rename_i heq
          subst heq
          rw [hrow] at hrow'
          obtain rfl := Option.some.inj hrow'
          refine ⟨row, hrow, fun htakes => ?_⟩
          rcases htakes with hhash | ⟨hplain', -⟩
          · rw [hnone] at hhash
            exact absurd hhash (by simp)
          · rw [Option.some.inj (hplain'.symm.trans hplain)]
            exact .inl rfl
        · exact ⟨row', hrow', fun htakes => htakes⟩
      · rw [Table.lookup_modify] at hother
        split at hother
        · simpa using hother
        · exact hother
  | @created id name token role htoken hnew =>
      refine ⟨Function.update tokenOf id token, (h.insert (hfresh token htoken)).mono ?_, fun other hother => ?_⟩
      · exact List.append_subset.mpr ⟨List.subset_append_left _ _,
          fun x hx => List.mem_append_right _ (List.mem_singleton.mp hx ▸ htoken)⟩
      · by_cases hne : other = id
        · rw [hne, Function.update_self]
          exact .inr htoken
        · rw [Function.update_of_ne hne]
          rw [AList.lookup_insert_ne hne] at hother
          exact .inl ⟨hother, rfl⟩
  | @erased id =>
      have hbefore : ∀ other row', AList.lookup other (operators.erase id) = some row' →
          operators.lookup other = some row' := by
        intro other row' hrow'
        rw [Table.lookup_erase_eq] at hrow'
        split at hrow'
        · exact absurd hrow' (by simp)
        · exact hrow'
      refine ⟨tokenOf, (h.of_rows fun other row' hrow' => ⟨row', hbefore other row' hrow', fun htakes => htakes⟩).mono
        (List.subset_append_left _ _), fun other hother => .inl ⟨?_, rfl⟩⟩
      obtain ⟨row', hrow'⟩ := Option.isSome_iff_exists.mp hother
      exact Option.isSome_of_mem (hbefore other row' hrow')
  | @recast id role =>
      refine ⟨tokenOf, (h.of_rows fun other row' hrow' => ?_).mono (List.subset_append_left _ _),
        fun other hother => .inl ⟨?_, rfl⟩⟩
      · rw [Table.lookup_modify] at hrow'
        split at hrow'
        · obtain ⟨row, hrow, rfl⟩ := Option.map_eq_some_iff.mp hrow'
          exact ⟨row, hrow, fun htakes => htakes⟩
        · exact ⟨row', hrow', fun htakes => htakes⟩
      · rw [Table.lookup_modify] at hother
        split at hother
        · simpa using hother
        · exact hother

/-- **A run** keeps the tokens of the operators that stay. -/
theorem owned_of_run {s t : SessionState} {ls : List SessionEvent} (hrun : Run (sessionSystem cfg).step s ls t)
    (h : Owned cfg tokens s.loop.db.operators tokenOf) (hfresh : (tokens ++ mintedTokens ls).Nodup) :
    ∃ tokenOf', Owned cfg (tokens ++ mintedTokens ls) t.loop.db.operators tokenOf' ∧
      Keeps (mintedTokens ls) s.loop.db.operators t.loop.db.operators tokenOf tokenOf' := by
  induction hrun generalizing tokens tokenOf with
  | nil s => exact ⟨tokenOf, by simpa [mintedTokens] using h, fun id hid => .inl ⟨hid, rfl⟩⟩
  | @cons s u t l ls hstep hrun ih =>
      rw [mintedTokens, List.flatMap_cons, ← List.append_assoc] at hfresh ⊢
      have hdisjoint := (List.nodup_append.mp (List.nodup_append.mp hfresh).1).2.2
      obtain ⟨tokenOf₁, hu, hkeeps₁⟩ := owned_of_tokenStep (tokenStep_of_step hstep) h
        fun token hminted htoken => hdisjoint token htoken token hminted rfl
      obtain ⟨tokenOf₂, ht, hkeeps₂⟩ := ih hu hfresh
      refine ⟨tokenOf₂, ht, fun id hid => ?_⟩
      rcases hkeeps₂ id hid with ⟨hmid, heq₂⟩ | hminted
      · rcases hkeeps₁ id hmid with ⟨hfirst, heq₁⟩ | hminted
        · exact .inl ⟨hfirst, heq₂.trans heq₁⟩
        · exact .inr (List.mem_append_left _ (heq₂ ▸ hminted))
      · exact .inr (List.mem_append_right _ hminted)

/-- The seeded operator has the seeded token. -/
theorem owned_seeded {s : SessionState} (h : Seeded s) :
    Owned cfg ["dev-token"] s.loop.db.operators fun _ => "dev-token" := by
  have hrow : ∀ id row, s.loop.db.operators.lookup id = some row →
      id = "op_default" ∧ row = NewStartup.seededAdmin := by
    intro id row hrow
    rw [h] at hrow
    have hmem := Table.mem_of_lookup_ofList hrow
    exact Prod.mk.inj (List.mem_singleton.mp hmem)
  refine ⟨fun _ _ _ => List.mem_cons_self, fun id row hid => ?_, fun id id' hid hid' _ => ?_⟩
  · rw [(hrow id row hid).2]
    exact .inr ⟨rfl, rfl⟩
  · obtain ⟨row, hid⟩ := Option.isSome_iff_exists.mp hid
    obtain ⟨row', hid'⟩ := Option.isSome_iff_exists.mp hid'
    rw [(hrow id row hid).1, (hrow id' row' hid').1]

/-- The seeded token is not one that is minted. -/
theorem devToken_notMem_mintedTokens (ls : List SessionEvent) : "dev-token" ∉ mintedTokens ls := by
  intro hmem
  obtain ⟨l, -, hl⟩ := List.mem_flatMap.mp hmem
  unfold SessionEvent.minted at hl
  split at hl
  · have hhead := congrArg (fun x : String => x.toList.head?) (List.mem_singleton.mp hl)
    simp at hhead
  · exact absurd hl (by simp)

end Tokens

/-! ### Revocation -/

/-- **A revoked token stays dead**, unless it is the seeded one: without the variable, that one also is the token
of the environment, which keeps standing for an admin. -/
theorem revoked_refused_iff (cfg : Config) (hunset : cfg.operatorToken = envToken none)
    {s t u v w : SessionState} {before between after : List SessionEvent} {id : ℕ} {env : Env}
    {token operatorId : String} (hseeded : Seeded s) (hbefore : Run (sessionSystem cfg).step s before t)
    (hstands : t.StandsFor cfg token operatorId) (hbetween : Run (sessionSystem cfg).step t between u)
    (hrevoke : (sessionSystem cfg).step u (.message id env (.operatorRevoke operatorId)) v)
    (hrevoked : v.roleOf operatorId = none) (hafter : Run (sessionSystem cfg).step v after w)
    (hfresh : (mintedTokens (before ++ between ++ after)).Nodup)
    (hinj : Set.InjOn cfg.hashToken
      {x | x ∈ token :: "dev-token" :: mintedTokens (before ++ between ++ after)}) :
    w.Refuses cfg token ↔ token ≠ "dev-token" := by
  constructor
  · rintro hrefuses rfl
    have henv : ¬ w.Refuses cfg cfg.operatorToken := not_refuses_envToken (by rw [hunset]; decide)
    rw [hunset] at henv
    exact henv hrefuses
  · intro hne
    have henv : token ≠ cfg.operatorToken := by rwa [hunset]
    have hminted : mintedTokens (between ++ [.message id env (.operatorRevoke operatorId)]) =
        mintedTokens between := by
      rw [mintedTokens_append]
      exact List.append_nil _
    simp only [mintedTokens_append] at hfresh hinj
    have hnodup : (["dev-token"] ++ mintedTokens before ++ mintedTokens between ++
        mintedTokens after).Nodup := by
      rw [List.append_assoc, List.append_assoc, List.singleton_append, ← List.append_assoc]
      refine List.nodup_cons.mpr ⟨fun hmem => ?_, hfresh⟩
      simp only [List.mem_append, devToken_notMem_mintedTokens, or_self] at hmem
    -- the operators and their tokens at the three moments
    obtain ⟨tokenOf₁, ht, -⟩ := owned_of_run hbefore (owned_seeded hseeded)
      (List.nodup_append.mp (List.nodup_append.mp hnodup).1).1
    obtain ⟨tokenOf₂, hv, hkeeps₂⟩ := owned_of_run (hbetween.trans (.single hrevoke)) ht
      (by rw [hminted]; exact (List.nodup_append.mp hnodup).1)
    rw [hminted] at hv hkeeps₂
    obtain ⟨tokenOf₃, hw, hkeeps₃⟩ := owned_of_run hafter hv hnodup
    have hplay : ∀ x ∈ ["dev-token"] ++ mintedTokens before ++ mintedTokens between ++ mintedTokens after,
        x ∈ {x | x ∈ token :: "dev-token" ::
          (mintedTokens before ++ mintedTokens between ++ mintedTokens after)} := by
      intro x hx
      simp only [List.append_assoc, List.singleton_append] at hx
      simp only [List.append_assoc]
      exact List.mem_cons_of_mem _ hx
    -- the token is that of the operator at first
    obtain ⟨row₁, hrow₁, htakes₁⟩ := takes_of_standsFor hstands henv
    have hmem₁ := ht.mem operatorId row₁ hrow₁
    have htoken₁ : tokenOf₁ operatorId = token :=
      (ht.takes operatorId row₁ hrow₁).unique hinj htakes₁
        (hplay _ (List.mem_append_left _ (List.mem_append_left _ hmem₁))) List.mem_cons_self
    rw [htoken₁] at hmem₁
    have hlater : ∀ x ∈ mintedTokens between ++ mintedTokens after, x ≠ token := by
      rintro x hx rfl
      rw [List.append_assoc] at hnodup
      exact (List.nodup_append.mp hnodup).2.2 x hmem₁ x hx rfl
    -- whoever had it at the end would have been the operator all along
    refine refuses_of_not_takes henv fun other row hrow htakes => ?_
    have htoken₃ : tokenOf₃ other = token :=
      (hw.takes other row hrow).unique hinj htakes (hplay _ (hw.mem other row hrow)) List.mem_cons_self
    rcases hkeeps₃ other (Option.isSome_of_mem hrow) with ⟨hpresent₂, heq₃⟩ | hminted₃
    · rcases hkeeps₂ other hpresent₂ with ⟨hpresent₁, heq₂⟩ | hminted₂
      · have hother : other = operatorId := by
          refine ht.distinct other operatorId hpresent₁ (Option.isSome_of_mem hrow₁) ?_
          rw [← heq₂, ← heq₃, htoken₃, htoken₁]
        rw [hother, ← Option.isSome_map (f := Operator.role)] at hpresent₂
        exact absurd hrevoked (Option.ne_none_iff_isSome.mpr hpresent₂)
      · exact hlater _ (List.mem_append_left _ hminted₂) (by rw [← heq₃, htoken₃])
    · exact hlater _ (List.mem_append_right _ hminted₃) htoken₃

/-! ### Two admins, one of whom goes -/

/-- The sample starts with what the migrations seed. -/
theorem seeded_noSessions : Seeded noSessions :=
  rfl

/-- The two admins are connected. -/
noncomputable def adminState : SessionState :=
  runSessions sampleConfig noSessions adminEvents

/-- They got there. -/
theorem adminState_run : Run (sessionSystem sampleConfig).step noSessions adminEvents adminState := by
  have hrun : Run ((sessionSystem sampleConfig).restrict fun _ _ => True).step noSessions adminEvents
      adminState :=
    run_runSessions (fun l hl => ⟨possible_adminEvents (List.mem_append_left _ hl), fun _ => trivial⟩)
      (by decide +kernel)
  exact System.run_of_restrict hrun

/-- What the lookups find says whom a token stands for. -/
theorem standsFor_of_toOption {cfg : Config} {s : SessionState} {token operatorId : String}
    (h : (validateOperatorToken cfg s.loop.db.operators token true).toOption.map (fun r => r.1.id) =
      some operatorId) : s.StandsFor cfg token operatorId := by
  cases hvalid : validateOperatorToken cfg s.loop.db.operators token true with
  | error e =>
      rw [hvalid] at h
      exact absurd h (by simp [Except.toOption])
  | ok r =>
      rw [hvalid] at h
      exact ⟨true, r.1, r.2, hvalid, Option.some.inj h⟩

/-- Tokens have different hashes. -/
theorem injOn_sampleConfig (tokens : Set String) : Set.InjOn sampleConfig.hashToken tokens :=
  fun _ _ _ _ h => (String.append_right_inj _).mp h

/-- The first admin revokes the second one. -/
def revokeSecond : SessionEvent :=
  .message 1 (sampleEnv 4 "r") (.operatorRevoke "op_1")

/-- The token of the second admin is refused afterwards. -/
theorem revoked_refused_second :
    (runSessions sampleConfig adminState [revokeSecond]).Refuses sampleConfig "opt_1" := by
  have hstep : (sessionSystem sampleConfig).step adminState revokeSecond
      (runSessions sampleConfig adminState [revokeSecond]) :=
    ⟨(by decide : "op_" ++ "r" ≠ "op_env"), apply_runSessions (by decide +kernel)⟩
  have hstands : adminState.StandsFor sampleConfig "opt_1" "op_1" :=
    standsFor_of_toOption (by decide +kernel)
  exact (revoked_refused_iff sampleConfig rfl seeded_noSessions adminState_run hstands (.nil _) hstep
    (by decide +kernel)
    (.nil _) (by decide) (injOn_sampleConfig _)).mpr (by decide)

/-- The second admin revokes the first one, the seeded operator. -/
def revokeSeeded : SessionEvent :=
  .message 2 (sampleEnv 4 "r") (.operatorRevoke "op_default")

/-- **Not for every token**: the seeded operator is revoked, and its token still lets an admin in. -/
theorem not_revoked_refused :
    ¬ ∀ (cfg : Config), cfg.operatorToken = envToken none →
      ∀ (s t u v w : SessionState) (before between after : List SessionEvent) (id : ℕ) (env : Env)
        (token operatorId : String), Seeded s → Run (sessionSystem cfg).step s before t →
      t.StandsFor cfg token operatorId → Run (sessionSystem cfg).step t between u →
      (u.roleOf operatorId).isSome →
      (sessionSystem cfg).step u (.message id env (.operatorRevoke operatorId)) v →
      v.roleOf operatorId = none → Run (sessionSystem cfg).step v after w →
      (mintedTokens (before ++ between ++ after)).Nodup →
      Set.InjOn cfg.hashToken {x | x ∈ token :: "dev-token" :: mintedTokens (before ++ between ++ after)} →
        w.Refuses cfg token := by
  intro h
  have hstep : (sessionSystem sampleConfig).step adminState revokeSeeded
      (runSessions sampleConfig adminState [revokeSeeded]) :=
    ⟨(by decide : "op_" ++ "r" ≠ "op_env"), apply_runSessions (by decide +kernel)⟩
  have hstands : adminState.StandsFor sampleConfig "dev-token" "op_default" :=
    standsFor_of_toOption (by decide +kernel)
  have hrefuses := h sampleConfig rfl _ _ _ _ _ _ _ _ _ _ _ _ seeded_noSessions adminState_run hstands
    (.nil _) (by decide +kernel) hstep (by decide +kernel) (.nil _) (by decide) (injOn_sampleConfig _)
  exact not_refuses_envToken (by decide) hrefuses

end Cliptown.Task
