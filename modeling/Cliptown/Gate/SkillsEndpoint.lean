import Cliptown.Gate.McpHttp
import Cliptown.Lib.Percent
import Cliptown.Task.SkillFiles
import Mathlib.Data.List.DropRight

/-!
# The skills of an agent, over HTTP

A worker asks the world for the skills of its agent, and writes them into the work directory of a task.

* `getAgentSkills`, `routeSkills` — the endpoint, and how it is reached.
* `sendHeader`, `pathParts`, `withoutDots`, `fetchSkillsForAgent` — the worker, with what its library makes of headers
  and addresses.
* `skillJson`, `readSkill` — how a skill is written and read.
* `fetchSkills_eq_ok_iff`, `skills_fetched` — when a worker gets skills: exactly those of its own agent, if it has
  proved who it is.
-/

namespace Cliptown.Gate

open Cliptown.Lib Cliptown.Task Cliptown.Worker

/-! ### Skills as JSON -/

/-- Source: `api_skills.rs` `get_agent_skills`, `json_items` -/
def skillJson (s : SkillContent) : Json :=
  .obj [("name", .str s.name), ("content_md", .str s.contentMd),
    ("files", .arr (s.files.map fun f => .obj [("name", .str f.1), ("content", .str f.2)]))]

/-- A file as the worker takes it. Source: `skills_client.ts` `SkillFile` -/
def readFile (v : Json) : Option (String × String) := do
  return (← v.getStr "name", ← v.getStr "content")

/-- A skill as the worker takes it; the files may be absent. Source: `skills_client.ts` `SkillContent` -/
def readSkill (v : Json) : Option SkillContent := do
  let files ←
    match v.get "files" with
    | some (.arr items) => items.mapM readFile
    | _ => some []
  return ⟨← v.getStr "name", ← v.getStr "content_md", files⟩

/-- What is written of each item of a list is read back. -/
theorem mapM_read {α : Type} (write : α → Json) (read : Json → Option α) (h : ∀ a, read (write a) = some a)
    (l : List α) : (l.map write).mapM read = some l := by
  induction l with
  | nil => rfl
  | cons a l ih =>
    rw [List.map_cons, List.mapM_cons, h, ih]
    rfl

/-- **A skill is read as it is written**, with its files. -/
theorem readSkill_skillJson (s : SkillContent) : readSkill (skillJson s) = some s := by
  have hfiles := mapM_read (fun f : String × String => .obj [("name", .str f.1), ("content", .str f.2)]) readFile
    (fun f => rfl) s.files
  change ((s.files.map _).mapM readFile).bind _ = _
  rw [hfiles]
  rfl

/-! ### The endpoint -/

/-- A request for what is at a path. -/
structure GetRequest where
  path : List String
  authorization : Option String

/-- Source: `api_skills.rs` `get_agent_skills` -/
def getAgentSkills (vars : String → Option String) (db : Db) (agentId : String) (authorization : Option String) :
    HttpResponse :=
  match splitOnce ':' ((bearer authorization).getD "") with
  | none => ⟨401, some (.obj [("error", .str "bad_auth_format")])⟩
  | some (claimedAgent, secret) =>
      if claimedAgent ≠ agentId then ⟨403, some (.obj [("error", .str "agent_id mismatch")])⟩
      else
        match validateAgentSecret vars db claimedAgent secret with
        | .error _ => ⟨401, some (.obj [("error", .str "invalid_agent_secret")])⟩
        | .ok _ => .json (.obj [("skills", .arr ((forAgent db agentId).map skillJson))])

/-- The parameter of the path is not empty, and is decoded. Source: `http.rs` `router`,
`/api/agents/:agent_id/skills` -/
def routeSkills (vars : String → Option String) (db : Db) (req : GetRequest) : HttpResponse :=
  match req.path with
  | ["api", "agents", part, "skills"] =>
      if part = "" then ⟨404, none⟩
      else
        match Percent.decodeText part with
        | some agentId => getAgentSkills vars db agentId req.authorization
        | none => ⟨400, none⟩
  | _ => ⟨404, none⟩

/-! ### The worker -/

/-- What is taken off the ends of a header. -/
def isHttpSpace (c : Char) : Bool :=
  c ∈ [' ', '\t', '\n', '\r']

/-- A header that is set: it is trimmed, and refused if it holds what no header can hold. Source: `fetch`,
`Headers` -/
def sendHeader (value : String) : Option String :=
  let text := ((value.toList.dropWhile isHttpSpace).rdropWhile isHttpSpace)
  if text.all fun c => c.toNat ≤ 255 ∧ c ∉ ['\n', '\r', '\x00'] then some (String.ofList text) else none

/-- The path of an address: a single dot is left out, and two dots go back. Source: `fetch`, `URL` -/
def withoutDots (parts : List String) : List String :=
  parts.foldl (fun path part =>
    if part = "." then path else if part = ".." then path.dropLast else path ++ [part]) []

/-- The parts of an address after the name of the host, up to a query or a fragment. -/
def pathParts (address : String) : List String :=
  (((address.toList.takeWhile (· ∉ ['?', '#'])).splitOn '/').tail).map String.ofList

/-- Source: `skills_client.ts` `fetchSkillsForAgent`, `url` -/
def skillsUrl (agentId : String) : String :=
  "/api/agents/" ++ Percent.encodeComponent agentId ++ "/skills"

/-- The items that a worker gets, or the error that it throws. Source: `skills_client.ts` `fetchSkillsForAgent` -/
def fetchSkillsForAgent (world : GetRequest → HttpResponse) (agentId secret : String) : Except String (List Json) := do
  let header ← require (sendHeader (bearerOf agentId secret)) "TypeError"
  let res := world ⟨withoutDots (pathParts (skillsUrl agentId)), some header⟩
  ensure (200 ≤ res.status ∧ res.status < 300)
    ("fetchSkillsForAgent failed: status=" ++ toString res.status)
  let body ← require res.body "SyntaxError"
  match body.get "skills" with
  | some (.arr items) => return items
  | _ => return []

/-! ### Reaching the endpoint -/

/-- An id that is a part of an address. -/
def Addressable (agentId : String) : Prop :=
  agentId ≠ "" ∧ agentId ≠ "." ∧ agentId ≠ ".."

instance (agentId : String) : Decidable (Addressable agentId) :=
  inferInstanceAs (Decidable (_ ∧ _ ∧ _))

section Route

variable {vars : String → Option String} {db : Db} {agentId secret header : String}

/-- The id stays one part of the address, whatever it is made of. -/
theorem pathParts_skillsUrl (agentId : String) :
    pathParts (skillsUrl agentId) = ["api", "agents", Percent.encodeComponent agentId, "skills"] := by
  have hmem : ∀ c ∈ (Percent.encodeComponent agentId).toList, c ≠ '/' ∧ c ≠ '?' ∧ c ≠ '#' := by
    intro c hc
    refine ⟨?_, ?_, ?_⟩ <;> rintro rfl <;> exact absurd (Percent.mem_encodeComponent hc) (by decide)
  have hlist : (skillsUrl agentId).toList = ['/'].intercalate
      [[], "api".toList, "agents".toList, (Percent.encodeComponent agentId).toList, "skills".toList] := by
    simp [skillsUrl, List.intercalate]
  have hbefore : ∀ c ∈ "/api/agents/".toList, c ∉ ['?', '#'] := by simp
  have hafter : ∀ c ∈ "/skills".toList, c ∉ ['?', '#'] := by simp
  have hpath : (skillsUrl agentId).toList.takeWhile (· ∉ ['?', '#']) = (skillsUrl agentId).toList := by
    refine List.takeWhile_eq_self_iff.mpr fun c hc => decide_eq_true ?_
    rw [skillsUrl, String.toList_append, String.toList_append, List.mem_append, List.mem_append] at hc
    rcases hc with (hc | hc) | hc
    · exact hbefore c hc
    · simp [hmem c hc]
    · exact hafter c hc
  rw [pathParts, hpath, hlist, List.splitOn_intercalate '/' ?_ (by simp)]
  · simp
  · intro part hpart
    simp only [List.mem_cons, List.not_mem_nil, or_false] at hpart
    rcases hpart with rfl | rfl | rfl | rfl | rfl
    · simp
    · decide
    · decide
    · exact fun h => (hmem '/' h).1 rfl
    · decide

/-- The endpoint is reached for an id that can be a part of an address, and no other. -/
theorem routeSkills_address : routeSkills vars db
    ⟨withoutDots (pathParts (skillsUrl agentId)), some header⟩ =
      if Addressable agentId then getAgentSkills vars db agentId (some header) else ⟨404, none⟩ := by
  rw [pathParts_skillsUrl]
  have hpart : ∀ s, Percent.encodeComponent s = s → (Percent.encodeComponent agentId = s ↔ agentId = s) := by
    intro s hs
    constructor
    · intro h
      exact Percent.encodeComponent_injective (h.trans hs.symm)
    · rintro rfl
      exact hs
  have hnone := hpart "" (by decide)
  have hdot := hpart "." (by decide)
  have hdots := hpart ".." (by decide)
  by_cases h₁ : agentId = "."
  · subst h₁
    rfl
  · by_cases h₂ : agentId = ".."
    · subst h₂
      rfl
    · have hpath : withoutDots ["api", "agents", Percent.encodeComponent agentId, "skills"] =
          ["api", "agents", Percent.encodeComponent agentId, "skills"] := by
        simp [withoutDots, hdot, hdots, h₁, h₂]
      rw [hpath]
      simp only [routeSkills, hnone, Percent.decodeText_encodeComponent]
      by_cases h₃ : agentId = ""
      · simp [Addressable, h₃]
      · simp [Addressable, h₁, h₂, h₃]

variable (header) in
/-- A header that begins and ends with other characters is sent as it is, if it can be. -/
theorem sendHeader_of_trimmed (hstart : ∀ c ∈ header.toList.head?, isHttpSpace c = false)
    (hend : ∀ c ∈ header.toList.getLast?, isHttpSpace c = false) :
    sendHeader header =
      if header.toList.all fun c => c.toNat ≤ 255 ∧ c ∉ ['\n', '\r', '\x00'] then some header else none := by
  have hleft : header.toList.dropWhile isHttpSpace = header.toList := by
    rcases hlist : header.toList with _ | ⟨c, rest⟩
    · rfl
    · rw [List.dropWhile_cons_of_neg]
      rw [hstart c (by simp [hlist])]
      simp
  have hright : header.toList.rdropWhile isHttpSpace = header.toList := by
    refine List.rdropWhile_eq_self_iff.mpr fun hne => ?_
    rw [hend _ (List.getLast_mem_getLast? hne)]
    simp
  unfold sendHeader
  simp only [hleft, hright, String.ofList_toList]

/-- A text that can be read is one that can be sent. -/
theorem sendable_of_visible {s : String} (h : Visible s) :
    s.toList.all (fun c => c.toNat ≤ 255 ∧ c ∉ ['\n', '\r', '\x00']) = true := by
  refine List.all_eq_true.mpr fun c hc => ?_
  have hne : c ≠ '\n' ∧ c ≠ '\r' ∧ c ≠ '\x00' := by
    refine ⟨?_, ?_, ?_⟩ <;> rintro rfl <;> exact absurd (h _ hc) (by decide)
  have hle : c.toNat ≤ 255 := by
    rcases h c hc with ⟨-, hlt⟩ | rfl
    · have hnat : c.toNat < ('\x7F').toNat := hlt
      have hvalue : ('\x7F').toNat = 127 := rfl
      omega
    · decide
  simp [hne, hle]

variable (agentId) in
/-- What the worker sends: its header, if that can be sent. -/
theorem sendHeader_bearerOf (hend : ∀ c ∈ secret.toList.getLast?, isHttpSpace c = false) :
    sendHeader (bearerOf agentId secret) = some (bearerOf agentId secret) ∨
      (sendHeader (bearerOf agentId secret) = none ∧ ¬ Visible (bearerOf agentId secret)) := by
  have hsend := sendHeader_of_trimmed (bearerOf agentId secret) ?_ ?_
  · by_cases hall : (bearerOf agentId secret).toList.all fun c => c.toNat ≤ 255 ∧ c ∉ ['\n', '\r', '\x00']
    · rw [if_pos hall] at hsend
      exact .inl hsend
    · rw [if_neg hall] at hsend
      exact .inr ⟨hsend, fun hvisible => hall (sendable_of_visible hvisible)⟩
  · intro c hc
    have hb : c = 'B' := by simpa [bearerOf] using hc.symm
    rw [hb]
    decide
  · intro c hc
    have hlist : (bearerOf agentId secret).toList = ("Bearer ".toList ++ agentId.toList ++ [':']) ++ secret.toList := by
      simp [bearerOf]
    rw [hlist, List.getLast?_append] at hc
    rcases hlast : secret.toList.getLast? with _ | d
    · rw [hlast, Option.none_or, List.getLast?_concat] at hc
      obtain rfl := Option.some.inj hc
      decide
    · rw [hlast, Option.some_or] at hc
      obtain rfl := Option.some.inj hc
      exact hend d hlast

variable (agentId secret) in
/-- The token of a worker, taken apart. -/
theorem splitOnce_token : ∃ claimed rest, splitOnce ':' (agentId ++ ":" ++ secret) = some (claimed, rest) ∧
    (claimed = agentId ↔ ':' ∉ agentId.toList) ∧ (':' ∉ agentId.toList → rest = secret) := by
  by_cases hcolon : ':' ∈ agentId.toList
  · cases hsplit : splitOnce ':' (agentId ++ ":" ++ secret) with
    | none => exact absurd (by simp [hcolon]) (splitFirst_eq_none (Option.map_eq_none_iff.mp hsplit))
    | some parts =>
      obtain ⟨hnot, -⟩ := splitOnce_eq_some_iff.mp hsplit
      refine ⟨parts.1, parts.2, rfl, ⟨fun heq => heq ▸ hnot, fun h => absurd hcolon h⟩, fun h => absurd hcolon h⟩
  · refine ⟨agentId, secret, splitOnce_eq_some_iff.mpr ⟨hcolon, by simp⟩, ?_, fun _ => rfl⟩
    simp [hcolon]

variable (vars db agentId secret) in
/-- **The endpoint answers with skills** exactly if the token is that of the agent in the path; otherwise with an
error. -/
theorem getAgentSkills_bearerOf : getAgentSkills vars db agentId (some (bearerOf agentId secret)) =
      .json (.obj [("skills", .arr ((forAgent db agentId).map skillJson))]) ∧
        Visible agentId ∧ Visible secret ∧ ':' ∉ agentId.toList ∧ Proved vars db agentId secret ∨
    ¬ (Visible agentId ∧ Visible secret ∧ ':' ∉ agentId.toList ∧ Proved vars db agentId secret) ∧
      400 ≤ (getAgentSkills vars db agentId (some (bearerOf agentId secret))).status := by
  unfold getAgentSkills
  rw [bearer_bearerOf]
  by_cases hvisible : Visible agentId ∧ Visible secret
  · rw [if_pos hvisible]
    obtain ⟨claimed, rest, hsplit, hclaimed, hrest⟩ := splitOnce_token agentId secret
    simp only [Option.getD_some, hsplit]
    by_cases hcolon : ':' ∈ agentId.toList
    · have hne : claimed ≠ agentId := fun heq => hclaimed.mp heq hcolon
      rw [if_pos hne]
      exact .inr ⟨fun h => h.2.2.1 hcolon, by simp⟩
    · obtain rfl := hclaimed.mpr hcolon
      obtain rfl := hrest hcolon
      rw [if_neg (not_not.mpr rfl)]
      cases hvalid : validateAgentSecret vars db claimed rest with
      | error e =>
        refine .inr ⟨fun h => ?_, by simp⟩
        obtain ⟨startupId, hok⟩ := validateAgentSecret_isOk_iff.mpr h.2.2.2
        exact absurd (hvalid.symm.trans hok) (by simp)
      | ok startupId =>
        exact .inl ⟨rfl, hvisible.1, hvisible.2, hcolon, validateAgentSecret_isOk_iff.mp ⟨startupId, hvalid⟩⟩
  · rw [if_neg hvisible]
    have hnone : splitOnce ':' ((none : Option String).getD "") = none := rfl
    simp only [hnone]
    exact .inr ⟨fun h => hvisible ⟨h.1, h.2.1⟩, by decide⟩

/-- What a worker makes of the answer of the world. -/
theorem fetchSkills_of_send {world : GetRequest → HttpResponse}
    (hsend : sendHeader (bearerOf agentId secret) = some (bearerOf agentId secret)) {response : HttpResponse}
    (hworld : world ⟨withoutDots (pathParts (skillsUrl agentId)), some (bearerOf agentId secret)⟩ = response)
    {items : List Json} (h : fetchSkillsForAgent world agentId secret = .ok items) :
    200 ≤ response.status ∧ response.status < 300 := by
  unfold fetchSkillsForAgent at h
  rw [hsend] at h
  simp only [bind_eq_ok, require_eq_ok, ensure_eq_ok, Option.some.injEq, exists_eq_left'] at h
  obtain ⟨-, hstatus, -⟩ := h
  rwa [hworld] at hstatus

/-- **When a worker gets skills**: exactly if its id can be a part of an address and of a token, and its secret is that
of its agent; and then it gets the skills of that agent. -/
theorem fetchSkills_eq_ok_iff (hsecret : Visible secret)
    (hend : ∀ c ∈ secret.toList.getLast?, isHttpSpace c = false) {items : List Json} :
    fetchSkillsForAgent (routeSkills vars db) agentId secret = .ok items ↔
      (Addressable agentId ∧ Visible agentId ∧ ':' ∉ agentId.toList ∧ Proved vars db agentId secret) ∧
        items = (forAgent db agentId).map skillJson := by
  rcases sendHeader_bearerOf agentId hend with hsend | ⟨hsend, hnot⟩
  · by_cases haddress : Addressable agentId
    · have hroute : routeSkills vars db ⟨withoutDots (pathParts (skillsUrl agentId)),
          some (bearerOf agentId secret)⟩ = getAgentSkills vars db agentId (some (bearerOf agentId secret)) := by
        rw [routeSkills_address, if_pos haddress]
      rcases getAgentSkills_bearerOf vars db agentId secret with
        ⟨hanswer, hid, -, hcolon, hproved⟩ | ⟨hnot, hstatus⟩
      · have hfetch : fetchSkillsForAgent (routeSkills vars db) agentId secret =
            .ok ((forAgent db agentId).map skillJson) := by
          unfold fetchSkillsForAgent
          rw [hsend]
          simp only [require, bind, Except.bind, hroute, hanswer]
          rfl
        rw [hfetch]
        constructor
        · intro h
          exact ⟨⟨haddress, hid, hcolon, hproved⟩, (Except.ok.inj h).symm⟩
        · rintro ⟨-, rfl⟩
          rfl
      · constructor
        · intro h
          have hrange := fetchSkills_of_send hsend hroute h
          omega
        · rintro ⟨⟨-, hid, hcolon, hproved⟩, -⟩
          exact absurd ⟨hid, hsecret, hcolon, hproved⟩ hnot
    · constructor
      · intro h
        have hroute := fetchSkills_of_send hsend (routeSkills_address.trans (if_neg haddress)) h
        exact absurd hroute.2 (by decide)
      · rintro ⟨⟨h, -⟩, -⟩
        exact absurd h haddress
  · constructor
    · intro h
      unfold fetchSkillsForAgent at h
      rw [hsend] at h
      exact absurd h (by simp [require, bind, Except.bind])
    · rintro ⟨⟨-, hid, -⟩, -⟩
      exact absurd (visible_bearerOf.mpr ⟨hid, hsecret⟩) hnot

variable (vars db agentId) in
/-- **The skills of an agent reach its worker**: it gets an answer exactly if its id can be a part of an address and of
a token, and it has the agent's secret; and what it reads off the answer are the skills of that agent with their
files, and nothing else. -/
theorem skills_fetched (hsecret : Visible secret)
    (hend : ∀ c ∈ secret.toList.getLast?, isHttpSpace c = false) :
    ((∃ items, fetchSkillsForAgent (routeSkills vars db) agentId secret = .ok items) ↔
      Addressable agentId ∧ Visible agentId ∧ ':' ∉ agentId.toList ∧ Proved vars db agentId secret) ∧
    ∀ items, fetchSkillsForAgent (routeSkills vars db) agentId secret = .ok items →
      items.mapM readSkill = some (forAgent db agentId) := by
  refine ⟨⟨fun ⟨items, h⟩ => ((fetchSkills_eq_ok_iff hsecret hend).mp h).1, fun h => ?_⟩, fun items h => ?_⟩
  · exact ⟨_, (fetchSkills_eq_ok_iff hsecret hend).mpr ⟨h, rfl⟩⟩
  · obtain ⟨-, rfl⟩ := (fetchSkills_eq_ok_iff hsecret hend).mp h
    exact mapM_read skillJson readSkill readSkill_skillJson _

end Route

/-- The founder's worker learns of the skill that is attached to it. -/
theorem skills_fetched_founder : ∃ items,
    fetchSkillsForAgent (routeSkills (fun _ => none) (sampleOps.foldl (SkillOp.apply sampleConfig) sampleTown.db))
      "a-1" "dev-secret" = .ok items ∧
    items.mapM readSkill = some (forAgent (sampleOps.foldl (SkillOp.apply sampleConfig) sampleTown.db) "a-1") := by
  have hvisible : Visible "dev-secret" := by decide
  have hend : ∀ c ∈ "dev-secret".toList.getLast?, isHttpSpace c = false := by
    rintro c hc
    obtain rfl := Option.some.inj hc
    rfl
  have h := skills_fetched (fun _ => none) (sampleOps.foldl (SkillOp.apply sampleConfig) sampleTown.db) "a-1"
    hvisible hend
  obtain ⟨items, hitems⟩ := h.1.mpr ⟨by decide, by decide, by decide, by decide +kernel, by decide⟩
  exact ⟨items, hitems, h.2 items hitems⟩

end Cliptown.Gate
