import Mathlib.Data.List.Basic

/-!
# Spawning a worker

The command line that the supervisor builds and the worker parses.

* `SpawnConfig`, `spawnArgs` — what a worker is spawned with.
* `parseArgs`, `parseWorkerArgs` — the strict parser of `node:util` for the worker's options, and the
  worker's own checks on top of it.
* `parseArgs_spawnArgs` — the options that a spawned worker reads, whenever it accepts its arguments.
-/

namespace Cliptown.Worker

/-! ### The supervisor's side -/

/-- Source: `agent_supervisor.rs` `TaskSpawn` -/
structure TaskSpawn where
  taskId : String
  prompt : String
  preferredBackend : Option String
  preferredModel : Option String
  deriving DecidableEq, Repr

/-- Source: `agent_supervisor.rs` `SpawnConfig` -/
structure SpawnConfig where
  agentId : String
  startupId : String
  worldUrl : String
  secret : String
  workspace : String
  backend : String
  task : Option TaskSpawn
  deriving DecidableEq, Repr

/-- An option that is passed only when it has a value. -/
def optionalArg (flag : String) : Option String → List String
  | some v => [flag, v]
  | none => []

/-- The arguments of the worker behind the configured ones (by default none).
Source: `agent_supervisor.rs` `spawn_child` -/
def spawnArgs (cfg : SpawnConfig) : List String :=
  ["--world-url", cfg.worldUrl, "--agent-id", cfg.agentId, "--startup-id", cfg.startupId,
    "--secret", cfg.secret, "--workspace", cfg.workspace, "--backend", cfg.backend] ++
  match cfg.task with
  | some t =>
      ["--real", "--task-id", t.taskId, "--prompt", t.prompt] ++
        (optionalArg "--preferred-backend" t.preferredBackend ++
          optionalArg "--preferred-model" t.preferredModel)
  | none => []

/-! ### The worker's side -/

/-- The two kinds of options of `parseArgs`. -/
inductive OptionType where
  | string
  | boolean
  deriving DecidableEq, Repr

/-- What an option was given. -/
inductive OptionValue where
  | str (s : String)
  | flag
  deriving DecidableEq, Repr

/-- Source: `main.ts` `parseWorkerArgs`, the `options` table -/
def workerOptions : List (String × OptionType) :=
  [("world-url", .string), ("agent-id", .string), ("startup-id", .string), ("task-id", .string),
    ("secret", .string), ("backend", .string), ("workspace", .string), ("mock", .boolean),
    ("fixture", .string), ("prompt", .string), ("real", .boolean), ("preferred-backend", .string),
    ("preferred-model", .string)]

/-- A known option in the form `--name`. -/
def longOption (arg : String) : Option (String × OptionType) :=
  match arg.toList with
  | '-' :: '-' :: name => workerOptions.find? fun o => o.1.toList = name
  | _ => none

/-- A value that strict parsing refuses after an option because it looks like one. -/
def isOptionLikeValue (v : String) : Bool :=
  match v.toList with
  | '-' :: _ :: _ => true
  | _ => false

/-- Strict parsing without positionals: `none` where `node:util` throws. The form `--name=value`,
which the supervisor never uses, is left out. Source: `main.ts`, `parseArgs` of `node:util` -/
def parseArgs : List String → Option (List (String × OptionValue))
  | [] => some []
  | [arg] =>
      match longOption arg with
      | some (name, .boolean) => some [(name, .flag)]
      | _ => none
  | arg :: next :: rest =>
      match longOption arg with
      | some (name, .boolean) => (parseArgs (next :: rest)).map fun vs => (name, .flag) :: vs
      | some (name, .string) =>
          if isOptionLikeValue next then none
          else (parseArgs rest).map fun vs => (name, .str next) :: vs
      | none => none

/-- The value of an option: the last one given. -/
def valueOf (values : List (String × OptionValue)) (name : String) : Option OptionValue :=
  (values.reverse.find? fun v => v.1 = name).map Prod.snd

/-- The string given for an option. -/
def stringOf (values : List (String × OptionValue)) (name : String) : Option String :=
  match valueOf values name with
  | some (.str s) => some s
  | _ => none

/-- Source: `main.ts` `required` -/
def required (values : List (String × OptionValue)) (name : String) : Option String :=
  (stringOf values name).filter fun s => s ≠ ""

/-- Source: `main.ts` `ParsedArgs` -/
structure ParsedArgs where
  worldUrl : String
  agentId : String
  startupId : String
  taskId : String
  secret : String
  backend : String
  workspace : String
  mock : Bool
  fixture : Option String
  prompt : String
  real : Bool
  preferredBackend : Option String
  preferredModel : Option String
  deriving DecidableEq, Repr

/-- Source: `main.ts` `parseWorkerArgs` -/
def parseWorkerArgs (argv : List String) : Option ParsedArgs := do
  let values ← parseArgs argv
  let worldUrl ← required values "world-url"
  let agentId ← required values "agent-id"
  let startupId ← required values "startup-id"
  let taskId ← required values "task-id"
  let secret ← required values "secret"
  let workspace ← required values "workspace"
  return {
    worldUrl, agentId, startupId, taskId, secret, workspace
    backend := (stringOf values "backend").getD "claude_code"
    mock := (valueOf values "mock").isSome
    fixture := stringOf values "fixture"
    prompt := (stringOf values "prompt").getD ""
    real := (valueOf values "real").isSome
    preferredBackend := required values "preferred-backend"
    preferredModel := required values "preferred-model" }

/-! ### Both sides together -/

section RoundTrip

variable {arg v : String} {rest : List String} {values : List (String × OptionValue)}

/-- Reading a string option. -/
theorem parseArgs_string (name : String) (h : longOption arg = some (name, .string))
    (hp : parseArgs (arg :: v :: rest) = some values) :
    ∃ vs, parseArgs rest = some vs ∧ values = (name, .str v) :: vs := by
  simp only [parseArgs, h] at hp
  split at hp
  · exact absurd hp (by simp)
  · obtain ⟨vs, hvs, rfl⟩ := Option.map_eq_some_iff.mp hp
    exact ⟨vs, hvs, rfl⟩

/-- Reading a flag. -/
theorem parseArgs_flag (name : String) (h : longOption arg = some (name, .boolean))
    (hp : parseArgs (arg :: v :: rest) = some values) :
    ∃ vs, parseArgs (v :: rest) = some vs ∧ values = (name, .flag) :: vs := by
  simp only [parseArgs, h] at hp
  obtain ⟨vs, hvs, rfl⟩ := Option.map_eq_some_iff.mp hp
  exact ⟨vs, hvs, rfl⟩

/-- The values of an optional argument, if it is there. -/
def optionalValue (name : String) : Option String → List (String × OptionValue)
  | some v => [(name, .str v)]
  | none => []

/-- Reading an option that is passed only when it has a value. -/
theorem parseArgs_optional (name : String) (h : longOption arg = some (name, .string))
    {o : Option String}
    (hp : parseArgs (optionalArg arg o ++ rest) = some values) :
    ∃ vs, parseArgs rest = some vs ∧ values = optionalValue name o ++ vs := by
  cases o with
  | none => exact ⟨values, hp, rfl⟩
  | some v => exact parseArgs_string name h hp

/-- The options of a worker spawned for a task. -/
def spawnedValues (cfg : SpawnConfig) (t : TaskSpawn) : List (String × OptionValue) :=
  [("world-url", .str cfg.worldUrl), ("agent-id", .str cfg.agentId),
    ("startup-id", .str cfg.startupId), ("secret", .str cfg.secret),
    ("workspace", .str cfg.workspace), ("backend", .str cfg.backend), ("real", .flag),
    ("task-id", .str t.taskId), ("prompt", .str t.prompt)] ++
  (optionalValue "preferred-backend" t.preferredBackend ++
    optionalValue "preferred-model" t.preferredModel)

/-- **What a worker spawned for a task reads**, whenever it accepts its arguments.
Source: `agent_supervisor.rs` `spawn_child`, `main.ts` `parseWorkerArgs` -/
theorem parseArgs_spawnArgs {cfg : SpawnConfig} {t : TaskSpawn} (ht : cfg.task = some t)
    (hp : parseArgs (spawnArgs cfg) = some values) : values = spawnedValues cfg t := by
  unfold spawnArgs at hp
  rw [ht] at hp
  obtain ⟨v₁, h₁, rfl⟩ := parseArgs_string "world-url" (by decide) hp
  obtain ⟨v₂, h₂, rfl⟩ := parseArgs_string "agent-id" (by decide) h₁
  obtain ⟨v₃, h₃, rfl⟩ := parseArgs_string "startup-id" (by decide) h₂
  obtain ⟨v₄, h₄, rfl⟩ := parseArgs_string "secret" (by decide) h₃
  obtain ⟨v₅, h₅, rfl⟩ := parseArgs_string "workspace" (by decide) h₄
  obtain ⟨v₆, h₆, rfl⟩ := parseArgs_string "backend" (by decide) h₅
  obtain ⟨v₇, h₇, rfl⟩ := parseArgs_flag "real" (by decide) h₆
  obtain ⟨v₈, h₈, rfl⟩ := parseArgs_string "task-id" (by decide) h₇
  obtain ⟨v₉, h₉, rfl⟩ := parseArgs_string "prompt" (by decide) h₈
  obtain ⟨v₁₀, h₁₀, rfl⟩ := parseArgs_optional "preferred-backend" (by decide) h₉
  rw [← List.append_nil (optionalArg _ t.preferredModel)] at h₁₀
  obtain ⟨v₁₁, h₁₁, rfl⟩ := parseArgs_optional "preferred-model" (by decide) h₁₀
  obtain rfl : [] = v₁₁ := Option.some.inj h₁₁
  simp [spawnedValues]

/-- The required strings are the ones passed. -/
theorem stringOf_spawnedValues (cfg : SpawnConfig) (t : TaskSpawn) :
    stringOf (spawnedValues cfg t) "world-url" = some cfg.worldUrl ∧
      stringOf (spawnedValues cfg t) "agent-id" = some cfg.agentId ∧
      stringOf (spawnedValues cfg t) "startup-id" = some cfg.startupId ∧
      stringOf (spawnedValues cfg t) "task-id" = some t.taskId ∧
      stringOf (spawnedValues cfg t) "secret" = some cfg.secret ∧
      stringOf (spawnedValues cfg t) "workspace" = some cfg.workspace := by
  obtain ⟨taskId, prompt, backend, model⟩ := t
  cases backend <;> cases model <;> simp [stringOf, valueOf, spawnedValues, optionalValue]

/-- A required option is the string given. -/
theorem stringOf_of_required {values : List (String × OptionValue)} {name v : String}
    (h : required values name = some v) : stringOf values name = some v := by
  unfold required at h
  exact (Option.filter_eq_some_iff.mp h).1

/-- **What the worker keeps of the configuration that names its directory.** -/
theorem parseWorkerArgs_spawnArgs {cfg : SpawnConfig} {t : TaskSpawn} {args : ParsedArgs}
    (ht : cfg.task = some t) (h : parseWorkerArgs (spawnArgs cfg) = some args) :
    args.workspace = cfg.workspace ∧ args.startupId = cfg.startupId ∧ args.taskId = t.taskId := by
  unfold parseWorkerArgs at h
  simp only [Option.bind_eq_bind, Option.bind_eq_some_iff, Option.pure_def,
    Option.some.injEq] at h
  obtain ⟨values, hvalues, w, -, a, -, s, hs, i, hi, p, -, ws, hws, rfl⟩ := h
  obtain rfl := parseArgs_spawnArgs ht hvalues
  obtain ⟨-, -, hs', hi', -, hws'⟩ := stringOf_spawnedValues cfg t
  have hws := (stringOf_of_required hws).symm.trans hws'
  have hs := (stringOf_of_required hs).symm.trans hs'
  have hi := (stringOf_of_required hi).symm.trans hi'
  exact ⟨Option.some.inj hws, Option.some.inj hs, Option.some.inj hi⟩

/-- A string option is read when its value does not look like an option. -/
theorem isSome_parseArgs_string (name : String) (h : longOption arg = some (name, .string))
    (hv : isOptionLikeValue v = false) (hrest : (parseArgs rest).isSome) :
    (parseArgs (arg :: v :: rest)).isSome := by
  simpa [parseArgs, h, hv] using hrest

/-- A flag is read. -/
theorem isSome_parseArgs_flag (name : String) (h : longOption arg = some (name, .boolean))
    (hrest : (parseArgs (v :: rest)).isSome) : (parseArgs (arg :: v :: rest)).isSome := by
  simpa [parseArgs, h] using hrest

/-- An optional argument is read when its value, if any, does not look like an option. -/
theorem isSome_parseArgs_optional (name : String) (h : longOption arg = some (name, .string))
    {o : Option String} (hv : ∀ v ∈ o, isOptionLikeValue v = false)
    (hrest : (parseArgs rest).isSome) : (parseArgs (optionalArg arg o ++ rest)).isSome := by
  cases o with
  | none => exact hrest
  | some v => exact isSome_parseArgs_string name h (hv v rfl) hrest

/-- **When the worker accepts its arguments**: no value looks like an option. -/
theorem isSome_parseArgs_spawnArgs {cfg : SpawnConfig} {t : TaskSpawn} (ht : cfg.task = some t)
    (hv : ∀ v ∈ [cfg.worldUrl, cfg.agentId, cfg.startupId, cfg.secret, cfg.workspace, cfg.backend,
      t.taskId, t.prompt], isOptionLikeValue v = false)
    (hb : ∀ v ∈ t.preferredBackend, isOptionLikeValue v = false)
    (hm : ∀ v ∈ t.preferredModel, isOptionLikeValue v = false) :
    (parseArgs (spawnArgs cfg)).isSome := by
  unfold spawnArgs
  rw [ht]
  apply isSome_parseArgs_string "world-url" (by decide) (hv _ (by simp))
  apply isSome_parseArgs_string "agent-id" (by decide) (hv _ (by simp))
  apply isSome_parseArgs_string "startup-id" (by decide) (hv _ (by simp))
  apply isSome_parseArgs_string "secret" (by decide) (hv _ (by simp))
  apply isSome_parseArgs_string "workspace" (by decide) (hv _ (by simp))
  apply isSome_parseArgs_string "backend" (by decide) (hv _ (by simp))
  apply isSome_parseArgs_flag "real" (by decide)
  apply isSome_parseArgs_string "task-id" (by decide) (hv _ (by simp))
  apply isSome_parseArgs_string "prompt" (by decide) (hv _ (by simp))
  apply isSome_parseArgs_optional "preferred-backend" (by decide) hb
  rw [← List.append_nil (optionalArg _ t.preferredModel)]
  exact isSome_parseArgs_optional "preferred-model" (by decide) hm rfl

/-- A required option that is given and not empty. -/
theorem required_of_stringOf {name : String} (h : stringOf values name = some v) (hv : v ≠ "") :
    required values name = some v := by
  unfold required
  exact Option.filter_eq_some_iff.mpr ⟨h, by simpa using hv⟩

/-- **When the worker starts**: moreover the required strings are not empty. -/
theorem isSome_parseWorkerArgs_spawnArgs {cfg : SpawnConfig} {t : TaskSpawn}
    (ht : cfg.task = some t)
    (hv : ∀ v ∈ [cfg.worldUrl, cfg.agentId, cfg.startupId, cfg.secret, cfg.workspace, cfg.backend,
      t.taskId, t.prompt], isOptionLikeValue v = false)
    (hb : ∀ v ∈ t.preferredBackend, isOptionLikeValue v = false)
    (hm : ∀ v ∈ t.preferredModel, isOptionLikeValue v = false)
    (hne : ∀ v ∈ [cfg.worldUrl, cfg.agentId, cfg.startupId, t.taskId, cfg.secret, cfg.workspace],
      v ≠ "") :
    (parseWorkerArgs (spawnArgs cfg)).isSome := by
  obtain ⟨values, hvalues⟩ :=
    Option.isSome_iff_exists.mp (isSome_parseArgs_spawnArgs ht hv hb hm)
  obtain rfl := parseArgs_spawnArgs ht hvalues
  obtain ⟨hw, ha, hs, hi, hsecret, hws⟩ := stringOf_spawnedValues cfg t
  simp only [List.forall_mem_cons] at hne
  obtain ⟨hw', ha', hs', hi', hsecret', hws', -⟩ := hne
  unfold parseWorkerArgs
  rw [hvalues]
  simp [required_of_stringOf hw hw', required_of_stringOf ha ha', required_of_stringOf hs hs',
    required_of_stringOf hi hi', required_of_stringOf hsecret hsecret',
    required_of_stringOf hws hws']

end RoundTrip

end Cliptown.Worker
