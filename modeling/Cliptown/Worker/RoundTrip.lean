import Cliptown.Worker.Workdir

/-!
# What a spawned worker reads back

The supervisor writes a configuration as a command line, and the worker reads it.

* `daemonConfig` — the configuration of an agent of a new startup, which has no task.
* `Carries`, `RoundTrips` — the worker reads what the supervisor was given.
* `parseWorkerArgs_spawnArgs_iff` — which command lines for a task are accepted, and as what.
* `roundTrips_iff` — which configurations come through: those for a task whose values are neither empty where
  they may not be nor taken for options.
* `roundTrips_spawnConfig_iff` — the same for the scheduler, whose prompt always comes through.
-/

namespace Cliptown.Worker

/-- What a worker of a new startup is spawned with. Source: `api_startups.rs` `create_startup`, `cfg` -/
def daemonConfig (startupId agentId backend secret worldUrl : String) : SpawnConfig where
  agentId := agentId
  startupId := startupId
  worldUrl := worldUrl
  secret := secret
  workspace := workspacePath startupId
  backend := backend
  task := none

/-- The worker's arguments say what the configuration does. -/
structure Carries (cfg : SpawnConfig) (args : ParsedArgs) : Prop where
  agentId : args.agentId = cfg.agentId
  startupId : args.startupId = cfg.startupId
  worldUrl : args.worldUrl = cfg.worldUrl
  secret : args.secret = cfg.secret
  workspace : args.workspace = cfg.workspace
  backend : args.backend = cfg.backend
  task : ∀ t, cfg.task = some t → args.taskId = t.taskId ∧ args.prompt = t.prompt ∧
    args.preferredBackend = t.preferredBackend ∧ args.preferredModel = t.preferredModel
  real : args.real = cfg.task.isSome

/-- The worker does not throw on the command line of the configuration, and reads it back. -/
def RoundTrips (cfg : SpawnConfig) : Prop :=
  ∃ args, parseWorkerArgs (spawnArgs cfg) = some args ∧ Carries cfg args

/-- The values that a spawn for a task passes as arguments of their own. -/
def passedValues (cfg : SpawnConfig) (t : TaskSpawn) : List String :=
  [cfg.worldUrl, cfg.agentId, cfg.startupId, cfg.secret, cfg.workspace, cfg.backend, t.taskId, t.prompt] ++
    (t.preferredBackend.toList ++ t.preferredModel.toList)

/-- The values that the worker requires. -/
def requiredValues (cfg : SpawnConfig) (t : TaskSpawn) : List String :=
  [cfg.worldUrl, cfg.agentId, cfg.startupId, t.taskId, cfg.secret, cfg.workspace]

/-- No value is taken for an option, and none that the worker requires is empty. -/
structure Readable (cfg : SpawnConfig) (t : TaskSpawn) : Prop where
  plain : ∀ v ∈ passedValues cfg t, isOptionLikeValue v = false
  given : ∀ v ∈ requiredValues cfg t, v ≠ ""

/-- What a worker spawned for a task makes of its arguments: an empty preference is none. -/
def spawnedArgs (cfg : SpawnConfig) (t : TaskSpawn) : ParsedArgs where
  worldUrl := cfg.worldUrl
  agentId := cfg.agentId
  startupId := cfg.startupId
  taskId := t.taskId
  secret := cfg.secret
  backend := cfg.backend
  workspace := cfg.workspace
  mock := false
  fixture := none
  prompt := t.prompt
  real := true
  preferredBackend := t.preferredBackend.filter fun v => v ≠ ""
  preferredModel := t.preferredModel.filter fun v => v ≠ ""

section Parse

variable {cfg : SpawnConfig} {t : TaskSpawn} {arg v : String} {rest : List String}
  {values : List (String × OptionValue)} {args : ParsedArgs}

/-- A string option that is read has a value that does not look like an option. -/
theorem plain_of_parseArgs (name : String) (h : longOption arg = some (name, .string))
    (hp : parseArgs (arg :: v :: rest) = some values) : isOptionLikeValue v = false := by
  simp only [parseArgs, h] at hp
  split at hp
  · exact absurd hp (by simp)
  · simpa using ‹¬ isOptionLikeValue v = true›

/-- So has an option that is passed only when it has a value. -/
theorem plain_of_parseArgs_optional (name : String) (h : longOption arg = some (name, .string)) {o : Option String}
    (hp : parseArgs (optionalArg arg o ++ rest) = some values) :
    ∀ v ∈ o.toList, isOptionLikeValue v = false := by
  cases o with
  | none => exact fun _ hv => absurd hv (by simp)
  | some u =>
      intro v hv
      obtain rfl := List.mem_singleton.mp hv
      exact plain_of_parseArgs name h hp

/-- **Strict parsing** of the command line for a task succeeds exactly if no value looks like an option. -/
theorem parseArgs_spawnArgs_iff (ht : cfg.task = some t) :
    parseArgs (spawnArgs cfg) = some values ↔
      (∀ v ∈ passedValues cfg t, isOptionLikeValue v = false) ∧ values = spawnedValues cfg t := by
  constructor
  · intro hp
    refine ⟨?_, parseArgs_spawnArgs ht hp⟩
    unfold spawnArgs at hp
    rw [ht] at hp
    obtain ⟨v₁, h₁, -⟩ := parseArgs_string "world-url" (by decide) hp
    obtain ⟨v₂, h₂, -⟩ := parseArgs_string "agent-id" (by decide) h₁
    obtain ⟨v₃, h₃, -⟩ := parseArgs_string "startup-id" (by decide) h₂
    obtain ⟨v₄, h₄, -⟩ := parseArgs_string "secret" (by decide) h₃
    obtain ⟨v₅, h₅, -⟩ := parseArgs_string "workspace" (by decide) h₄
    obtain ⟨v₆, h₆, -⟩ := parseArgs_string "backend" (by decide) h₅
    obtain ⟨v₇, h₇, -⟩ := parseArgs_flag "real" (by decide) h₆
    obtain ⟨v₈, h₈, -⟩ := parseArgs_string "task-id" (by decide) h₇
    obtain ⟨v₉, h₉, -⟩ := parseArgs_string "prompt" (by decide) h₈
    obtain ⟨v₁₀, h₁₀, -⟩ := parseArgs_optional "preferred-backend" (by decide) h₉
    rw [← List.append_nil (optionalArg _ t.preferredModel)] at h₁₀
    simp only [passedValues, List.cons_append, List.nil_append, List.forall_mem_cons, List.forall_mem_append]
    exact ⟨plain_of_parseArgs "world-url" (by decide) hp, plain_of_parseArgs "agent-id" (by decide) h₁,
      plain_of_parseArgs "startup-id" (by decide) h₂, plain_of_parseArgs "secret" (by decide) h₃,
      plain_of_parseArgs "workspace" (by decide) h₄, plain_of_parseArgs "backend" (by decide) h₅,
      plain_of_parseArgs "task-id" (by decide) h₇, plain_of_parseArgs "prompt" (by decide) h₈,
      plain_of_parseArgs_optional "preferred-backend" (by decide) h₉,
      plain_of_parseArgs_optional "preferred-model" (by decide) h₁₀⟩
  · rintro ⟨hplain, rfl⟩
    have hparsed : (parseArgs (spawnArgs cfg)).isSome := by
      refine isSome_parseArgs_spawnArgs ht (fun v hv => hplain v (List.mem_append_left _ hv)) ?_ ?_
      · intro v hv
        exact hplain v (List.mem_append_right _ (List.mem_append_left _ (Option.mem_toList.mpr hv)))
      · intro v hv
        exact hplain v (List.mem_append_right _ (List.mem_append_right _ (Option.mem_toList.mpr hv)))
    obtain ⟨found, hfound⟩ := Option.isSome_iff_exists.mp hparsed
    rw [hfound, parseArgs_spawnArgs ht hfound]

/-- The command line without a task names none. -/
theorem required_taskId_of_no_task (ht : cfg.task = none) (hp : parseArgs (spawnArgs cfg) = some values) :
    required values "task-id" = none := by
  unfold spawnArgs at hp
  rw [ht] at hp
  obtain ⟨v₁, h₁, rfl⟩ := parseArgs_string "world-url" (by decide) hp
  obtain ⟨v₂, h₂, rfl⟩ := parseArgs_string "agent-id" (by decide) h₁
  obtain ⟨v₃, h₃, rfl⟩ := parseArgs_string "startup-id" (by decide) h₂
  obtain ⟨v₄, h₄, rfl⟩ := parseArgs_string "secret" (by decide) h₃
  obtain ⟨v₅, h₅, rfl⟩ := parseArgs_string "workspace" (by decide) h₄
  obtain ⟨v₆, h₆, rfl⟩ := parseArgs_string "backend" (by decide) h₅
  obtain rfl : [] = v₆ := Option.some.inj h₆
  rfl

/-- A required option that is accepted was given, and not empty. -/
theorem required_eq_some {name : String} :
    required values name = some v ↔ stringOf values name = some v ∧ v ≠ "" := by
  unfold required
  rw [Option.filter_eq_some_iff]
  simp

/-- The options that the worker does not require. -/
theorem optional_spawnedValues (cfg : SpawnConfig) (t : TaskSpawn) :
    stringOf (spawnedValues cfg t) "backend" = some cfg.backend ∧
      stringOf (spawnedValues cfg t) "prompt" = some t.prompt ∧
        (valueOf (spawnedValues cfg t) "real").isSome = true ∧
          (valueOf (spawnedValues cfg t) "mock").isSome = false ∧
            stringOf (spawnedValues cfg t) "fixture" = none ∧
              stringOf (spawnedValues cfg t) "preferred-backend" = t.preferredBackend ∧
                stringOf (spawnedValues cfg t) "preferred-model" = t.preferredModel := by
  obtain ⟨taskId, prompt, backend, model⟩ := t
  cases backend <;> cases model <;> simp [stringOf, valueOf, spawnedValues, optionalValue]

/-- **Which command lines for a task are accepted**, and what is read. -/
theorem parseWorkerArgs_spawnArgs_iff (ht : cfg.task = some t) :
    parseWorkerArgs (spawnArgs cfg) = some args ↔ Readable cfg t ∧ args = spawnedArgs cfg t := by
  obtain ⟨hworld, hagent, hstartup, htask, hsecret, hworkspace⟩ := stringOf_spawnedValues cfg t
  obtain ⟨hbackend, hprompt, hreal, hmock, hfixture, hpreferred, hmodel⟩ := optional_spawnedValues cfg t
  have hread : ∀ {given : String} {name : String}, stringOf (spawnedValues cfg t) name = some given →
      ∀ v, required (spawnedValues cfg t) name = some v ↔ given ≠ "" ∧ given = v := by
    intro given name hgiven v
    rw [required_eq_some, hgiven, Option.some.injEq]
    constructor
    · rintro ⟨rfl, hne⟩
      exact ⟨hne, rfl⟩
    · rintro ⟨hne, rfl⟩
      exact ⟨rfl, hne⟩
  unfold parseWorkerArgs
  simp only [Option.bind_eq_bind, Option.bind_eq_some_iff, Option.pure_def, Option.some.injEq,
    parseArgs_spawnArgs_iff ht]
  constructor
  · rintro ⟨values, ⟨hplain, rfl⟩, w, hw, a, ha, s, hs, i, hi, p, hp, ws, hws, rfl⟩
    obtain ⟨hw', rfl⟩ := (hread hworld w).mp hw
    obtain ⟨ha', rfl⟩ := (hread hagent a).mp ha
    obtain ⟨hs', rfl⟩ := (hread hstartup s).mp hs
    obtain ⟨hi', rfl⟩ := (hread htask i).mp hi
    obtain ⟨hp', rfl⟩ := (hread hsecret p).mp hp
    obtain ⟨hws', rfl⟩ := (hread hworkspace ws).mp hws
    refine ⟨⟨hplain, by simp [requiredValues, hw', ha', hs', hi', hp', hws']⟩, ?_⟩
    rw [hbackend, hprompt, hreal, hmock, hfixture, required, required, hpreferred, hmodel]
    rfl
  · rintro ⟨⟨hplain, hgiven⟩, rfl⟩
    simp only [requiredValues, List.forall_mem_cons] at hgiven
    obtain ⟨hw, ha, hs, hi, hp, hws, -⟩ := hgiven
    refine ⟨_, ⟨hplain, rfl⟩, _, (hread hworld _).mpr ⟨hw, rfl⟩, _, (hread hagent _).mpr ⟨ha, rfl⟩, _,
      (hread hstartup _).mpr ⟨hs, rfl⟩, _, (hread htask _).mpr ⟨hi, rfl⟩, _,
      (hread hsecret _).mpr ⟨hp, rfl⟩, _, (hread hworkspace _).mpr ⟨hws, rfl⟩, ?_⟩
    rw [hbackend, hprompt, hreal, hmock, hfixture, required, required, hpreferred, hmodel]
    rfl

end Parse

/-! ### Which configurations come through -/

/-- A filter that drops the empty text keeps exactly the others. -/
theorem filter_ne_empty_eq_self_iff {o : Option String} : o.filter (fun v => v ≠ "") = o ↔ o ≠ some "" := by
  cases o with
  | none => simp
  | some v => by_cases hv : v = "" <;> simp [hv]

/-- **What comes through** is a configuration for a task of which the worker accepts every value, with no empty
preference. -/
theorem roundTrips_iff (cfg : SpawnConfig) :
    RoundTrips cfg ↔ ∃ t, cfg.task = some t ∧ Readable cfg t ∧ t.preferredBackend ≠ some "" ∧
      t.preferredModel ≠ some "" := by
  constructor
  · rintro ⟨args, hargs, hcarries⟩
    rcases ht : cfg.task with _ | t
    · unfold parseWorkerArgs at hargs
      simp only [Option.bind_eq_bind, Option.bind_eq_some_iff] at hargs
      obtain ⟨values, hvalues, _, -, _, -, _, -, _, htask, -⟩ := hargs
      exact absurd ((required_taskId_of_no_task ht hvalues).symm.trans htask) (by simp)
    · obtain ⟨hreadable, rfl⟩ := (parseWorkerArgs_spawnArgs_iff ht).mp hargs
      obtain ⟨-, -, hbackend, hmodel⟩ := hcarries.task t ht
      exact ⟨t, rfl, hreadable, filter_ne_empty_eq_self_iff.mp hbackend, filter_ne_empty_eq_self_iff.mp hmodel⟩
  · rintro ⟨t, ht, hreadable, hbackend, hmodel⟩
    refine ⟨_, (parseWorkerArgs_spawnArgs_iff ht).mpr ⟨hreadable, rfl⟩, ?_⟩
    exact
      { agentId := rfl
        startupId := rfl
        worldUrl := rfl
        secret := rfl
        workspace := rfl
        backend := rfl
        task := by
          intro t' ht'
          obtain rfl := Option.some.inj (ht.symm.trans ht')
          exact ⟨rfl, rfl, filter_ne_empty_eq_self_iff.mpr hbackend, filter_ne_empty_eq_self_iff.mpr hmodel⟩
        real := by
          rw [ht]
          rfl }

/-- **The workers of a new startup** never start: they are spawned without the task id that they require. -/
theorem not_roundTrips_daemonConfig :
    ¬ RoundTrips (daemonConfig "s-1" "a-2" "codex" "dev-secret" "ws://127.0.0.1:8080/ws/worker") := by
  rintro ⟨args, hargs, -⟩
  have hthrows : parseWorkerArgs (spawnArgs (daemonConfig "s-1" "a-2" "codex" "dev-secret"
      "ws://127.0.0.1:8080/ws/worker")) = none := by
    decide +kernel
  exact absurd (hthrows.symm.trans hargs) (by simp)

/-- **What the scheduler spawns** comes through whatever the prompt. -/
theorem roundTrips_spawnConfig_iff (task : QueuedTask) (secret worldUrl : String) :
    RoundTrips (task.spawnConfig secret worldUrl) ↔
      (∀ v ∈ [worldUrl, task.assigneeAgentId, task.startupId, secret, task.workspacePath, task.agentBackend,
        task.id] ++ (task.preferredBackend.toList ++ task.preferredModel.toList), isOptionLikeValue v = false) ∧
      (∀ v ∈ [worldUrl, task.assigneeAgentId, task.startupId, task.id, secret, task.workspacePath], v ≠ "") ∧
      task.preferredBackend ≠ some "" ∧ task.preferredModel ≠ some "" := by
  rw [roundTrips_iff]
  constructor
  · rintro ⟨t, ht, ⟨hplain, hgiven⟩, hbackend, hmodel⟩
    obtain rfl := Option.some.inj ht
    refine ⟨fun v hv => hplain v ?_, hgiven, hbackend, hmodel⟩
    simp only [passedValues, QueuedTask.spawnConfig, List.mem_append, List.mem_cons] at hv ⊢
    tauto
  · rintro ⟨hplain, hgiven, hbackend, hmodel⟩
    refine ⟨_, rfl, ⟨fun v hv => ?_, hgiven⟩, hbackend, hmodel⟩
    by_cases hprompt : v = task.prompt
    · rw [hprompt]
      exact isOptionLikeValue_prompt task
    · refine hplain v ?_
      simp only [passedValues, QueuedTask.spawnConfig, List.mem_append, List.mem_cons] at hv ⊢
      tauto

end Cliptown.Worker
