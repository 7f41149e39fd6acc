import Cliptown.Lib.PosixPath
import Cliptown.Worker.Args

/-!
# The work directory of a task

The directory is named twice: by the world, and by the worker that the scheduler spawns for the
task.

* `workspacePath`, `QueuedTask.spawnConfig` — the stored path of a startup, and how the scheduler
  passes it on.
* `taskWorkdir` — the world's directory of a task, relative to its current directory.
* `prepareWorkdir`, `workerWorkdir` — the directory that a spawned worker creates.
* `MintedId` — the ids that the world mints for startups and tasks.
* `taskWorkdir_resolve`, `prepareWorkdir_eq` — both directories as components.
* `workdirs_differ` — they never agree.
-/

namespace Cliptown.Worker

open Cliptown.Lib.PosixPath

/-! ### The world's side -/

/-- The `workspace_path` stored with a new startup. Source: `api_startups.rs` `create_startup` -/
def workspacePath (startupId : String) : String :=
  "workspaces/" ++ startupId

/-- The work directory of a task, as the file tools and the collector see it.
Source: `agent_tools.rs` `task_workdir` -/
def taskWorkdir (startupId taskId : String) : String :=
  "workspaces/" ++ startupId ++ "/" ++ taskId ++ "/workdir"

/-- The canonical artifact path. Source: `self_review.rs` `canonical_artifact_path` -/
def canonicalArtifactPath (startupId taskId : String) : String :=
  "workspaces/" ++ startupId ++ "/artifacts/" ++ taskId ++ ".md"

/-- A row of the dispatch query. Source: `scheduler.rs` `QueuedTask` -/
structure QueuedTask where
  id : String
  title : String
  description : String
  assigneeAgentId : String
  requiredRoom : Option String
  parentId : Option String
  preferredBackend : Option String
  preferredModel : Option String
  startupId : String
  agentBackend : String
  workspacePath : String
  blockedOn : Option String
  deriving DecidableEq, Repr

/-- The prompt of a worker spawned for a task. Source: `scheduler.rs` `tick`, `prompt` -/
def QueuedTask.prompt (task : QueuedTask) : String :=
  "You are agent " ++ task.assigneeAgentId ++ " in startup " ++ task.startupId ++
    ". Implement task '" ++ task.title ++ "':\n\n" ++ task.description ++
    "\n\nWhen complete, call the `task_done` MCP tool with artifact_path \"" ++
    canonicalArtifactPath task.startupId task.id ++
    "\". Save your output to that path first."

/-- The prompt never looks like an option. -/
theorem isOptionLikeValue_prompt (task : QueuedTask) : isOptionLikeValue task.prompt = false := by
  unfold isOptionLikeValue QueuedTask.prompt
  simp only [String.toList_append, List.append_assoc]
  rfl

/-- What the scheduler spawns a worker with; the secret and the URL come from the environment.
Source: `scheduler.rs` `tick`, `cfg` -/
def QueuedTask.spawnConfig (task : QueuedTask) (secret worldUrl : String) : SpawnConfig where
  agentId := task.assigneeAgentId
  startupId := task.startupId
  worldUrl := worldUrl
  secret := secret
  workspace := task.workspacePath
  backend := task.agentBackend
  task := some ⟨task.id, task.prompt, task.preferredBackend, task.preferredModel⟩

/-! ### The worker's side -/

/-- The work directory that the worker creates under its workspaces root.
Source: `execenv.ts` `prepareWorkdir` -/
def prepareWorkdir (workspacesRoot : AbsPath) (startupId taskId : String) : AbsPath :=
  let workspacesDir := join workspacesRoot ["workspaces"]
  join workspacesDir [startupId, taskId, "workdir"]

/-- The work directory of a worker started in `cwd`: the root is its `--workspace`, resolved.
Source: `main.ts`, `workspaceRoot` -/
def workerWorkdir (cwd : AbsPath) (args : ParsedArgs) : AbsPath :=
  prepareWorkdir (resolve cwd args.workspace) args.startupId args.taskId

/-- For a task spawned with the startup's stored path, the worker that accepts its arguments works
in the directory that the world names. -/
def WorkdirsAgree (cwd : AbsPath) (task : QueuedTask) (secret worldUrl : String) : Prop :=
  ∀ args, parseWorkerArgs (spawnArgs (task.spawnConfig secret worldUrl)) = some args →
    workerWorkdir cwd args = resolve cwd (taskWorkdir task.startupId task.id)

/-! ### Ids -/

/-- An id that the world mints: a UUID, or a prefix and one. It is not empty and consists of
letters, digits, hyphens and underscores. Source: `api_startups.rs`, `api_tasks.rs`,
`mcp_dispatch.rs`, the uses of `Uuid::new_v4` -/
def MintedId (id : String) : Prop :=
  id.toList ≠ [] ∧ ∀ c ∈ id.toList, c.isAlphanum ∨ c = '-' ∨ c = '_'

instance (id : String) : Decidable (MintedId id) :=
  have : Decidable (∀ c ∈ id.toList, c.isAlphanum ∨ c = '-' ∨ c = '_') := List.decidableBAll _ _
  inferInstanceAs (Decidable (_ ∧ _))

/-- What else is in no minted id. -/
theorem MintedId.notMem {id : String} (h : MintedId id) {c : Char} (halnum : c.isAlphanum = false) (hhyphen : c ≠ '-')
    (hunder : c ≠ '_') : c ∉ id.toList := by
  intro hc
  rcases h.2 c hc with h | h | h
  · rw [halnum] at h
    exact absurd h (by simp)
  · exact hhyphen h
  · exact hunder h

theorem MintedId.dot_notMem {id : String} (h : MintedId id) : '.' ∉ id.toList :=
  h.notMem (by decide) (by decide) (by decide)

/-- A minted id is a plain path component. -/
theorem MintedId.plain {id : String} (h : MintedId id) : Plain id.toList := by
  constructor
  · exact h.1
  · intro heq
    exact h.dot_notMem (by rw [heq]; exact List.mem_cons_self)
  · intro heq
    exact h.dot_notMem (by rw [heq]; exact List.mem_cons_self)
  · exact h.notMem (by decide) (by decide) (by decide)

/-! ### Both sides together -/

section Agreement

variable {cwd : AbsPath} {startupId taskId : String}

/-- The stored path of a startup, resolved. -/
theorem workspacePath_resolve (hs : MintedId startupId) :
    resolve cwd (workspacePath startupId) = cwd ++ ["workspaces".toList, startupId.toList] := by
  apply resolve_plain
  · simp [workspacePath, slashed]
  · simp only [List.forall_mem_cons]
    exact ⟨by decide, hs.plain, by simp⟩

/-- The world's directory, resolved. -/
theorem taskWorkdir_resolve (hs : MintedId startupId) (ht : MintedId taskId) :
    resolve cwd (taskWorkdir startupId taskId) =
      cwd ++ ["workspaces".toList, startupId.toList, taskId.toList, "workdir".toList] := by
  apply resolve_plain
  · unfold taskWorkdir
    simp [slashed]
  · simp only [List.forall_mem_cons]
    exact ⟨by decide, hs.plain, ht.plain, by decide, by simp⟩

/-- **The worker's directory lies below its workspaces root**, under a further `workspaces`. -/
theorem prepareWorkdir_eq (root : AbsPath) (hs : MintedId startupId) (ht : MintedId taskId) :
    prepareWorkdir root startupId taskId =
      root ++ ["workspaces".toList, startupId.toList, taskId.toList, "workdir".toList] := by
  unfold prepareWorkdir
  have hdir : ∀ s ∈ ["workspaces"], Plain s.toList := by decide
  have htask : ∀ s ∈ [startupId, taskId, "workdir"], Plain s.toList := by
    simp only [List.forall_mem_cons]
    exact ⟨hs.plain, ht.plain, by decide, by simp⟩
  rw [join_plain hdir, join_plain htask]
  simp

/-- Where a worker spawned with the startup's stored path works: the stored path already ends in the
startup's own directory, and the worker appends the whole layout to it once more. -/
theorem workerWorkdir_eq {task : QueuedTask} {secret worldUrl : String} {args : ParsedArgs}
    (hs : MintedId task.startupId) (ht : MintedId task.id)
    (hpath : task.workspacePath = workspacePath task.startupId)
    (hargs : parseWorkerArgs (spawnArgs (task.spawnConfig secret worldUrl)) = some args) :
    workerWorkdir cwd args =
      cwd ++ ["workspaces".toList, task.startupId.toList] ++
        ["workspaces".toList, task.startupId.toList, task.id.toList, "workdir".toList] := by
  obtain ⟨hworkspace, hstartup, htask⟩ := parseWorkerArgs_spawnArgs rfl hargs
  have hroot : resolve cwd args.workspace =
      cwd ++ ["workspaces".toList, task.startupId.toList] := by
    rw [hworkspace]
    exact (congrArg (resolve cwd) hpath).trans (workspacePath_resolve hs)
  unfold workerWorkdir
  rw [hroot, hstartup, htask]
  exact prepareWorkdir_eq _ hs ht

/-- The worker's directory has two names more than the world's. -/
theorem workerWorkdir_ne {task : QueuedTask} {secret worldUrl : String} {args : ParsedArgs}
    (hs : MintedId task.startupId) (ht : MintedId task.id)
    (hpath : task.workspacePath = workspacePath task.startupId)
    (hargs : parseWorkerArgs (spawnArgs (task.spawnConfig secret worldUrl)) = some args) :
    workerWorkdir cwd args ≠ resolve cwd (taskWorkdir task.startupId task.id) := by
  intro hsame
  rw [workerWorkdir_eq hs ht hpath hargs, taskWorkdir_resolve hs ht] at hsame
  have hlength := congrArg List.length hsame
  simp at hlength

/-- **The two directories never agree.**
Source: `scheduler.rs` `tick`, `execenv.ts` `prepareWorkdir`, `agent_tools.rs` `task_workdir` -/
theorem workdirs_differ {task : QueuedTask} {secret worldUrl : String} {args : ParsedArgs}
    (hs : MintedId task.startupId) (ht : MintedId task.id)
    (hpath : task.workspacePath = workspacePath task.startupId)
    (hargs : parseWorkerArgs (spawnArgs (task.spawnConfig secret worldUrl)) = some args) :
    ¬ WorkdirsAgree cwd task secret worldUrl := by
  intro hagree
  exact workerWorkdir_ne hs ht hpath hargs (hagree args hargs)

end Agreement

/-! ### One task -/

/-- A queued task of a startup whose row `create_startup` wrote. -/
def someTask : QueuedTask where
  id := "T_0f8fad5bd9cb469fa16570867728950e"
  title := "Write the plan"
  description := "One page."
  assigneeAgentId := "7c9e6679-7425-40de-944b-e07fc1f90ae7"
  requiredRoom := none
  parentId := none
  preferredBackend := none
  preferredModel := some "opus"
  startupId := "f47ac10b-58cc-4372-a567-0e02b2c3d479"
  agentBackend := "claude_code"
  workspacePath := workspacePath "f47ac10b-58cc-4372-a567-0e02b2c3d479"
  blockedOn := none

/-- Its ids are minted ids. -/
theorem mintedId_someTask : MintedId someTask.startupId ∧ MintedId someTask.id := by
  decide

/-- The worker accepts the arguments that it is spawned with. -/
theorem parseWorkerArgs_someTask :
    (parseWorkerArgs (spawnArgs (someTask.spawnConfig "dev-secret"
      "ws://127.0.0.1:8080/ws/worker"))).isSome := by
  apply isSome_parseWorkerArgs_spawnArgs rfl
  · simp only [List.forall_mem_cons]
    exact ⟨by decide, by decide, by decide, by decide, by decide, by decide, by decide,
      isOptionLikeValue_prompt someTask, by simp⟩
  · decide
  · decide
  · decide

/-- From the root directory, its directories differ. -/
theorem workdirs_differ_someTask :
    ¬ WorkdirsAgree [] someTask "dev-secret" "ws://127.0.0.1:8080/ws/worker" := by
  obtain ⟨args, hargs⟩ := Option.isSome_iff_exists.mp parseWorkerArgs_someTask
  exact workdirs_differ mintedId_someTask.1 mintedId_someTask.2 rfl hargs

/-- The worker works in `/srv/workspaces/<s>/workspaces/<s>/<t>/workdir`, where the world means
`/srv/workspaces/<s>/<t>/workdir`. -/
theorem workdir_of_someTask :
    ∃ args, parseWorkerArgs (spawnArgs (someTask.spawnConfig "dev-secret"
        "ws://127.0.0.1:8080/ws/worker")) = some args ∧
      workerWorkdir ["srv".toList] args ≠
        resolve ["srv".toList] (taskWorkdir someTask.startupId someTask.id) := by
  obtain ⟨args, hargs⟩ := Option.isSome_iff_exists.mp parseWorkerArgs_someTask
  exact ⟨args, hargs, workerWorkdir_ne mintedId_someTask.1 mintedId_someTask.2 rfl hargs⟩

end Cliptown.Worker
