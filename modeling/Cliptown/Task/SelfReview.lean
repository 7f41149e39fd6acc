import Cliptown.Task.State
import Cliptown.Worker.Workdir

/-!
# Self-review

The checks that an agent's artifact passes before its task counts as done.

* `selfReviewRun` — the pipeline, with one `CheckResult` for each finding.
* `selfReviewRecord` — what a run leaves in the task's row.
* `selfReviewRun_ok_iff` — a run passes exactly when the path is the canonical one and the file is
  readable and not empty.
-/

namespace Cliptown.Task

open Cliptown.Lib Cliptown.Worker

/-- Source: `self_review.rs` `Severity` -/
inductive Severity where
  | warn
  | error
  deriving DecidableEq, Repr

/-- Source: `self_review.rs` `Severity::as_str` -/
def Severity.asStr : Severity → String
  | warn => "warn"
  | error => "error"

/-- The name under which a severity is serialised. -/
def Severity.variantName : Severity → String
  | warn => "Warn"
  | error => "Error"

/-- Source: `self_review.rs` `CheckResult` -/
structure CheckResult where
  check : String
  severity : Severity
  message : String
  deriving DecidableEq, Repr

/-- Source: `self_review.rs` `SelfReviewOutcome` -/
structure SelfReviewOutcome where
  ok : Bool
  mustFix : List CheckResult
  deriving DecidableEq, Repr

/-- Source: `self_review.rs` `SelfReviewOutcome::passed` -/
def SelfReviewOutcome.passed : SelfReviewOutcome where
  ok := true
  mustFix := []

/-- An error of the check `artifact_exists`, which ends the run. -/
def artifactMissing (message : String) : SelfReviewOutcome where
  ok := false
  mustFix := [⟨"artifact_exists", .error, message⟩]

/-- Whether an artifact is a Markdown file, by its name. -/
def isMarkdown (artifactPath : String) : Bool :=
  ".md".toList.isSuffixOf artifactPath.toList

/-- The pipeline. The check `json_lint` is left out: it needs the extension `json`, which the
canonical path never has. Source: `self_review.rs` `run` -/
def selfReviewRun (files : Files) (startupId taskId artifactPath : String) : SelfReviewOutcome :=
  let canonical := canonicalArtifactPath startupId taskId
  if artifactPath ≠ canonical then
    { ok := false
      mustFix := [⟨"canonical_path", .error, "expected " ++ canonical ++ ", got " ++ artifactPath⟩] }
  else
    match files.resolve ("workspaces/" ++ startupId) ("artifacts/" ++ taskId ++ ".md") with
    | .error e => artifactMissing ("sandbox refused: " ++ e)
    | .ok resolved =>
        match files.read resolved with
        | .error e => artifactMissing ("read failed: " ++ e)
        | .ok [] => artifactMissing "artifact is zero bytes"
        | .ok (_ :: _) =>
            let mustFix : List CheckResult :=
              if isMarkdown artifactPath then
                [⟨"markdown_lint", .warn, "deferred: TS sidecar lint pipeline lands in P6.B"⟩]
              else []
            { ok := !mustFix.any fun c => c.severity = .error, mustFix }

/-- **When a run passes.** -/
theorem selfReviewRun_ok_iff {files : Files} {startupId taskId artifactPath : String} :
    (selfReviewRun files startupId taskId artifactPath).ok = true ↔
      artifactPath = canonicalArtifactPath startupId taskId ∧
        ∃ resolved byte bytes,
          files.resolve ("workspaces/" ++ startupId) ("artifacts/" ++ taskId ++ ".md") =
            .ok resolved ∧ files.read resolved = .ok (byte :: bytes) := by
  unfold selfReviewRun
  by_cases hpath : artifactPath = canonicalArtifactPath startupId taskId
  · cases hresolve : files.resolve ("workspaces/" ++ startupId) ("artifacts/" ++ taskId ++ ".md") with
    | error e => simp [hpath, artifactMissing]
    | ok resolved =>
        cases hread : files.read resolved with
        | error e => simp [hpath, hread, artifactMissing]
        | ok bytes =>
            cases bytes with
            | nil => simp [hpath, hread, artifactMissing]
            | cons byte bytes =>
                simp only [hpath, hread, ne_eq, not_true_eq_false, if_false]
                split <;> simp [hread]
  · simp [hpath]

/-- A finding as it is serialised. -/
def CheckResult.toJson (c : CheckResult) : Json :=
  .obj [("check", .str c.check), ("severity", .str c.severity.variantName),
    ("message", .str c.message)]

/-- What a run leaves in the row of the task. Source: `self_review.rs` `record` -/
def selfReviewRecord (env : Env) (s : LoopState) (taskId agentId : String)
    (outcome : SelfReviewOutcome) : LoopState :=
  let s := if outcome.ok then
      s.updateTask taskId (fun t => { t with selfReviewedAt := some env.now }) fun _ => rfl
    else s
  s.appendAudit env taskId (.obj [("actor", .str "engineer"), ("kind", .str "self_review"),
    ("agent_id", .str agentId), ("outcome", .str (if outcome.ok then "pass" else "fail")),
    ("checks", .arr (outcome.mustFix.map fun c => .obj [("check", .str c.check),
      ("severity", .str c.severity.asStr), ("message", .str c.message)]))])

@[simp]
theorem board_selfReviewRecord {env : Env} {s : LoopState} (taskId agentId : String)
    (outcome : SelfReviewOutcome) :
    (selfReviewRecord env s taskId agentId outcome).board = s.board := by
  unfold selfReviewRecord
  rw [board_appendAudit]
  split
  · exact board_updateTask_of_card _ fun _ => rfl
  · rfl

/-- A run leaves one more entry in the audit trail. -/
theorem auditTrail_selfReviewRecord {env : Env} {s : LoopState} {taskId : String} {task : TaskRow}
    (h : s.db.tasks.lookup taskId = some task) (agentId : String) (outcome : SelfReviewOutcome) :
    ∃ t, (selfReviewRecord env s taskId agentId outcome).db.tasks.lookup taskId = some t ∧
      t.auditTrail.length = task.auditTrail.length + 1 := by
  unfold selfReviewRecord LoopState.appendAudit
  simp only
  rw [lookup_updateTask, if_pos rfl]
  split
  · rw [lookup_updateTask, if_pos rfl, h]
    exact ⟨_, rfl, by simp⟩
  · rw [h]
    exact ⟨_, rfl, by simp⟩

end Cliptown.Task
