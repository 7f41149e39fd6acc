import Cliptown.Lib.Sql

/-!
# The migrations up to the hashed operator tokens

* `migration0001` … `migration0009` — the statements of the migration files; `enforces` — what the
  connection's pragmas say about foreign keys.
* `AtVersion8` — a database that is valid at schema version 8.
* `exists_migrate9` — the ninth migration succeeds on such a database; the operators stay as they are,
  and each skill revision loses the operator that wrote it.
* `preserves_iff` — so nothing is lost if and only if no revision was written by an operator.
* `preserves_off` — on a connection that does not enforce foreign keys nothing is lost.
-/

namespace Cliptown.World

open Cliptown.Lib Cliptown.Lib.Sql

/-- `column REFERENCES table(id)` with an action. -/
def refersToId (column table : String) (onDelete : OnDelete) : ForeignKey :=
  ⟨column, table, "id", onDelete⟩

/-! ### The migration files -/

/-- Source: `0001_initial.sql` -/
def migration0001 : List Statement :=
  [.createTable "towns"
    ⟨[nullable "id" .text, required "name" .text, required "map_json" .text], [["id"]], [], []⟩,
   .createTable "rooms"
    ⟨[nullable "id" .text, required "town_id" .text, required "name" .text, required "type" .text,
      required "bounds" .text, nullable "private_to_startup_id" .text],
     [["id"]], [], [refersToId "town_id" "towns" .noAction]⟩,
   .createTable "room_doors"
    ⟨[nullable "id" .text, required "town_id" .text, required "room_a" .text, required "room_b" .text,
      required "tile_x" .integer, required "tile_y" .integer],
     [["id"]], [], [refersToId "town_id" "towns" .noAction]⟩,
   .createTable "startups"
    ⟨[nullable "id" .text, required "name" .text, required "goal_text" .text,
      required "budget_cap_usd" .real, ⟨"budget_spent_usd", .real, true, .int 0⟩,
      required "town_id" .text, required "workspace_path" .text, required "status" .text,
      nullable "config_overrides" .text, required "created_at" .integer],
     [["id"]], [("status", [.text "active", .text "paused", .text "dissolved"])],
     [refersToId "town_id" "towns" .noAction]⟩,
   .createTable "agents"
    ⟨[nullable "id" .text, required "startup_id" .text, required "name" .text, required "role" .text,
      required "backend" .text, required "model_id" .text, required "position_json" .text,
      required "home_room_id" .text, nullable "manager_id" .text, required "status" .text],
     [["id"]],
     [("role", [.text "founder", .text "engineer", .text "designer"]),
      ("backend", [.text "claude_code", .text "codex", .text "opencode"]),
      ("status", [.text "idle", .text "working", .text "walking", .text "talking", .text "offline"])],
     [refersToId "startup_id" "startups" .noAction, refersToId "manager_id" "agents" .noAction]⟩,
   .createTable "tasks"
    ⟨[nullable "id" .text, required "startup_id" .text, nullable "parent_id" .text,
      required "title" .text, required "description" .text, nullable "assignee_agent_id" .text,
      nullable "required_room" .text, required "status" .text, ⟨"review_round", .integer, true, .int 0⟩,
      ⟨"audit_trail", .text, true, .text "[]"⟩, ⟨"epistemic_log", .text, true, .text "[]"⟩,
      nullable "artifact_path" .text, required "created_at" .integer, required "updated_at" .integer],
     [["id"]],
     [("status", [.text "proposed", .text "queued", .text "in_progress", .text "awaiting_review",
        .text "changes_requested", .text "done", .text "failed", .text "escalated"])],
     [refersToId "startup_id" "startups" .noAction, refersToId "parent_id" "tasks" .noAction,
      refersToId "assignee_agent_id" "agents" .noAction]⟩,
   .createIndex "tasks_by_assignee" "tasks" ["assignee_agent_id"],
   .createIndex "tasks_by_startup_status" "tasks" ["startup_id", "status"],
   .createTable "messages"
    ⟨[nullable "id" .text, required "startup_id" .text, nullable "room_id" .text,
      required "author_id" .text, required "body" .text, required "kind" .text, required "ts" .integer],
     [["id"]], [("kind", [.text "chat", .text "directive", .text "system"])],
     [refersToId "startup_id" "startups" .noAction]⟩,
   .createIndex "messages_by_startup_ts" "messages" ["startup_id", "ts"],
   .createTable "budget_events"
    ⟨[nullable "id" .text, required "startup_id" .text, nullable "agent_id" .text,
      nullable "task_id" .text, required "in_tokens" .integer, required "out_tokens" .integer,
      required "cost_usd" .real, required "model_id" .text, required "ts" .integer],
     [["id"]], [],
     [refersToId "startup_id" "startups" .noAction, refersToId "agent_id" "agents" .noAction,
      refersToId "task_id" "tasks" .noAction]⟩,
   .createTable "fs_audit"
    ⟨[nullable "id" .text, required "startup_id" .text, nullable "agent_id" .text, required "op" .text,
      required "path" .text, ⟨"bytes", .integer, true, .int 0⟩, required "ok" .integer,
      nullable "error" .text, required "ts" .integer],
     [["id"]], [],
     [refersToId "startup_id" "startups" .noAction, refersToId "agent_id" "agents" .noAction]⟩,
   .createTable "system_events"
    ⟨[nullable "id" .text, nullable "startup_id" .text, required "kind" .text, required "payload" .text,
      required "severity" .text, required "ts" .integer],
     [["id"]], [("severity", [.text "info", .text "warn", .text "alert", .text "critical"])], []⟩,
   .createIndex "system_events_recent" "system_events" ["ts"]]

/-- Source: `0002_skills.sql` -/
def migration0002 : List Statement :=
  [.createTable "skills"
    ⟨[nullable "id" .text, required "startup_id" .text, required "name" .text,
      required "content_md" .text, required "created_at" .integer, required "updated_at" .integer],
     [["id"], ["startup_id", "name"]], [], [refersToId "startup_id" "startups" .cascade]⟩,
   .createIndex "idx_skills_startup" "skills" ["startup_id"],
   .createTable "agent_skills"
    ⟨[required "agent_id" .text, required "skill_id" .text, required "attached_at" .integer],
     [["agent_id", "skill_id"]], [],
     [refersToId "agent_id" "agents" .cascade, refersToId "skill_id" "skills" .cascade]⟩,
   .createIndex "idx_agent_skills_agent" "agent_skills" ["agent_id"]]

/-- The table `operators` of version 8. Source: `0003_operators.sql` -/
def operators : TableDef :=
  ⟨[nullable "id" .text, required "name" .text, required "token" .text, required "role" .text,
    required "created_at" .integer],
   [["id"], ["name"], ["token"]], [("role", [.text "viewer", .text "manager", .text "admin"])], []⟩

/-- Source: `0003_operators.sql` -/
def migration0003 (unixepoch : ℤ) : List Statement :=
  [.createTable "operators" operators,
   .createIndex "idx_operators_token" "operators" ["token"],
   .insertValues "operators" ["id", "name", "token", "role", "created_at"]
    [.text "op_default", .text "default-admin", .text "dev-token", .text "admin", .int unixepoch]]

/-- Source: `0004_task_routing_preferences.sql` -/
def migration0004 : List Statement :=
  [.addColumn "tasks" (nullable "preferred_backend" .text),
   .addColumn "tasks" (nullable "preferred_model" .text)]

/-- Source: `0005_task_cost_estimate.sql` -/
def migration0005 : List Statement := [.addColumn "tasks" (nullable "cost_estimate_usd" .real)]

/-- Source: `0006_skill_files.sql` -/
def migration0006 : List Statement :=
  [.createTable "skill_files"
    ⟨[nullable "id" .text, required "skill_id" .text, required "name" .text, required "content" .text,
      required "created_at" .integer, required "updated_at" .integer],
     [["id"], ["skill_id", "name"]], [], [refersToId "skill_id" "skills" .cascade]⟩,
   .createIndex "idx_skill_files_skill" "skill_files" ["skill_id"]]

/-- The reference to the operator that wrote a revision. Source: `0007_skill_revisions.sql` -/
def createdByOperator : ForeignKey := refersToId "created_by_operator_id" "operators" .setNull

/-- Source: `0007_skill_revisions.sql` -/
def skillRevisions : TableDef :=
  ⟨[nullable "id" .text, required "skill_id" .text, required "rev_seq" .integer,
    required "content_md" .text, required "created_at" .integer, nullable "created_by_agent_id" .text,
    nullable "created_by_operator_id" .text],
   [["id"], ["skill_id", "rev_seq"]], [],
   [refersToId "skill_id" "skills" .cascade, refersToId "created_by_agent_id" "agents" .setNull,
    createdByOperator]⟩

/-- Source: `0007_skill_revisions.sql` -/
def migration0007 : List Statement :=
  [.createTable "skill_revisions" skillRevisions,
   .createIndex "idx_skill_revisions_skill_seq" "skill_revisions" ["skill_id", "rev_seq"]]

/-- Source: `0008_skill_global.sql` -/
def migration0008 : List Statement :=
  [.addColumn "skills" ⟨"is_global", .integer, true, .int 0⟩,
   .createIndex "idx_skills_global" "skills" ["is_global"]]

/-- The table `operators_new`. Source: `0009_operator_token_hash.sql` -/
def operatorsNew : TableDef :=
  ⟨[nullable "id" .text, required "name" .text, nullable "token" .text, nullable "token_hash" .text,
    required "role" .text, required "created_at" .integer],
   [["id"], ["name"]], [("role", [.text "viewer", .text "manager", .text "admin"])], []⟩

/-- The columns that are copied. Source: `0009_operator_token_hash.sql` -/
def operatorColumns : List String := ["id", "name", "token", "role", "created_at"]

/-- Source: `0009_operator_token_hash.sql` -/
def migration0009 : List Statement :=
  [.createTable "operators_new" operatorsNew,
   .insertSelect "operators_new" operatorColumns operatorColumns "operators",
   .dropTable "operators",
   .renameTable "operators_new" "operators",
   .createIndex "idx_operators_token" "operators" ["token"],
   .createIndex "idx_operators_token_hash" "operators" ["token_hash"]]

/-- The migrations up to version 8. -/
def firstEight (unixepoch : ℤ) : List Statement :=
  migration0001 ++ migration0002 ++ migration0003 unixepoch ++ migration0004 ++ migration0005 ++
    migration0006 ++ migration0007 ++ migration0008

/-- Source: `storage.rs` `open` -/
def pragmas : List (String × String) :=
  [("journal_mode", "WAL"), ("synchronous", "NORMAL"), ("foreign_keys", "ON")]

/-- The connection enforces foreign keys. -/
def enforces : Bool := pragmas.lookup "foreign_keys" = some "ON"

/-! ### Version 8 -/

/-- The catalog at version 8. -/
def catalog8 : Catalog := ((firstEight 0).foldlM Catalog.exec ⟨∅, ∅⟩).getD ⟨∅, ∅⟩

variable (affinity : ColumnType → Value → Value)

/-- A database that is valid at schema version 8. -/
structure AtVersion8 (db : Database) : Prop where
  catalog : db.catalog = catalog8
  valid : db.Valid affinity

/-! ### The ninth migration -/

/-- The catalog with the new table. -/
def catalogNew : Catalog := catalog8.addTable "operators_new" operatorsNew

/-- The catalog with the new table in the place of the old one. -/
def catalogRenamed : Catalog := (catalogNew.drop "operators").rename "operators_new" "operators"

/-- The tables and indexes that the statements name are there or not as they need. -/
theorem guards :
    catalog8.taken "operators_new" = false ∧
      catalogNew.hasColumns "operators_new" operatorColumns = true ∧
      catalogNew.hasColumns "operators" operatorColumns = true ∧
      (catalogNew.tables.lookup "operators").isSome = true ∧
      ((catalogNew.drop "operators").tables.lookup "operators_new").isSome = true ∧
      (catalogNew.drop "operators").taken "operators" = false ∧
      catalogRenamed.taken "idx_operators_token" = false ∧
      catalogRenamed.hasColumns "operators" ["token"] = true ∧
      (catalogRenamed.addIndex "idx_operators_token" ⟨"operators", ["token"]⟩).taken
        "idx_operators_token_hash" = false ∧
      (catalogRenamed.addIndex "idx_operators_token" ⟨"operators", ["token"]⟩).hasColumns "operators"
        ["token_hash"] = true := by
  decide +kernel

theorem mem_operators : (⟨"operators", operators⟩ : Σ _ : String, TableDef) ∈ catalog8.tables.entries := by
  decide +kernel

theorem mem_skillRevisions :
    (⟨"skill_revisions", skillRevisions⟩ : Σ _ : String, TableDef) ∈ catalog8.tables.entries := by
  decide +kernel

/-- Of the tables of version 8 only the revisions refer to operators. -/
theorem references_operators :
    catalogNew.references "operators" = [("skill_revisions", createdByOperator)] := by
  decide +kernel

/-- A revision may name no operator, and no table refers to revisions. -/
theorem unlinkable :
    (∀ t ∈ catalogNew.tables.entries, t.1 = "skill_revisions" → ∀ c ∈ t.2.columns, c.notNull = true →
      c.name ≠ createdByOperator.column) ∧
    ∀ t ∈ catalogNew.tables.entries, ∀ fk ∈ t.2.foreignKeys, fk.table ≠ "skill_revisions" := by
  decide +kernel

theorem copiesInto : CopiesInto operators operatorsNew operatorColumns where
  types := by decide +kernel
  notNull := by decide +kernel
  checks := by decide +kernel
  unique := by decide +kernel
  foreignKeys := rfl

section Ninth

variable {affinity} {db : Database}

/-- The copy of an operator. -/
def operatorCopy (affinity : ColumnType → Value → Value) (r : Row) : Row :=
  operatorsNew.newRow affinity operatorColumns (operatorColumns.map r)

/-- The copied columns of an operator are as they were. -/
theorem AtVersion8.operatorCopy_apply (h : AtVersion8 affinity db) {r : Row}
    (hr : r ∈ db.rows "operators") {c : String} (hc : c ∈ operatorColumns) :
    operatorCopy affinity r c = r c := by
  have hmem : ⟨"operators", operators⟩ ∈ db.catalog.tables.entries := h.catalog ▸ mem_operators
  exact newRow_copy copiesInto (h.valid.stored _ hmem r hr) hc

/-- The rows when the operators have been copied. -/
def copied (affinity : ColumnType → Value → Value) (rows : String → List Row) : String → List Row :=
  Function.update (Function.update rows "operators_new" []) "operators_new"
    ((rows "operators").map (operatorCopy affinity))

/-- The rows when the new table has the name of the old one. -/
def renamed (rows : String → List Row) : String → List Row :=
  Function.update (Function.update rows "operators" (rows "operators_new")) "operators_new" []

/-- The catalog at version 9. -/
def catalog9 : Catalog :=
  (catalogRenamed.addIndex "idx_operators_token" ⟨"operators", ["token"]⟩).addIndex
    "idx_operators_token_hash" ⟨"operators", ["token_hash"]⟩

/-- The new rows are accepted. -/
theorem AtVersion8.accepts_copied (h : AtVersion8 affinity db) :
    operatorsNew.Accepts ((db.rows "operators").map (operatorCopy affinity)) := by
  have hmem : ⟨"operators", operators⟩ ∈ db.catalog.tables.entries := h.catalog ▸ mem_operators
  exact (h.valid.accepts _ hmem).copy copiesInto fun r hr c hc => h.operatorCopy_apply hr hc

/-- The new table is made and filled. -/
theorem AtVersion8.run_copy (h : AtVersion8 affinity db) (enforce : Bool) :
    run affinity enforce (migration0009.take 2) db = some ⟨catalogNew, copied affinity db.rows⟩ := by
  have hmem : ⟨"operators", operators⟩ ∈ db.catalog.tables.entries := h.catalog ▸ mem_operators
  obtain ⟨hfree, hnew, hold, -⟩ := guards
  have hcreate : exec affinity enforce db (.createTable "operators_new" operatorsNew) =
      some ⟨catalogNew, Function.update db.rows "operators_new" []⟩ := by
    rw [exec_createTable operatorsNew (h.catalog ▸ hfree), h.catalog]
    rfl
  have hsource : Function.update db.rows "operators_new" [] "operators" = db.rows "operators" :=
    Function.update_of_ne (by decide) _ _
  have hempty : Function.update db.rows "operators_new" [] "operators_new" = [] :=
    Function.update_self _ _ _
  have hinsert : exec affinity enforce ⟨catalogNew, Function.update db.rows "operators_new" []⟩
      (.insertSelect "operators_new" operatorColumns operatorColumns "operators") =
        some ⟨catalogNew, copied affinity db.rows⟩ := by
    rw [exec_insertSelect_copy (AList.lookup_insert _) hnew hold copiesInto hempty
      (hsource ▸ h.valid.accepts _ hmem) (hsource ▸ h.valid.stored _ hmem)]
    simp only [hsource]
    rfl
  simp [run, migration0009, hcreate, hinsert]

/-- The old table is dropped, with the references of the revisions. -/
theorem AtVersion8.exec_drop (h : AtVersion8 affinity db) :
    exec affinity true ⟨catalogNew, copied affinity db.rows⟩ (.dropTable "operators") =
      some ⟨catalogNew.drop "operators",
        unlinked (copied affinity db.rows) "operators" "skill_revisions" createdByOperator⟩ := by
  obtain ⟨-, -, -, hthere, -⟩ := guards
  refine exec_dropTable_setNull hthere references_operators rfl (by decide) unlinkable.1 unlinkable.2 ?_
  rintro ⟨name, table⟩ ht
  have hlookup : (catalog8.tables.insert "operators_new" operatorsNew).lookup name = some table :=
    AList.mem_lookup_iff.mpr ht
  rw [Table.lookup_insert_eq] at hlookup
  show table.Accepts (copied affinity db.rows name)
  split_ifs at hlookup with hname
  · subst hname
    rw [← Option.some.inj hlookup, copied, Function.update_self]
    exact h.accepts_copied
  · rw [copied, Function.update_of_ne hname, Function.update_of_ne hname]
    exact h.valid.accepts ⟨name, table⟩ (h.catalog ▸ AList.mem_lookup_iff.mp hlookup)

/-- The new table gets the name of the old one and the indexes. -/
theorem run_rename (enforce : Bool) (rows : String → List Row) :
    run affinity enforce (migration0009.drop 3) ⟨catalogNew.drop "operators", rows⟩ =
      some ⟨catalog9, renamed rows⟩ := by
  obtain ⟨-, -, -, -, hthere, hfree, htoken, htokenColumn, hhash, hhashColumn⟩ := guards
  have hrename : exec affinity enforce ⟨catalogNew.drop "operators", rows⟩
      (.renameTable "operators_new" "operators") = some ⟨catalogRenamed, renamed rows⟩ :=
    exec_renameTable hthere hfree
  have hindex : exec affinity enforce ⟨catalogRenamed, renamed rows⟩
      (.createIndex "idx_operators_token" "operators" ["token"]) = some ⟨_, renamed rows⟩ :=
    exec_createIndex htoken htokenColumn
  have hindex' : exec affinity enforce ⟨catalogRenamed.addIndex "idx_operators_token" ⟨"operators", ["token"]⟩,
      renamed rows⟩ (.createIndex "idx_operators_token_hash" "operators" ["token_hash"]) =
        some ⟨catalog9, renamed rows⟩ :=
    exec_createIndex hhash hhashColumn
  simp [run, migration0009, hrename, hindex, hindex']

/-- The migration is its first two statements, the drop and the rest. -/
theorem run_migration0009 (enforce : Bool) {db' : Database} {rows : String → List Row}
    (hcopy : run affinity enforce (migration0009.take 2) db = some db')
    (hdrop : exec affinity enforce db' (.dropTable "operators") = some ⟨catalogNew.drop "operators", rows⟩) :
    run affinity enforce migration0009 db = some ⟨catalog9, renamed rows⟩ := by
  have hsplit : migration0009 = migration0009.take 2 ++ .dropTable "operators" :: migration0009.drop 3 := rfl
  rw [run, hsplit, List.foldlM_append]
  change (run affinity enforce (migration0009.take 2) db).bind _ = _
  rw [hcopy, Option.bind_some, List.foldlM_cons, hdrop]
  exact @run_rename affinity enforce rows

/-- The copies are found under the old name. -/
theorem AtVersion8.select_operators (h : AtVersion8 affinity db) {rows : String → List Row}
    (hrows : rows "operators_new" = (db.rows "operators").map (operatorCopy affinity)) :
    Database.select ⟨catalog9, renamed rows⟩ "operators" operatorColumns =
      db.select "operators" operatorColumns := by
  have hrenamed : renamed rows "operators" = rows "operators_new" := by
    rw [renamed, Function.update_of_ne (by decide), Function.update_self]
  simp only [Database.select, hrenamed, hrows, List.map_map]
  refine List.map_congr_left fun r hr => List.map_congr_left fun c hc => ?_
  exact h.operatorCopy_apply hr hc

/-- The ninth migration succeeds, keeps the operators, and takes from each revision the operator that
wrote it. -/
theorem AtVersion8.exists_migrate9 (h : AtVersion8 affinity db) :
    ∃ db', run affinity enforces migration0009 db = some db' ∧
      db'.select "operators" operatorColumns = db.select "operators" operatorColumns ∧
      db'.rows "skill_revisions" =
        (db.rows "skill_revisions").map (unlink createdByOperator (db.rows "operators")) := by
  refine ⟨_, run_migration0009 true (h.run_copy true) h.exec_drop, h.select_operators ?_, ?_⟩
  · rw [unlinked, Function.update_of_ne (by decide), Function.update_of_ne (by decide), copied,
      Function.update_self]
  · rfl

end Ninth

/-! ### What is preserved -/

/-- The columns of a revision. -/
def revisionColumns : List String := skillRevisions.columns.map (·.name)

/-- The ninth migration succeeds and leaves operators and revisions as they were. -/
def Preserves (enforce : Bool) (db : Database) : Prop :=
  ∃ db', run affinity enforce migration0009 db = some db' ∧
    db'.select "operators" operatorColumns = db.select "operators" operatorColumns ∧
    db'.select "skill_revisions" revisionColumns = db.select "skill_revisions" revisionColumns

section Preserved

variable {affinity} {db : Database}

/-- A revision that lost the operator that wrote it is as it was if there was none. -/
theorem AtVersion8.unlink_eq_iff (h : AtVersion8 affinity db) {r : Row}
    (hr : r ∈ db.rows "skill_revisions") :
    revisionColumns.map (unlink createdByOperator (db.rows "operators") r) = revisionColumns.map r ↔
      r "created_by_operator_id" = .null := by
  have hmem : ⟨"skill_revisions", skillRevisions⟩ ∈ db.catalog.tables.entries :=
    h.catalog ▸ mem_skillRevisions
  have hparent : HasParent db.rows createdByOperator r :=
    h.valid.hasParent _ hmem r hr createdByOperator (by decide)
  have hnull : unlink createdByOperator (db.rows "operators") r "created_by_operator_id" = .null :=
    unlink_apply_eq_null hparent
  rw [List.map_inj_left]
  constructor
  · intro hall
    rw [← hall "created_by_operator_id" (by decide), hnull]
  · intro hr c _
    by_cases hc : c = createdByOperator.column
    · subst hc
      exact hnull.trans hr.symm
    · exact unlink_apply_ne hc

/-- The migration preserves the data if and only if no revision was written by an operator. -/
theorem preserves_iff (h : AtVersion8 affinity db) :
    Preserves affinity enforces db ↔
      ∀ r ∈ db.rows "skill_revisions", r "created_by_operator_id" = .null := by
  obtain ⟨db', hrun, hoperators, hrevisions⟩ := h.exists_migrate9
  have hselect : db'.select "skill_revisions" revisionColumns =
      db.select "skill_revisions" revisionColumns ↔
        ∀ r ∈ db.rows "skill_revisions", r "created_by_operator_id" = .null := by
    simp only [Database.select, hrevisions, List.map_map]
    rw [List.map_inj_left]
    exact forall_congr' fun r => forall_congr' fun hr => h.unlink_eq_iff hr
  constructor
  · rintro ⟨db'', hrun', -, hrevisions'⟩
    obtain rfl := Option.some.inj (hrun.symm.trans hrun')
    exact hselect.mp hrevisions'
  · exact fun hall => ⟨db', hrun, hoperators, hselect.mpr hall⟩

/-- Where foreign keys are not enforced the data is preserved. -/
theorem preserves_off (h : AtVersion8 affinity db) : Preserves affinity false db := by
  have hthere : (catalogNew.tables.lookup "operators").isSome = true := guards.2.2.2.1
  have hcopies : Function.update (copied affinity db.rows) "operators" [] "operators_new" =
      (db.rows "operators").map (operatorCopy affinity) := by
    rw [Function.update_of_ne (by decide), copied, Function.update_self]
  exact ⟨_, run_migration0009 false (h.run_copy false) (exec_dropTable_off hthere),
    h.select_operators hcopies, rfl⟩

end Preserved

/-! ### Samples -/

/-- How texts and whole numbers are stored. -/
def storeWhole : ColumnType → Value → Value
  | .real, .int n => .real n
  | _, v => v

/-- A startup with an agent, a skill, and a revision of it. -/
def skillRevised (createdBy author : String) : List Statement :=
  [.insertValues "towns" ["id", "name", "map_json"] [.text "town", .text "Town", .text "\x7b\x7d"],
   .insertValues "startups"
    ["id", "name", "goal_text", "budget_cap_usd", "town_id", "workspace_path", "status", "created_at"]
    [.text "s-1", .text "One", .text "", .int 5, .text "town", .text "/w", .text "active", .int 1],
   .insertValues "agents"
    ["id", "startup_id", "name", "role", "backend", "model_id", "position_json", "home_room_id", "status"]
    [.text "a-1", .text "s-1", .text "Founder", .text "founder", .text "codex", .text "gpt-5",
      .text "\x7b\x7d", .text "suite_1", .text "idle"],
   .insertValues "skills" ["id", "startup_id", "name", "content_md", "created_at", "updated_at"]
    [.text "k-1", .text "s-1", .text "review", .text "# Review", .int 1, .int 1],
   .insertValues "skill_revisions" ["id", "skill_id", "rev_seq", "content_md", "created_at", createdBy]
    [.text "r-1", .text "k-1", .int 1, .text "# Review", .int 1, .text author]]

/-- The rows that statements leave in a new database at version 8. -/
def rowsAfter (statements : List Statement) : String → List Row :=
  ((run storeWhole enforces (firstEight 0 ++ statements) Database.empty).map (·.rows)).getD fun _ => []

/-- A database at version 8 with a revision that the agent wrote. -/
def byAgent : Database := ⟨catalog8, rowsAfter (skillRevised "created_by_agent_id" "a-1")⟩

/-- A database at version 8 with a revision that the default operator wrote. -/
def byOperator : Database := ⟨catalog8, rowsAfter (skillRevised "created_by_operator_id" "op_default")⟩

theorem byAgent_atVersion8 : AtVersion8 storeWhole byAgent := ⟨rfl, by decide +kernel⟩

theorem byOperator_atVersion8 : AtVersion8 storeWhole byOperator := ⟨rfl, by decide +kernel⟩

/-- The revision of the agent. -/
theorem preserves_byAgent :
    Preserves storeWhole enforces byAgent ∧
      byAgent.select "operators" ["id"] = [[.text "op_default"]] ∧
      byAgent.select "skill_revisions" ["id", "created_by_agent_id"] = [[.text "r-1", .text "a-1"]] :=
  ⟨(preserves_iff byAgent_atVersion8).mpr (by decide +kernel), by decide +kernel, by decide +kernel⟩

/-- The revision of the default operator has no author after the migration. -/
theorem not_preserves_byOperator :
    AtVersion8 storeWhole byOperator ∧
      byOperator.select "skill_revisions" ["id", "created_by_operator_id"] =
        [[.text "r-1", .text "op_default"]] ∧
      (run storeWhole enforces migration0009 byOperator).map
          (·.select "skill_revisions" ["id", "created_by_operator_id"]) =
        some [[.text "r-1", .null]] ∧
      ¬ Preserves storeWhole enforces byOperator := by
  refine ⟨byOperator_atVersion8, by decide +kernel, by decide +kernel, ?_⟩
  rintro ⟨db', hrun, -, hrevisions⟩
  have hselect : (run storeWhole enforces migration0009 byOperator).map
      (·.select "skill_revisions" revisionColumns) ≠ some (byOperator.select "skill_revisions" revisionColumns) := by
    decide +kernel
  rw [hrun] at hselect
  exact hselect (congrArg some hrevisions)

end Cliptown.World
