import Cliptown.Lib.Table
import Mathlib.Data.Rat.Defs
import Mathlib.Logic.Function.Basic

/-!
# A relational database with foreign keys

The part of SQLite that a schema migration uses.

* `TableDef`, `Catalog` — the declarations: columns, keys, checks, foreign keys, indexes.
* `Row`, `Database` — the contents, under the declarations.
* `Accepts`, `HasParent`, `Valid` — what the declarations ask of the contents.
* `Statement`, `Catalog.exec`, `exec`, `run` — the statements; what they make of the catalog does not
  depend on the contents. How a value is stored in a column of a type is a parameter.
* `deleteFrom` — a deletion with its foreign key actions. Where foreign keys are enforced, dropping a
  table deletes its rows first.
* `Accepts.copy` — the copies of accepted rows are accepted under fewer constraints.
* `exec_dropTable_setNull` — a dropped table to which one nullable foreign key refers.
-/

namespace Cliptown.Lib.Sql

/-! ### Declarations -/

inductive Value where
  | null
  | int (n : ℤ)
  | real (q : ℚ)
  | text (s : String)
  deriving DecidableEq

inductive ColumnType where
  | text
  | integer
  | real
  deriving DecidableEq

structure Column where
  name : String
  type : ColumnType
  notNull : Bool
  default : Value
  deriving DecidableEq

inductive OnDelete where
  | noAction
  | setNull
  | cascade
  deriving DecidableEq

/-- `column REFERENCES table(parent) ON DELETE …` -/
structure ForeignKey where
  column : String
  table : String
  parent : String
  onDelete : OnDelete
  deriving DecidableEq

structure TableDef where
  columns : List Column
  /-- The primary key and the `UNIQUE` constraints. -/
  unique : List (List String)
  /-- `CHECK (column IN (…))` -/
  checks : List (String × List Value)
  foreignKeys : List ForeignKey
  deriving DecidableEq

/-- An index changes no result, so its order and its filter are left out. -/
structure IndexDef where
  table : String
  columns : List String
  deriving DecidableEq

structure Catalog where
  tables : Table String TableDef
  indexes : Table String IndexDef

/-- A row, as the value of each column. -/
abbrev Row := String → Value

structure Database where
  catalog : Catalog
  /-- The rows of each table, none under another name. -/
  rows : String → List Row

/-- A column that may hold `NULL`. -/
def nullable (name : String) (type : ColumnType) : Column := ⟨name, type, false, .null⟩

/-- A column that is `NOT NULL`. -/
def required (name : String) (type : ColumnType) : Column := ⟨name, type, true, .null⟩

/-! ### Constraints -/

/-- Two rows differ on a key; `NULL` differs from everything. -/
def DifferAt (key : List String) (r r' : Row) : Prop :=
  ∃ c ∈ key, r c = .null ∨ r' c = .null ∨ r c ≠ r' c

instance (key : List String) (r r' : Row) : Decidable (DifferAt key r r') :=
  inferInstanceAs (Decidable (∃ c ∈ key, _))

/-- The constraints of a table that its own rows decide. -/
structure TableDef.Accepts (t : TableDef) (rows : List Row) : Prop where
  notNull : ∀ r ∈ rows, ∀ c ∈ t.columns, c.notNull = true → r c.name ≠ .null
  checks : ∀ r ∈ rows, ∀ check ∈ t.checks, r check.1 = .null ∨ r check.1 ∈ check.2
  unique : ∀ key ∈ t.unique, rows.Pairwise (DifferAt key)

instance (t : TableDef) (rows : List Row) : Decidable (t.Accepts rows) :=
  decidable_of_iff ((∀ r ∈ rows, ∀ c ∈ t.columns, c.notNull = true → r c.name ≠ .null) ∧
    (∀ r ∈ rows, ∀ check ∈ t.checks, r check.1 = .null ∨ r check.1 ∈ check.2) ∧
    ∀ key ∈ t.unique, rows.Pairwise (DifferAt key))
    ⟨fun h => ⟨h.1, h.2.1, h.2.2⟩, fun h => ⟨h.notNull, h.checks, h.unique⟩⟩

/-- The row refers to nothing, or to a row that is there. -/
def HasParent (rows : String → List Row) (fk : ForeignKey) (r : Row) : Prop :=
  r fk.column = .null ∨ ∃ p ∈ rows fk.table, p fk.parent = r fk.column

instance (rows : String → List Row) (fk : ForeignKey) (r : Row) : Decidable (HasParent rows fk r) :=
  inferInstanceAs (Decidable (_ ∨ _))

variable (affinity : ColumnType → Value → Value)

/-- A database as a connection that enforces foreign keys keeps it. -/
structure Database.Valid (db : Database) : Prop where
  accepts : ∀ t ∈ db.catalog.tables.entries, t.2.Accepts (db.rows t.1)
  stored : ∀ t ∈ db.catalog.tables.entries, ∀ r ∈ db.rows t.1, ∀ c ∈ t.2.columns,
    affinity c.type (r c.name) = r c.name
  hasParent : ∀ t ∈ db.catalog.tables.entries, ∀ r ∈ db.rows t.1, ∀ fk ∈ t.2.foreignKeys,
    HasParent db.rows fk r

instance (db : Database) : Decidable (db.Valid affinity) :=
  decidable_of_iff ((∀ t ∈ db.catalog.tables.entries, t.2.Accepts (db.rows t.1)) ∧
    (∀ t ∈ db.catalog.tables.entries, ∀ r ∈ db.rows t.1, ∀ c ∈ t.2.columns,
      affinity c.type (r c.name) = r c.name) ∧
    ∀ t ∈ db.catalog.tables.entries, ∀ r ∈ db.rows t.1, ∀ fk ∈ t.2.foreignKeys,
      HasParent db.rows fk r)
    ⟨fun h => ⟨h.1, h.2.1, h.2.2⟩, fun h => ⟨h.accepts, h.stored, h.hasParent⟩⟩

/-! ### The catalog -/

inductive Statement where
  | createTable (name : String) (table : TableDef)
  | createIndex (name table : String) (columns : List String)
  | addColumn (table : String) (column : Column)
  /-- `INSERT INTO table (columns) VALUES (values)` -/
  | insertValues (table : String) (columns : List String) (values : List Value)
  /-- `INSERT INTO table (columns) SELECT selected FROM source` -/
  | insertSelect (table : String) (columns selected : List String) (source : String)
  | dropTable (name : String)
  | renameTable (name newName : String)

namespace Catalog

/-- A table or an index has the name. -/
def taken (cat : Catalog) (name : String) : Bool :=
  (cat.tables.lookup name).isSome || (cat.indexes.lookup name).isSome

/-- The table is there, with these columns. -/
def hasColumns (cat : Catalog) (name : String) (columns : List String) : Bool :=
  match cat.tables.lookup name with
  | some table => columns.all fun c => c ∈ table.columns.map (·.name)
  | none => false

def addTable (cat : Catalog) (name : String) (table : TableDef) : Catalog :=
  { cat with tables := cat.tables.insert name table }

def addIndex (cat : Catalog) (name : String) (index : IndexDef) : Catalog :=
  { cat with indexes := cat.indexes.insert name index }

/-- A table goes with its indexes. -/
def drop (cat : Catalog) (name : String) : Catalog where
  tables := cat.tables.erase name
  indexes := cat.indexes.deleteWhere fun _ index => index.table = name

/-- A table keeps its indexes and the foreign keys that refer to it. -/
def rename (cat : Catalog) (name newName : String) : Catalog where
  tables :=
    match cat.tables.lookup name with
    | some table => Table.mapRows ((cat.tables.erase name).insert newName table) fun _ t =>
        some { t with foreignKeys := t.foreignKeys.map fun fk =>
          if fk.table = name then { fk with table := newName } else fk }
    | none => cat.tables
  indexes := cat.indexes.update (fun _ index => index.table = name) fun index =>
    { index with table := newName }

/-- What a statement makes of the catalog. -/
def exec (cat : Catalog) : Statement → Option Catalog
  | .createTable name table => if cat.taken name then none else some (cat.addTable name table)
  | .createIndex name table columns =>
      if cat.taken name || !cat.hasColumns table columns then none
      else some (cat.addIndex name ⟨table, columns⟩)
  | .addColumn name column =>
      if !cat.hasColumns name [] || cat.hasColumns name [column.name] ||
        (column.notNull && column.default = .null) then none
      else some { cat with tables := cat.tables.modify name fun t =>
        { t with columns := t.columns ++ [column] } }
  | .insertValues table columns values =>
      if cat.hasColumns table columns && columns.length = values.length then some cat else none
  | .insertSelect table columns selected source =>
      if cat.hasColumns table columns && cat.hasColumns source selected &&
        columns.length = selected.length then some cat else none
  | .dropTable name => if (cat.tables.lookup name).isSome then some (cat.drop name) else none
  | .renameTable name newName =>
      if (cat.tables.lookup name).isSome && !cat.taken newName then some (cat.rename name newName)
      else none

/-- The foreign keys that refer to a table, with the tables that have them. -/
def references (cat : Catalog) (name : String) : List (String × ForeignKey) :=
  cat.tables.entries.flatMap fun t => (t.2.foreignKeys.filter (·.table = name)).map (t.1, ·)

end Catalog

/-! ### Contents -/

/-- `SELECT columns FROM table` -/
def Database.select (db : Database) (table : String) (columns : List String) : List (List Value) :=
  (db.rows table).map fun r => columns.map r

/-- The value that a list of columns and values gives a column. -/
def assigned (columns : List String) (values : List Value) (name : String) : Option Value :=
  ((columns.zip values).find? fun a => a.1 = name).map Prod.snd

/-- A new row: a column that is given no value has its default. -/
def TableDef.newRow (t : TableDef) (columns : List String) (values : List Value) : Row := fun name =>
  match t.columns.find? (·.name = name) with
  | some c => affinity c.type ((assigned columns values name).getD c.default)
  | none => .null

/-- Add rows, if the constraints accept them. -/
def insertRows (enforce : Bool) (db : Database) (name : String) (columns : List String)
    (valueRows : List (List Value)) : Option (String → List Row) :=
  match db.catalog.tables.lookup name with
  | none => none
  | some table =>
      let added := valueRows.map (table.newRow affinity columns)
      let rows := Function.update db.rows name (db.rows name ++ added)
      if table.Accepts (rows name) ∧
        (enforce = true → ∀ r ∈ added, ∀ fk ∈ table.foreignKeys, HasParent rows fk r) then some rows
      else none

/-- The row refers to one of these rows. -/
def refersTo (fk : ForeignKey) (parents : List Row) (r : Row) : Bool :=
  r fk.column ≠ .null && parents.any fun p => p fk.parent = r fk.column

/-- The action `SET NULL` on a row. -/
def unlink (fk : ForeignKey) (parents : List Row) (r : Row) : Row :=
  if refersTo fk parents r then Function.update r fk.column .null else r

/-- Delete rows, with the actions of the foreign keys that refer to them. The depth bounds how far a
deletion cascades. -/
def deleteFrom (cat : Catalog) : ℕ → String → (Row → Bool) → (String → List Row) →
    Option (String → List Row)
  | 0, _, _, _ => none
  | depth + 1, name, p, rows =>
      let gone := (rows name).filter p
      (cat.references name).foldlM (fun rows (child, fk) =>
          match fk.onDelete with
          | .noAction => some rows
          | .setNull => some (Function.update rows child ((rows child).map (unlink fk gone)))
          | .cascade =>
              if (rows child).any (refersTo fk gone) then
                deleteFrom cat depth child (refersTo fk gone) rows
              else some rows)
        (Function.update rows name ((rows name).filter fun r => !p r))

/-- No row of another table lost its parent, or holds a `NULL` that it may not hold. -/
def Intact (cat : Catalog) (name : String) (before after : String → List Row) : Prop :=
  ∀ t ∈ cat.tables.entries, t.1 ≠ name →
    (∀ r ∈ after t.1, ∀ c ∈ t.2.columns, c.notNull = true → r c.name ≠ .null) ∧
      ∀ fk ∈ t.2.foreignKeys, ∀ r ∈ after t.1, HasParent before fk r → HasParent after fk r

instance (cat : Catalog) (name : String) (before after : String → List Row) :
    Decidable (Intact cat name before after) :=
  inferInstanceAs (Decidable (∀ t ∈ cat.tables.entries, _ → _ ∧ _))

/-- What a statement makes of the rows. A deletion cascades at most as often as there are rows. -/
def execRows (enforce : Bool) (db : Database) : Statement → Option (String → List Row)
  | .createTable name _ => some (Function.update db.rows name [])
  | .createIndex .. => some db.rows
  | .addColumn name column => some (Function.update db.rows name
      ((db.rows name).map fun r => Function.update r column.name column.default))
  | .insertValues table columns values => insertRows affinity enforce db table columns [values]
  | .insertSelect table columns selected source =>
      insertRows affinity enforce db table columns (db.select source selected)
  | .dropTable name =>
      if enforce then do
        let depth := (db.catalog.tables.keys.flatMap db.rows).length + 1
        let rows ← deleteFrom db.catalog depth name (fun _ => true) db.rows
        if Intact db.catalog name db.rows rows then some rows else none
      else some (Function.update db.rows name [])
  | .renameTable name newName =>
      some (Function.update (Function.update db.rows newName (db.rows name)) name [])

/-- One statement on a connection that enforces foreign keys or not; `none` where it fails. -/
def exec (enforce : Bool) (db : Database) (statement : Statement) : Option Database := do
  let catalog ← db.catalog.exec statement
  let rows ← execRows affinity enforce db statement
  some ⟨catalog, rows⟩

/-- The statements of a transaction; where one fails, nothing of it stays. -/
def run (enforce : Bool) (statements : List Statement) (db : Database) : Option Database :=
  statements.foldlM (exec affinity enforce) db

/-- A database without tables. -/
def Database.empty : Database := ⟨⟨∅, ∅⟩, fun _ => []⟩

/-! ### Copies -/

/-- Columns of one table can be copied into another that has them with the same types, where the
other table has no constraint that the first does not have. -/
structure CopiesInto (t t' : TableDef) (columns : List String) : Prop where
  types : ∀ c ∈ columns, ∃ col ∈ t.columns, col.name = c ∧
    (t'.columns.find? (·.name = c)).map (·.type) = some col.type
  notNull : ∀ c' ∈ t'.columns, c'.notNull = true →
    c'.name ∈ columns ∧ ∃ c ∈ t.columns, c.name = c'.name ∧ c.notNull = true
  checks : ∀ check ∈ t'.checks, check.1 ∈ columns ∧ check ∈ t.checks
  unique : ∀ key ∈ t'.unique, (∀ c ∈ key, c ∈ columns) ∧ key ∈ t.unique
  foreignKeys : t'.foreignKeys = []

section Copies

variable {affinity} {t t' : TableDef} {rows : List Row} {columns : List String}

/-- Copies of accepted rows are accepted. -/
theorem TableDef.Accepts.copy (h : t.Accepts rows) (hinto : CopiesInto t t' columns) {f : Row → Row}
    (hf : ∀ r ∈ rows, ∀ c ∈ columns, f r c = r c) : t'.Accepts (rows.map f) where
  notNull r' hr' c' hc' hnot := by
    obtain ⟨r, hr, rfl⟩ := List.mem_map.mp hr'
    obtain ⟨hmem, c, hc, hname, hcnot⟩ := hinto.notNull c' hc' hnot
    rw [hf r hr _ hmem, ← hname]
    exact h.notNull r hr c hc hcnot
  checks r' hr' check hcheck := by
    obtain ⟨r, hr, rfl⟩ := List.mem_map.mp hr'
    obtain ⟨hmem, hold⟩ := hinto.checks check hcheck
    rw [hf r hr _ hmem]
    exact h.checks r hr check hold
  unique key hkey := by
    obtain ⟨hsub, hold⟩ := hinto.unique key hkey
    rw [List.pairwise_map]
    refine (h.unique key hold).imp_of_mem fun {r r'} hr hr' hdiffer => ?_
    obtain ⟨c, hc, hvalues⟩ := hdiffer
    refine ⟨c, hc, ?_⟩
    rwa [hf r hr c (hsub c hc), hf r' hr' c (hsub c hc)]

/-- A column that is given a value gets it. -/
theorem assigned_map (r : Row) {c : String} (h : c ∈ columns) :
    assigned columns (columns.map r) c = some (r c) := by
  induction columns with
  | nil => exact absurd h List.not_mem_nil
  | cons c' columns ih =>
      by_cases heq : c' = c
      · simp [assigned, heq]
      · have hmem : c ∈ columns := (List.mem_cons.mp h).resolve_left (Ne.symm heq)
        simpa [assigned, heq] using ih hmem

/-- The copy of a stored value is the value. -/
theorem newRow_copy (hinto : CopiesInto t t' columns) {r : Row}
    (hstored : ∀ c ∈ t.columns, affinity c.type (r c.name) = r c.name) {c : String} (h : c ∈ columns) :
    t'.newRow affinity columns (columns.map r) c = r c := by
  obtain ⟨col, hcol, rfl, htype⟩ := hinto.types c h
  obtain ⟨col', hcol', htype'⟩ := Option.map_eq_some_iff.mp htype
  simp only [TableDef.newRow, hcol', assigned_map r h, Option.getD_some, htype']
  exact hstored col hcol

end Copies

/-! ### Statements -/

section Statements

variable {affinity} {enforce : Bool} {db : Database} {name : String}

theorem exec_createTable (table : TableDef) (h : db.catalog.taken name = false) :
    exec affinity enforce db (.createTable name table) =
      some ⟨db.catalog.addTable name table, Function.update db.rows name []⟩ := by
  simp [exec, Catalog.exec, execRows, h]

theorem exec_createIndex {table : String} {columns : List String} (h : db.catalog.taken name = false)
    (hcolumns : db.catalog.hasColumns table columns = true) :
    exec affinity enforce db (.createIndex name table columns) =
      some ⟨db.catalog.addIndex name ⟨table, columns⟩, db.rows⟩ := by
  simp [exec, Catalog.exec, execRows, h, hcolumns]

theorem exec_renameTable {newName : String} (h : (db.catalog.tables.lookup name).isSome = true)
    (hnew : db.catalog.taken newName = false) :
    exec affinity enforce db (.renameTable name newName) =
      some ⟨db.catalog.rename name newName,
        Function.update (Function.update db.rows newName (db.rows name)) name []⟩ := by
  simp [exec, Catalog.exec, execRows, h, hnew]

/-- A table is copied into an empty one. -/
theorem exec_insertSelect_copy {source : String} {t t' : TableDef} {columns : List String}
    (hname : db.catalog.tables.lookup name = some t')
    (hcolumns : db.catalog.hasColumns name columns = true)
    (hselected : db.catalog.hasColumns source columns = true) (hinto : CopiesInto t t' columns)
    (hempty : db.rows name = []) (haccepts : t.Accepts (db.rows source))
    (hstored : ∀ r ∈ db.rows source, ∀ c ∈ t.columns, affinity c.type (r c.name) = r c.name) :
    exec affinity enforce db (.insertSelect name columns columns source) =
      some ⟨db.catalog, Function.update db.rows name
        ((db.rows source).map fun r => t'.newRow affinity columns (columns.map r))⟩ := by
  have hadded : (db.select source columns).map (t'.newRow affinity columns) =
      (db.rows source).map fun r => t'.newRow affinity columns (columns.map r) := by
    rw [Database.select, List.map_map]
    rfl
  have haccepted : t'.Accepts
      ((db.rows source).map fun r => t'.newRow affinity columns (columns.map r)) :=
    haccepts.copy hinto fun r hr c hc => newRow_copy hinto (hstored r hr) hc
  have hrows : insertRows affinity enforce db name columns (db.select source columns) =
      some (Function.update db.rows name
        ((db.rows source).map fun r => t'.newRow affinity columns (columns.map r))) := by
    simp only [insertRows, hname, hadded, hempty, List.nil_append, Function.update_self]
    refine if_pos ⟨haccepted, fun _ r _ fk hfk => ?_⟩
    rw [hinto.foreignKeys] at hfk
    exact absurd hfk List.not_mem_nil
  simp [exec, Catalog.exec, execRows, hcolumns, hselected, hrows]

/-- Without foreign keys a table is dropped and nothing else changes. -/
theorem exec_dropTable_off (h : (db.catalog.tables.lookup name).isSome = true) :
    exec affinity false db (.dropTable name) =
      some ⟨db.catalog.drop name, Function.update db.rows name []⟩ := by
  simp [exec, Catalog.exec, execRows, h]

/-- The rows after a table is dropped to which one foreign key refers, with the action `SET NULL`. -/
def unlinked (rows : String → List Row) (name child : String) (fk : ForeignKey) : String → List Row :=
  Function.update (Function.update rows name []) child ((rows child).map (unlink fk (rows name)))

/-- A row that is unlinked has lost nothing but that value. -/
theorem unlink_apply_ne {fk : ForeignKey} {parents : List Row} {r : Row} {c : String}
    (h : c ≠ fk.column) : unlink fk parents r c = r c := by
  unfold unlink
  split
  · exact Function.update_of_ne h _ _
  · rfl

/-- A row that had a parent among the deleted rows has none to refer to. -/
theorem unlink_apply_eq_null {rows : String → List Row} {fk : ForeignKey} {r : Row}
    (h : HasParent rows fk r) : unlink fk (rows fk.table) r fk.column = .null := by
  unfold unlink
  split
  · exact Function.update_self _ _ _
  · rename_i hnot
    rcases h with h | ⟨p, hp, heq⟩
    · exact h
    · by_contra hne
      exact hnot (by simpa [refersTo, hne] using ⟨p, hp, heq⟩)

theorem unlink_unlink (fk : ForeignKey) (parents : List Row) (r : Row) :
    unlink fk parents (unlink fk parents r) = unlink fk parents r := by
  by_cases h : refersTo fk parents r = true
  · have hrow : unlink fk parents r = Function.update r fk.column .null := if_pos h
    have hnot : ¬ refersTo fk parents (Function.update r fk.column .null) = true := by simp [refersTo]
    rw [hrow, unlink, if_neg hnot]
  · have hrow : unlink fk parents r = r := if_neg h
    rw [hrow, hrow]

/-- The rows of the other tables stay. -/
theorem unlinked_of_ne {child other : String} {fk : ForeignKey} (hname : other ≠ name) (hne : other ≠ child) :
    unlinked db.rows name child fk other = db.rows other := by
  rw [unlinked, Function.update_of_ne hne, Function.update_of_ne hname]

theorem Catalog.mem_references {cat : Catalog} {t : Σ _ : String, TableDef} {fk : ForeignKey}
    (ht : t ∈ cat.tables.entries) (hfk : fk ∈ t.2.foreignKeys) (htable : fk.table = name) :
    (t.1, fk) ∈ cat.references name :=
  List.mem_flatMap.mpr ⟨t, ht, List.mem_map_of_mem (List.mem_filter.mpr ⟨hfk, by simpa using htable⟩)⟩

/-- Where one nullable foreign key refers to a table, no constraint breaks when it is unlinked. -/
theorem intact_unlinked {child : String} {fk : ForeignKey}
    (hreferences : db.catalog.references name = [(child, fk)])
    (hnullable : ∀ t ∈ db.catalog.tables.entries, t.1 = child → ∀ c ∈ t.2.columns,
      c.notNull = true → c.name ≠ fk.column)
    (hparent : ∀ t ∈ db.catalog.tables.entries, ∀ fk' ∈ t.2.foreignKeys, fk'.table ≠ child)
    (haccepts : ∀ t ∈ db.catalog.tables.entries, t.2.Accepts (db.rows t.1)) :
    Intact db.catalog name db.rows (unlinked db.rows name child fk) := by
  intro t ht hne
  refine ⟨fun r hr c hc hnot => ?_, fun fk' hfk' r hr hbefore => ?_⟩
  · -- a column that may not be null: the foreign key is none of those
    by_cases htc : t.1 = child
    · rw [unlinked, htc, Function.update_self] at hr
      obtain ⟨r₀, hr₀, rfl⟩ := List.mem_map.mp hr
      rw [unlink_apply_ne (hnullable t ht htc c hc hnot)]
      exact (haccepts t ht).notNull r₀ (htc ▸ hr₀) c hc hnot
    · rw [unlinked_of_ne hne htc] at hr
      exact (haccepts t ht).notNull r hr c hc hnot
  · by_cases heq : fk'.table = name
    · have hmem := Catalog.mem_references ht hfk' heq
      rw [hreferences, List.mem_singleton] at hmem
      obtain ⟨htc, rfl⟩ := Prod.ext_iff.mp hmem
      simp only at htc
      rw [unlinked, htc, Function.update_self] at hr
      obtain ⟨r₀, -, rfl⟩ := List.mem_map.mp hr
      rw [← heq] at hbefore ⊢
      exact .inl (unlink_unlink fk' (db.rows fk'.table) r₀ ▸ unlink_apply_eq_null hbefore)
    · rw [HasParent, unlinked_of_ne heq (hparent t ht fk' hfk')]
      exact hbefore

/-- Dropping a table to which one nullable foreign key refers, with the action `SET NULL`. -/
theorem exec_dropTable_setNull {child : String} {fk : ForeignKey}
    (h : (db.catalog.tables.lookup name).isSome = true)
    (hreferences : db.catalog.references name = [(child, fk)]) (hnull : fk.onDelete = .setNull)
    (hchild : child ≠ name)
    (hnullable : ∀ t ∈ db.catalog.tables.entries, t.1 = child → ∀ c ∈ t.2.columns,
      c.notNull = true → c.name ≠ fk.column)
    (hparent : ∀ t ∈ db.catalog.tables.entries, ∀ fk' ∈ t.2.foreignKeys, fk'.table ≠ child)
    (haccepts : ∀ t ∈ db.catalog.tables.entries, t.2.Accepts (db.rows t.1)) :
    exec affinity true db (.dropTable name) =
      some ⟨db.catalog.drop name, unlinked db.rows name child fk⟩ := by
  have hdelete : ∀ depth, deleteFrom db.catalog (depth + 1) name (fun _ => true) db.rows =
      some (unlinked db.rows name child fk) := by
    intro depth
    simp [deleteFrom, hreferences, hnull, unlinked, Function.update_of_ne hchild]
  have hintact := intact_unlinked hreferences hnullable hparent haccepts
  simp [exec, Catalog.exec, execRows, h, hdelete, hintact]

end Statements

end Cliptown.Lib.Sql
