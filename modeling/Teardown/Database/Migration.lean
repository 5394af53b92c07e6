import Teardown.Failure
import Teardown.Text.Quoted

/-!
# Migrations of the schema

The tables of the worker are created by one revision, the baseline. An upgrade applies it and a
downgrade takes it back; a table of its own records which revision a database has. A migration
can also be written out as statements without a database.

A target is `head`, `base`, the id of the revision or the start of it, or a number of steps with
its sign. Statements can be written for a range from one target to another.
-/

namespace Teardown.Database

/-- The id of the baseline. -/
def baseline : String := "20261019_01"

/-- A column: its name, type, whether it needs a value, its default, and its place in the primary
key, which is zero for the other columns. -/
structure ColumnInfo where
  name : String
  type : String
  required : Bool
  default : Option String
  keyPlace : Nat
deriving DecidableEq, Repr

/-- A table: its name, its columns, and its indexes with whether they are unique. -/
structure TableInfo where
  name : String
  columns : List ColumnInfo
  indexes : List (String × Bool)
deriving DecidableEq, Repr

/-- The table that records the revision. -/
def versionTable : TableInfo where
  name := "alembic_version"
  columns := [⟨"version_num", "VARCHAR(32)", true, none, 1⟩]
  indexes := []

/-- The tables of the baseline. -/
def baselineTables : List TableInfo :=
  let stamp (name : String) : ColumnInfo := ⟨name, "DATETIME", true, some "CURRENT_TIMESTAMP", 0⟩
  [{ name := "deployment"
     columns := [⟨"deployment_id", "INTEGER", true, none, 1⟩,
       ⟨"instance_id", "INTEGER", true, none, 0⟩,
       ⟨"status", "TEXT", true, some "'created'", 0⟩, ⟨"error", "TEXT", false, none, 0⟩,
       stamp "created_at_utc", stamp "updated_at_utc"]
     indexes := [("ix_deployment_status", false)] },
   { name := "instance"
     columns := [⟨"instance_id", "INTEGER", true, none, 1⟩,
       ⟨"instance_slug", "TEXT", true, none, 0⟩, stamp "created_at_utc"]
     indexes := [] }]

/-- A table as a value. -/
def TableInfo.toJson (t : TableInfo) : Json :=
  .obj
    [("columns", .arr (t.columns.map fun c =>
        .arr [.str c.name, .str c.type, .bool c.required, Json.ofText? c.default,
          .int c.keyPlace])),
      ("indexes", .arr (t.indexes.map fun i => .arr [.str i.1, .bool i.2]))]

/-- The migration state of a database. -/
structure Schema where
  recorded : Bool := false
  applied : Bool := false
deriving DecidableEq, Repr

/-- The tables of a database. -/
def Schema.tables (s : Schema) : List TableInfo :=
  (if s.recorded then [versionTable] else []) ++ (if s.applied then baselineTables else [])

/-- The tables of a database as a value. -/
def Schema.toJson (s : Schema) : Json :=
  .obj (s.tables.map fun t => (t.name, t.toJson))

/-- The direction of a migration. -/
inductive Direction where
  | upgrade
  | downgrade
deriving DecidableEq, Repr

/-- A failure of the migration tool. -/
def migrationFailure (message : String) : Failure :=
  .named "CommandError" message

/-- A number of steps with its sign. -/
def steps? (target : String) : Option Int :=
  match target.toList with
  | '+' :: digits => (String.ofList digits).toNat?.map Int.ofNat
  | '-' :: digits => (String.ofList digits).toNat?.map fun n => -(n : Int)
  | _ => none

/-- Whether a database at a target has the baseline, where `applied` says whether it has it now.
A number of steps has to lead to a revision or to the base. -/
def resolve (direction : Direction) (applied : Bool) (target : String) : Except Failure Bool :=
  match steps? target with
  | some n =>
    match direction, applied, n with
    | .upgrade, false, 1 => .ok true
    | .downgrade, true, -1 => .ok false
    | _, _, _ =>
      .error (migrationFailure ("Relative revision " ++ target ++ " didn't produce " ++
        toString n.natAbs ++ " migrations"))
  | none =>
    if target = "head" ∨ target = "heads" then .ok true
    else if target = "base" then .ok false
    else if target ≠ "" ∧ target.toList.isPrefixOf baseline.toList then .ok true
    else .error (migrationFailure ("Can't locate revision identified by '" ++ target ++ "'"))

/-- Whether a database has the baseline after a migration towards a goal: an upgrade takes nothing
back, and a downgrade applies nothing, so that its goal has to be applied already. -/
def reached (direction : Direction) (target : String) (applied goal : Bool) :
    Except Failure Bool :=
  match direction with
  | .upgrade => .ok (applied || goal)
  | .downgrade =>
    if goal && !applied then
      .error (migrationFailure ("Destination " ++ Text.quoted target ++
        " is not a valid downgrade target from current head(s)"))
    else .ok (applied && goal)

/-- Migrates a database. -/
def migrate (direction : Direction) (target : String) (s : Schema) : Except Failure Schema := do
  if target.contains ':' then throw (migrationFailure "Range revision not allowed")
  let goal ← resolve direction s.applied target
  return ⟨true, ← reached direction target s.applied goal⟩

/-- The beginnings of the statements that a migration from one state to another consists of. -/
def statements (before after : Bool) : List String :=
  match before, after with
  | false, true =>
    ["CREATE TABLE alembic_version ", "CREATE TABLE instance ", "CREATE TABLE deployment ",
      "CREATE INDEX ix_deployment_status ON deployment ", "INSERT INTO alembic_version "]
  | true, false =>
    ["DROP INDEX ix_deployment_status", "DROP TABLE deployment", "DROP TABLE instance",
      "DELETE FROM alembic_version WHERE alembic_version.version_num = '" ++ baseline ++ "'"]
  | _, _ => []

/-- Writes a migration out as statements. A downgrade needs to be told where it starts. -/
def script (direction : Direction) (target : String) : Except Failure (List String) := do
  let (start, goal) ← match target.splitOn ":" with
    | start :: goal :: _ => pure (start, goal)
    | _ =>
      match direction with
      | .upgrade => pure ("base", target)
      | .downgrade =>
        throw (migrationFailure "downgrade with --sql requires <fromrev>:<torev>")
  let before ← resolve .upgrade false start
  return statements before (← reached direction goal before (← resolve direction before goal))

end Teardown.Database
