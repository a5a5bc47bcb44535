import Dossier.Sql.Statement

/-!
# The table of records

All records live in one table, whatever their entity. These statements make it and its indexes, where
they are missing, and ask whether the database is there at all.
-/

namespace Dossier

namespace Sql

def urlSetting : String := "DATABASE_URL"

/-- The name of the table, quoted. -/
def table : String := "\"entity_records\""

def lines (parts : List String) : Statement := [.fixed (String.intercalate "\n" parts)]

def createTable : Statement :=
  lines ["CREATE TABLE IF NOT EXISTS \"entity_records\" (",
    "        \"id\" uuid PRIMARY KEY,",
    "        \"tenant_id\" text NOT NULL,",
    "        \"entity_name\" text NOT NULL,",
    "        \"data\" jsonb NOT NULL DEFAULT '\x7b\x7d'::jsonb,",
    "        \"approval\" jsonb,",
    "        \"created_at\" timestamptz NOT NULL,",
    "        \"updated_at\" timestamptz NOT NULL,",
    "        \"created_by\" text NOT NULL,",
    "        \"updated_by\" text NOT NULL,",
    "        \"deleted\" boolean NOT NULL DEFAULT false,",
    "        \"deleted_at\" timestamptz,",
    "        \"deleted_by\" text",
    "    )"]

/-- The index for the guard on tenant, entity and deletion. -/
def createScopeIndex : Statement :=
  lines ["CREATE INDEX IF NOT EXISTS \"entity_records_scope_idx\"",
    "        ON \"entity_records\" (\"tenant_id\", \"entity_name\", \"deleted\")"]

/-- The index for searching in the data. -/
def createDataIndex : Statement :=
  lines ["CREATE INDEX IF NOT EXISTS \"entity_records_data_idx\"",
    "        ON \"entity_records\" USING gin (\"data\")"]

/-- Everything that has to be there, in order. -/
def schema : List Statement := [createTable, createScopeIndex, createDataIndex]

/-- A statement that any working database answers. -/
def healthCheck : Statement := [.fixed "SELECT 1"]

end Sql

end Dossier
