import ModernCommon.DataFactory.Endings

/-!
# Widgets: entries, statements and rows

The entry type of the widget table, the statements `WidgetTable` builds from
entries and keys, and the entry a fetched row is mapped to.
-/

namespace ModernCommon
namespace Widget

open Library MySql Data DataFactory

/-- A widget's key is its id. -/
abbrev WidgetKey := Int32

/-- A row of the table, with the defaults of a default-constructed entry. -/
structure WidgetEntry where
  key : WidgetKey := 0
  name : Bytes := []
  category : Bytes := []
  quantity : Int32 := 0
  deriving DecidableEq

instance : Entry WidgetEntry WidgetKey where
  getKey := WidgetEntry.key

/-- The id of an entry is its key. -/
def WidgetEntry.getId (entry : WidgetEntry) : Int32 :=
  entry.key

/-- `std::ostringstream` output of an integer. -/
def streamed (n : Int32) : Bytes :=
  signedDecimal n.toInt

namespace WidgetTable

/-! ## Statements -/

/-- The text that inserts an entry. -/
def buildInsertSql (entry : WidgetEntry) : Bytes :=
  bytes "INSERT INTO widget (id, name, category, quantity) VALUES (" ++
    streamed entry.getId ++ bytes ", " ++
    getNullableStringColumnValue entry.name ++ bytes ", " ++
    getNullableStringColumnValue entry.category ++ bytes ", " ++
    streamed entry.quantity ++ bytes ")"

/-- The text that sets every other column of the row with an entry's key. -/
def buildUpdateSql (entry : WidgetEntry) : Bytes :=
  bytes "UPDATE widget SET name = " ++
    getNullableStringColumnValue entry.name ++
    bytes ", category = " ++
    getNullableStringColumnValue entry.category ++
    bytes ", quantity = " ++ streamed entry.quantity ++
    bytes " WHERE id = " ++ streamed entry.getId

/-- The text that deletes the row with a key. -/
def buildDeleteSql (key : WidgetKey) : Bytes :=
  bytes "DELETE FROM widget WHERE id = " ++ streamed key

/-- The text that queries the row with a key. -/
def buildSelectByKeySql (key : WidgetKey) : Bytes :=
  bytes "SELECT id, name, category, quantity FROM widget WHERE id = " ++
    streamed key

/-- The text that queries every row. -/
def buildSelectAllSql : Bytes :=
  bytes "SELECT id, name, category, quantity FROM widget"

/-- The text that queries the rows of a category. -/
def buildSelectByCategorySql (category : Bytes) : Bytes :=
  bytes "SELECT id, name, category, quantity FROM widget WHERE category = " ++
    getNullableStringColumnValue category

/-! ## Rows -/

/-- `RowMapperImpl::mapRow`: columns id, name, category and quantity, with
defaults for SQL NULL. The lengths are not used. -/
def mapRow (row : MySqlRow) (_lengths : List Nat) : WidgetEntry where
  key := (fetchNullableIntegerColumnValue (row.getD 0 none)).getD 0
  name := (fetchNullableStringColumnValue (row.getD 1 none)).getD []
  category := (fetchNullableStringColumnValue (row.getD 2 none)).getD []
  quantity := (fetchNullableIntegerColumnValue (row.getD 3 none)).getD 0

/-! ## Operations -/

variable {σ τ : Type}

/-- A second row with the key of another is rejected by the server. -/
def insert
    (mysql : MySqlClient σ)
    (factory : DataFactory)
    (entry : WidgetEntry) : ClientM σ Unit :=
  factory.executeModificationSql mysql (buildInsertSql entry)

/-- A row that is missing, or that does not change, throws. -/
def update
    (mysql : MySqlClient σ)
    (factory : DataFactory)
    (entry : WidgetEntry) : ClientM σ Unit :=
  factory.executeModificationSql mysql (buildUpdateSql entry)

/-- A row that is missing throws. -/
def remove
    (mysql : MySqlClient σ)
    (factory : DataFactory)
    (key : WidgetKey) : ClientM σ Unit :=
  factory.executeModificationSql mysql (buildDeleteSql key)

/-- The queries by key and of every row. -/
def table
    (mysql : MySqlClient σ)
    (factory : DataFactory) :
    Table Failure (Client σ) WidgetKey WidgetEntry where
  queryKey key cb := runQuery mysql factory (buildSelectByKeySql key)
    (fun row lengths => pure (mapRow row lengths)) cb
  query cb := runQuery mysql factory buildSelectAllSql
    (fun row lengths => pure (mapRow row lengths)) cb

/-- The query by category. -/
def queryCategory
    (mysql : MySqlClient σ)
    (factory : DataFactory)
    (category : Bytes)
    (cb : RowCallback Failure (Client σ) τ WidgetEntry) :
    Program Failure (Client σ) τ Unit :=
  runQuery mysql factory (buildSelectByCategorySql category)
    (fun row lengths => pure (mapRow row lengths)) cb

/-- What the queries of the widget table do, whatever the callback. -/
theorem table_eq_ofQueries
    (mysql : MySqlClient σ)
    (factory : DataFactory) :
    table mysql factory =
      Table.ofQueries
        (fun key => queryOf mysql factory (buildSelectByKeySql key)
          fun row lengths => pure (mapRow row lengths))
        (queryOf mysql factory buildSelectAllSql
          fun row lengths => pure (mapRow row lengths)) := by
  rw [table, Table.ofQueries]
  congr
  · funext τ key cb
    exact runQuery_eq_run mysql factory (buildSelectByKeySql key)
      (fun row lengths => pure (mapRow row lengths)) cb
  · funext τ cb
    exact runQuery_eq_run mysql factory buildSelectAllSql
      (fun row lengths => pure (mapRow row lengths)) cb

end WidgetTable
end Widget
end ModernCommon
