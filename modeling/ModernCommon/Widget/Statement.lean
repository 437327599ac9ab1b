import ModernCommon.Widget.WidgetTable

/-!
# The statements of the widget table

Each statement `WidgetTable` builds is a fixed sequence of tokens with slots for
numbers and strings. Whatever the field values are, the text built from them is
scanned into the sequence of its own template.
-/

namespace ModernCommon
namespace Widget

open Library MySql DataFactory

/-- A statement about the widget table, with the column values in its slots. -/
inductive Statement
  | insert (id : Int32) (name category : Option Bytes) (quantity : Int32)
  | update (id : Int32) (name category : Option Bytes) (quantity : Int32)
  | delete (id : Int32)
  | selectAll
  | selectByKey (id : Int32)
  | selectByCategory (category : Option Bytes)
  deriving DecidableEq

namespace Statement

/-- A word of the templates. -/
def keyword (text : String) : Token :=
  .word (bytes text)

/-- The symbol between columns. -/
def comma : Token :=
  .symbol 44

/-- The symbol of an assignment and of a comparison. -/
def equals : Token :=
  .symbol 61

/-- The symbol before a list of columns. -/
def openParen : Token :=
  .symbol 40

/-- The symbol after a list of columns. -/
def closeParen : Token :=
  .symbol 41

/-- `INSERT INTO widget (id, name, category, quantity) VALUES (` -/
def insertInto : List Token :=
  [keyword "INSERT", keyword "INTO", keyword "widget", openParen,
    keyword "id", comma, keyword "name", comma, keyword "category", comma,
    keyword "quantity", closeParen, keyword "VALUES", openParen]

/-- `SELECT id, name, category, quantity FROM widget` -/
def selectFrom : List Token :=
  [keyword "SELECT", keyword "id", comma, keyword "name", comma,
    keyword "category", comma, keyword "quantity", keyword "FROM",
    keyword "widget"]

/-- The template of a statement, its slots filled. -/
def tokens : Statement → List Token
  | .insert id name category quantity =>
      insertInto ++ signedNumber id.toInt ++ [comma] ++ [columnToken name] ++
        [comma] ++ [columnToken category] ++ [comma] ++
        signedNumber quantity.toInt ++ [closeParen]
  | .update id name category quantity =>
      [keyword "UPDATE", keyword "widget", keyword "SET", keyword "name",
        equals] ++ [columnToken name] ++
        [comma, keyword "category", equals] ++ [columnToken category] ++
        [comma, keyword "quantity", equals] ++ signedNumber quantity.toInt ++
        [keyword "WHERE", keyword "id", equals] ++ signedNumber id.toInt
  | .delete id =>
      [keyword "DELETE", keyword "FROM", keyword "widget", keyword "WHERE",
        keyword "id", equals] ++ signedNumber id.toInt
  | .selectAll => selectFrom
  | .selectByKey id =>
      selectFrom ++ [keyword "WHERE", keyword "id", equals] ++
        signedNumber id.toInt
  | .selectByCategory category =>
      selectFrom ++ [keyword "WHERE", keyword "category", equals] ++
        [columnToken category]

end Statement

/-! ## Templates -/

theorem scan_streamed (n : Int32) :
    scan (streamed n) = some (signedNumber n.toInt) :=
  scan_signedDecimal n.toInt

theorem scan_buildInsertSql (entry : WidgetEntry) :
    scan (WidgetTable.buildInsertSql entry) =
      some (Statement.insert entry.getId (nullable entry.name)
        (nullable entry.category) entry.quantity).tokens := by
  have beginning : scanner.run .between
      (bytes "INSERT INTO widget (id, name, category, quantity) VALUES (") =
        (.between, Statement.insertInto) := by decide
  have separator : scanner.run .between (bytes ", ") =
      (.between, [Statement.comma]) := by decide
  have ending : scan (bytes ")") = some [Statement.closeParen] := by decide
  have quantity := scan_append (scan_streamed entry.quantity) ending (by decide)
  have category := scan_append
    (scan_getNullableStringColumnValue entry.category)
    (scan_append_of_between separator quantity) rfl
  have name := scan_append (scan_getNullableStringColumnValue entry.name)
    (scan_append_of_between separator category) rfl
  have id := scan_append (scan_streamed entry.getId)
    (scan_append_of_between separator name) rfl
  have whole := scan_append_of_between beginning id
  simpa only [WidgetTable.buildInsertSql, Statement.tokens, List.append_assoc]
    using whole

theorem scan_buildUpdateSql (entry : WidgetEntry) :
    scan (WidgetTable.buildUpdateSql entry) =
      some (Statement.update entry.getId (nullable entry.name)
        (nullable entry.category) entry.quantity).tokens := by
  have beginning : scanner.run .between (bytes "UPDATE widget SET name = ") =
      (.between, [Statement.keyword "UPDATE", Statement.keyword "widget",
        Statement.keyword "SET", Statement.keyword "name",
        Statement.equals]) := by decide
  have beforeCategory : scanner.run .between (bytes ", category = ") =
      (.between, [Statement.comma, Statement.keyword "category",
        Statement.equals]) := by decide
  have beforeQuantity : scanner.run .between (bytes ", quantity = ") =
      (.between, [Statement.comma, Statement.keyword "quantity",
        Statement.equals]) := by decide
  have beforeId : scanner.run .between (bytes " WHERE id = ") =
      (.between, [Statement.keyword "WHERE", Statement.keyword "id",
        Statement.equals]) := by decide
  have id := scan_append_of_between beforeId (scan_streamed entry.getId)
  have quantity := scan_append_of_between beforeQuantity
    (scan_append (scan_streamed entry.quantity) id rfl)
  have category := scan_append_of_between beforeCategory
    (scan_append (scan_getNullableStringColumnValue entry.category) quantity rfl)
  have whole := scan_append_of_between beginning
    (scan_append (scan_getNullableStringColumnValue entry.name) category rfl)
  simpa only [WidgetTable.buildUpdateSql, Statement.tokens, List.append_assoc]
    using whole

theorem scan_buildDeleteSql (key : WidgetKey) :
    scan (WidgetTable.buildDeleteSql key) =
      some (Statement.delete key).tokens := by
  have beginning : scanner.run .between
      (bytes "DELETE FROM widget WHERE id = ") =
        (.between, [Statement.keyword "DELETE", Statement.keyword "FROM",
          Statement.keyword "widget", Statement.keyword "WHERE",
          Statement.keyword "id", Statement.equals]) := by decide
  exact scan_append_of_between beginning (scan_streamed key)

theorem scan_buildSelectAllSql :
    scan WidgetTable.buildSelectAllSql = some Statement.selectAll.tokens := by
  decide

theorem scan_buildSelectByKeySql (key : WidgetKey) :
    scan (WidgetTable.buildSelectByKeySql key) =
      some (Statement.selectByKey key).tokens := by
  have beginning : scanner.run .between
      (bytes "SELECT id, name, category, quantity FROM widget WHERE id = ") =
        (.between, Statement.selectFrom ++
          [Statement.keyword "WHERE", Statement.keyword "id",
            Statement.equals]) := by decide
  exact scan_append_of_between beginning (scan_streamed key)

theorem scan_buildSelectByCategorySql (category : Bytes) :
    scan (WidgetTable.buildSelectByCategorySql category) =
      some (Statement.selectByCategory (nullable category)).tokens := by
  have beginning : scanner.run .between
      (bytes
        "SELECT id, name, category, quantity FROM widget WHERE category = ") =
        (.between, Statement.selectFrom ++
          [Statement.keyword "WHERE", Statement.keyword "category",
            Statement.equals]) := by decide +kernel
  exact scan_append_of_between beginning
    (scan_getNullableStringColumnValue category)

/-- No field value changes the structure of a statement: each text is scanned
into its template, every number slot holding the signed decimal of the field and
every string slot one literal that decodes to it, or `null` when it is empty. -/
theorem scan_statements
    (entry : WidgetEntry)
    (key : WidgetKey)
    (category : Bytes) :
    scan (WidgetTable.buildInsertSql entry) =
        some (Statement.insert entry.getId (nullable entry.name)
          (nullable entry.category) entry.quantity).tokens ∧
      scan (WidgetTable.buildUpdateSql entry) =
        some (Statement.update entry.getId (nullable entry.name)
          (nullable entry.category) entry.quantity).tokens ∧
      scan (WidgetTable.buildDeleteSql key) =
        some (Statement.delete key).tokens ∧
      scan (WidgetTable.buildSelectByKeySql key) =
        some (Statement.selectByKey key).tokens ∧
      scan (WidgetTable.buildSelectByCategorySql category) =
        some (Statement.selectByCategory (nullable category)).tokens :=
  ⟨scan_buildInsertSql entry, scan_buildUpdateSql entry,
    scan_buildDeleteSql key, scan_buildSelectByKeySql key,
    scan_buildSelectByCategorySql category⟩

end Widget
end ModernCommon
