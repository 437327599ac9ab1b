import ModernCommon.Widget.Server

/-!
# A reference server

A server of the widget table that can be run: it parses the tokens of a
statement, executes it on the rows it holds and remembers the answer.
-/

namespace ModernCommon
namespace Widget

open Library MySql Data DataFactory

/-! ## Parsing -/

/-- Drop expected tokens. -/
def expect (expected tokens : List Token) : Option (List Token) :=
  if expected.isPrefixOf tokens then some (tokens.drop expected.length)
  else none

/-- Read a number with its sign. -/
def readNumber : List Token → Option (Int32 × List Token)
  | .symbol 45 :: .number numeral :: rest =>
      some (Int32.ofInt (-numeralValue numeral), rest)
  | .number numeral :: rest => some (Int32.ofInt (numeralValue numeral), rest)
  | _ => none

/-- Read a string literal or NULL. -/
def readColumn : List Token → Option (Option Bytes × List Token)
  | .literal value :: rest => some (some value, rest)
  | .word text :: rest => if text = bytes "null" then some (none, rest) else none
  | _ => none

/-- The end of a statement. -/
def finish (statement : Statement) (tokens : List Token) : Option Statement :=
  if tokens = [] then some statement else none

namespace Statement

/-- Read the insertion of a row. -/
def parseInsert (tokens : List Token) : Option Statement := do
  let rest ← expect insertInto tokens
  let (id, rest) ← readNumber rest
  let rest ← expect [comma] rest
  let (name, rest) ← readColumn rest
  let rest ← expect [comma] rest
  let (category, rest) ← readColumn rest
  let rest ← expect [comma] rest
  let (quantity, rest) ← readNumber rest
  let rest ← expect [closeParen] rest
  finish (.insert id name category quantity) rest

/-- Read the update of a row. -/
def parseUpdate (tokens : List Token) : Option Statement := do
  let rest ← expect [keyword "UPDATE", keyword "widget", keyword "SET",
    keyword "name", equals] tokens
  let (name, rest) ← readColumn rest
  let rest ← expect [comma, keyword "category", equals] rest
  let (category, rest) ← readColumn rest
  let rest ← expect [comma, keyword "quantity", equals] rest
  let (quantity, rest) ← readNumber rest
  let rest ← expect [keyword "WHERE", keyword "id", equals] rest
  let (id, rest) ← readNumber rest
  finish (.update id name category quantity) rest

/-- Read the deletion of a row. -/
def parseDelete (tokens : List Token) : Option Statement := do
  let rest ← expect [keyword "DELETE", keyword "FROM", keyword "widget",
    keyword "WHERE", keyword "id", equals] tokens
  let (id, rest) ← readNumber rest
  finish (.delete id) rest

/-- Read a query for one key, for one category or for every row. -/
def parseSelect (tokens : List Token) : Option Statement := do
  let rest ← expect selectFrom tokens
  let byKey : Option Statement := do
    let rest ← expect [keyword "WHERE", keyword "id", equals] rest
    let (id, rest) ← readNumber rest
    finish (.selectByKey id) rest
  let byCategory : Option Statement := do
    let rest ← expect [keyword "WHERE", keyword "category", equals] rest
    let (category, rest) ← readColumn rest
    finish (.selectByCategory category) rest
  ((finish .selectAll rest).or byKey).or byCategory

/-- Read any statement: at most one of the four fits. -/
def parse (tokens : List Token) : Option Statement :=
  (((parseInsert tokens).or (parseUpdate tokens)).or (parseDelete tokens)).or
    (parseSelect tokens)

end Statement

theorem expect_append (expected rest : List Token) :
    expect expected (expected ++ rest) = some rest := by
  simp [expect]

theorem readNumber_signedNumber (n : Int32) (rest : List Token) :
    readNumber (signedNumber n.toInt ++ rest) = some (n, rest) := by
  have whole : Int32.ofInt n.toInt = n := Int32.ofInt_toInt n
  unfold signedNumber
  split
  · have value : -(n.toInt.natAbs : Int) = n.toInt := by omega
    rw [List.cons_append, List.cons_append, readNumber, numeralValue_decimal,
      value, whole, List.nil_append]
  · have value : (n.toInt.natAbs : Int) = n.toInt := by omega
    rw [List.cons_append, readNumber, numeralValue_decimal, value, whole,
      List.nil_append]

theorem readNumber_signedNumber_nil (n : Int32) :
    readNumber (signedNumber n.toInt) = some (n, []) := by
  have read := readNumber_signedNumber n []
  rwa [List.append_nil] at read

theorem readColumn_columnToken (column : Option Bytes) (rest : List Token) :
    readColumn ([columnToken column] ++ rest) = some (column, rest) := by
  cases column <;> simp [columnToken, readColumn]

namespace Statement

/-! Each parser reads its own template back. -/

theorem parseInsert_tokens
    (id : Int32)
    (name category : Option Bytes)
    (quantity : Int32) :
    parseInsert (tokens (.insert id name category quantity)) =
      some (.insert id name category quantity) := by
  simp only [parseInsert, tokens, List.append_assoc, expect_append,
    readNumber_signedNumber, readColumn_columnToken, Option.bind_eq_bind,
    Option.bind_some]
  rfl

theorem parseUpdate_tokens
    (id : Int32)
    (name category : Option Bytes)
    (quantity : Int32) :
    parseUpdate (tokens (.update id name category quantity)) =
      some (.update id name category quantity) := by
  simp only [parseUpdate, tokens, List.append_assoc, expect_append,
    readNumber_signedNumber, readNumber_signedNumber_nil,
    readColumn_columnToken, Option.bind_eq_bind, Option.bind_some]
  rfl

theorem parseDelete_tokens (id : Int32) :
    parseDelete (tokens (.delete id)) = some (.delete id) := by
  simp only [parseDelete, tokens, expect_append, readNumber_signedNumber_nil,
    Option.bind_eq_bind, Option.bind_some]
  rfl

theorem parseSelect_tokens_selectByKey (id : Int32) :
    parseSelect (tokens (.selectByKey id)) = some (.selectByKey id) := by
  simp only [parseSelect, tokens, List.append_assoc, expect_append,
    readNumber_signedNumber_nil, Option.bind_eq_bind, Option.bind_some]
  rfl

theorem parseSelect_tokens_selectByCategory (category : Option Bytes) :
    parseSelect (tokens (.selectByCategory category)) =
      some (.selectByCategory category) := by
  have column : readColumn [columnToken category] = some (category, []) :=
    readColumn_columnToken category []
  simp only [parseSelect, tokens, List.append_assoc, expect_append, column,
    Option.bind_eq_bind, Option.bind_some]
  rfl

/-- A template is parsed back into its statement: its first word keeps the
parsers before its own from reading it. -/
theorem parse_tokens (statement : Statement) :
    parse statement.tokens = some statement := by
  cases statement with
  | insert id name category quantity =>
      rw [parse, parseInsert_tokens]
      rfl
  | update id name category quantity =>
      have notInsert :
          parseInsert (tokens (.update id name category quantity)) = none := rfl
      rw [parse, notInsert, parseUpdate_tokens]
      rfl
  | delete id =>
      have notInsert : parseInsert (tokens (.delete id)) = none := rfl
      have notUpdate : parseUpdate (tokens (.delete id)) = none := rfl
      rw [parse, notInsert, notUpdate, parseDelete_tokens]
      rfl
  | selectAll => decide
  | selectByKey id =>
      have notInsert : parseInsert (tokens (.selectByKey id)) = none := rfl
      have notUpdate : parseUpdate (tokens (.selectByKey id)) = none := rfl
      have notDelete : parseDelete (tokens (.selectByKey id)) = none := rfl
      rw [parse, notInsert, notUpdate, notDelete, parseSelect_tokens_selectByKey]
      rfl
  | selectByCategory category =>
      have notInsert : parseInsert (tokens (.selectByCategory category)) =
          none := rfl
      have notUpdate : parseUpdate (tokens (.selectByCategory category)) =
          none := rfl
      have notDelete : parseDelete (tokens (.selectByCategory category)) =
          none := rfl
      rw [parse, notInsert, notUpdate, notDelete,
        parseSelect_tokens_selectByCategory]
      rfl

end Statement

/-! ## Executing -/

/-- The text is no statement. -/
def ER_PARSE_ERROR : Nat := 1064

/-- A value is too long for its column. -/
def ER_DATA_TOO_LONG : Nat := 1406

/-- The rows of a session, and the answer to its last statement. -/
structure Session where
  content : WidgetContent
  errno : Nat := 0
  affectedRows : Nat := 0
  result : Option (List MySqlRow) := none

namespace WidgetContent

/-- One more row, of a key not there before. -/
def add
    (content : WidgetContent)
    (entry : WidgetEntry)
    (absent : ¬content.HasKey entry.key) : WidgetContent where
  rows := entry :: content.rows
  uniqueIds := List.nodup_cons.mpr ⟨absent, content.uniqueIds⟩

/-- Other values for the row with an entry's key. -/
def replace
    (content : WidgetContent)
    (entry : WidgetEntry) : WidgetContent where
  rows := content.replaced entry
  uniqueIds := by
    have sameKeys : (content.replaced entry).map WidgetEntry.key =
        content.rows.map WidgetEntry.key := by
      rw [replaced, List.map_map]
      apply List.map_congr_left
      intro row _
      by_cases hasKey : row.key = entry.key <;> simp [hasKey]
    rw [sameKeys]
    exact content.uniqueIds

/-- Every row but the one with a key. -/
def erase
    (content : WidgetContent)
    (key : WidgetKey) : WidgetContent where
  rows := content.rows.filter fun row => row.key ≠ key
  uniqueIds := content.uniqueIds.sublist
    (List.filter_sublist.map WidgetEntry.key)

end WidgetContent

namespace Session

/-- Answer an error number; the rows stay. -/
def fail (session : Session) (errno : Nat) : Int × Session :=
  (1, { session with errno, result := none })

/-- Answer how many rows were affected. -/
def change (affectedRows : Nat) (content : WidgetContent) : Int × Session :=
  (0, { content, affectedRows })

/-- Answer a result set; the rows stay. -/
def select (session : Session) (rows : List WidgetEntry) : Int × Session :=
  (0, { content := session.content, result := some (rows.map cells) })

/-- The effect of a statement on the rows, and its answer. -/
def execute (session : Session) : Statement → Int × Session
  | .insert id (some name) (some category) quantity =>
      if 255 < name.length ∨ 255 < category.length then
        session.fail ER_DATA_TOO_LONG
      else if absent : ¬session.content.HasKey id then
        change 1
          (session.content.add ⟨id, name, category, quantity⟩ absent)
      else session.fail ER_DUP_ENTRY
  | .insert _ _ _ _ => session.fail ER_BAD_NULL_ERROR
  | .update id name category quantity =>
      if ¬session.content.HasKey id then change 0 session.content
      else
        match name, category with
        | some name, some category =>
            if 255 < name.length ∨ 255 < category.length then
              session.fail ER_DATA_TOO_LONG
            else
              change
                (if ⟨id, name, category, quantity⟩ ∈ session.content.rows
                  then 0 else 1)
                (session.content.replace ⟨id, name, category, quantity⟩)
        | _, _ => session.fail ER_BAD_NULL_ERROR
  | .delete id =>
      change (session.content.rows.countP fun row => row.key = id)
        (session.content.erase id)
  | .selectAll => session.select session.content.rows
  | .selectByKey id =>
      session.select (session.content.rows.filter fun row => row.key = id)
  | .selectByCategory category =>
      session.select
        (session.content.rows.filter fun row => some row.category = category)

/-- Scan a text, parse it and execute the statement. -/
def realQuery (text : Bytes) (session : Session) : Int × Session :=
  match (scan text).bind Statement.parse with
  | some statement => session.execute statement
  | none => session.fail ER_PARSE_ERROR

end Session

/-- The client library of such sessions. -/
def sessionClient : MySqlClient Session where
  realQuery := Session.realQuery
  affectedRows := Session.affectedRows
  storeResult session := (session.result, { session with result := none })
  errno := Session.errno
  error _ := []

theorem Session.execute_executes
    (session : Session)
    (statement : Statement)
    (fits : statement.Fits List.length) :
    ∃ reply,
      Executes statement session.content reply
        (session.execute statement).2.content ∧
      Reports sessionClient (session.execute statement) reply := by
  have failed : (1 : Int) ≠ 0 := by decide
  cases statement with
  | insert id name category quantity =>
      cases name with
      | none => exact ⟨_, .insertNull (.inl rfl), failed, rfl⟩
      | some name =>
          cases category with
          | none => exact ⟨_, .insertNull (.inr rfl), failed, rfl⟩
          | some category =>
              have short : ¬(255 < name.length ∨ 255 < category.length) := by
                have bounds := And.intro (fits.1 name rfl) (fits.2 category rfl)
                omega
              simp only [execute, if_neg short]
              by_cases absent : ¬session.content.HasKey id
              · rw [dif_pos absent]
                exact ⟨_, .insert absent (List.Perm.refl _), rfl, rfl⟩
              · rw [dif_neg absent]
                exact ⟨_, .insertDuplicate (not_not.mp absent), failed, rfl⟩
  | update id name category quantity =>
      by_cases absent : ¬session.content.HasKey id
      · simp only [execute, if_pos absent]
        exact ⟨_, .updateMissing absent, rfl, rfl⟩
      · have present := not_not.mp absent
        simp only [execute, if_neg absent]
        cases name with
        | none => exact ⟨_, .updateNull present (.inl rfl), failed, rfl⟩
        | some name =>
            cases category with
            | none => exact ⟨_, .updateNull present (.inr rfl), failed, rfl⟩
            | some category =>
                have short : ¬(255 < name.length ∨ 255 < category.length) := by
                  have bounds :=
                    And.intro (fits.1 name rfl) (fits.2 category rfl)
                  omega
                simp only [if_neg short]
                exact ⟨_, .update present (List.Perm.refl _), rfl, rfl⟩
  | delete id => exact ⟨_, .delete (List.Perm.refl _), rfl, rfl⟩
  | selectAll => exact ⟨_, .selectAll (List.Perm.refl _), rfl, rfl⟩
  | selectByKey id => exact ⟨_, .selectByKey (List.Perm.refl _), rfl, rfl⟩
  | selectByCategory category =>
      exact ⟨_, .selectByCategory (List.Perm.refl _), rfl, rfl⟩

/-- The reference server; its columns hold one character a byte. -/
def referenceServer : WidgetServer Session where
  toMySqlClient := sessionClient
  content := Session.content
  characters := List.length
  executes text statement session scanned fits := by
    have executed : sessionClient.realQuery text session =
        session.execute statement := by
      simp [sessionClient, Session.realQuery, scanned, Statement.parse_tokens]
    rw [executed]
    exact session.execute_executes statement fits
  content_storeResult _ := rfl

/-- A factory connected to the widget table. -/
def widgetFactory : DataFactory where
  connection := some 0
  tableName := bytes "widget"

/-- A client of an empty table. -/
def emptyTable : Client Session where
  session := { content := ⟨[], List.nodup_nil⟩ }

/-- An entry whose strings are not empty. -/
def bolt : WidgetEntry where
  key := 1
  name := bytes "bolt"
  category := bytes "hardware"
  quantity := 10

/-- A client of a table that holds it. -/
def boltTable : Client Session where
  session := { content := ⟨[bolt], List.nodup_singleton _⟩ }

end Widget
end ModernCommon
