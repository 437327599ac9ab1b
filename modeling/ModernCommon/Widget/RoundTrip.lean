import ModernCommon.Widget.Reference

/-!
# Writing a widget and reading it back

An insert stores the decoded literals; a query by key maps the cells back to an
entry. The two are inverse on an entry exactly when its strings are neither
empty, which is written as NULL, nor contain a NUL byte, where reading stops.
-/

namespace ModernCommon
namespace Widget

open Library MySql Data DataFactory

/-! ## Reading -/

/-- The entry a stored row is read back as. -/
def readBack (row : WidgetEntry) : WidgetEntry :=
  { row with name := cString row.name, category := cString row.category }

theorem fetchNullableIntegerColumnValue_streamed (n : Int32) :
    fetchNullableIntegerColumnValue (some (streamed n)) = some n := by
  rw [fetchNullableIntegerColumnValue, streamed, Option.map_some,
    atoi_signedDecimal, Int32.ofInt_toInt]

theorem mapRow_cells (row : WidgetEntry) (lengths : List Nat) :
    WidgetTable.mapRow (cells row) lengths = readBack row := by
  simp [WidgetTable.mapRow, cells, readBack, fetchNullableStringColumnValue,
    fetchNullableIntegerColumnValue_streamed]

/-- A row is read back whole unless one of its strings contains a NUL byte. -/
theorem readBack_eq_self_iff (row : WidgetEntry) :
    readBack row = row ↔ 0 ∉ row.name ∧ 0 ∉ row.category := by
  rw [← cString_eq_self_iff, ← cString_eq_self_iff]
  constructor
  · intro same
    exact ⟨congrArg WidgetEntry.name same, congrArg WidgetEntry.category same⟩
  · rintro ⟨sameName, sameCategory⟩
    rw [readBack, sameName, sameCategory]

/-- At most one row has a key. -/
theorem WidgetContent.filter_key
    (content : WidgetContent)
    (key : WidgetKey) :
    (content.rows.filter fun row => row.key = key) =
      (content.rows.find? fun row => row.key = key).toList := by
  obtain ⟨rows, uniqueIds⟩ := content
  induction rows with
  | nil => rfl
  | cons row rows inductionHypothesis =>
      obtain ⟨fresh, uniqueRest⟩ := List.nodup_cons.mp uniqueIds
      by_cases hasKey : row.key = key
      · have noOther : (rows.filter fun row => row.key = key) = [] := by
          rw [List.filter_eq_nil_iff]
          intro other present sameKey
          apply fresh
          rw [hasKey, ← of_decide_eq_true sameKey]
          exact List.mem_map_of_mem present
        simp [hasKey, noOther]
      · simpa [hasKey] using inductionHypothesis uniqueRest

theorem WidgetContent.find_of_mem
    (content : WidgetContent)
    {entry : WidgetEntry}
    (present : entry ∈ content.rows) :
    (content.rows.find? fun row => row.key = entry.key) = some entry := by
  cases found : content.rows.find? fun row => row.key = entry.key with
  | none =>
      have other := List.find?_eq_none.mp found entry present
      simp at other
  | some row =>
      have sameKey : row.key = entry.key := by simpa using List.find?_some found
      rw [content.eq_of_key_eq (List.mem_of_find?_eq_some found) present sameKey]

variable {σ τ : Type}

/-- At most one row has no other order. -/
theorem eq_toList_of_perm
    {rows : List α}
    {found : Option α}
    (delivered : rows.Perm found.toList) :
    rows = found.toList := by
  cases found with
  | none => exact delivered.eq_nil
  | some row => exact List.perm_singleton.mp delivered

/-- A query by key reads the row with that key back, if there is one. -/
theorem findByKey_run
    (server : WidgetServer σ)
    {factory : DataFactory}
    (connected : factory.connection.isSome)
    (key : WidgetKey)
    {client : Client σ}
    (unlocked : client.queryMutex = false)
    (outer : τ) :
    ∃ reached,
      (findByKey (WidgetTable.table server.toMySqlClient factory) key).run
          (client, outer) =
        .ok (((server.content client.session).rows.find?
          fun row => row.key = key).map readBack) (reached, outer) := by
  obtain ⟨reply, executed, reported⟩ := server.executes
    (WidgetTable.buildSelectByKeySql key) (.selectByKey key) client.session
    (scan_buildSelectByKeySql key) trivial
  obtain ⟨_, rows, rfl, delivered⟩ := executed.of_selectByKey
  obtain ⟨accepted, stored⟩ := reported
  have found : rows = ((server.content client.session).rows.find?
      fun row => row.key = key).toList := by
    rw [WidgetContent.filter_key] at delivered
    exact eq_toList_of_perm delivered
  have sent : server.realQuery (WidgetTable.buildSelectByKeySql key)
      client.session = (0, (server.realQuery
        (WidgetTable.buildSelectByKeySql key) client.session).2) :=
    Prod.ext accepted rfl
  have mapped : ((rows.map cells).map fun row =>
      WidgetTable.mapRow row (fetchLengths row)).head? =
        ((server.content client.session).rows.find?
          fun row => row.key = key).map readBack := by
    rw [List.map_map, List.head?_map, found, Option.head?_toList]
    congr 1
    funext row
    exact mapRow_cells row (fetchLengths (cells row))
  have first : ∀ opened : Client σ,
      (deliver (fun entry => do
          modifyLocal fun _ => some entry
          return false)
        ((rows.map cells).map fun row =>
          WidgetTable.mapRow row (fetchLengths row)) :
        Program Failure (Client σ) (τ × Option WidgetEntry) Unit).run
          (opened, outer, none) =
        .ok () (opened, outer, ((server.content client.session).rows.find?
          fun row => row.key = key).map readBack) := by
    intro opened
    rw [deliver_first_run, mapped, Option.or_none]
  exact ⟨_, withLocal_run (runQuery_run server.toMySqlClient connected _ _ _
    unlocked sent stored (first _))⟩

/-! ## Writing -/

theorem nullable_of_ne_nil
    {value : Bytes}
    (nonempty : value ≠ []) :
    nullable value = some value := by
  rw [nullable, if_neg nonempty]

theorem nullable_eq_none_iff (value : Bytes) :
    nullable value = none ↔ value = [] := by
  unfold nullable
  split <;> simp [*]

/-- The strings of an entry fit their columns. -/
def WidgetEntry.Fits
    (entry : WidgetEntry)
    (characters : Bytes → Nat) : Prop :=
  characters entry.name ≤ 255 ∧ characters entry.category ≤ 255

theorem le_of_mem_nullable
    {characters : Bytes → Nat}
    {value : Bytes}
    (fits : characters value ≤ 255) :
    ∀ stored ∈ nullable value, characters stored ≤ 255 := by
  intro stored present
  by_cases empty : value = []
  · simp [nullable, empty] at present
  · rw [nullable_of_ne_nil empty] at present
    obtain rfl := Option.mem_some_iff.mp present
    exact fits

/-- An entry with an empty string is rejected. -/
theorem insert_run_null
    (server : WidgetServer σ)
    {factory : DataFactory}
    (connected : factory.connection.isSome)
    {entry : WidgetEntry}
    (fits : entry.Fits server.characters)
    {client : Client σ}
    (unlocked : client.queryMutex = false)
    (isNull : entry.name = [] ∨ entry.category = []) :
    ∃ what reached,
      (WidgetTable.insert server.toMySqlClient factory entry).run client =
        .error (.thrown (.ServiceUnavailable what)) reached := by
  obtain ⟨reply, executed, reported⟩ := server.executes
    (WidgetTable.buildInsertSql entry) _ client.session
    (scan_buildInsertSql entry)
    ⟨le_of_mem_nullable fits.1, le_of_mem_nullable fits.2⟩
  obtain ⟨rfl, _⟩ := executed.of_insert_null
    (isNull.imp (nullable_eq_none_iff _).mpr (nullable_eq_none_iff _).mpr)
  obtain ⟨rejected, errno⟩ := reported
  have ran := executeModificationSql_run server.toMySqlClient connected
    (WidgetTable.buildInsertSql entry) unlocked rfl
    (fun _ => by rw [errno]; decide)
  rw [if_pos rejected, errno] at ran
  exact ⟨_, _, ran⟩

/-- An entry without empty strings is stored when its key is free. -/
theorem insert_run_stored
    (server : WidgetServer σ)
    {factory : DataFactory}
    (connected : factory.connection.isSome)
    {entry : WidgetEntry}
    (fits : entry.Fits server.characters)
    {client : Client σ}
    (unlocked : client.queryMutex = false)
    (absent : ¬(server.content client.session).HasKey entry.key)
    (hasName : entry.name ≠ [])
    (hasCategory : entry.category ≠ []) :
    ∃ session,
      (WidgetTable.insert server.toMySqlClient factory entry).run client =
        .ok () { client with session } ∧
      (server.content session).rows.Perm
        (entry :: (server.content client.session).rows) := by
  obtain ⟨reply, executed, reported⟩ := server.executes
    (WidgetTable.buildInsertSql entry) _ client.session
    (scan_buildInsertSql entry)
    ⟨le_of_mem_nullable fits.1, le_of_mem_nullable fits.2⟩
  rw [nullable_of_ne_nil hasName, nullable_of_ne_nil hasCategory] at executed
  obtain ⟨rfl, stored⟩ := executed.of_insert_absent absent
  obtain ⟨accepted, affected⟩ := reported
  have ran := executeModificationSql_run server.toMySqlClient connected
    (WidgetTable.buildInsertSql entry) unlocked rfl
    (fun rejected => absurd accepted rejected)
  rw [if_neg (not_not.mpr accepted), affected, if_neg one_ne_zero] at ran
  exact ⟨_, ran, stored⟩

/-! ## The round trip -/

/-- A stored entry is found again, as it is read back. -/
theorem insert_findByKey_run
    (server : WidgetServer σ)
    {factory : DataFactory}
    (connected : factory.connection.isSome)
    {entry : WidgetEntry}
    (fits : entry.Fits server.characters)
    {client : Client σ}
    (unlocked : client.queryMutex = false)
    (absent : ¬(server.content client.session).HasKey entry.key)
    (hasName : entry.name ≠ [])
    (hasCategory : entry.category ≠ [])
    (outer : τ) :
    ∃ inserted reached,
      (WidgetTable.insert server.toMySqlClient factory entry).run client =
        .ok () inserted ∧
      (findByKey (WidgetTable.table server.toMySqlClient factory)
          entry.key).run (inserted, outer) =
        .ok (some (readBack entry)) (reached, outer) := by
  obtain ⟨session, ran, stored⟩ := insert_run_stored server connected fits
    unlocked absent hasName hasCategory
  obtain ⟨reached, found⟩ := findByKey_run server connected entry.key
    (show ({ client with session } : Client σ).queryMutex = false
      from unlocked) outer
  have isStored : ((server.content session).rows.find?
      fun row => row.key = entry.key) = some entry :=
    (server.content session).find_of_mem
      (stored.mem_iff.mpr List.mem_cons_self)
  rw [isStored, Option.map_some] at found
  exact ⟨_, reached, ran, found⟩

/-- Inserting an entry whose key is free and finding it by its key gives the
entry back exactly when its strings are non-empty and contain no NUL byte. -/
theorem insert_findByKey_iff
    (server : WidgetServer σ)
    {factory : DataFactory}
    (connected : factory.connection.isSome)
    (entry : WidgetEntry)
    (fits : entry.Fits server.characters)
    {client : Client σ}
    (unlocked : client.queryMutex = false)
    (absent : ¬(server.content client.session).HasKey entry.key)
    (outer : τ) :
    (∃ inserted reached,
      (WidgetTable.insert server.toMySqlClient factory entry).run client =
        .ok () inserted ∧
      (findByKey (WidgetTable.table server.toMySqlClient factory)
          entry.key).run (inserted, outer) =
        .ok (some entry) (reached, outer)) ↔
      entry.name ≠ [] ∧ entry.category ≠ [] ∧
        0 ∉ entry.name ∧ 0 ∉ entry.category := by
  by_cases isNull : entry.name = [] ∨ entry.category = []
  · obtain ⟨what, thrown, ran⟩ :=
      insert_run_null server connected fits unlocked isNull
    constructor
    · rintro ⟨inserted, reached, returned, _⟩
      rw [ran] at returned
      cases returned
    · rintro ⟨hasName, hasCategory, _⟩
      exact absurd isNull (not_or.mpr ⟨hasName, hasCategory⟩)
  · obtain ⟨hasName, hasCategory⟩ := not_or.mp isNull
    obtain ⟨session, reached, ran, found⟩ := insert_findByKey_run server
      connected fits unlocked absent hasName hasCategory outer
    rw [← readBack_eq_self_iff]
    constructor
    · rintro ⟨inserted, read, returned, same⟩
      rw [ran] at returned
      cases returned
      rw [found] at same
      injection same with sameEntry
      exact ⟨hasName, hasCategory, Option.some.inj sameEntry⟩
    · rintro ⟨_, _, whole⟩
      rw [whole] at found
      exact ⟨session, reached, ran, found⟩

theorem insert_findByKey_bolt :
    ∃ inserted reached,
      (WidgetTable.insert referenceServer.toMySqlClient widgetFactory bolt).run
          emptyTable = .ok () inserted ∧
      (findByKey (WidgetTable.table referenceServer.toMySqlClient
          widgetFactory) bolt.key).run (inserted, ()) =
        .ok (some bolt) (reached, ()) :=
  (insert_findByKey_iff referenceServer rfl bolt ⟨by decide, by decide⟩ rfl
    (by decide) ()).mpr (by decide)

/-- A bolt without a category is rejected, and one whose name contains a NUL
byte comes back with a shorter name. -/
theorem not_insert_findByKey_bolt :
    (¬∃ inserted reached,
      (WidgetTable.insert referenceServer.toMySqlClient widgetFactory
          { bolt with category := [] }).run emptyTable = .ok () inserted ∧
      (findByKey (WidgetTable.table referenceServer.toMySqlClient
          widgetFactory) bolt.key).run (inserted, ()) =
        .ok (some { bolt with category := [] }) (reached, ())) ∧
    ¬∃ inserted reached,
      (WidgetTable.insert referenceServer.toMySqlClient widgetFactory
          { bolt with name := [97, 0, 98] }).run emptyTable =
        .ok () inserted ∧
      (findByKey (WidgetTable.table referenceServer.toMySqlClient
          widgetFactory) bolt.key).run (inserted, ()) =
        .ok (some { bolt with name := [97, 0, 98] }) (reached, ()) := by
  constructor
  · rintro ⟨inserted, reached, returned, _⟩
    obtain ⟨what, thrown, ran⟩ := insert_run_null referenceServer
      (show widgetFactory.connection.isSome from rfl)
      (show ({ bolt with category := [] } : WidgetEntry).Fits
        referenceServer.characters from ⟨by decide, by decide⟩)
      (show emptyTable.queryMutex = false from rfl) (.inr rfl)
    rw [ran] at returned
    cases returned
  · rintro ⟨inserted, reached, returned, same⟩
    obtain ⟨_, _, ran, found⟩ := insert_findByKey_run referenceServer
      (show widgetFactory.connection.isSome from rfl)
      (show ({ bolt with name := [97, 0, 98] } : WidgetEntry).Fits
        referenceServer.characters from ⟨by decide, by decide⟩)
      (show emptyTable.queryMutex = false from rfl) (by decide) (by decide)
      (by decide) ()
    rw [ran] at returned
    cases returned
    rw [found] at same
    injection same with sameEntry
    have noNul := (readBack_eq_self_iff _).mp (Option.some.inj sameEntry)
    exact noNul.1 (by decide)

end Widget
end ModernCommon
