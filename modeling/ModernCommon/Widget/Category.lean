import ModernCommon.Cache.CacheData
import ModernCommon.Widget.RoundTrip

/-!
# Filtering by category, in the database and in the cache

The query by category compares the stored bytes with a literal; the cache
compares what rows were read back as. The two disagree where writing and
reading a string do: on the empty category, which is written as NULL, and on
NUL bytes, where reading stops.
-/

namespace ModernCommon
namespace Widget

open Library MySql Data DataFactory Cache

variable {σ τ ρ : Type}

/-! ## Queries answered with rows -/

/-- A query answered with rows, whose callback always goes on, folds the rows
read back into the variable the callback assigns. -/
theorem runQuery_fold_run
    (server : WidgetServer σ)
    {factory : DataFactory}
    (connected : factory.connection.isSome)
    (sql : Bytes)
    (assign : ρ → WidgetEntry → ρ)
    {client : Client σ}
    (unlocked : client.queryMutex = false)
    {rows : List WidgetEntry}
    (reported : Reports server.toMySqlClient
      (server.realQuery sql client.session) (.selected rows))
    (outer : τ)
    (value : ρ) :
    ∃ reached,
      (runQuery server.toMySqlClient factory sql
          (fun row lengths => pure (WidgetTable.mapRow row lengths))
          (fun entry => do
            modifyLocal fun value => assign value entry
            return true)).run (client, outer, value) =
        .ok () (reached, outer, (rows.map readBack).foldl assign value) := by
  obtain ⟨accepted, stored⟩ := reported
  have sent : server.realQuery sql client.session =
      (0, (server.realQuery sql client.session).2) := Prod.ext accepted rfl
  have mapped : ((rows.map cells).map fun row =>
      WidgetTable.mapRow row (fetchLengths row)) = rows.map readBack := by
    rw [List.map_map]
    apply List.map_congr_left
    intro row _
    exact mapRow_cells row (fetchLengths (cells row))
  let opened : Client σ := { client with
    session := (server.storeResult (server.realQuery sql client.session).2).2
    results := client.results + 1 }
  have folded : (deliver (fun entry => do
        modifyLocal fun value => assign value entry
        return true) (rows.map readBack) :
      Program Failure (Client σ) (τ × ρ) Unit).run (opened, outer, value) = _ :=
    deliver_fold_run assign (rows.map readBack) opened outer value
  rw [← mapped] at folded
  rw [← mapped]
  exact ⟨_, runQuery_run server.toMySqlClient connected sql _ _ unlocked sent
    stored folded⟩

/-- The entries the query by category delivers to a callback that always goes
on. -/
def categoryEntries
    (mysql : MySqlClient σ)
    (factory : DataFactory)
    (category : Bytes) : Program Failure (Client σ) τ (List WidgetEntry) :=
  withLocal [] (WidgetTable.queryCategory mysql factory category fun entry => do
    modifyLocal fun entries => entries ++ [entry]
    return true)

theorem categoryEntries_run
    (server : WidgetServer σ)
    {factory : DataFactory}
    (connected : factory.connection.isSome)
    (category : Bytes)
    {client : Client σ}
    (unlocked : client.queryMutex = false)
    (outer : τ) :
    ∃ reached entries,
      (categoryEntries server.toMySqlClient factory category).run
          (client, outer) = .ok entries (reached, outer) ∧
      entries.Perm (((server.content client.session).rows.filter fun row =>
        some row.category = nullable category).map readBack) := by
  obtain ⟨reply, executed, reported⟩ := server.executes
    (WidgetTable.buildSelectByCategorySql category) _ client.session
    (scan_buildSelectByCategorySql category) trivial
  obtain ⟨_, rows, rfl, selected⟩ := executed.of_selectByCategory
  obtain ⟨reached, ran⟩ := runQuery_fold_run server connected
    (WidgetTable.buildSelectByCategorySql category)
    (fun (entries : List WidgetEntry) entry => entries ++ [entry]) unlocked
    reported outer []
  refine ⟨reached, _, withLocal_run ran, ?_⟩
  have collected : (rows.map readBack).foldl
      (fun entries entry => entries ++ [entry]) [] = rows.map readBack := by
    rw [List.foldl_append_eq_append, List.nil_append, ← List.flatMap_def,
      List.flatMap_singleton']
  rw [collected]
  exact selected.map readBack

/-! ## The cache -/

/-- Keys are ordered as numbers. -/
instance linearOrderInt32 : LinearOrder Int32 where
  le_refl := Int32.le_refl
  le_trans _ _ _ := Int32.le_trans
  le_antisymm _ _ := Int32.le_antisymm
  le_total := Int32.le_total
  lt_iff_le_not_ge left right := by
    rw [Int32.not_le]
    exact ⟨fun less => ⟨Int32.le_of_lt less, less⟩, And.right⟩
  toDecidableLE := fun left right => inferInstanceAs (Decidable (left ≤ right))

/-- A cache of widgets by category. -/
def categoryCache (map : SynchronizedMap WidgetKey WidgetEntry) :
    CacheData WidgetKey WidgetEntry Bytes where
  map := map
  predicate category entry := entry.category = category

/-- A reload from the widget table, whatever the cache held before. -/
theorem reload_run
    (server : WidgetServer σ)
    {factory : DataFactory}
    (connected : factory.connection.isSome)
    {client : Client σ}
    (unlocked : client.queryMutex = false)
    (outer : τ)
    (cache : CacheData WidgetKey WidgetEntry Bytes) :
    ∃ reached reloaded,
      (CacheData.reload (WidgetTable.table server.toMySqlClient factory)).run
          (client, outer, cache) = .ok () (reached, outer, reloaded) ∧
      reloaded.predicate = cache.predicate ∧
      reloaded.lookupAll.Perm
        ((server.content client.session).rows.map readBack) := by
  obtain ⟨reply, executed, reported⟩ := server.executes
    WidgetTable.buildSelectAllSql .selectAll client.session
    scan_buildSelectAllSql trivial
  obtain ⟨_, rows, rfl, selected⟩ := executed.of_selectAll
  obtain ⟨reached, ran⟩ := runQuery_fold_run server connected
    WidgetTable.buildSelectAllSql
    (fun (fresh : SynchronizedMap WidgetKey WidgetEntry) entry =>
      (fresh.addDataEntry (getKey entry) entry).2) unlocked reported
    (outer, cache) {}
  have filled : (withLocal {} ((WidgetTable.table server.toMySqlClient
      factory).query fun entry => do
        modifyLocal fun fresh : SynchronizedMap WidgetKey WidgetEntry =>
          (fresh.addDataEntry (getKey entry) entry).2
        return true)).run (client, outer, cache) =
      .ok (CacheData.fill {} (rows.map readBack)) (reached, outer, cache) :=
    withLocal_run ran
  refine ⟨reached, { cache with map := CacheData.fill {} (rows.map readBack) },
    ?_, rfl, ?_⟩
  · rw [CacheData.reload, EStateM.run_bind, filled]
    rfl
  · have sameKeys : (rows.map readBack).map (getKey : WidgetEntry → WidgetKey) =
        rows.map WidgetEntry.key := by
      rw [List.map_map]
      rfl
    have unique : ((rows.map readBack).map
        (getKey : WidgetEntry → WidgetKey)).Nodup := by
      rw [sameKeys]
      exact ((selected.map WidgetEntry.key).nodup_iff).mpr
        (server.content client.session).uniqueIds
    rw [CacheData.lookupAll_eq]
    exact (CacheData.fill_values_perm unique).trans (selected.map readBack)

/-! ## Where they agree -/

/-- What the database selects and what the cache admits differ on a row with
this category: reading it stops early, or its category cannot be asked for. -/
def Confused (category stored : Bytes) : Prop :=
  (0 ∉ category ∧ category ++ [0] <+: stored) ∨
    ((category = [] ∨ 0 ∈ category) ∧ stored = category)

/-- A string reads as another one when it is that one, without a NUL byte, or
goes on with a NUL byte. -/
theorem cString_eq_iff (stored category : Bytes) :
    cString stored = category ↔
      0 ∉ category ∧ (stored = category ∨ category ++ [0] <+: stored) := by
  constructor
  · rintro rfl
    have noNul : 0 ∉ cString stored := by
      intro present
      simpa using List.mem_takeWhile_imp present
    have whole : cString stored ++ stored.dropWhile (fun byte => byte != 0) =
        stored := List.takeWhile_append_dropWhile
    refine ⟨noNul, ?_⟩
    cases rest : stored.dropWhile fun byte => byte != 0 with
    | nil =>
        rw [rest, List.append_nil] at whole
        exact .inl whole.symm
    | cons byte after =>
        have head := List.head?_dropWhile_not (fun byte : UInt8 => byte != 0) stored
        rw [rest] at head
        obtain rfl : byte = 0 := by simpa using head
        refine .inr ⟨after, ?_⟩
        rw [List.append_assoc, List.singleton_append, ← rest, whole]
  · rintro ⟨noNul, rfl | ⟨after, rfl⟩⟩
    · exact (cString_eq_self_iff stored).mpr noNul
    · have read : ∀ byte ∈ category, (byte != 0) = true := by
        intro byte present
        have notNul : byte ≠ 0 := by
          rintro rfl
          exact noNul present
        simpa using notNul
      rw [cString, List.append_assoc, List.takeWhile_append_of_pos read]
      simp

/-- Database and cache agree on a row unless it is confused. -/
theorem selected_iff_admitted_iff (category stored : Bytes) :
    (some stored = nullable category ↔ cString stored = category) ↔
      ¬Confused category stored := by
  have longer : category ++ [0] <+: stored → stored ≠ category := by
    rintro ⟨after, rfl⟩ same
    have length := congrArg List.length same
    simp at length
  rw [cString_eq_iff, Confused]
  by_cases empty : category = []
  · subst empty
    simp [nullable, and_comm]
  · rw [nullable_of_ne_nil empty, Option.some.injEq]
    simp only [empty, false_or]
    tauto

/-- Filtered twice and mapped without collision, a list shows where the filters
differ. -/
theorem map_filter_perm_iff
    {rows : List α}
    {read : α → β}
    (distinct : ∀ left ∈ rows, ∀ right ∈ rows, read left = read right →
      left = right)
    (first second : α → Bool) :
    ((rows.filter first).map read).Perm ((rows.filter second).map read) ↔
      ∀ row ∈ rows, first row = second row := by
  have seen : ∀ (keep : α → Bool) (row : α), row ∈ rows →
      (read row ∈ (rows.filter keep).map read ↔ keep row) := by
    intro keep row present
    rw [List.mem_map]
    constructor
    · rintro ⟨other, kept, same⟩
      obtain ⟨isRow, keeps⟩ := List.mem_filter.mp kept
      rwa [← distinct other isRow row present same]
    · intro keeps
      exact ⟨row, List.mem_filter.mpr ⟨present, keeps⟩, rfl⟩
  constructor
  · intro same row present
    rw [Bool.eq_iff_iff, ← seen first row present, ← seen second row present]
    exact same.mem_iff
  · intro agree
    rw [List.filter_congr agree]

/-- What a reloaded cache returns for a category, and what the query delivers. -/
theorem reload_and_query_run
    (server : WidgetServer σ)
    {factory : DataFactory}
    (connected : factory.connection.isSome)
    (category : Bytes)
    {client later : Client σ}
    (unlocked : client.queryMutex = false)
    (laterUnlocked : later.queryMutex = false)
    (outer : τ)
    (previous : SynchronizedMap WidgetKey WidgetEntry) :
    ∃ reached reloaded left entries,
      (CacheData.reload (WidgetTable.table server.toMySqlClient factory)).run
          (client, outer, categoryCache previous) =
        .ok () (reached, outer, reloaded) ∧
      (categoryEntries server.toMySqlClient factory category).run
          (later, outer) = .ok entries (left, outer) ∧
      (reloaded.lookupAllOf category).Perm
        (((server.content client.session).rows.filter fun row =>
          cString row.category = category).map readBack) ∧
      entries.Perm (((server.content later.session).rows.filter fun row =>
        some row.category = nullable category).map readBack) := by
  obtain ⟨reached, reloaded, ran, predicate, cached⟩ := reload_run server
    connected unlocked outer (categoryCache previous)
  obtain ⟨left, entries, queried, selected⟩ :=
    categoryEntries_run server connected category laterUnlocked outer
  have admitted := cached.filter (reloaded.predicate category)
  rw [← CacheData.lookupAllOf_eq, List.filter_map, predicate] at admitted
  exact ⟨reached, reloaded, left, entries, ran, queried, admitted, selected⟩

/-- The entries the query by category delivers are those a freshly reloaded
cache returns for it exactly when no row of the table is confused with it. -/
theorem categoryEntries_perm_iff
    (server : WidgetServer σ)
    {factory : DataFactory}
    (connected : factory.connection.isSome)
    (category : Bytes)
    {client later : Client σ}
    (unlocked : client.queryMutex = false)
    (laterUnlocked : later.queryMutex = false)
    (sameContent : server.content later.session = server.content client.session)
    (outer : τ)
    (previous : SynchronizedMap WidgetKey WidgetEntry) :
    ∃ reached reloaded left entries,
      (CacheData.reload (WidgetTable.table server.toMySqlClient factory)).run
          (client, outer, categoryCache previous) =
        .ok () (reached, outer, reloaded) ∧
      (categoryEntries server.toMySqlClient factory category).run
          (later, outer) = .ok entries (left, outer) ∧
      (entries.Perm (reloaded.lookupAllOf category) ↔
        ∀ row ∈ (server.content client.session).rows,
          ¬Confused category row.category) := by
  obtain ⟨reached, reloaded, left, entries, ran, queried, admitted, selected⟩ :=
    reload_and_query_run server connected category unlocked laterUnlocked outer
      previous
  refine ⟨reached, reloaded, left, entries, ran, queried, ?_⟩
  rw [sameContent] at selected
  rw [selected.congr_left, admitted.congr_right, map_filter_perm_iff]
  · apply forall₂_congr
    intro row _
    rw [← selected_iff_admitted_iff, Bool.eq_iff_iff]
    simp only [decide_eq_true_eq]
  · intro one isOne other isOther same
    have sameKey : (readBack one).key = (readBack other).key := by rw [same]
    exact (server.content client.session).eq_of_key_eq isOne isOther sameKey

/-- Hardware, asked for in a table of one bolt. -/
theorem categoryEntries_perm_bolt :
    ∃ reached reloaded left entries,
      (CacheData.reload
          (WidgetTable.table referenceServer.toMySqlClient widgetFactory)).run
          (boltTable, (), categoryCache {}) = .ok () (reached, (), reloaded) ∧
      (categoryEntries referenceServer.toMySqlClient widgetFactory
          (bytes "hardware")).run (boltTable, ()) = .ok entries (left, ()) ∧
      entries.Perm (reloaded.lookupAllOf (bytes "hardware")) := by
  obtain ⟨reached, reloaded, left, entries, ran, queried, agree⟩ :=
    categoryEntries_perm_iff referenceServer
      (show widgetFactory.connection.isSome from rfl) (bytes "hardware")
      (show boltTable.queryMutex = false from rfl)
      (show boltTable.queryMutex = false from rfl) rfl () {}
  refine ⟨reached, reloaded, left, entries, ran, queried, agree.mpr ?_⟩
  unfold Confused
  decide +kernel

/-- A table of one bolt in the given category. -/
def boltIn (category : Bytes) : Client Session where
  session := { content := ⟨[{ bolt with category }], List.nodup_singleton _⟩ }

/-- A bolt without a category is cached under the empty category, but not
selected by it; and one whose category goes on after a NUL byte is cached under
what precedes it. -/
theorem not_categoryEntries_perm_bolt :
    (¬∃ reached reloaded left entries,
      (CacheData.reload
          (WidgetTable.table referenceServer.toMySqlClient widgetFactory)).run
          (boltIn [], (), categoryCache {}) = .ok () (reached, (), reloaded) ∧
      (categoryEntries referenceServer.toMySqlClient widgetFactory []).run
          (boltIn [], ()) = .ok entries (left, ()) ∧
      entries.Perm (reloaded.lookupAllOf [])) ∧
    ¬∃ reached reloaded left entries,
      (CacheData.reload
          (WidgetTable.table referenceServer.toMySqlClient widgetFactory)).run
          (boltIn [97, 0, 98], (), categoryCache {}) =
            .ok () (reached, (), reloaded) ∧
      (categoryEntries referenceServer.toMySqlClient widgetFactory [97]).run
          (boltIn [97, 0, 98], ()) = .ok entries (left, ()) ∧
      entries.Perm (reloaded.lookupAllOf [97]) := by
  have differ : ∀ category stored,
      some stored ≠ nullable category → cString stored = category →
      ¬∃ reached reloaded left entries,
        (CacheData.reload
            (WidgetTable.table referenceServer.toMySqlClient widgetFactory)).run
            (boltIn stored, (), categoryCache {}) =
              .ok () (reached, (), reloaded) ∧
        (categoryEntries referenceServer.toMySqlClient widgetFactory
            category).run (boltIn stored, ()) = .ok entries (left, ()) ∧
        entries.Perm (reloaded.lookupAllOf category) := by
    rintro category stored unselected admitted
      ⟨reached, reloaded, left, entries, ran, queried, same⟩
    obtain ⟨_, _, _, _, ran', queried', cached, selected⟩ :=
      reload_and_query_run referenceServer
        (show widgetFactory.connection.isSome from rfl) category
        (show (boltIn stored).queryMutex = false from rfl)
        (show (boltIn stored).queryMutex = false from rfl) () {}
    cases ran.symm.trans ran'
    cases queried.symm.trans queried'
    have lengths := (selected.symm.trans same).trans cached |>.length_eq
    simp [referenceServer, boltIn, unselected, admitted] at lengths
  exact ⟨differ [] [] (by decide) rfl, differ [97] [97, 0, 98] (by decide) rfl⟩

end Widget
end ModernCommon
