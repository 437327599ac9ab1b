import ModernCommon.Widget.RoundTrip

/-!
# Updating a widget

An update that finds its row but changes no value affects no row, and a
modification that affects no row is reported as a missing entry. So the report
is right exactly when the row is not already what it is set to.
-/

namespace ModernCommon
namespace Widget

open Library MySql Data DataFactory

variable {σ : Type}

/-- An update sets the row with the entry's key, and returns normally when that
row exists and differs from the entry. -/
theorem update_run
    (server : WidgetServer σ)
    {factory : DataFactory}
    (connected : factory.connection.isSome)
    {entry : WidgetEntry}
    (hasName : entry.name ≠ [])
    (hasCategory : entry.category ≠ [])
    (fits : entry.Fits server.characters)
    {client : Client σ}
    (unlocked : client.queryMutex = false) :
    ∃ session,
      (server.content session).rows.Perm
        ((server.content client.session).replaced entry) ∧
      (WidgetTable.update server.toMySqlClient factory entry).run client =
        if (server.content client.session).HasKey entry.key ∧
            entry ∉ (server.content client.session).rows then
          .ok () { client with session }
        else
          .error (.thrown (.EntryNotFound (bytes "entry not found")))
            { client with session } := by
  obtain ⟨reply, executed, reported⟩ := server.executes
    (WidgetTable.buildUpdateSql entry) _ client.session
    (scan_buildUpdateSql entry)
    ⟨le_of_mem_nullable fits.1, le_of_mem_nullable fits.2⟩
  rw [nullable_of_ne_nil hasName, nullable_of_ne_nil hasCategory] at executed
  obtain ⟨rfl, stored⟩ := executed.of_update
  obtain ⟨accepted, affected⟩ := reported
  have changedRows : server.affectedRows
      (server.realQuery (WidgetTable.buildUpdateSql entry) client.session).2 =
        if (server.content client.session).HasKey entry.key ∧
          entry ∉ (server.content client.session).rows then 1 else 0 :=
    affected
  have ran := executeModificationSql_run server.toMySqlClient connected
    (WidgetTable.buildUpdateSql entry) unlocked rfl
    (fun rejected => absurd accepted rejected)
  rw [if_neg (not_not.mpr accepted), changedRows] at ran
  refine ⟨_, stored, ?_⟩
  rw [WidgetTable.update, ran]
  by_cases changes : (server.content client.session).HasKey entry.key ∧
      entry ∉ (server.content client.session).rows
  · rw [if_pos changes, if_pos changes, if_neg one_ne_zero]
  · rw [if_neg changes, if_neg changes, if_pos rfl]

/-- After an update the row is equal to the entry, and a second update with the
same entry changes nothing. -/
theorem update_twice_ne_ok
    (server : WidgetServer σ)
    {factory : DataFactory}
    (connected : factory.connection.isSome)
    {entry : WidgetEntry}
    (hasName : entry.name ≠ [])
    (hasCategory : entry.category ≠ [])
    (fits : entry.Fits server.characters)
    {client : Client σ}
    (unlocked : client.queryMutex = false)
    (reached : Client σ) :
    (do WidgetTable.update server.toMySqlClient factory entry
        WidgetTable.update server.toMySqlClient factory entry).run client ≠
      .ok () reached := by
  obtain ⟨session, stored, ran⟩ := update_run server connected hasName
    hasCategory fits unlocked
  intro returned
  rw [EStateM.run_bind, ran] at returned
  by_cases changes : (server.content client.session).HasKey entry.key ∧
      entry ∉ (server.content client.session).rows
  · rw [if_pos changes] at returned
    obtain ⟨again, _, ranAgain⟩ := update_run server connected hasName
      hasCategory fits
      (show ({ client with session } : Client σ).queryMutex = false
        from unlocked)
    have nowEqual : entry ∈ (server.content session).rows :=
      stored.mem_iff.mpr (WidgetContent.mem_replaced changes.1)
    rw [if_neg (fun both => both.2 nowEqual)] at ranAgain
    simp only at returned
    rw [ranAgain] at returned
    cases returned
  · rw [if_neg changes] at returned
    cases returned

/-- An update reports a missing entry exactly when the entry is missing, and
otherwise sets its row, on the tables that do not hold the entry already; a
second update with the same entry never returns normally. -/
theorem update_law_iff
    (server : WidgetServer σ)
    {factory : DataFactory}
    (connected : factory.connection.isSome)
    {entry : WidgetEntry}
    (hasName : entry.name ≠ [])
    (hasCategory : entry.category ≠ [])
    (fits : entry.Fits server.characters)
    {client : Client σ}
    (unlocked : client.queryMutex = false) :
    ((((∃ what reached,
          (WidgetTable.update server.toMySqlClient factory entry).run client =
            .error (.thrown (.EntryNotFound what)) reached) ↔
        ¬(server.content client.session).HasKey entry.key) ∧
      ((server.content client.session).HasKey entry.key →
        ∃ reached : Client σ,
          (WidgetTable.update server.toMySqlClient factory entry).run client =
            .ok () reached ∧
          (server.content reached.session).rows.Perm
            ((server.content client.session).replaced entry))) ↔
      entry ∉ (server.content client.session).rows) ∧
    ∀ reached : Client σ,
      (do WidgetTable.update server.toMySqlClient factory entry
          WidgetTable.update server.toMySqlClient factory entry).run client ≠
        .ok () reached := by
  refine ⟨?_, update_twice_ne_ok server connected hasName hasCategory fits unlocked⟩
  obtain ⟨session, stored, ran⟩ := update_run server connected hasName
    hasCategory fits unlocked
  by_cases changes : (server.content client.session).HasKey entry.key ∧
      entry ∉ (server.content client.session).rows
  · rw [if_pos changes] at ran
    obtain ⟨present, differs⟩ := changes
    refine iff_of_true ⟨?_, fun _ => ⟨_, ran, stored⟩⟩ differs
    refine iff_of_false ?_ (not_not.mpr present)
    rintro ⟨what, reached, thrown⟩
    rw [ran] at thrown
    cases thrown
  · rw [if_neg changes] at ran
    constructor
    · rintro ⟨reports, _⟩ equal
      exact reports.mp ⟨_, _, ran⟩ (WidgetContent.hasKey_of_mem equal)
    · intro differs
      have absent : ¬(server.content client.session).HasKey entry.key :=
        fun present => changes ⟨present, differs⟩
      exact ⟨iff_of_true ⟨_, _, ran⟩ absent,
        fun present => absurd present absent⟩

/-- Setting the quantity of a bolt to another value is reported rightly; doing
it again is not. -/
theorem update_law_bolt :
    (((∃ what reached,
        (WidgetTable.update referenceServer.toMySqlClient widgetFactory
            { bolt with quantity := 15 }).run boltTable =
          .error (.thrown (.EntryNotFound what)) reached) ↔
      ¬(referenceServer.content boltTable.session).HasKey bolt.key) ∧
    ((referenceServer.content boltTable.session).HasKey bolt.key →
      ∃ reached : Client Session,
        (WidgetTable.update referenceServer.toMySqlClient widgetFactory
            { bolt with quantity := 15 }).run boltTable = .ok () reached ∧
        (referenceServer.content reached.session).rows.Perm
          ((referenceServer.content boltTable.session).replaced
            { bolt with quantity := 15 }))) ∧
    ∀ reached : Client Session,
      (do WidgetTable.update referenceServer.toMySqlClient widgetFactory
            { bolt with quantity := 15 }
          WidgetTable.update referenceServer.toMySqlClient widgetFactory
            { bolt with quantity := 15 }).run boltTable ≠ .ok () reached := by
  obtain ⟨law, twice⟩ := update_law_iff referenceServer
    (show widgetFactory.connection.isSome from rfl)
    (show ({ bolt with quantity := 15 } : WidgetEntry).name ≠ [] by decide)
    (by decide) ⟨by decide, by decide⟩
    (show boltTable.queryMutex = false from rfl)
  exact ⟨law.mpr (by decide), twice⟩

/-- Updating a bolt to what it already is reports it missing. -/
theorem update_reports_bolt_missing :
    ¬((∃ what reached,
        (WidgetTable.update referenceServer.toMySqlClient widgetFactory
            bolt).run boltTable =
          .error (.thrown (.EntryNotFound what)) reached) ↔
      ¬(referenceServer.content boltTable.session).HasKey bolt.key) := by
  obtain ⟨session, _, ran⟩ := update_run referenceServer
    (show widgetFactory.connection.isSome from rfl)
    (show bolt.name ≠ [] by decide) (by decide) ⟨by decide, by decide⟩
    (show boltTable.queryMutex = false from rfl)
  rw [if_neg (by decide)] at ran
  intro reports
  exact reports.mp ⟨_, _, ran⟩ (by decide)

end Widget
end ModernCommon
