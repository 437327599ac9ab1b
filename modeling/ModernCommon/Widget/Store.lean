import ModernCommon.DataFactory.Statements
import ModernCommon.Library.KeyedStore
import ModernCommon.Widget.Category

/-!
# The widget table as a store

What the operations of the widget table come to, without statements, rows or
sessions: a store of entries by key, and for each operation what it may answer
and the store it leaves. Whatever is asked, in whatever order, the table answers
as the store does; a modification has an effect exactly when it is acknowledged.
-/

namespace ModernCommon
namespace Widget

open Library MySql Data DataFactory

/-! ## The store -/

/-- Entries by key. -/
abbrev WidgetStore := KeyedStore WidgetEntry.key

/-- What the widget table can be asked. -/
inductive Request
  | insert (entry : WidgetEntry)
  | update (entry : WidgetEntry)
  | remove (key : WidgetKey)
  | findByKey (key : WidgetKey)
  | queryAll
  | countAll
  | queryCategory (category : Bytes)

/-- How a request ends. -/
inductive Answer
  | done
  | found (entry : Option WidgetEntry)
  | entries (entries : List WidgetEntry)
  | count (n : Nat)
  | failed (failure : Failure)

/-- Both strings are written as literals; an empty one is written as NULL. -/
def WidgetEntry.Literal (entry : WidgetEntry) : Prop :=
  entry.name ≠ [] ∧ entry.category ≠ []

/-- The entries a query by category selects. -/
def WidgetStore.ofCategory
    (store : WidgetStore)
    (category : Bytes) : WidgetStore :=
  store.filter fun row => some row.category = nullable category

/-- What a request may answer on a store, and the store it leaves. -/
inductive Answers : Specification WidgetStore Request Answer
  | insert {store : WidgetStore} {entry}
      (literal : entry.Literal)
      (absent : store.find entry.key = none) :
      Answers (.insert entry) store .done (store.set entry)
  | insertPresent {store : WidgetStore} {entry} (what)
      (literal : entry.Literal)
      (present : (store.find entry.key).isSome) :
      Answers (.insert entry) store
        (.failed (.thrown (.DuplicateEntry what))) store
  | insertEmpty {store : WidgetStore} {entry} (what)
      (empty : ¬entry.Literal) :
      Answers (.insert entry) store
        (.failed (.thrown (.ServiceUnavailable what))) store
  | update {store : WidgetStore} {entry}
      (literal : entry.Literal)
      (present : (store.find entry.key).isSome)
      (differs : store.find entry.key ≠ some entry) :
      Answers (.update entry) store .done (store.set entry)
  | updateUnchanged {store : WidgetStore} {entry} (what)
      (literal : entry.Literal)
      (same : store.find entry.key = some entry) :
      Answers (.update entry) store
        (.failed (.thrown (.EntryNotFound what))) store
  | updateMissing {store : WidgetStore} {entry} (what)
      (absent : store.find entry.key = none) :
      Answers (.update entry) store
        (.failed (.thrown (.EntryNotFound what))) store
  | updateEmpty {store : WidgetStore} {entry} (what)
      (empty : ¬entry.Literal)
      (present : (store.find entry.key).isSome) :
      Answers (.update entry) store
        (.failed (.thrown (.ServiceUnavailable what))) store
  | remove {store : WidgetStore} {key}
      (present : (store.find key).isSome) :
      Answers (.remove key) store .done (store.erase key)
  | removeMissing {store : WidgetStore} {key} (what)
      (absent : store.find key = none) :
      Answers (.remove key) store
        (.failed (.thrown (.EntryNotFound what))) store
  | findByKey (store : WidgetStore) (key) :
      Answers (.findByKey key) store
        (.found ((store.find key).map readBack)) store
  | queryAll {store : WidgetStore} {rows}
      (lists : store.Lists rows) :
      Answers .queryAll store (.entries (rows.map readBack)) store
  | countAll {store : WidgetStore} {rows}
      (lists : store.Lists rows) :
      Answers .countAll store (.count rows.length) store
  | queryCategory {store : WidgetStore} {category rows}
      (lists : (store.ofCategory category).Lists rows) :
      Answers (.queryCategory category) store
        (.entries (rows.map readBack)) store

/-- The effect of a request that was answered: modifications change the store
when they are acknowledged, and nothing else does. -/
def acknowledge (store : WidgetStore) : Request × Answer → WidgetStore
  | (.insert entry, .done) | (.update entry, .done) => store.set entry
  | (.remove key, .done) => store.erase key
  | _ => store

/-- No failure has an effect. -/
theorem Answers.eq_acknowledge
    (request : Request)
    (before : WidgetStore)
    (answer : Answer)
    (after : WidgetStore)
    (answers : Answers request before answer after) :
    after = acknowledge before (request, answer) := by
  cases answers <;> rfl

/-! ## Requests as statements -/

variable {σ : Type}

/-- A factory that is connected. -/
abbrev ConnectedFactory := { factory : DataFactory // factory.connection.isSome }

/-- Which function sends the statement of a request. -/
def Request.kind : Request → StatementKind
  | .insert _ | .update _ | .remove _ => .executeModificationSql
  | .findByKey _ | .queryAll | .countAll | .queryCategory _ => .executeQuery

/-- The text a request sends. -/
def Request.sql : Request → Bytes
  | .insert entry => WidgetTable.buildInsertSql entry
  | .update entry => WidgetTable.buildUpdateSql entry
  | .remove key => WidgetTable.buildDeleteSql key
  | .findByKey key => WidgetTable.buildSelectByKeySql key
  | .queryAll | .countAll => WidgetTable.buildSelectAllSql
  | .queryCategory category => WidgetTable.buildSelectByCategorySql category

/-- The statement a request sends. -/
def Request.call
    (factory : ConnectedFactory)
    (request : Request) : StatementCall where
  factory := factory
  connected := factory.property
  kind := request.kind
  query := request.sql

/-- The entries the rows of a result set are mapped to. -/
def entriesOf (result : Option MySqlRes) : List WidgetEntry :=
  ((result.map MySqlRes.rows).getD []).map fun row =>
    WidgetTable.mapRow row (fetchLengths row)

/-- The answer to a request, by how its statement ended. -/
def Request.conclude (request : Request) :
    Except Failure (Option MySqlRes) → Answer
  | .error failure => .failed failure
  | .ok result =>
      match request with
      | .insert _ | .update _ | .remove _ => .done
      | .findByKey _ => .found (entriesOf result).head?
      | .queryAll | .queryCategory _ => .entries (entriesOf result)
      | .countAll => .count (entriesOf result).length

/-- How the statement of a request ends, and the client it leaves. -/
def Request.ended
    (mysql : MySqlClient σ)
    (factory : ConnectedFactory)
    (request : Request)
    (client : Client σ) : Except Failure (Option MySqlRes) × Client σ :=
  Routine.ending (((request.call factory).program mysql).run client)

/-- The mutex is free, and the server's table holds the rows of a store. -/
structure HoldsTable
    (server : WidgetServer σ)
    (client : Client σ)
    (store : WidgetStore) : Prop where
  unlocked : client.queryMutex = false
  lists : store.Lists (server.content client.session).rows

/-- Strings fit the columns they are sent to. -/
def Request.Fits (characters : Bytes → Nat) : Request → Prop
  | .insert entry | .update entry => entry.Fits characters
  | _ => True

theorem HoldsTable.hasKey_iff
    {server : WidgetServer σ}
    {client : Client σ}
    {store : WidgetStore}
    (holds : HoldsTable server client store)
    (key : WidgetKey) :
    (server.content client.session).HasKey key ↔ (store.find key).isSome :=
  (holds.lists.find_isSome_iff key).symm

theorem HoldsTable.find_eq_none
    {server : WidgetServer σ}
    {client : Client σ}
    {store : WidgetStore}
    (holds : HoldsTable server client store)
    {key : WidgetKey}
    (absent : ¬(server.content client.session).HasKey key) :
    store.find key = none := by
  rwa [holds.hasKey_iff, Option.not_isSome_iff_eq_none] at absent

/-- What the statement of a request leaves: a table, and no result set but the
one it hands out, which is a new one. -/
structure Leaves
    (server : WidgetServer σ)
    (client : Client σ)
    (ended : Except Failure (Option MySqlRes) × Client σ)
    (store : WidgetStore) : Prop where
  table : HoldsTable server ended.2 store
  freed : ended.2.freed = client.freed
  results :
    match ended.1 with
    | .ok (some result) =>
        result.id = client.results ∧ ended.2.results = client.results + 1
    | _ => ended.2.results = client.results

/-- A modification leaves whatever the table is then. -/
theorem HoldsTable.sent
    {server : WidgetServer σ}
    {client : Client σ}
    {store next : WidgetStore}
    (holds : HoldsTable server client store)
    {session : σ}
    (lists : next.Lists (server.content session).rows)
    (outcome : Except Failure Unit) :
    Leaves server client
      (outcome.map fun _ => none, { client with session }) next where
  table := ⟨holds.unlocked, lists⟩
  freed := rfl
  results := by cases outcome <;> rfl

/-! ## Modifications -/

/-- A modification ends as the server's reply to its statement says. -/
theorem ended_replied
    (server : WidgetServer σ)
    (factory : ConnectedFactory)
    (request : Request)
    (isModification : request.kind = .executeModificationSql)
    {client : Client σ}
    (unlocked : client.queryMutex = false)
    {reply : Reply}
    (reported : Reports server.toMySqlClient
      (server.realQuery request.sql client.session) reply) :
    let reached : Client σ := { client with
      session := (server.realQuery request.sql client.session).2 }
    (∀ errno, reply = .failed errno → errno ≠ 0 → ∃ what,
      request.ended server.toMySqlClient factory client =
        (.error (.thrown (errorOf errno what)), reached)) ∧
    ∀ affectedRows, reply = .changed affectedRows →
      request.ended server.toMySqlClient factory client =
        (if affectedRows = 0 then
            .error (.thrown (.EntryNotFound (bytes "entry not found")))
          else .ok none, reached) := by
  intro reached
  have sent : server.realQuery request.sql client.session =
      ((server.realQuery request.sql client.session).1,
        (server.realQuery request.sql client.session).2) := rfl
  have ends : request.ended server.toMySqlClient factory client =
      Routine.ending ((do
        factory.val.executeModificationSql server.toMySqlClient request.sql
        return none : ClientM σ (Option MySqlRes)).run client) := by
    rw [Request.ended, StatementCall.program, Request.call, isModification]
  constructor
  · rintro errno rfl isError
    obtain ⟨rejected, sameErrno⟩ := reported
    have ran := executeModificationSql_run server.toMySqlClient factory.property
      request.sql unlocked sent (fun _ => sameErrno ▸ isError)
    rw [if_pos rejected, sameErrno] at ran
    rw [ends, EStateM.run_bind, ran]
    exact ⟨_, rfl⟩
  · rintro affectedRows rfl
    obtain ⟨accepted, affected⟩ := reported
    have ran := executeModificationSql_run server.toMySqlClient factory.property
      request.sql unlocked sent (fun rejected => absurd accepted rejected)
    rw [if_neg (not_not.mpr accepted), affected] at ran
    rw [ends, EStateM.run_bind, ran]
    by_cases unchanged : affectedRows = 0
    · rw [if_pos unchanged, if_pos unchanged]
      rfl
    · rw [if_neg unchanged, if_neg unchanged]
      rfl

theorem literal_iff_nullable (entry : WidgetEntry) :
    entry.Literal ↔ nullable entry.name = some entry.name ∧
      nullable entry.category = some entry.category := by
  unfold WidgetEntry.Literal nullable
  by_cases emptyName : entry.name = [] <;>
    by_cases emptyCategory : entry.category = [] <;>
    simp [emptyName, emptyCategory]

theorem nullable_of_not_literal
    {entry : WidgetEntry}
    (empty : ¬entry.Literal) :
    nullable entry.name = none ∨ nullable entry.category = none := by
  rw [nullable_eq_none_iff, nullable_eq_none_iff]
  unfold WidgetEntry.Literal at empty
  tauto

/-- How a request ends is an answer the store allows, and the table holds what
it leaves. -/
def Request.Refines
    (server : WidgetServer σ)
    (factory : ConnectedFactory)
    (request : Request)
    (client : Client σ)
    (store : WidgetStore) : Prop :=
  ∃ next,
    Answers request store
      (request.conclude
        (request.ended server.toMySqlClient factory client).1) next ∧
    Leaves server client (request.ended server.toMySqlClient factory client) next

theorem insert_refines
    (server : WidgetServer σ)
    (factory : ConnectedFactory)
    {entry : WidgetEntry}
    (fits : entry.Fits server.characters)
    {client : Client σ}
    {store : WidgetStore}
    (holds : HoldsTable server client store) :
    (Request.insert entry).Refines server factory client store := by
  obtain ⟨reply, executed, reported⟩ := server.executes
    (WidgetTable.buildInsertSql entry) _ client.session
    (scan_buildInsertSql entry)
    ⟨le_of_mem_nullable fits.1, le_of_mem_nullable fits.2⟩
  obtain ⟨failed, changed⟩ := ended_replied server factory (.insert entry) rfl
    holds.unlocked reported
  unfold Request.Refines
  by_cases literal : entry.Literal
  · obtain ⟨name, category⟩ := (literal_iff_nullable entry).mp literal
    rw [name, category] at executed
    by_cases present : (server.content client.session).HasKey entry.key
    · obtain ⟨rfl, unchanged⟩ := executed.of_insert_present present
      obtain ⟨what, ran⟩ := failed ER_DUP_ENTRY rfl (by decide)
      rw [ran]
      exact ⟨store, .insertPresent what literal ((holds.hasKey_iff _).mp present),
        holds.sent (unchanged ▸ holds.lists) (.error _)⟩
    · obtain ⟨rfl, stored⟩ := executed.of_insert_absent present
      have absent := holds.find_eq_none present
      rw [changed 1 rfl, if_neg one_ne_zero]
      exact ⟨store.set entry, .insert literal absent,
        holds.sent ((holds.lists.cons absent).of_perm stored) (.ok ())⟩
  · obtain ⟨rfl, unchanged⟩ :=
      executed.of_insert_null (nullable_of_not_literal literal)
    obtain ⟨what, ran⟩ := failed ER_BAD_NULL_ERROR rfl (by decide)
    rw [ran]
    exact ⟨store, .insertEmpty what literal,
      holds.sent (unchanged ▸ holds.lists) (.error _)⟩

theorem update_refines
    (server : WidgetServer σ)
    (factory : ConnectedFactory)
    {entry : WidgetEntry}
    (fits : entry.Fits server.characters)
    {client : Client σ}
    {store : WidgetStore}
    (holds : HoldsTable server client store) :
    (Request.update entry).Refines server factory client store := by
  obtain ⟨reply, executed, reported⟩ := server.executes
    (WidgetTable.buildUpdateSql entry) _ client.session
    (scan_buildUpdateSql entry)
    ⟨le_of_mem_nullable fits.1, le_of_mem_nullable fits.2⟩
  obtain ⟨failed, changed⟩ := ended_replied server factory (.update entry) rfl
    holds.unlocked reported
  have isStored : entry ∈ (server.content client.session).rows ↔
      store.find entry.key = some entry := holds.lists.holds entry
  unfold Request.Refines
  by_cases literal : entry.Literal
  · obtain ⟨name, category⟩ := (literal_iff_nullable entry).mp literal
    rw [name, category] at executed
    obtain ⟨rfl, stored⟩ := executed.of_update
    by_cases present : (server.content client.session).HasKey entry.key
    · have lists := (holds.lists.replace
        ((holds.hasKey_iff _).mp present)).of_perm stored
      by_cases same : entry ∈ (server.content client.session).rows
      · rw [changed 0 (by rw [if_neg]; exact fun both => both.2 same),
          if_pos rfl]
        rw [KeyedStore.set_of_find (isStored.mp same)] at lists
        exact ⟨store, .updateUnchanged _ literal (isStored.mp same),
          holds.sent lists (.error _)⟩
      · rw [changed 1 (by rw [if_pos ⟨present, same⟩]), if_neg one_ne_zero]
        exact ⟨store.set entry,
          .update literal ((holds.hasKey_iff _).mp present)
            (fun stored => same (isStored.mpr stored)),
          holds.sent lists (.ok ())⟩
    · rw [changed 0 (by rw [if_neg]; exact fun both => present both.1),
        if_pos rfl]
      have unchanged : (server.content client.session).replaced entry =
          (server.content client.session).rows :=
        WidgetContent.replaced_of_absent present
      exact ⟨store, .updateMissing _ (holds.find_eq_none present),
        holds.sent (holds.lists.of_perm (unchanged ▸ stored)) (.error _)⟩
  · obtain ⟨replied, unchanged⟩ :=
      executed.of_update_null (nullable_of_not_literal literal)
    have lists := unchanged ▸ holds.lists
    by_cases present : (server.content client.session).HasKey entry.key
    · obtain ⟨what, ran⟩ := failed ER_BAD_NULL_ERROR
        (replied.trans (if_pos present)) (by decide)
      rw [ran]
      exact ⟨store, .updateEmpty what literal ((holds.hasKey_iff _).mp present),
        holds.sent lists (.error _)⟩
    · rw [changed 0 (replied.trans (if_neg present)), if_pos rfl]
      exact ⟨store, .updateMissing _ (holds.find_eq_none present),
        holds.sent lists (.error _)⟩

theorem remove_refines
    (server : WidgetServer σ)
    (factory : ConnectedFactory)
    (key : WidgetKey)
    {client : Client σ}
    {store : WidgetStore}
    (holds : HoldsTable server client store) :
    (Request.remove key).Refines server factory client store := by
  obtain ⟨reply, executed, reported⟩ := server.executes
    (WidgetTable.buildDeleteSql key) (.delete key) client.session
    (scan_buildDeleteSql key) trivial
  obtain ⟨_, changed⟩ := ended_replied server factory (.remove key) rfl
    holds.unlocked reported
  obtain ⟨rfl, stored⟩ := executed.of_delete
  have lists := (holds.lists.erase key).of_perm stored
  have ran := changed _ rfl
  rw [holds.lists.countP_eq key] at ran
  unfold Request.Refines
  by_cases present : (store.find key).isSome
  · rw [if_pos present, if_neg one_ne_zero] at ran
    rw [ran]
    exact ⟨store.erase key, .remove present, holds.sent lists (.ok ())⟩
  · rw [if_neg present, if_pos rfl] at ran
    rw [ran]
    have absent := Option.not_isSome_iff_eq_none.mp present
    rw [KeyedStore.erase_of_find absent] at lists
    exact ⟨store, .removeMissing _ absent, holds.sent lists (.error _)⟩

/-! ## Queries -/

/-- A query answered with rows hands out a result set of them, and leaves the
table as it is. -/
theorem ended_selected
    (server : WidgetServer σ)
    (factory : ConnectedFactory)
    (request : Request)
    (isQuery : request.kind = .executeQuery)
    {client : Client σ}
    {store : WidgetStore}
    (holds : HoldsTable server client store)
    {rows : List WidgetEntry}
    (reported : Reports server.toMySqlClient
      (server.realQuery request.sql client.session) (.selected rows))
    (unchanged : server.content (server.realQuery request.sql client.session).2 =
      server.content client.session) :
    (∃ result, entriesOf (some result) = rows.map readBack ∧
      (request.ended server.toMySqlClient factory client).1 =
        .ok (some result)) ∧
    Leaves server client (request.ended server.toMySqlClient factory client)
      store := by
  obtain ⟨accepted, stored⟩ := reported
  have sent : server.realQuery request.sql client.session =
      (0, (server.realQuery request.sql client.session).2) :=
    Prod.ext accepted rfl
  have ran := executeQuery_run server.toMySqlClient factory.property request.sql
    holds.unlocked sent stored
  have ends : request.ended server.toMySqlClient factory client =
      Routine.ending ((factory.val.executeQuery server.toMySqlClient
        request.sql).run client) := by
    rw [Request.ended, StatementCall.program, Request.call, isQuery]
  rw [ends, ran]
  refine ⟨⟨⟨client.results, rows.map cells⟩, ?_, rfl⟩,
    ⟨⟨holds.unlocked, ?_⟩, rfl, rfl, rfl⟩⟩
  · rw [entriesOf, Option.map_some, Option.getD_some, List.map_map]
    apply List.map_congr_left
    intro row _
    exact mapRow_cells row (fetchLengths (cells row))
  · rw [Routine.ending, server.content_storeResult, unchanged]
    exact holds.lists

theorem findByKey_refines
    (server : WidgetServer σ)
    (factory : ConnectedFactory)
    (key : WidgetKey)
    {client : Client σ}
    {store : WidgetStore}
    (holds : HoldsTable server client store) :
    (Request.findByKey key).Refines server factory client store := by
  obtain ⟨reply, executed, reported⟩ := server.executes
    (WidgetTable.buildSelectByKeySql key) (.selectByKey key) client.session
    (scan_buildSelectByKeySql key) trivial
  obtain ⟨unchanged, rows, rfl, selected⟩ := executed.of_selectByKey
  have found : rows = (store.find key).toList := by
    rw [WidgetContent.filter_key, holds.lists.find_eq] at selected
    exact eq_toList_of_perm selected
  obtain ⟨⟨result, entries, ended⟩, stillHolds⟩ :=
    ended_selected server factory (.findByKey key) rfl holds reported
      unchanged
  refine ⟨store, ?_, stillHolds⟩
  rw [ended, Request.conclude, entries, found, List.head?_map,
    Option.head?_toList]
  exact .findByKey store key

/-- The rows a query of every row is answered with. -/
theorem selectAll_reports
    (server : WidgetServer σ)
    {client : Client σ}
    {store : WidgetStore}
    (holds : HoldsTable server client store) :
    ∃ rows, store.Lists rows ∧
      Reports server.toMySqlClient
        (server.realQuery WidgetTable.buildSelectAllSql client.session)
        (.selected rows) ∧
      server.content (server.realQuery WidgetTable.buildSelectAllSql
        client.session).2 = server.content client.session := by
  obtain ⟨reply, executed, reported⟩ := server.executes
    WidgetTable.buildSelectAllSql .selectAll client.session
    scan_buildSelectAllSql trivial
  obtain ⟨unchanged, rows, rfl, selected⟩ := executed.of_selectAll
  exact ⟨rows, holds.lists.of_perm selected, reported, unchanged⟩

theorem queryAll_refines
    (server : WidgetServer σ)
    (factory : ConnectedFactory)
    {client : Client σ}
    {store : WidgetStore}
    (holds : HoldsTable server client store) :
    Request.queryAll.Refines server factory client store := by
  obtain ⟨rows, lists, reported, unchanged⟩ := selectAll_reports server holds
  obtain ⟨⟨result, entries, ended⟩, stillHolds⟩ :=
    ended_selected server factory .queryAll rfl holds reported
      unchanged
  refine ⟨store, ?_, stillHolds⟩
  rw [ended, Request.conclude, entries]
  exact .queryAll lists

theorem countAll_refines
    (server : WidgetServer σ)
    (factory : ConnectedFactory)
    {client : Client σ}
    {store : WidgetStore}
    (holds : HoldsTable server client store) :
    Request.countAll.Refines server factory client store := by
  obtain ⟨rows, lists, reported, unchanged⟩ := selectAll_reports server holds
  obtain ⟨⟨result, entries, ended⟩, stillHolds⟩ :=
    ended_selected server factory .countAll rfl holds reported
      unchanged
  refine ⟨store, ?_, stillHolds⟩
  rw [ended, Request.conclude, entries, List.length_map]
  exact .countAll lists

theorem queryCategory_refines
    (server : WidgetServer σ)
    (factory : ConnectedFactory)
    (category : Bytes)
    {client : Client σ}
    {store : WidgetStore}
    (holds : HoldsTable server client store) :
    (Request.queryCategory category).Refines server factory client store := by
  obtain ⟨reply, executed, reported⟩ := server.executes
    (WidgetTable.buildSelectByCategorySql category) _ client.session
    (scan_buildSelectByCategorySql category) trivial
  obtain ⟨unchanged, rows, rfl, selected⟩ := executed.of_selectByCategory
  obtain ⟨⟨result, entries, ended⟩, stillHolds⟩ :=
    ended_selected server factory (.queryCategory category) rfl holds
      reported unchanged
  refine ⟨store, ?_, stillHolds⟩
  rw [ended, Request.conclude, entries]
  exact .queryCategory ((holds.lists.filter _).of_perm selected)

/-- Every request ends as the store allows. -/
theorem Request.refines
    (server : WidgetServer σ)
    (factory : ConnectedFactory)
    (request : Request)
    (fits : request.Fits server.characters)
    {client : Client σ}
    {store : WidgetStore}
    (holds : HoldsTable server client store) :
    request.Refines server factory client store := by
  cases request with
  | insert entry => exact insert_refines server factory fits holds
  | update entry => exact update_refines server factory fits holds
  | remove key => exact remove_refines server factory key holds
  | findByKey key => exact findByKey_refines server factory key holds
  | queryAll => exact queryAll_refines server factory holds
  | countAll => exact countAll_refines server factory holds
  | queryCategory category =>
      exact queryCategory_refines server factory category holds


/-! ## Requests as callers make them -/

/-- The program of the table for a request. -/
def Request.program
    (mysql : MySqlClient σ)
    (factory : ConnectedFactory) :
    Request → Program Failure (Client σ) Unit Answer
  | .insert entry => do
      onWorld (WidgetTable.insert mysql factory entry)
      return .done
  | .update entry => do
      onWorld (WidgetTable.update mysql factory entry)
      return .done
  | .remove key => do
      onWorld (WidgetTable.remove mysql factory key)
      return .done
  | .findByKey key =>
      return .found (← Data.findByKey (WidgetTable.table mysql factory.val) key)
  | .queryAll =>
      return .entries (← Data.queryAll (WidgetTable.table mysql factory.val))
  | .countAll =>
      return .count (← Data.countAll (WidgetTable.table mysql factory.val))
  | .queryCategory category =>
      return .entries (← categoryEntries mysql factory category)

/-- Ask the table; the caller catches what is thrown. -/
def perform
    (mysql : MySqlClient σ)
    (factory : ConnectedFactory)
    (request : Request)
    (client : Client σ) : Answer × Client σ :=
  match (request.program mysql factory).run (client, ()) with
  | .ok answer (reached, ()) => (answer, reached)
  | .error failure (reached, ()) => (.failed failure, reached)

/-- What happens after a statement has ended: its result set is freed. -/
def afterwards
    (ended : Except Failure (Option MySqlRes) × Client σ) : Client σ :=
  match ended.1 with
  | .ok (some result) =>
      { ended.2 with freed := ended.2.freed ++ [result.id] }
  | _ => ended.2

theorem perform_modification
    {mysql : MySqlClient σ}
    {factory : ConnectedFactory}
    {request : Request}
    (isModification : request.kind = .executeModificationSql)
    (isProgram : request.program mysql factory = do
      onWorld (factory.val.executeModificationSql mysql request.sql)
      return .done)
    (concludes : ∀ result, request.conclude (.ok result) = .done)
    (client : Client σ) :
    perform mysql factory request client =
      (request.conclude (request.ended mysql factory client).1,
        afterwards (request.ended mysql factory client)) := by
  have ends : request.ended mysql factory client =
      Routine.ending ((do
        factory.val.executeModificationSql mysql request.sql
        return none : ClientM σ (Option MySqlRes)).run client) := by
    rw [Request.ended, StatementCall.program, Request.call, isModification]
  rw [ends, EStateM.run_bind, perform, isProgram, EStateM.run_bind]
  cases ran : (factory.val.executeModificationSql mysql request.sql).run
      client with
  | ok _ reached =>
      rw [onWorld_run ran]
      exact congrArg (·, reached) (concludes none).symm
  | error failure reached =>
      rw [onWorld_run_error ran]
      rfl

/-- A query into a variable of its own maps the rows of its result set, frees
it, and returns what the variable has become. -/
theorem withLocal_runQuery_run
    {mysql : MySqlClient σ}
    {factory : ConnectedFactory}
    {request : Request}
    (isQuery : request.kind = .executeQuery)
    {cb : RowCallback Failure (Client σ) (τ × ρ) WidgetEntry}
    {outer : τ}
    {init : ρ}
    {value : List WidgetEntry → ρ}
    (delivered : ∀ (entries : List WidgetEntry) (opened : Client σ),
      (deliver cb entries).run (opened, outer, init) =
        .ok () (opened, outer, value entries))
    (client : Client σ) :
    (withLocal init (runQuery mysql factory request.sql
        (fun row lengths => pure (WidgetTable.mapRow row lengths)) cb)).run
        (client, outer) =
      match request.ended mysql factory client with
      | (.ok result, reached) =>
          .ok (value (entriesOf result)) (afterwards (.ok result, reached), outer)
      | (.error failure, reached) => .error failure (reached, outer) := by
  rw [Request.ended, StatementCall.program, Request.call, isQuery]
  simp only
  cases ran : (factory.val.executeQuery mysql request.sql).run client with
  | error failure reached =>
      apply withLocal_run_error
      rw [runQuery, EStateM.run_bind, onWorld_run_error ran]
  | ok result reached =>
      apply withLocal_run
      rw [runQuery, EStateM.run_bind, onWorld_run ran]
      cases result with
      | none =>
          have stays := delivered [] reached
          injection stays with _ same
          exact congrArg (EStateM.Result.ok ()) same
      | some result =>
          have delivers := delivered (result.rows.map fun row =>
            WidgetTable.mapRow row (fetchLengths row)) reached
          simp only
          rw [fetchRows_eq_deliver, EStateM.run_bind, tryCatch_run_ok delivers]
          rfl

theorem perform_query
    {mysql : MySqlClient σ}
    {factory : ConnectedFactory}
    {request : Request}
    (isQuery : request.kind = .executeQuery)
    {cb : RowCallback Failure (Client σ) (Unit × ρ) WidgetEntry}
    {init : ρ}
    {value : List WidgetEntry → ρ}
    (answer : ρ → Answer)
    (isProgram : request.program mysql factory = do
      return answer (← withLocal init (runQuery mysql factory request.sql
        (fun row lengths => pure (WidgetTable.mapRow row lengths)) cb)))
    (delivered : ∀ (entries : List WidgetEntry) (opened : Client σ),
      (deliver cb entries).run (opened, (), init) =
        .ok () (opened, (), value entries))
    (concludes : ∀ result,
      request.conclude (.ok result) = answer (value (entriesOf result)))
    (client : Client σ) :
    perform mysql factory request client =
      (request.conclude (request.ended mysql factory client).1,
        afterwards (request.ended mysql factory client)) := by
  rw [perform, isProgram, EStateM.run_bind,
    withLocal_runQuery_run isQuery delivered client]
  match request.ended mysql factory client with
  | (.ok result, reached) =>
      exact congrArg (·, afterwards (.ok result, reached))
        (concludes result).symm
  | (.error failure, reached) => rfl

theorem foldl_append_singleton
    (entries : List α)
    (collected : List α) :
    entries.foldl (fun collected entry => collected ++ [entry]) collected =
      collected ++ entries := by
  rw [List.foldl_append_eq_append, ← List.flatMap_def, List.flatMap_singleton']

theorem deliver_collect_run
    (entries : List WidgetEntry)
    (opened : Client σ) :
    (deliver (fun entry => do
        modifyLocal fun results => results ++ [entry]
        return true) entries :
      Program Failure (Client σ) (Unit × List WidgetEntry) Unit).run
        (opened, (), []) = .ok () (opened, (), entries) := by
  rw [deliver_fold_run (fun (results : List WidgetEntry) entry =>
    results ++ [entry]), foldl_append_singleton, List.nil_append]

/-- A request, however its program is written, ends as its statement does, and
then frees its result set. -/
theorem perform_eq
    (mysql : MySqlClient σ)
    (factory : ConnectedFactory)
    (request : Request)
    (client : Client σ) :
    perform mysql factory request client =
      (request.conclude (request.ended mysql factory client).1,
        afterwards (request.ended mysql factory client)) := by
  cases request with
  | insert entry | update entry | remove key =>
      exact perform_modification rfl rfl (fun _ => rfl) client
  | findByKey key =>
      refine perform_query rfl .found rfl ?_ (fun _ => rfl) client
      intro entries opened
      rw [deliver_first_run, Option.or_none]
  | queryAll | queryCategory category =>
      exact perform_query rfl .entries rfl deliver_collect_run (fun _ => rfl)
        client
  | countAll =>
      refine perform_query rfl .count rfl ?_ (fun _ => rfl) client
      intro entries opened
      rw [deliver_fold_run (fun n (_ : WidgetEntry) => n + 1),
        List.foldl_add_const, Nat.zero_add, Nat.one_mul]

/-- A client between requests: every result set was freed in its turn. -/
structure Holds
    (server : WidgetServer σ)
    (client : Client σ)
    (store : WidgetStore) : Prop extends HoldsTable server client store where
  freed : client.freed = List.range client.results

theorem Leaves.holds
    {server : WidgetServer σ}
    {client : Client σ}
    {ended : Except Failure (Option MySqlRes) × Client σ}
    {store : WidgetStore}
    (leaves : Leaves server client ended store)
    (freed : client.freed = List.range client.results) :
    Holds server (afterwards ended) store := by
  obtain ⟨outcome, reached⟩ := ended
  obtain ⟨⟨unlocked, lists⟩, sameFreed, results⟩ := leaves
  match outcome, results with
  | .ok (some result), ⟨isNew, oneMore⟩ =>
      refine ⟨⟨unlocked, lists⟩, ?_⟩
      change reached.freed ++ [result.id] = List.range reached.results
      rw [oneMore, List.range_succ, ← freed, isNew, sameFreed]
  | .ok none, same | .error _, same =>
      refine ⟨⟨unlocked, lists⟩, ?_⟩
      change reached.freed = List.range reached.results
      rw [same, ← freed, sameFreed]

/-! ## Sessions -/

/-- Every request is answered as the store allows. -/
theorem perform_answers
    (server : WidgetServer σ)
    (factory : ConnectedFactory)
    (request : Request)
    (client : Client σ)
    (store : WidgetStore)
    (fits : request.Fits server.characters)
    (holds : Holds server client store) :
    ∃ next,
      Answers request store
        (perform server.toMySqlClient factory request client).1 next ∧
      Holds server
        (perform server.toMySqlClient factory request client).2 next := by
  obtain ⟨next, answers, leaves⟩ :=
    request.refines server factory fits holds.toHoldsTable
  rw [perform_eq]
  exact ⟨next, answers, leaves.holds holds.freed⟩

/-! The store allows the queries one answer, up to the order of the rows. -/

theorem findByKey_answers
    (server : WidgetServer σ)
    (factory : ConnectedFactory)
    (key : WidgetKey)
    {client : Client σ}
    {store : WidgetStore}
    (holds : Holds server client store) :
    (perform server.toMySqlClient factory (.findByKey key) client).1 =
      .found ((store.find key).map readBack) := by
  obtain ⟨next, answers, _⟩ :=
    perform_answers server factory (.findByKey key) client store trivial holds
  generalize (perform server.toMySqlClient factory (.findByKey key) client).1 =
    answer at answers
  cases answers
  rfl

theorem queryAll_answers
    (server : WidgetServer σ)
    (factory : ConnectedFactory)
    {client : Client σ}
    {store : WidgetStore}
    (holds : Holds server client store) :
    ∃ rows, store.Lists rows ∧
      (perform server.toMySqlClient factory .queryAll client).1 =
        .entries (rows.map readBack) := by
  obtain ⟨next, answers, _⟩ :=
    perform_answers server factory .queryAll client store trivial holds
  generalize (perform server.toMySqlClient factory .queryAll client).1 =
    answer at answers
  cases answers with
  | queryAll lists => exact ⟨_, lists, rfl⟩

theorem countAll_answers
    (server : WidgetServer σ)
    (factory : ConnectedFactory)
    {client : Client σ}
    {store : WidgetStore}
    (holds : Holds server client store) :
    ∃ rows, store.Lists rows ∧
      (perform server.toMySqlClient factory .countAll client).1 =
        .count rows.length := by
  obtain ⟨next, answers, _⟩ :=
    perform_answers server factory .countAll client store trivial holds
  generalize (perform server.toMySqlClient factory .countAll client).1 =
    answer at answers
  cases answers with
  | countAll lists => exact ⟨_, lists, rfl⟩

/-- The answers of a session of requests to the table, and where it leaves the
client. -/
def answersOf
    (mysql : MySqlClient σ)
    (factory : ConnectedFactory)
    (requests : List Request)
    (client : Client σ) : List Answer × Client σ :=
  Specification.session (perform mysql factory) requests client

/-- Replay the acknowledged modifications of a session. -/
def replay
    (store : WidgetStore)
    (requests : List Request)
    (answers : List Answer) : WidgetStore :=
  (requests.zip answers).foldl acknowledge store

theorem session_answers
    (server : WidgetServer σ)
    (factory : ConnectedFactory)
    {requests : List Request}
    (fits : ∀ request ∈ requests, request.Fits server.characters)
    {client : Client σ}
    {store : WidgetStore}
    (holds : Holds server client store) :
    let session := answersOf server.toMySqlClient factory requests client
    Specification.Explains Answers store requests session.1
        (replay store requests session.1) ∧
      Holds server session.2 (replay store requests session.1) := by
  intro session
  obtain ⟨final, explained, stillHolds⟩ :=
    Specification.explains_session (perform_answers server factory) fits holds
  obtain rfl := explained.replay Answers.eq_acknowledge
  exact ⟨explained, stillHolds⟩

/-- A client between requests, whatever rows its table has. -/
theorem holds_content
    (server : WidgetServer σ)
    {client : Client σ}
    (unlocked : client.queryMutex = false)
    (freed : client.freed = List.range client.results) :
    Holds server client (.ofRows (server.content client.session).rows
      (server.content client.session).uniqueIds) where
  unlocked := unlocked
  freed := freed
  lists := KeyedStore.ofRows_lists (server.content client.session).uniqueIds

/-- Every session of requests to the widget table is answered as a store of its
rows allows. Afterwards the table holds the replay of the modifications that
were acknowledged, the mutex is free, and every result set was freed once. -/
theorem answersOf_refines
    (server : WidgetServer σ)
    (factory : ConnectedFactory)
    {requests : List Request}
    (fits : ∀ request ∈ requests, request.Fits server.characters)
    {client : Client σ}
    (unlocked : client.queryMutex = false)
    (freed : client.freed = List.range client.results) :
    ∃ store : WidgetStore,
      store.Lists (server.content client.session).rows ∧
      let session := answersOf server.toMySqlClient factory requests client
      Specification.Explains Answers store requests session.1
          (replay store requests session.1) ∧
        (replay store requests session.1).Lists
          (server.content session.2.session).rows ∧
        session.2.queryMutex = false ∧
        session.2.freed = List.range session.2.results := by
  have holds := holds_content server unlocked freed
  obtain ⟨explained, finallyHolds⟩ :=
    session_answers server factory fits holds
  exact ⟨_, holds.lists, explained, finallyHolds.lists,
    finallyHolds.unlocked, finallyHolds.freed⟩

/-- The factory connected to the widget table. -/
def widgetConnection : ConnectedFactory := ⟨widgetFactory, rfl⟩

/-- A bolt inserted twice, found, and removed. -/
def boltRequests : List Request :=
  [.insert bolt, .insert bolt, .findByKey bolt.key, .remove bolt.key]

theorem boltRequests_fit :
    ∀ request ∈ boltRequests, request.Fits referenceServer.characters := by
  have fits : bolt.Fits referenceServer.characters := ⟨by decide, by decide⟩
  simp [boltRequests, Request.Fits, fits]

theorem answersOf_refines_bolt :
    ∃ store : WidgetStore,
      store.Lists (referenceServer.content emptyTable.session).rows ∧
      let session := answersOf referenceServer.toMySqlClient widgetConnection
        boltRequests emptyTable
      Specification.Explains Answers store boltRequests session.1
          (replay store boltRequests session.1) ∧
        (replay store boltRequests session.1).Lists
          (referenceServer.content session.2.session).rows ∧
        session.2.queryMutex = false ∧
        session.2.freed = List.range session.2.results :=
  answersOf_refines referenceServer widgetConnection boltRequests_fit rfl rfl

/-! ## What is read -/

/-- What an answered request leaves under a key, if it writes there. -/
def written (key : WidgetKey) : Request × Answer → Option (Option WidgetEntry)
  | (.insert entry, .done) | (.update entry, .done) =>
      if entry.key = key then some (some entry) else none
  | (.remove removed, .done) => if removed = key then some none else none
  | _ => none

/-- What the last acknowledged modification of a key left there. -/
def lastWritten
    (key : WidgetKey)
    (requests : List Request)
    (answers : List Answer) : Option (Option WidgetEntry) :=
  ((requests.zip answers).filterMap (written key)).getLast?

/-- A request leaves alone what is under the keys it does not write. -/
theorem acknowledge_find
    (store : WidgetStore)
    (answered : Request × Answer)
    (key : WidgetKey) :
    (acknowledge store answered).find key =
      (written key answered).getD (store.find key) := by
  obtain ⟨request, answer⟩ := answered
  cases answer with
  | done =>
      cases request with
      | insert entry =>
          rw [acknowledge, KeyedStore.set_find, written]
          split <;> rfl
      | update entry =>
          rw [acknowledge, KeyedStore.set_find, written]
          split <;> rfl
      | remove removed =>
          rw [acknowledge, KeyedStore.erase_find, written]
          split <;> rfl
      | findByKey _ | queryAll | countAll | queryCategory _ => rfl
  | found _ | entries _ | count _ | failed _ => cases request <;> rfl

theorem replay_find
    (store : WidgetStore)
    (requests : List Request)
    (answers : List Answer)
    (key : WidgetKey) :
    (replay store requests answers).find key =
      (lastWritten key requests answers).getD (store.find key) := by
  unfold replay lastWritten
  induction requests.zip answers generalizing store with
  | nil => rfl
  | cons answered rest inductionHypothesis =>
      rw [List.foldl_cons, inductionHypothesis, acknowledge_find,
        List.filterMap_cons]
      cases written key answered with
      | none => rfl
      | some left =>
          rw [List.getLast?_cons, Option.getD_some, Option.getD_some]

/-- After any session, a key is found as the last acknowledged modification of
it left it, and as it was when there was none; failed requests and other keys
do not matter. -/
theorem findByKey_lastWritten
    (server : WidgetServer σ)
    (factory : ConnectedFactory)
    {requests : List Request}
    (fits : ∀ request ∈ requests, request.Fits server.characters)
    {client : Client σ}
    (unlocked : client.queryMutex = false)
    (freed : client.freed = List.range client.results)
    (key : WidgetKey) :
    let session := answersOf server.toMySqlClient factory requests client
    (perform server.toMySqlClient factory (.findByKey key) session.2).1 =
      .found (((lastWritten key requests session.1).getD
        ((server.content client.session).rows.find? fun row =>
          row.key = key)).map readBack) := by
  intro session
  have holds := holds_content server unlocked freed
  obtain ⟨_, finallyHolds⟩ := session_answers server factory fits holds
  have answered := findByKey_answers server factory key finallyHolds
  rw [replay_find] at answered
  exact answered

theorem findByKey_lastWritten_bolt :
    let session := answersOf referenceServer.toMySqlClient widgetConnection
      boltRequests emptyTable
    (perform referenceServer.toMySqlClient widgetConnection (.findByKey bolt.key)
        session.2).1 =
      .found (((lastWritten bolt.key boltRequests session.1).getD
        ((referenceServer.content emptyTable.session).rows.find? fun row =>
          row.key = bolt.key)).map readBack) :=
  findByKey_lastWritten referenceServer widgetConnection boltRequests_fit rfl rfl bolt.key

end Widget
end ModernCommon
