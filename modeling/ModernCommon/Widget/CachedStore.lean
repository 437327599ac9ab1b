import ModernCommon.Widget.Store

/-!
# The widget table behind a cache

A cache in front of the widget table keeps what a reload read until the next
one. Requests to the table, reloads and lookups may come in any order: lookups
answer as the table did when it was last reloaded, whatever was written since.
-/

namespace ModernCommon
namespace Widget

open Library MySql Data DataFactory Cache

/-! ## The store and its snapshot -/

/-- What the table and its cache can be asked. -/
inductive CacheRequest
  | table (request : Request)
  | reload
  | lookup (key : WidgetKey)
  | lookupAll
  | lookupAllOf (category : Bytes)
  | size

/-- The entries of a table, and those its cache took over. -/
structure CachedStore where
  store : WidgetStore
  cached : WidgetStore

/-- A store as its rows are read. -/
def WidgetStore.read (store : WidgetStore) : WidgetStore :=
  store.map readBack fun _ => rfl

/-- In ascending order of the keys. -/
def Ascending (rows : List WidgetEntry) : Prop :=
  (rows.map WidgetEntry.key).Pairwise (· < ·)

/-- What a request may answer, and what it leaves: only requests to the table
concern the store, and only a reload concerns the snapshot. -/
inductive CacheAnswers : Specification CachedStore CacheRequest Answer
  | table {state : CachedStore} {request answer next}
      (answers : Answers request state.store answer next) :
      CacheAnswers (.table request) state answer { state with store := next }
  | reload (state : CachedStore) :
      CacheAnswers .reload state .done { state with cached := state.store.read }
  | lookup (state : CachedStore) (key) :
      CacheAnswers (.lookup key) state (.found (state.cached.find key)) state
  | lookupAll {state : CachedStore} {rows}
      (lists : state.cached.Lists rows)
      (ascending : Ascending rows) :
      CacheAnswers .lookupAll state (.entries rows) state
  | lookupAllOf {state : CachedStore} {category rows}
      (lists : (state.cached.filter fun row => row.category = category).Lists
        rows)
      (ascending : Ascending rows) :
      CacheAnswers (.lookupAllOf category) state (.entries rows) state
  | size {state : CachedStore} {rows}
      (lists : state.cached.Lists rows) :
      CacheAnswers .size state (.count rows.length) state

/-- The effect of a request that was answered. -/
def acknowledgeCached (state : CachedStore) : CacheRequest × Answer → CachedStore
  | (.table request, answer) =>
      { state with store := acknowledge state.store (request, answer) }
  | (.reload, .done) => { state with cached := state.store.read }
  | _ => state

theorem CacheAnswers.eq_acknowledgeCached
    (request : CacheRequest)
    (before : CachedStore)
    (answer : Answer)
    (after : CachedStore)
    (answers : CacheAnswers request before answer after) :
    after = acknowledgeCached before (request, answer) := by
  cases answers with
  | table answers =>
      rw [acknowledgeCached, ← answers.eq_acknowledge]
  | reload | lookup _ | lookupAll _ _ | lookupAllOf _ _ | size _ => rfl

/-! ## The table and its cache -/

variable {σ : Type}

/-- A client of the table, and the cache in front of it. -/
structure Cached (σ : Type) where
  client : Client σ
  cache : CacheData WidgetKey WidgetEntry Bytes

/-- Ask the table or the cache. -/
def performCached
    (mysql : MySqlClient σ)
    (factory : ConnectedFactory)
    (request : CacheRequest)
    (state : Cached σ) : Answer × Cached σ :=
  match request with
  | .table request =>
      let answered := perform mysql factory request state.client
      (answered.1, { state with client := answered.2 })
  | .reload =>
      match (CacheData.reload (WidgetTable.table mysql factory.val)).run
          (state.client, (), state.cache) with
      | .ok () (client, (), cache) => (.done, ⟨client, cache⟩)
      | .error failure (client, (), cache) => (.failed failure, ⟨client, cache⟩)
  | .lookup key => (.found (state.cache.lookup key), state)
  | .lookupAll => (.entries state.cache.lookupAll, state)
  | .lookupAllOf category => (.entries (state.cache.lookupAllOf category), state)
  | .size => (.count state.cache.size, state)

/-- A cache of widgets by category that holds the rows of a store. -/
structure Caches
    (cache : CacheData WidgetKey WidgetEntry Bytes)
    (cached : WidgetStore) : Prop where
  lookup : ∀ key, cache.lookup key = cached.find key
  predicate : cache.predicate = fun category entry =>
    decide (entry.category = category)

/-- The table holds a store and its cache the snapshot. -/
structure HoldsCached
    (server : WidgetServer σ)
    (state : Cached σ)
    (abstract : CachedStore) : Prop where
  holds : Holds server state.client abstract.store
  caches : Caches state.cache abstract.cached

theorem size_eq_length (cache : CacheData WidgetKey WidgetEntry Bytes) :
    cache.size = cache.lookupAll.length := by
  rw [CacheData.lookupAll_eq, List.length_map, Std.TreeMap.length_toList]
  rfl

namespace Caches

variable {cache : CacheData WidgetKey WidgetEntry Bytes} {cached : WidgetStore}

/-- The keys of the entries are those they are cached under. -/
theorem lookupAll_keys (caches : Caches cache cached) :
    cache.lookupAll.map WidgetEntry.key = cache.map.map.value.keys := by
  rw [CacheData.lookupAll_eq, ← Std.TreeMap.map_fst_toList_eq_keys, List.map_map]
  apply List.map_congr_left
  intro keyed present
  have found := Std.TreeMap.mem_toList_iff_getElem?_eq_some.mp present
  exact cached.keyed _ _ ((caches.lookup keyed.1).symm.trans found)

theorem ascending (caches : Caches cache cached) :
    Ascending cache.lookupAll := by
  rw [Ascending, caches.lookupAll_keys]
  refine Std.TreeMap.ordered_keys.imp ?_
  intro earlier later less
  exact compare_lt_iff_lt.mp less

theorem lists (caches : Caches cache cached) : cached.Lists cache.lookupAll where
  unique := by
    rw [caches.lookupAll_keys]
    exact Std.TreeMap.nodup_keys
  holds row := by
    rw [← caches.lookup, CacheData.lookupAll_eq, List.mem_map]
    constructor
    · rintro ⟨keyed, present, rfl⟩
      have found := Std.TreeMap.mem_toList_iff_getElem?_eq_some.mp present
      have sameKey := cached.keyed _ _ ((caches.lookup keyed.1).symm.trans found)
      rw [sameKey]
      exact found
    · intro found
      exact ⟨(row.key, row),
        Std.TreeMap.mem_toList_iff_getElem?_eq_some.mpr found, rfl⟩

theorem lookupAllOf_eq
    (caches : Caches cache cached)
    (category : Bytes) :
    cache.lookupAllOf category =
      cache.lookupAll.filter fun row => row.category = category := by
  rw [CacheData.lookupAllOf_eq, caches.predicate]

/-- A cache filled with the rows of a store holds them. -/
theorem fill
    {rows : List WidgetEntry}
    (lists : cached.Lists rows)
    (predicate : cache.predicate = fun category entry =>
      decide (entry.category = category)) :
    Caches { cache with map := CacheData.fill {} rows } cached where
  lookup key := by
    rw [CacheData.lookup_fill, ← lists.find_eq key]
    congr 1
    funext row
    exact decide_eq_decide.mpr Iff.rfl
  predicate := predicate

end Caches

/-- A reload takes over what the table holds then. -/
theorem cachedReload_answers
    (server : WidgetServer σ)
    (factory : ConnectedFactory)
    {state : Cached σ}
    {abstract : CachedStore}
    (holds : HoldsCached server state abstract) :
    (performCached server.toMySqlClient factory .reload state).1 = .done ∧
      HoldsCached server
        (performCached server.toMySqlClient factory .reload state).2
        { abstract with cached := abstract.store.read } := by
  obtain ⟨client, cache⟩ := state
  obtain ⟨rows, lists, reported, unchanged⟩ :=
    selectAll_reports server holds.holds.toHoldsTable
  obtain ⟨⟨result, entries, ended⟩, leaves⟩ := ended_selected server factory
    .queryAll rfl holds.holds.toHoldsTable reported unchanged
  have stillHolds := leaves.holds holds.holds.freed
  have filled : (withLocal {} ((WidgetTable.table server.toMySqlClient
      factory.val).query fun entry => do
        modifyLocal fun fresh : SynchronizedMap WidgetKey WidgetEntry =>
          (fresh.addDataEntry (getKey entry) entry).2
        return true)).run (client, (), cache) =
      .ok (CacheData.fill {} (rows.map readBack))
        (afterwards (Request.queryAll.ended server.toMySqlClient factory client),
          (), cache) := by
    refine (withLocal_runQuery_run (show Request.queryAll.kind = _ from rfl)
      (fun entries opened => deliver_fold_run
        (fun (fresh : SynchronizedMap WidgetKey WidgetEntry) entry =>
          (fresh.addDataEntry (getKey entry) entry).2)
        entries opened ((), cache) {}) client).trans ?_
    generalize Request.queryAll.ended server.toMySqlClient factory client =
      answered at ended
    obtain ⟨outcome, reached⟩ := answered
    obtain rfl : outcome = .ok (some result) := ended
    rw [← entries]
    rfl
  have reloaded : (CacheData.reload
      (WidgetTable.table server.toMySqlClient factory.val)).run
        (client, (), cache) =
        .ok () (afterwards (Request.queryAll.ended server.toMySqlClient factory
          client), (), { cache with
            map := CacheData.fill {} (rows.map readBack) }) := by
    rw [CacheData.reload, EStateM.run_bind, filled]
    rfl
  have performed : performCached server.toMySqlClient factory .reload
      ⟨client, cache⟩ = (.done, ⟨afterwards (Request.queryAll.ended
        server.toMySqlClient factory client),
        { cache with map := CacheData.fill {} (rows.map readBack) }⟩) := by
    simp only [performCached, reloaded]
  rw [performed]
  exact ⟨rfl, stillHolds, .fill (lists.map readBack fun _ => rfl)
    holds.caches.predicate⟩

/-! ## Sessions -/

/-- Only requests to the table carry strings to store. -/
def CacheRequest.Fits (characters : Bytes → Nat) : CacheRequest → Prop
  | .table request => request.Fits characters
  | _ => True

/-- Every request is answered as the store and the snapshot allow. -/
theorem performCached_answers
    (server : WidgetServer σ)
    (factory : ConnectedFactory)
    (request : CacheRequest)
    (state : Cached σ)
    (abstract : CachedStore)
    (fits : request.Fits server.characters)
    (holds : HoldsCached server state abstract) :
    ∃ next,
      CacheAnswers request abstract
        (performCached server.toMySqlClient factory request state).1 next ∧
      HoldsCached server
        (performCached server.toMySqlClient factory request state).2 next := by
  have caches := holds.caches
  cases request with
  | table request =>
      obtain ⟨next, answers, stillHolds⟩ := perform_answers server factory
        request state.client abstract.store fits holds.holds
      exact ⟨_, .table answers, stillHolds, caches⟩
  | reload =>
      obtain ⟨answer, stillHolds⟩ := cachedReload_answers server factory holds
      exact ⟨_, answer ▸ .reload abstract, stillHolds⟩
  | lookup key =>
      refine ⟨abstract, ?_, holds⟩
      rw [performCached, caches.lookup]
      exact .lookup abstract key
  | lookupAll => exact ⟨abstract, .lookupAll caches.lists caches.ascending, holds⟩
  | lookupAllOf category =>
      refine ⟨abstract, ?_, holds⟩
      rw [performCached, caches.lookupAllOf_eq]
      exact .lookupAllOf (caches.lists.filter _)
        (caches.ascending.sublist (List.filter_sublist.map WidgetEntry.key))
  | size =>
      refine ⟨abstract, ?_, holds⟩
      rw [performCached, size_eq_length]
      exact .size caches.lists

/-- The answers of a session of requests to the table and its cache, and where
it leaves them. -/
def cachedAnswersOf
    (mysql : MySqlClient σ)
    (factory : ConnectedFactory)
    (requests : List CacheRequest)
    (state : Cached σ) : List Answer × Cached σ :=
  Specification.session (performCached mysql factory) requests state

/-- Replay the acknowledged modifications and the reloads of a session. -/
def replayCached
    (state : CachedStore)
    (requests : List CacheRequest)
    (answers : List Answer) : CachedStore :=
  (requests.zip answers).foldl acknowledgeCached state

theorem cachedSession_answers
    (server : WidgetServer σ)
    (factory : ConnectedFactory)
    {requests : List CacheRequest}
    (fits : ∀ request ∈ requests, request.Fits server.characters)
    {state : Cached σ}
    {abstract : CachedStore}
    (holds : HoldsCached server state abstract) :
    let session := cachedAnswersOf server.toMySqlClient factory requests state
    Specification.Explains CacheAnswers abstract requests session.1
        (replayCached abstract requests session.1) ∧
      HoldsCached server session.2
        (replayCached abstract requests session.1) := by
  intro session
  obtain ⟨final, explained, stillHolds⟩ := Specification.explains_session
    (performCached_answers server factory) fits holds
  obtain rfl := explained.replay CacheAnswers.eq_acknowledgeCached
  exact ⟨explained, stillHolds⟩

/-- A client between requests with a cache that was never reloaded. -/
theorem holdsCached_content
    (server : WidgetServer σ)
    {client : Client σ}
    (unlocked : client.queryMutex = false)
    (freed : client.freed = List.range client.results) :
    HoldsCached server ⟨client, categoryCache {}⟩
      ⟨.ofRows (server.content client.session).rows
        (server.content client.session).uniqueIds, .empty⟩ where
  holds := holds_content server unlocked freed
  caches := {
    lookup := fun _ => rfl
    predicate := rfl }

/-- Every session of requests to the table and a cache in front of it is
answered as a store and a snapshot of it allow: lookups from the snapshot, which
reloads take and nothing else changes. Afterwards the table holds the replay of
the acknowledged modifications, and the cache that of the last reload. -/
theorem cachedAnswersOf_refines
    (server : WidgetServer σ)
    (factory : ConnectedFactory)
    {requests : List CacheRequest}
    (fits : ∀ request ∈ requests, request.Fits server.characters)
    {client : Client σ}
    (unlocked : client.queryMutex = false)
    (freed : client.freed = List.range client.results) :
    ∃ store : WidgetStore,
      store.Lists (server.content client.session).rows ∧
      let session := cachedAnswersOf server.toMySqlClient factory requests
        ⟨client, categoryCache {}⟩
      let final := replayCached ⟨store, .empty⟩ requests session.1
      Specification.Explains CacheAnswers ⟨store, .empty⟩ requests session.1
          final ∧
        final.store.Lists (server.content session.2.client.session).rows ∧
        final.cached.Lists session.2.cache.lookupAll := by
  have holds := holdsCached_content server unlocked freed
  obtain ⟨explained, finallyHolds⟩ :=
    cachedSession_answers server factory fits holds
  exact ⟨_, holds.holds.lists, explained, finallyHolds.holds.lists,
    finallyHolds.caches.lists⟩

/-- A bolt inserted, cached, and set to another quantity. -/
def cachedBoltRequests : List CacheRequest :=
  [.table (.insert bolt), .reload,
    .table (.update { bolt with quantity := 15 }), .lookup bolt.key]

theorem cachedBoltRequests_fit :
    ∀ request ∈ cachedBoltRequests,
      request.Fits referenceServer.characters := by
  have fits : bolt.Fits referenceServer.characters := ⟨by decide, by decide⟩
  have changedFits : ({ bolt with quantity := 15 } : WidgetEntry).Fits
      referenceServer.characters := fits
  simp [cachedBoltRequests, CacheRequest.Fits, Request.Fits, fits, changedFits]

theorem cachedAnswersOf_refines_bolt :
    ∃ store : WidgetStore,
      store.Lists (referenceServer.content emptyTable.session).rows ∧
      let session := cachedAnswersOf referenceServer.toMySqlClient widgetConnection
        cachedBoltRequests ⟨emptyTable, categoryCache {}⟩
      let final := replayCached ⟨store, .empty⟩ cachedBoltRequests session.1
      Specification.Explains CacheAnswers ⟨store, .empty⟩ cachedBoltRequests
          session.1 final ∧
        final.store.Lists
          (referenceServer.content session.2.client.session).rows ∧
        final.cached.Lists session.2.cache.lookupAll :=
  cachedAnswersOf_refines referenceServer widgetConnection cachedBoltRequests_fit rfl rfl

/-! ## What is looked up -/

/-- Without a reload the snapshot stays. -/
theorem replayCached_cached
    {requests : List CacheRequest}
    (noReload : CacheRequest.reload ∉ requests)
    (state : CachedStore)
    (answers : List Answer) :
    (replayCached state requests answers).cached = state.cached := by
  unfold replayCached
  induction requests generalizing state answers with
  | nil => rfl
  | cons request requests inductionHypothesis =>
      have othersLater : CacheRequest.reload ∉ requests := fun present =>
        noReload (List.mem_cons_of_mem request present)
      cases answers with
      | nil => rfl
      | cons answer answers =>
          rw [List.zip_cons_cons, List.foldl_cons,
            inductionHypothesis othersLater]
          cases request with
          | reload => exact absurd List.mem_cons_self noReload
          | table _ | lookup _ | lookupAll | lookupAllOf _ | size => rfl

/-- A reload, and whatever follows it but another one, leave the cache with what
the table held at the reload. -/
theorem holdsCached_of_reload
    (server : WidgetServer σ)
    (factory : ConnectedFactory)
    {requests : List CacheRequest}
    (fits : ∀ request ∈ requests, request.Fits server.characters)
    (noReload : CacheRequest.reload ∉ requests)
    {state : Cached σ}
    {abstract : CachedStore}
    (holds : HoldsCached server state abstract) :
    Caches (cachedAnswersOf server.toMySqlClient factory (.reload :: requests)
      state).2.cache abstract.store.read := by
  obtain ⟨_, reloaded⟩ := cachedReload_answers server factory holds
  obtain ⟨_, finallyHolds⟩ := cachedSession_answers server factory fits
    reloaded
  have caches := finallyHolds.caches
  rwa [replayCached_cached noReload] at caches

/-- Lookups answer what the table answered when it was last reloaded, whatever
was asked of it before and since. -/
theorem lookups_of_reload
    (server : WidgetServer σ)
    (factory : ConnectedFactory)
    {before after : List CacheRequest}
    (fitsBefore : ∀ request ∈ before, request.Fits server.characters)
    (fitsAfter : ∀ request ∈ after, request.Fits server.characters)
    (noReload : CacheRequest.reload ∉ after)
    {client : Client σ}
    (unlocked : client.queryMutex = false)
    (freed : client.freed = List.range client.results) :
    let ask := performCached server.toMySqlClient factory
    let earlier := (cachedAnswersOf server.toMySqlClient factory before
      ⟨client, categoryCache {}⟩).2
    let now := (cachedAnswersOf server.toMySqlClient factory (.reload :: after)
      earlier).2
    (∀ key, (ask (.lookup key) now).1 =
        (ask (.table (.findByKey key)) earlier).1) ∧
      (∃ cached queried,
        (ask .lookupAll now).1 = .entries cached ∧
        (ask (.table .queryAll) earlier).1 = .entries queried ∧
        cached.Perm queried) ∧
      (ask .size now).1 = (ask (.table .countAll) earlier).1 := by
  intro ask earlier now
  obtain ⟨_, holds⟩ := cachedSession_answers server factory fitsBefore
    (holdsCached_content server unlocked freed)
  have caches := holdsCached_of_reload server factory fitsAfter noReload holds
  refine ⟨?_, ?_, ?_⟩
  · intro key
    have answer := findByKey_answers server factory key holds.holds
    change Answer.found (now.cache.lookup key) = _
    rw [caches.lookup key]
    exact answer.symm
  · obtain ⟨rows, lists, answer⟩ :=
      queryAll_answers server factory holds.holds
    exact ⟨_, _, rfl, answer,
      caches.lists.perm (lists.map readBack fun _ => rfl)⟩
  · obtain ⟨rows, lists, answer⟩ :=
      countAll_answers server factory holds.holds
    have reordered := caches.lists.perm (lists.map readBack fun _ => rfl)
    change Answer.count now.cache.size = _
    rw [size_eq_length, reordered.length_eq, List.length_map]
    exact answer.symm

theorem lookups_of_reload_bolt :
    let ask := performCached referenceServer.toMySqlClient widgetConnection
    let earlier := (cachedAnswersOf referenceServer.toMySqlClient widgetConnection
      cachedBoltRequests ⟨emptyTable, categoryCache {}⟩).2
    let now := (cachedAnswersOf referenceServer.toMySqlClient widgetConnection
      [.reload, .table (.remove bolt.key)] earlier).2
    (∀ key, (ask (.lookup key) now).1 =
        (ask (.table (.findByKey key)) earlier).1) ∧
      (∃ cached queried,
        (ask .lookupAll now).1 = .entries cached ∧
        (ask (.table .queryAll) earlier).1 = .entries queried ∧
        cached.Perm queried) ∧
      (ask .size now).1 = (ask (.table .countAll) earlier).1 :=
  lookups_of_reload referenceServer widgetConnection cachedBoltRequests_fit
    (by simp [CacheRequest.Fits, Request.Fits]) (by simp) rfl rfl

end Widget
end ModernCommon
