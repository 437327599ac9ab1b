import ModernCommon.Cache.CacheData
import ModernCommon.Data.Query

/-!
# Reloads that fail

A reload fills a map of its own and moves it in place at the end, so a query that
throws on the way, at whatever row and for whatever reason, has not touched the
cache. Making a cached entry may fail here too, as `std::make_shared` may.
-/

namespace ModernCommon
namespace Cache
namespace CacheData

open Data

variable {Key EntryT Constraint ε W τ : Type} [LinearOrder Key]
variable [Entry EntryT Key]

/-- The callback of `reload`: make the cached entry of a row and add it. -/
def caching (makeShared : EntryT → EStateM ε W EntryT) :
    RowCallback ε W (τ × SynchronizedMap Key EntryT) EntryT := fun entry => do
  let cached ← onWorld (makeShared entry)
  modifyLocal fun fresh => (fresh.addDataEntry (getKey entry) cached).2
  return true

/-- `reload`, with the constructor of cached entries as a parameter. -/
def reloadMaking
    (makeShared : EntryT → EStateM ε W EntryT)
    (table : Table ε W Key EntryT) :
    Program ε W (τ × CacheData Key EntryT Constraint) Unit := do
  let fresh ← withLocal {} (table.query (caching makeShared))
  modifyLocal fun cache => { cache with map := cache.map.reload fresh }

/-- Copying an entry without fail is the reload of the other modules. -/
theorem reload_eq_reloadMaking (table : Table ε W Key EntryT) :
    (reload table :
      Program ε W (τ × CacheData Key EntryT Constraint) Unit) =
      reloadMaking pure table := rfl

theorem caching_run
    (makeShared : EntryT → EStateM ε W EntryT)
    (entry : EntryT)
    (world : W)
    (outer : τ)
    (fresh : SynchronizedMap Key EntryT) :
    (caching makeShared entry).run (world, outer, fresh) =
      match (makeShared entry).run world with
      | .ok cached reached =>
          .ok true
            (reached, outer, (fresh.addDataEntry (getKey entry) cached).2)
      | .error thrown reached => .error thrown (reached, outer, fresh) := by
  rw [caching, EStateM.run_bind]
  cases made : (makeShared entry).run world with
  | ok cached reached =>
      rw [onWorld_run made]
      rfl
  | error thrown reached => rw [onWorld_run_error made]

/-- Two scopes have the same fresh map, and nothing else of them has changed. -/
def SameFresh
    {κ : Type}
    (outer : τ)
    (other : κ)
    (first : τ × SynchronizedMap Key EntryT)
    (second : κ × SynchronizedMap Key EntryT) : Prop :=
  first.1 = outer ∧ second.1 = other ∧ first.2 = second.2

/-- In whatever scope it is called, the callback sees the fresh map only. -/
theorem caching_agree
    {κ : Type}
    (makeShared : EntryT → EStateM ε W EntryT)
    (outer : τ)
    (other : κ)
    (entry : EntryT)
    (world : W)
    (first : τ × SynchronizedMap Key EntryT)
    (second : κ × SynchronizedMap Key EntryT)
    (same : SameFresh outer other first second) :
    Agree (SameFresh outer other)
      ((caching makeShared entry).run (world, first))
      ((caching makeShared entry).run (world, second)) := by
  obtain ⟨outer, fresh⟩ := first
  obtain ⟨other, fresh'⟩ := second
  obtain ⟨rfl, rfl, rfl⟩ := same
  rw [caching_run, caching_run]
  cases (makeShared entry).run world with
  | ok cached reached => exact .ok true reached ⟨rfl, rfl, rfl⟩
  | error thrown reached => exact .error thrown reached ⟨rfl, rfl, rfl⟩

/-- A query that fills a fresh map does the same in every scope. -/
theorem caching_query_agree
    (makeShared : EntryT → EStateM ε W EntryT)
    (query : Query ε W EntryT)
    (world : W)
    (outer : τ) :
    Agree (SameFresh outer ())
      ((query.run (caching makeShared)).run
        (world, outer, ({} : SynchronizedMap Key EntryT)))
      ((query.run (caching makeShared)).run
        (world, (), ({} : SynchronizedMap Key EntryT))) := by
  have empty : SameFresh outer () (outer, ({} : SynchronizedMap Key EntryT))
      ((), {}) := ⟨rfl, rfl, rfl⟩
  exact Query.run_agree (caching_agree makeShared outer ()) query world empty

/-- A reload is the query alone with an empty map, whose map replaces the
contents of the cache if the query returns. -/
theorem reloadMaking_run
    (makeShared : EntryT → EStateM ε W EntryT)
    (queryKey : Key → Query ε W EntryT)
    (query : Query ε W EntryT)
    (world : W)
    (outer : τ)
    (cache : CacheData Key EntryT Constraint) :
    (reloadMaking makeShared (Table.ofQueries queryKey query)).run
        (world, outer, cache) =
      match (query.run (caching makeShared)).run
          (world, (), ({} : SynchronizedMap Key EntryT)) with
      | .ok () (reached, _, fresh) =>
          .ok () (reached, outer, { cache with map := fresh })
      | .error thrown (reached, _, _) =>
          .error thrown (reached, outer, cache) := by
  have agree := caching_query_agree makeShared query world (outer, cache)
  rw [reloadMaking, Table.ofQueries_query, EStateM.run_bind]
  generalize inScope : (query.run (caching makeShared)).run
    (world, (outer, cache), ({} : SynchronizedMap Key EntryT)) = ended at agree
  generalize (query.run (caching makeShared)).run
    (world, (), ({} : SynchronizedMap Key EntryT)) = alone at agree ⊢
  cases agree with
  | @ok _ reached first second same =>
      obtain ⟨scope, fresh⟩ := first
      obtain ⟨rfl, -, rfl⟩ := same
      rw [withLocal_run inScope]
      rfl
  | @error thrown reached first second same =>
      obtain ⟨scope, fresh⟩ := first
      obtain ⟨rfl, -, rfl⟩ := same
      rw [withLocal_run_error inScope]

/-! ## What a reload leaves -/

/-- Note a row and the cached entry made of it. -/
def noting (makeShared : EntryT → EStateM ε W EntryT) :
    RowCallback ε W (τ × List (EntryT × EntryT)) EntryT := fun entry => do
  let cached ← onWorld (makeShared entry)
  modifyLocal fun noted => noted ++ [(entry, cached)]
  return true

/-- A query that begins in `start` returns in `finish`, and these are the rows
it delivers, each with the cached entry made of it. -/
def Delivering
    (makeShared : EntryT → EStateM ε W EntryT)
    (query : Query ε W EntryT)
    (start finish : W)
    (rows : List (EntryT × EntryT)) : Prop :=
  (query.run (noting makeShared)).run (start, (), []) =
    .ok () (finish, (), rows)

/-- Add cached entries under the keys of their rows. -/
def fillMade (rows : List (EntryT × EntryT)) : SynchronizedMap Key EntryT :=
  rows.foldl (fun fresh row => (fresh.addDataEntry (getKey row.1) row.2).2) {}

/-- The fresh map is filled with what has been noted. -/
def Noted
    (fresh : Unit × SynchronizedMap Key EntryT)
    (noted : Unit × List (EntryT × EntryT)) : Prop :=
  fresh.2 = fillMade noted.2

theorem noting_agree
    (makeShared : EntryT → EStateM ε W EntryT)
    (entry : EntryT)
    (world : W)
    (first : Unit × SynchronizedMap Key EntryT)
    (second : Unit × List (EntryT × EntryT))
    (noted : Noted first second) :
    Agree Noted
      ((caching makeShared entry).run (world, first))
      ((noting makeShared entry).run (world, second)) := by
  obtain ⟨_, fresh⟩ := first
  obtain ⟨_, rows⟩ := second
  rw [caching_run, noting, EStateM.run_bind]
  cases made : (makeShared entry).run world with
  | ok cached reached =>
      rw [onWorld_run made]
      refine .ok true reached ?_
      rw [Noted, fillMade, List.foldl_append]
      exact congrArg
        (fun map => (SynchronizedMap.addDataEntry map (getKey entry) cached).2)
        noted
  | error thrown reached =>
      rw [onWorld_run_error made]
      exact .error thrown reached noted

/-- A reload leaves the rows its query delivers, whatever the cache held. -/
theorem reloadMaking_run_of_delivering
    {makeShared : EntryT → EStateM ε W EntryT}
    {query : Query ε W EntryT}
    {start finish : W}
    {rows : List (EntryT × EntryT)}
    (delivering : Delivering makeShared query start finish rows)
    (queryKey : Key → Query ε W EntryT)
    (outer : τ)
    (cache : CacheData Key EntryT Constraint) :
    (reloadMaking makeShared (Table.ofQueries queryKey query)).run
        (start, outer, cache) =
      .ok () (finish, outer, { cache with map := fillMade rows }) := by
  have empty : Noted ((), ({} : SynchronizedMap Key EntryT)) ((), []) := rfl
  have agree := Query.run_agree (noting_agree makeShared) query start empty
  rw [reloadMaking_run]
  unfold Delivering at delivering
  rw [delivering] at agree
  generalize (query.run (caching makeShared)).run
    (start, (), ({} : SynchronizedMap Key EntryT)) = alone at agree ⊢
  cases agree with
  | @ok _ reached first second noted =>
      obtain ⟨_, fresh⟩ := first
      cases (noted : fresh = fillMade rows)
      rfl

/-! ## Failing -/

/-- What clients can read of two caches is the same. -/
structure SameAnswers
    (cache other : CacheData Key EntryT Constraint) : Prop where
  lookup : ∀ key, other.lookup key = cache.lookup key
  lookupAllOf : ∀ constraint,
    other.lookupAllOf constraint = cache.lookupAllOf constraint
  lookupAll : other.lookupAll = cache.lookupAll
  size : other.size = cache.size

omit [Entry EntryT Key] in
theorem SameAnswers.refl (cache : CacheData Key EntryT Constraint) :
    SameAnswers cache cache :=
  ⟨fun _ => rfl, fun _ => rfl, rfl, rfl⟩

/-- When the query of a reload throws, so does the reload, and the cache answers
as before. A later reload, whose query delivers what it would have delivered had
the first not happened, leaves what it would then have left of any cache with
the predicate. -/
theorem reload_failed
    (makeShared : EntryT → EStateM ε W EntryT)
    (queryKey : Key → Query ε W EntryT)
    (query : Query ε W EntryT)
    (cache : CacheData Key EntryT Constraint)
    (outer : τ)
    {world reached : W}
    {thrown : ε}
    {left : (τ × CacheData Key EntryT Constraint) × SynchronizedMap Key EntryT}
    (threw : ((Table.ofQueries queryKey query).query (caching makeShared)).run
      (world, (outer, cache), {}) = .error thrown (reached, left)) :
    ∃ after : CacheData Key EntryT Constraint,
      (reloadMaking makeShared (Table.ofQueries queryKey query)).run
          (world, outer, cache) = .error thrown (reached, outer, after) ∧
        SameAnswers cache after ∧
        ∀ (laterMakeShared : EntryT → EStateM ε W EntryT)
          (later : Query ε W EntryT)
          (start finish otherStart otherFinish : W)
          (rows : List (EntryT × EntryT))
          (other : CacheData Key EntryT Constraint)
          (values : τ),
          Delivering laterMakeShared later start finish rows →
          Delivering laterMakeShared later otherStart otherFinish rows →
          other.predicate = cache.predicate →
          ∃ refilled : CacheData Key EntryT Constraint,
            (reloadMaking laterMakeShared (Table.ofQueries queryKey later)).run
                (start, values, after) = .ok () (finish, values, refilled) ∧
            (reloadMaking laterMakeShared (Table.ofQueries queryKey later)).run
                (otherStart, values, other) =
              .ok () (otherFinish, values, refilled) := by
  refine ⟨cache, ?_, .refl cache, ?_⟩
  · have agree := caching_query_agree makeShared query world (outer, cache)
    rw [← Table.ofQueries_query queryKey query (caching makeShared), threw]
      at agree
    have untouched : left.1 = (outer, cache) := by
      generalize (query.run (caching makeShared)).run
        (world, (), ({} : SynchronizedMap Key EntryT)) = alone at agree
      cases agree with
      | error thrown reached same => exact same.1
    rw [reloadMaking, EStateM.run_bind, withLocal_run_error threw, untouched]
  · intro laterMakeShared later start finish otherStart otherFinish rows other
      values delivering otherDelivering samePredicate
    refine ⟨_, reloadMaking_run_of_delivering delivering queryKey values cache, ?_⟩
    rw [reloadMaking_run_of_delivering otherDelivering queryKey values other,
      samePredicate]

/-- Make a copy while there is memory left. -/
def allocating (entry : EntryT) : EStateM Unit Nat EntryT := do
  if (← get) = 0 then
    throw ()
  modify (· - 1)
  return entry

/-- Deliver rows and hand on what the callback throws. -/
def deliveringAll : List EntryT → Query ε W EntryT
  | [] => .done
  | entry :: entries => .callBack entry fun
      | .ok _ => deliveringAll entries
      | .error thrown => .throw thrown

/-- A cache with one entry. -/
def cachedSeven : CacheData Nat (Nat × Nat) Unit where
  map := (SynchronizedMap.addDataEntry {} 7 (7, 70)).2

/-- Memory is exhausted by the second of two rows. -/
theorem reload_failed_outOfMemory :
    ∃ after,
      (reloadMaking allocating (Table.ofQueries
        (fun _ => .done) (deliveringAll [(1, 10), (2, 20)]))).run
          (1, (), cachedSeven) = .error () (0, (), after) ∧
      SameAnswers cachedSeven after := by
  obtain ⟨left, threw⟩ : ∃ left : (Unit × CacheData Nat (Nat × Nat) Unit) ×
      SynchronizedMap Nat (Nat × Nat),
      ((Table.ofQueries (fun _ : Nat => .done)
        (deliveringAll [(1, 10), (2, 20)])).query (caching allocating)).run
          (1, ((), cachedSeven), {}) = .error () (0, left) := ⟨_, rfl⟩
  obtain ⟨after, failed, same, _⟩ := reload_failed allocating _ _ _ () threw
  exact ⟨after, failed, same⟩

end CacheData
end Cache
end ModernCommon
