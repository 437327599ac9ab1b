import ModernCommon.Data.Table
import ModernCommon.Library.Keeps

/-!
# What queries can do

A query acts on its world, throws, and calls its callback, whose exceptions it
may catch. It reaches the variables of its caller through the callback only, so
related callbacks carry a relation between their scopes from the beginning of a
query to its end.
-/

namespace ModernCommon
namespace Data

open Library

/-- What a query does until it returns or throws. -/
inductive Query (ε W EntryT : Type)
  | done
  | throw (thrown : ε)
  /-- Read the world and change it. -/
  | act (action : W → W) (next : W → Query ε W EntryT)
  | callBack (entry : EntryT) (next : Except ε Bool → Query ε W EntryT)

namespace Query

variable {ε W EntryT τ κ : Type}

/-- Run a query with a callback. -/
def run (cb : RowCallback ε W τ EntryT) :
    Query ε W EntryT → Program ε W τ Unit
  | .done => pure ()
  | .throw thrown => MonadExcept.throw thrown
  | .act action next => do
      let world := (← get).1
      modify fun state => (action state.1, state.2)
      (next world).run cb
  | .callBack entry next => do
      let outcome ← outcomeOf (cb entry)
      (next outcome).run cb

/-- Run a program on the world and go on with its outcome. -/
def perform
    (action : EStateM ε W α)
    (next : Except ε α → Query ε W EntryT) : Query ε W EntryT :=
  .act (fun world => finalState (action.run world)) fun world =>
    match action.run world with
    | .ok result _ => next (.ok result)
    | .error thrown _ => next (.error thrown)

theorem run_act
    (cb : RowCallback ε W τ EntryT)
    (action : W → W)
    (next : W → Query ε W EntryT)
    (world : W)
    (outer : τ) :
    ((Query.act action next).run cb).run (world, outer) =
      ((next world).run cb).run (action world, outer) := rfl

theorem run_perform
    (cb : RowCallback ε W τ EntryT)
    (action : EStateM ε W α)
    (next : Except ε α → Query ε W EntryT)
    (world : W)
    (outer : τ) :
    ((perform action next).run cb).run (world, outer) =
      match action.run world with
      | .ok result reached => ((next (.ok result)).run cb).run (reached, outer)
      | .error thrown reached =>
          ((next (.error thrown)).run cb).run (reached, outer) := by
  rw [perform, run_act]
  cases action.run world <;> rfl

theorem run_callBack
    (cb : RowCallback ε W τ EntryT)
    (entry : EntryT)
    (next : Except ε Bool → Query ε W EntryT)
    (state : W × τ) :
    ((Query.callBack entry next).run cb).run state =
      match (cb entry).run state with
      | .ok more reached => ((next (.ok more)).run cb).run reached
      | .error thrown reached => ((next (.error thrown)).run cb).run reached := by
  rw [run, EStateM.run_bind, outcomeOf_run]
  cases (cb entry).run state <;> rfl

end Query

/-- Two programs ended in the same way, in scopes related by `relation`. -/
inductive Agree {ε W τ κ α : Type} (relation : τ → κ → Prop) :
    EStateM.Result ε (W × τ) α → EStateM.Result ε (W × κ) α → Prop
  | ok (result world) {first second} :
      relation first second →
      Agree relation (.ok result (world, first)) (.ok result (world, second))
  | error (thrown world) {first second} :
      relation first second →
      Agree relation (.error thrown (world, first))
        (.error thrown (world, second))

/-- Callbacks that agree make a query agree. -/
theorem Query.run_agree
    {ε W EntryT τ κ : Type}
    {relation : τ → κ → Prop}
    {cb : RowCallback ε W τ EntryT}
    {cb' : RowCallback ε W κ EntryT}
    (agree : ∀ entry world first second, relation first second →
      Agree relation ((cb entry).run (world, first))
        ((cb' entry).run (world, second)))
    (query : Query ε W EntryT)
    (world : W)
    {first : τ}
    {second : κ}
    (related : relation first second) :
    Agree relation ((query.run cb).run (world, first))
      ((query.run cb').run (world, second)) := by
  induction query generalizing world first second with
  | done => exact .ok () world related
  | throw thrown => exact .error thrown world related
  | act action next inductionHypothesis =>
      rw [run_act, run_act]
      exact inductionHypothesis world (action world) related
  | callBack entry next inductionHypothesis =>
      rw [run_callBack, run_callBack]
      generalize before : (cb entry).run (world, first) = left
      generalize after : (cb' entry).run (world, second) = right
      have called := agree entry world first second related
      rw [before, after] at called
      cases called with
      | ok more reached stillRelated =>
          exact inductionHypothesis (.ok more) reached stillRelated
      | error thrown reached stillRelated =>
          exact inductionHypothesis (.error thrown) reached stillRelated

/-- The table that queries in a given way. -/
def Table.ofQueries
    (queryKey : Key → Query ε W EntryT)
    (query : Query ε W EntryT) : Table ε W Key EntryT where
  queryKey key cb := (queryKey key).run cb
  query cb := query.run cb

theorem Table.ofQueries_query
    (queryKey : Key → Query ε W EntryT)
    (query : Query ε W EntryT)
    (cb : RowCallback ε W τ EntryT) :
    (Table.ofQueries queryKey query).query cb = query.run cb := rfl

end Data
end ModernCommon
