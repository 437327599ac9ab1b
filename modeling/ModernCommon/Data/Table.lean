import Mathlib.Data.List.Basic

/-!
# Tables and row callbacks

A table delivers rows to a callback until that returns false. A program over a
table acts on the world the table lives in and on the variables of its callers,
which a callback may assign to; a variable of its own is added with `withLocal`
and, as in C++, what was assigned before an exception stays assigned.
-/

namespace ModernCommon
namespace Data

/-- `Entry`: a row type and the key of a row. -/
class Entry (EntryT : Type) (Key : outParam Type) where
  getKey : EntryT → Key

export Entry (getKey)

/-- A pair, keyed by its first component. -/
instance : Entry (Key × EntryT) Key where
  getKey := Prod.fst

/-- Programs over a world `W` within the scope of variables `τ`. -/
abbrev Program (ε W τ α : Type) := EStateM ε (W × τ) α

/-- Act on the world only. -/
def onWorld (action : EStateM ε W α) : Program ε W τ α := fun state =>
  match action.run state.1 with
  | .ok result world => .ok result (world, state.2)
  | .error thrown world => .error thrown (world, state.2)

/-- Run a program in the scope of one more variable and return its value. -/
def withLocal (init : ρ) (program : Program ε W (τ × ρ) Unit) :
    Program ε W τ ρ := fun state =>
  match program.run (state.1, state.2, init) with
  | .ok () (world, outer, value) => .ok value (world, outer)
  | .error thrown (world, outer, _) => .error thrown (world, outer)

/-- Assign to the innermost variable. -/
def modifyLocal (assign : ρ → ρ) : Program ε W (τ × ρ) Unit :=
  modify fun state => (state.1, state.2.1, assign state.2.2)

/-- `RowCallback`: whether to go on after an entry. -/
abbrev RowCallback (ε W τ EntryT : Type) := EntryT → Program ε W τ Bool

/-- `Table`: a query constrained to a key and an unconstrained one. -/
structure Table (ε W Key EntryT : Type) where
  queryKey : {τ : Type} → Key → RowCallback ε W τ EntryT → Program ε W τ Unit
  query : {τ : Type} → RowCallback ε W τ EntryT → Program ε W τ Unit

/-- Call back for each entry in order until told to stop. -/
def deliver (cb : RowCallback ε W τ EntryT) : List EntryT → Program ε W τ Unit
  | [] => pure ()
  | entry :: entries => do
      if ← cb entry then
        deliver cb entries

/-- The table holds these rows: queries deliver them, and those of a key, in
order until the callback says stop, and leave the world as it is. -/
structure Delivers
    [Entry EntryT Key] [DecidableEq Key]
    (table : Table ε W Key EntryT)
    (rows : List EntryT) : Prop where
  query : ∀ {τ : Type} (cb : RowCallback ε W τ EntryT),
    table.query cb = deliver cb rows
  queryKey : ∀ {τ : Type} (key : Key) (cb : RowCallback ε W τ EntryT),
    table.queryKey key cb = deliver cb (rows.filter fun row => getKey row = key)

/-- The table that holds given rows. -/
def Table.ofRows
    [Entry EntryT Key] [DecidableEq Key]
    (rows : List EntryT) : Table ε W Key EntryT where
  queryKey key cb := deliver cb (rows.filter fun row => getKey row = key)
  query cb := deliver cb rows

theorem Table.ofRows_delivers
    [Entry EntryT Key] [DecidableEq Key]
    (rows : List EntryT) :
    Delivers (Table.ofRows rows : Table ε W Key EntryT) rows where
  query _ := rfl
  queryKey _ _ := rfl

/-! ## Query helpers -/

/-- `findByKey`: the first entry delivered for a key. -/
def findByKey (table : Table ε W Key EntryT) (key : Key) :
    Program ε W τ (Option EntryT) :=
  withLocal none (table.queryKey key fun entry => do
    modifyLocal fun _ => some entry
    return false)

/-- `queryAll`: every entry, in the order of delivery. -/
def queryAll (table : Table ε W Key EntryT) : Program ε W τ (List EntryT) :=
  withLocal [] (table.query fun entry => do
    modifyLocal fun results => results ++ [entry]
    return true)

/-- `countAll`: the number of entries. -/
def countAll (table : Table ε W Key EntryT) : Program ε W τ Nat :=
  withLocal 0 (table.query fun _ => do
    modifyLocal fun n => n + 1
    return true)

/-! ## Running them -/

theorem onWorld_run
    {action : EStateM ε W α}
    {result : α}
    {world reached : W}
    (ran : action.run world = .ok result reached)
    (outer : τ) :
    (onWorld action : Program ε W τ α).run (world, outer) =
      .ok result (reached, outer) := by
  rw [EStateM.run] at ran
  simp [onWorld, EStateM.run, ran]

theorem onWorld_run_error
    {action : EStateM ε W α}
    {thrown : ε}
    {world reached : W}
    (threw : action.run world = .error thrown reached)
    (outer : τ) :
    (onWorld action : Program ε W τ α).run (world, outer) =
      .error thrown (reached, outer) := by
  rw [EStateM.run] at threw
  simp [onWorld, EStateM.run, threw]

@[simp] theorem modifyLocal_run
    (assign : ρ → ρ)
    (world : W)
    (outer : τ)
    (value : ρ) :
    (modifyLocal assign : Program ε W (τ × ρ) Unit).run (world, outer, value) =
      .ok () (world, outer, assign value) := rfl

theorem withLocal_run
    {program : Program ε W (τ × ρ) Unit}
    {init value : ρ}
    {world reached : W}
    {outer left : τ}
    (ran : program.run (world, outer, init) = .ok () (reached, left, value)) :
    (withLocal init program).run (world, outer) = .ok value (reached, left) := by
  rw [EStateM.run] at ran
  simp [withLocal, EStateM.run, ran]

theorem withLocal_run_error
    {program : Program ε W (τ × ρ) Unit}
    {init value : ρ}
    {thrown : ε}
    {world reached : W}
    {outer left : τ}
    (threw : program.run (world, outer, init) =
      .error thrown (reached, left, value)) :
    (withLocal init program).run (world, outer) =
      .error thrown (reached, left) := by
  rw [EStateM.run] at threw
  simp [withLocal, EStateM.run, threw]

/-- Without a world to act on, delivery to a callback that never stops folds
the entries into the variable it assigns. -/
theorem deliver_fold_run
    (assign : ρ → EntryT → ρ)
    (entries : List EntryT)
    (world : W)
    (outer : τ)
    (value : ρ) :
    (deliver (fun entry => do
        modifyLocal fun value => assign value entry
        return true) entries : Program ε W (τ × ρ) Unit).run
        (world, outer, value) =
      .ok () (world, outer, entries.foldl assign value) := by
  induction entries generalizing value with
  | nil => rfl
  | cons entry entries inductionHypothesis =>
      simp only [deliver, EStateM.run_bind, modifyLocal_run, EStateM.run_pure,
        if_true]
      exact inductionHypothesis (assign value entry)

/-- Delivery to a callback that stops at once reaches the first entry only. -/
theorem deliver_first_run
    (entries : List EntryT)
    (world : W)
    (outer : τ)
    (value : Option EntryT) :
    (deliver (fun entry => do
        modifyLocal fun _ => some entry
        return false) entries : Program ε W (τ × Option EntryT) Unit).run
        (world, outer, value) =
      .ok () (world, outer, entries.head?.or value) := by
  cases entries <;> simp [deliver]

end Data
end ModernCommon
