import Mathlib.Computability.Language
import ModernCommon.Library.System

/-!
# Systems and grammars

A grammar says which sequences of operations a system takes: a system that can
always be continued to a word of the grammar runs exactly on the beginnings of
such words. A system may also be driven past what it refuses, a refused
operation leaving it where it is.
-/

namespace ModernCommon
namespace Library

open Computability

variable {σ ι : Type*}

/-! ## Letters -/

/-- The words of one letter that satisfies a test. -/
def letter (test : ι → Prop) : Language ι :=
  { word | ∃ symbol, test symbol ∧ word = [symbol] }

theorem cons_mem_letter_mul
    {test : ι → Prop}
    {language : Language ι}
    {symbol : ι}
    {word : List ι} :
    symbol :: word ∈ letter test * language ↔
      test symbol ∧ word ∈ language := by
  rw [Language.mem_mul]
  constructor
  · rintro ⟨first, ⟨other, passes, rfl⟩, rest, member, same⟩
    cases same
    exact ⟨passes, member⟩
  · rintro ⟨passes, member⟩
    exact ⟨[symbol], ⟨symbol, passes, rfl⟩, word, member, rfl⟩

/-- A nonempty repetition begins with one turn. -/
theorem cons_mem_kstar
    {language : Language ι}
    {symbol : ι}
    {word : List ι} :
    symbol :: word ∈ language∗ ↔ symbol :: word ∈ language * language∗ := by
  have unrolled := Language.one_add_self_mul_kstar_eq_kstar language
  constructor
  · intro member
    rw [← unrolled, Language.mem_add] at member
    rcases member with empty | turn
    · cases empty
    · exact turn
  · intro turn
    rw [← unrolled, Language.mem_add]
    exact .inr turn

namespace System

/-! ## Runs and words -/

/-- If from every state the words to come are those of a language that starts
as the steps do, the runs are the beginnings of words. -/
theorem exists_run_iff
    (system : System σ ι)
    (language : σ → Language ι)
    (continues : ∀ state, ∃ word, word ∈ language state)
    (steps : ∀ state operation word,
      operation :: word ∈ language state ↔
        ∃ next, system.step state operation = some next ∧
          word ∈ language next)
    (state : σ)
    (operations : List ι) :
    (∃ final, system.run state operations = some final) ↔
      ∃ rest, operations ++ rest ∈ language state := by
  induction operations generalizing state with
  | nil =>
      constructor
      · intro _
        exact continues state
      · intro _
        exact ⟨state, rfl⟩
  | cons operation operations inductionHypothesis =>
      simp only [List.cons_append, steps, run_cons_eq_some]
      constructor
      · rintro ⟨final, next, stepped, ran⟩
        obtain ⟨rest, member⟩ := (inductionHypothesis next).mp ⟨final, ran⟩
        exact ⟨rest, next, stepped, member⟩
      · rintro ⟨rest, next, stepped, member⟩
        obtain ⟨final, ran⟩ := (inductionHypothesis next).mpr ⟨rest, member⟩
        exact ⟨final, next, stepped, ran⟩

/-! ## Refused operations -/

/-- An operation that is refused leaves the system where it is. -/
def settle (system : System σ ι) (state : σ) (operation : ι) : σ :=
  (system.step state operation).getD state

/-- The operations that are not refused along the way. -/
def accepted (system : System σ ι) : σ → List ι → List ι
  | _, [] => []
  | state, operation :: operations =>
      match system.step state operation with
      | some next => operation :: system.accepted next operations
      | none => system.accepted state operations

/-- The operations accepted lead where all of them lead. -/
theorem run_accepted
    (system : System σ ι)
    (state : σ)
    (operations : List ι) :
    system.run state (system.accepted state operations) =
      some (operations.foldl system.settle state) := by
  induction operations generalizing state with
  | nil => rfl
  | cons operation operations inductionHypothesis =>
      cases stepped : system.step state operation with
      | none =>
          simp only [accepted, stepped, List.foldl_cons, settle,
            Option.getD_none]
          exact inductionHypothesis state
      | some next =>
          simp only [accepted, stepped, List.foldl_cons, settle,
            Option.getD_some, run, Option.bind_some]
          exact inductionHypothesis next

end System
end Library
end ModernCommon
