import Mathlib.Data.List.Basic

/-!
# Refinement of operations by their answers

A specification says which answers an operation may give in a state, and which
state it leaves then. An implementation runs an operation to an answer. When
every step of the implementation is one the specification allows, so is every
session; and when an answer tells what happened, the answers of a session tell
its final state.
-/

namespace ModernCommon
namespace Library

/-- What an operation may answer in a state, and the state it leaves. -/
abbrev Specification (α ι ω : Type*) := ι → α → ω → α → Prop

namespace Specification

variable {α ι ω σ : Type*}

/-- The specification allows these answers to these operations, one after
another. -/
inductive Explains (allows : Specification α ι ω) :
    α → List ι → List ω → α → Prop
  | nil (state) : Explains allows state [] [] state
  | cons {before between after operation answer operations answers} :
      allows operation before answer between →
      Explains allows between operations answers after →
      Explains allows before (operation :: operations) (answer :: answers) after

/-- Run operations one after another and collect their answers. -/
def session (perform : ι → σ → ω × σ) : List ι → σ → List ω × σ
  | [], state => ([], state)
  | operation :: operations, state =>
      let answered := perform operation state
      let rest := session perform operations answered.2
      (answered.1 :: rest.1, rest.2)

theorem session_nil
    (perform : ι → σ → ω × σ)
    (state : σ) :
    session perform [] state = ([], state) := rfl

theorem session_cons
    (perform : ι → σ → ω × σ)
    (operation : ι)
    (operations : List ι)
    (state : σ) :
    session perform (operation :: operations) state =
      ((perform operation state).1 ::
          (session perform operations (perform operation state).2).1,
        (session perform operations (perform operation state).2).2) := rfl

/-- A session in two parts. -/
theorem session_append
    (perform : ι → σ → ω × σ)
    (before after : List ι)
    (state : σ) :
    session perform (before ++ after) state =
      ((session perform before state).1 ++
          (session perform after (session perform before state).2).1,
        (session perform after (session perform before state).2).2) := by
  induction before generalizing state with
  | nil => rfl
  | cons operation operations inductionHypothesis =>
      rw [List.cons_append, session_cons, session_cons, inductionHypothesis]
      rfl

/-- Operations that do the same wherever an invariant of theirs holds make the
same sessions. -/
theorem session_congr
    {perform other : ι → σ → ω × σ}
    {invariant : σ → Prop}
    (agree : ∀ operation state, invariant state →
      perform operation state = other operation state)
    (kept : ∀ operation state, invariant state →
      invariant (perform operation state).2)
    (operations : List ι)
    {state : σ}
    (holds : invariant state) :
    session perform operations state = session other operations state := by
  induction operations generalizing state with
  | nil => rfl
  | cons operation operations inductionHypothesis =>
      rw [session_cons, session_cons, ← agree operation state holds,
        inductionHypothesis (kept operation state holds)]

/-- Each operation is admitted in the state the session has reached. -/
def Admits
    (perform : ι → σ → ω × σ)
    (admitted : ι → σ → Prop) : List ι → σ → Prop
  | [], _ => True
  | operation :: operations, state =>
      admitted operation state ∧
        Admits perform admitted operations (perform operation state).2

/-- What is admitted everywhere is admitted along any session. -/
theorem admits_of_forall
    {perform : ι → σ → ω × σ}
    {admitted : ι → Prop}
    {operations : List ι}
    (admits : ∀ operation ∈ operations, admitted operation)
    (state : σ) :
    Admits perform (fun operation _ => admitted operation) operations state := by
  induction operations generalizing state with
  | nil => trivial
  | cons operation operations inductionHypothesis =>
      exact ⟨admits operation List.mem_cons_self,
        inductionHypothesis
          (fun later present => admits later (List.mem_cons_of_mem _ present)) _⟩

/-- A session in two parts is admitted when both parts are. -/
theorem admits_append
    {perform : ι → σ → ω × σ}
    {admitted : ι → σ → Prop}
    {before after : List ι}
    {state : σ} :
    Admits perform admitted (before ++ after) state ↔
      Admits perform admitted before state ∧
        Admits perform admitted after (session perform before state).2 := by
  induction before generalizing state with
  | nil => simp [Admits, session_nil]
  | cons operation operations inductionHypothesis =>
      rw [List.cons_append, Admits, Admits, inductionHypothesis, session_cons,
        and_assoc]

/-- Refinement rule. If every operation that is admitted where it is performed
is answered as allowed, in related states, then every session whose operations
are admitted is explained. -/
theorem explains_session_of_admits
    {allows : Specification α ι ω}
    {perform : ι → σ → ω × σ}
    {admitted : ι → σ → Prop}
    {relation : σ → α → Prop}
    (refines : ∀ operation concrete abstract,
      admitted operation concrete → relation concrete abstract →
      ∃ next, allows operation abstract (perform operation concrete).1 next ∧
        relation (perform operation concrete).2 next)
    {operations : List ι}
    {concrete : σ}
    (admits : Admits perform admitted operations concrete)
    {abstract : α}
    (related : relation concrete abstract) :
    ∃ final,
      Explains allows abstract operations
        (session perform operations concrete).1 final ∧
      relation (session perform operations concrete).2 final := by
  induction operations generalizing concrete abstract with
  | nil => exact ⟨abstract, .nil abstract, related⟩
  | cons operation operations inductionHypothesis =>
      obtain ⟨next, allowed, stillRelated⟩ :=
        refines operation concrete abstract admits.1 related
      obtain ⟨final, explained, finallyRelated⟩ :=
        inductionHypothesis admits.2 stillRelated
      exact ⟨final, .cons allowed explained, finallyRelated⟩

/-- Refinement rule for operations that are admitted wherever they are
performed. -/
theorem explains_session
    {allows : Specification α ι ω}
    {perform : ι → σ → ω × σ}
    {admitted : ι → Prop}
    {relation : σ → α → Prop}
    (refines : ∀ operation concrete abstract,
      admitted operation → relation concrete abstract →
      ∃ next, allows operation abstract (perform operation concrete).1 next ∧
        relation (perform operation concrete).2 next)
    {operations : List ι}
    (admits : ∀ operation ∈ operations, admitted operation)
    {concrete : σ}
    {abstract : α}
    (related : relation concrete abstract) :
    ∃ final,
      Explains allows abstract operations
        (session perform operations concrete).1 final ∧
      relation (session perform operations concrete).2 final :=
  explains_session_of_admits refines (admits_of_forall admits concrete) related

/-- Answer rule. If an operation and its answer determine what becomes of the
state, then replaying a session's operations with their answers gives its final
state. -/
theorem Explains.replay
    {allows : Specification α ι ω}
    {effect : α → ι × ω → α}
    (determined : ∀ operation before answer after,
      allows operation before answer after →
        after = effect before (operation, answer))
    {before after : α}
    {operations : List ι}
    {answers : List ω}
    (explained : Explains allows before operations answers after) :
    after = (operations.zip answers).foldl effect before := by
  induction explained with
  | nil state => rfl
  | cons allowed _ inductionHypothesis =>
      rw [List.zip_cons_cons, List.foldl_cons, ← determined _ _ _ _ allowed]
      exact inductionHypothesis

/-- Operations that carry others are explained by those they carry. -/
theorem Explains.map
    {ι' : Type*}
    {allows : Specification α ι ω}
    {carried : ι' → ι}
    {before after : α}
    {operations : List ι'}
    {answers : List ω}
    (explained : Explains (fun operation => allows (carried operation)) before
      operations answers after) :
    Explains allows before (operations.map carried) answers after := by
  induction explained with
  | nil state => exact .nil state
  | cons allowed _ inductionHypothesis =>
      exact .cons allowed inductionHypothesis

end Specification
end Library
end ModernCommon
