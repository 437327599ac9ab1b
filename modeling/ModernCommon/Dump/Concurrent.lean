import ModernCommon.Dump.Ledger
import ModernCommon.Library.Termination

/-!
# The registry and its threads

Registrations and deregistrations hold the mutex of the registry alone; dumps
share it. A dump reads the map anew for every entry it visits, and other threads
run between its steps. It visits the registrations of one instant nevertheless,
and an object whose registrations are all struck out is visited by no dump from
then on, not even by one that was called before.
-/

namespace ModernCommon
namespace Dump

open Library

variable {Name Object : Type} [LinearOrder Name] [DecidableEq Object]

/-- The functions of the registry. -/
inductive RegistryCall (Name Object : Type)
  | change (call : Call Name Object)
  | dump
  | dumpNamed (name : Name)
  | getNumberOfRegisteredObjects

/-- The change a call makes, if it makes one. -/
def RegistryCall.changes : RegistryCall Name Object → List (Call Name Object)
  | .change call => [call]
  | _ => []

/-- How a call of the registry is answered. -/
inductive RegistryAnswer (Name Object : Type)
  | returned
  | wrote (output : List (Output Name Object))
  | number (n : Nat)

namespace DiagnosticDumpRegistry

/-- Visit so many entries from a position on, reading the map for each. -/
def visit : Nat → Nat →
    Routine (DiagnosticDumpRegistry Name Object) (List (Output Name Object))
  | 0, _ => .done []
  | count + 1, position =>
      .access id fun registry =>
        match registry.map.entries[position]? with
        | none => .done []
        | some entry => do
            let rest ← visit count (position + 1)
            return dumpEntry entry ++ rest

/-- Look for an object from a position on, and erase where it is found. -/
def eraseFrom (obj : Object) : Nat → Nat →
    Routine (DiagnosticDumpRegistry Name Object) Unit
  | 0, _ => .done ()
  | count + 1, position =>
      .access id fun registry =>
        match registry.map.entries[position]? with
        | none => .done ()
        | some entry =>
            if entry.2 = obj then
              .access (fun registry => ⟨registry.map.eraseAt position⟩)
                fun _ => .done ()
            else eraseFrom obj count (position + 1)

/-- The rules above and below what a dump wrote. -/
def ruled (output : List (Output Name Object)) : List (Output Name Object) :=
  [.text "\n------------------------------------------------\n"] ++ output ++
    [.text "------------------------------------------------\n"]

/-- `dump()`, step by step. -/
def dumpRoutine :
    Routine (DiagnosticDumpRegistry Name Object) (List (Output Name Object)) := do
  let count ← Routine.read fun registry => registry.map.entries.length
  let output ← visit count 0
  return ruled output

/-- `dump(name)`, step by step; the range is determined first. -/
def dumpNamedRoutine (name : Name) :
    Routine (DiagnosticDumpRegistry Name Object) (List (Output Name Object)) := do
  let range ← Routine.read fun registry =>
    ((registry.map.entries.takeWhile fun entry => entry.1 < name).length,
      (registry.map.equalRange name).length)
  let output ← visit range.2 range.1
  return ruled output

/-- `deregisterObject`, step by step. -/
def deregisterObjectRoutine (obj : Object) :
    Routine (DiagnosticDumpRegistry Name Object) Unit := do
  let count ← Routine.read fun registry => registry.map.entries.length
  eraseFrom obj count 0

/-! ## The steps on their own -/

omit [DecidableEq Object] in
theorem visit_run
    (count position : Nat)
    (registry : DiagnosticDumpRegistry Name Object) :
    (visit count position).run registry =
      (((registry.map.entries.drop position).take count).flatMap dumpEntry,
        registry) := by
  induction count generalizing position with
  | zero => rfl
  | succ count inductionHypothesis =>
      rw [visit, Routine.run, id]
      cases found : registry.map.entries[position]? with
      | none =>
          rw [List.drop_eq_nil_of_le (List.getElem?_eq_none_iff.mp found)]
          rfl
      | some entry =>
          obtain ⟨inRange, isEntry⟩ := List.getElem?_eq_some_iff.mp found
          rw [List.drop_eq_getElem_cons inRange, isEntry, List.take_succ_cons,
            List.flatMap_cons]
          simp only
          rw [Routine.run_bind, inductionHypothesis]
          rfl

omit [DecidableEq Object] in
theorem visit_readOnly (count position : Nat) :
    (visit count position :
      Routine (DiagnosticDumpRegistry Name Object) _).ReadOnly := by
  induction count generalizing position with
  | zero => trivial
  | succ count inductionHypothesis =>
      refine ⟨fun _ => rfl, ?_⟩
      intro registry
      simp only
      cases registry.map.entries[position]? with
      | none => exact Routine.readOnly_pure []
      | some entry =>
          exact (inductionHypothesis (position + 1)).bind fun rest =>
            Routine.readOnly_pure (dumpEntry entry ++ rest)

omit [DecidableEq Object] in
theorem dumpRoutine_run (registry : DiagnosticDumpRegistry Name Object) :
    dumpRoutine.run registry = (registry.dump, registry) := by
  rw [dumpRoutine, Routine.run_bind, Routine.run_bind, Routine.run_read,
    visit_run, List.drop_zero, List.take_length]
  rfl

omit [DecidableEq Object] in
theorem dumpNamedRoutine_run
    (registry : DiagnosticDumpRegistry Name Object)
    (name : Name) :
    (dumpNamedRoutine name).run registry =
      (registry.dumpNamed name, registry) := by
  have split := List.takeWhile_append_dropWhile
    (p := fun entry : Name × Object => decide (entry.1 < name))
    (l := registry.map.entries)
  have range : ((registry.map.entries.drop
      (registry.map.entries.takeWhile fun entry => entry.1 < name).length).take
        (registry.map.equalRange name).length) =
          registry.map.equalRange name := by
    have dropped := congrArg (List.drop
      (registry.map.entries.takeWhile fun entry => entry.1 < name).length) split
    rw [List.drop_left] at dropped
    rw [← dropped]
    exact (List.prefix_iff_eq_take.mp (List.takeWhile_prefix _)).symm
  rw [dumpNamedRoutine, Routine.run_bind, Routine.run_bind, Routine.run_read,
    visit_run, range]
  rfl

/-- What is looked for is erased at its first entry. -/
theorem eraseFrom_run
    (obj : Object)
    {front back : List (Name × Object)}
    (notBefore : ∀ entry ∈ front, entry.2 ≠ obj)
    (registry : DiagnosticDumpRegistry Name Object)
    (split : registry.map.entries = front ++ back) :
    (eraseFrom obj back.length front.length).run registry =
      ((), registry.deregisterObject obj) := by
  have erased : (registry.map.eraseFirst fun entry => entry.2 = obj).entries =
      front ++ back.eraseP fun entry => entry.2 = obj := by
    change registry.map.entries.eraseP _ = _
    rw [split, List.eraseP_append_right _ (by simpa using notBefore)]
  induction back generalizing front with
  | nil =>
      have same : registry.deregisterObject obj = registry := by
        apply congrArg DiagnosticDumpRegistry.mk
        apply Multimap.ext_entries
        rw [erased, split]
        rfl
      rw [same]
      rfl
  | cons entry back inductionHypothesis =>
      have here : registry.map.entries[front.length]? = some entry := by
        rw [split]
        simp
      rw [List.length_cons, eraseFrom, Routine.run, id, here]
      simp only
      by_cases isObject : entry.2 = obj
      · rw [if_pos isObject]
        refine Prod.ext rfl (congrArg DiagnosticDumpRegistry.mk ?_)
        apply Multimap.ext_entries
        change registry.map.entries.eraseIdx front.length = _
        rw [erased, split, List.eraseIdx_append_of_length_le (le_refl _)]
        simp [isObject]
      · rw [if_neg isObject]
        have notYet : ∀ other ∈ front ++ [entry], other.2 ≠ obj := by
          intro other present
          rcases List.mem_append.mp present with inFront | isEntry
          · exact notBefore other inFront
          · rw [List.mem_singleton.mp isEntry]
            exact isObject
        have rest := inductionHypothesis notYet (by rw [split]; simp)
          (by rw [erased]; simp [isObject])
        rwa [List.length_append] at rest

theorem deregisterObjectRoutine_run
    (obj : Object)
    (registry : DiagnosticDumpRegistry Name Object) :
    (deregisterObjectRoutine obj).run registry =
      ((), registry.deregisterObject obj) := by
  rw [deregisterObjectRoutine, Routine.run_bind, Routine.run_read]
  have notBefore : ∀ entry ∈ ([] : List (Name × Object)), entry.2 ≠ obj := by
    simp
  exact eraseFrom_run obj notBefore registry rfl

/-! ## The mutex of the registry -/

/-- What a call does, step by step. -/
def callRoutine :
    RegistryCall Name Object →
      Routine (DiagnosticDumpRegistry Name Object) (RegistryAnswer Name Object)
  | .change (.registerObject name obj) =>
      .access (fun registry => registry.registerObject name obj)
        fun _ => .done .returned
  | .change (.deregisterObject obj) => do
      deregisterObjectRoutine obj
      return .returned
  | .dump => do
      let output ← dumpRoutine
      return .wrote output
  | .dumpNamed name => do
      let output ← dumpNamedRoutine name
      return .wrote output
  | .getNumberOfRegisteredObjects =>
      Routine.read fun registry => .number registry.getNumberOfRegisteredObjects

/-- What a call answers at one instant. -/
def answer
    (registry : DiagnosticDumpRegistry Name Object) :
    RegistryCall Name Object → RegistryAnswer Name Object
  | .change _ => .returned
  | .dump => .wrote registry.dump
  | .dumpNamed name => .wrote (registry.dumpNamed name)
  | .getNumberOfRegisteredObjects =>
      .number registry.getNumberOfRegisteredObjects

omit [DecidableEq Object] in
theorem dumpRoutine_readOnly :
    (dumpRoutine :
      Routine (DiagnosticDumpRegistry Name Object) _).ReadOnly := by
  apply (Routine.readOnly_read _).bind
  intro count
  apply (visit_readOnly count 0).bind
  intro output
  exact Routine.readOnly_pure (ruled output)

omit [DecidableEq Object] in
theorem dumpNamedRoutine_readOnly (name : Name) :
    (dumpNamedRoutine name :
      Routine (DiagnosticDumpRegistry Name Object) _).ReadOnly := by
  apply (Routine.readOnly_read _).bind
  intro range
  apply (visit_readOnly range.2 range.1).bind
  intro output
  exact Routine.readOnly_pure (ruled output)

/-- On its own, a call answers for the state it finds and makes its change. -/
theorem callRoutine_run
    (call : RegistryCall Name Object)
    (registry : DiagnosticDumpRegistry Name Object) :
    (callRoutine call).run registry =
      (registry.answer call, call.changes.foldl step registry) := by
  cases call with
  | change change =>
      cases change with
      | registerObject name obj => rfl
      | deregisterObject obj =>
          rw [callRoutine, Routine.run_bind, deregisterObjectRoutine_run]
          rfl
  | dump =>
      rw [callRoutine, Routine.run_bind, dumpRoutine_run]
      rfl
  | dumpNamed name =>
      rw [callRoutine, Routine.run_bind, dumpNamedRoutine_run]
      rfl
  | getNumberOfRegisteredObjects => rfl

/-- `_mutex`: changes take it alone, everything else shares it. -/
def mutex :
    SharedMutex (DiagnosticDumpRegistry Name Object) (RegistryCall Name Object)
      (RegistryAnswer Name Object) where
  routine := callRoutine
  intrusion := nofun
  exclusive := fun
    | .change _ => true
    | _ => false
  readOnly call isShared := by
    cases call with
    | change call => cases isShared
    | dump =>
        apply dumpRoutine_readOnly.bind
        intro output
        exact Routine.readOnly_pure _
    | dumpNamed name =>
        apply (dumpNamedRoutine_readOnly name).bind
        intro output
        exact Routine.readOnly_pure _
    | getNumberOfRegisteredObjects => exact Routine.readOnly_read _

end DiagnosticDumpRegistry

/-! ## The registry is changed and dumped at instants -/

/-- The changes in a history, in order. -/
def changesOf
    {ThreadId : Type}
    (history : List (Monitor.Entry ThreadId (RegistryCall Name Object) Empty
      (RegistryAnswer Name Object))) : List (Call Name Object) :=
  (history.filterMap Monitor.Entry.operation).flatMap RegistryCall.changes

variable {ThreadId : Type}

omit [LinearOrder Name] [DecidableEq Object] in
theorem changesOf_append
    (earlier later : List (Monitor.Entry ThreadId (RegistryCall Name Object) Empty
      (RegistryAnswer Name Object))) :
    changesOf (earlier ++ later) = changesOf earlier ++ changesOf later := by
  simp [changesOf]

/-- One after another, the calls leave what the changes among them leave. -/
theorem run_changesOf
    {history : List (Monitor.Entry ThreadId (RegistryCall Name Object) Empty
      (RegistryAnswer Name Object))}
    {final : DiagnosticDumpRegistry Name Object}
    (sequential : DiagnosticDumpRegistry.mutex.Sequential
      DiagnosticDumpRegistry.initial history final) :
    final = DiagnosticDumpRegistry.run (changesOf history) := by
  induction sequential with
  | nil => rfl
  | answered thread call _ inductionHypothesis =>
      rw [changesOf_append, DiagnosticDumpRegistry.run, List.foldl_append]
      change ((DiagnosticDumpRegistry.callRoutine call).run _).2 = _
      rw [DiagnosticDumpRegistry.callRoutine_run, inductionHypothesis]
      simp [Monitor.Entry.operation, DiagnosticDumpRegistry.run, changesOf]
  | intruded call => cases call

/-- In every run of any number of threads, every call was answered as the
registry stood after the changes that were answered before it. While no thread
is changing it the registry stands as all of them left it, and each thread's
calls were answered in its order. -/
theorem registry_linearizes
    [DecidableEq ThreadId]
    {todo : ThreadId → List (RegistryCall Name Object)}
    {events : List (SharedMutex.Event ThreadId)}
    {state}
    (ran : (DiagnosticDumpRegistry.mutex.system
        DiagnosticDumpRegistry.initial todo).run
      (DiagnosticDumpRegistry.mutex.system
        DiagnosticDumpRegistry.initial todo).initial events = some state) :
    (∀ before thread call answer after,
      state.history = before ++ .answered thread call answer :: after →
        answer =
          (DiagnosticDumpRegistry.run (changesOf before)).answer call) ∧
    ((∀ thread call rest, state.inside.lookup thread = some (call, rest) →
      call.changes = []) →
        state.shared = DiagnosticDumpRegistry.run (changesOf state.history)) ∧
    ∀ thread,
      Monitor.operationsOf thread state.history ++
        SharedMutex.operationIn state.inside thread ++ state.todo thread =
          todo thread := by
  obtain ⟨_, ⟨final, sequential, settled, _⟩, ordered⟩ :=
    DiagnosticDumpRegistry.mutex.linear_of_run ran
  refine ⟨?_, ?_, ordered⟩
  · intro before thread call answer after split
    obtain ⟨middle, earlier, isAnswer⟩ := sequential.answered_of_split split
    change answer = ((DiagnosticDumpRegistry.callRoutine call).run middle).1
      at isAnswer
    rw [isAnswer, DiagnosticDumpRegistry.callRoutine_run, run_changesOf earlier]
  · intro noneChanges
    rw [← run_changesOf sequential]
    apply settled
    intro thread call rest found
    cases call with
    | change call => cases noneChanges thread _ rest found
    | dump => rfl
    | dumpNamed name => rfl
    | getNumberOfRegisteredObjects => rfl

/-- What two threads do with an object. -/
def registerAndDump : Bool → List (RegistryCall Nat Char)
  | true => [.change (.registerObject 1 'a'), .dump, .dump]
  | false => [.dump, .change (.deregisterObject 'a')]

/-- Both dump at the same time what the first of them registered. -/
def dumpTogether : List (SharedMutex.Event Bool) :=
  [.enter true, .proceed true, .leave true, .enter true, .enter false,
    .proceed false, .proceed true, .proceed true, .proceed false,
    .leave true, .leave false]

/-- The second of them deregisters it, and the first dumps again. -/
def deregisterAlone : List (SharedMutex.Event Bool) :=
  [.enter false, .proceed false, .proceed false, .proceed false, .leave false]

/-- The first thread dumps once more. -/
def dumpAgain : List (SharedMutex.Event Bool) :=
  [.enter true, .proceed true, .leave true]

theorem registry_linearizes_two :
    let system := DiagnosticDumpRegistry.mutex.system
      DiagnosticDumpRegistry.initial registerAndDump
    ∃ state, system.run system.initial dumpTogether = some state ∧
      state.history.length = 3 ∧
      (∀ before thread call answer after,
        state.history = before ++ .answered thread call answer :: after →
          answer =
            (DiagnosticDumpRegistry.run (changesOf before)).answer call) ∧
      ((∀ thread call rest, state.inside.lookup thread = some (call, rest) →
        call.changes = []) →
          state.shared =
            DiagnosticDumpRegistry.run (changesOf state.history)) ∧
      ∀ thread,
        Monitor.operationsOf thread state.history ++
          SharedMutex.operationIn state.inside thread ++ state.todo thread =
            registerAndDump thread := by
  intro system
  obtain ⟨state, ran, threeAnswers⟩ :
      ∃ state, system.run system.initial dumpTogether = some state ∧
        state.history.length = 3 := ⟨_, rfl, rfl⟩
  exact ⟨state, ran, threeAnswers, registry_linearizes ran⟩

/-- However any number of threads are scheduled, it ends, and not before every
call of every thread has been answered; the registry is then what all their
changes made of it, in the order in which they were answered. No dump waits for
ever for a change, and no change for a dump. -/
theorem registry_completes
    [DecidableEq ThreadId]
    [Finite ThreadId]
    (todo : ThreadId → List (RegistryCall Name Object)) :
    let system := DiagnosticDumpRegistry.mutex.system
      DiagnosticDumpRegistry.initial todo
    system.Ends system.initial ∧
      ∀ events state, system.run system.initial events = some state →
        system.Stuck state →
        state.shared = DiagnosticDumpRegistry.run (changesOf state.history) ∧
        ∀ thread,
          Monitor.operationsOf thread state.history = todo thread := by
  intro system
  obtain ⟨ends, answered⟩ :=
    DiagnosticDumpRegistry.mutex.completes DiagnosticDumpRegistry.initial todo
  refine ⟨ends, fun events state ran stuck => ?_⟩
  obtain ⟨outside, _⟩ := DiagnosticDumpRegistry.mutex.answered_of_stuck stuck
  obtain ⟨_, ⟨final, sequential, settled, _⟩, _⟩ :=
    DiagnosticDumpRegistry.mutex.linear_of_run ran
  refine ⟨?_, answered events state ran stuck⟩
  rw [← run_changesOf sequential]
  apply settled
  intro thread call rest found
  rw [outside thread] at found
  cases found

theorem registry_completes_two :
    let system := DiagnosticDumpRegistry.mutex.system
      DiagnosticDumpRegistry.initial registerAndDump
    system.Ends system.initial ∧
      ∀ events state, system.run system.initial events = some state →
        system.Stuck state →
        state.shared = DiagnosticDumpRegistry.run (changesOf state.history) ∧
        ∀ thread, Monitor.operationsOf thread state.history =
          registerAndDump thread :=
  registry_completes registerAndDump

/-! ## Objects that are gone -/

/-- Calls of others leave nothing of an object that had nothing. -/
theorem holdings_of_no_registration
    {obj : Object}
    {calls later : List (Call Name Object)}
    (nothing : (remaining calls).holdings obj = 0)
    (noRegistration : registrations obj later = 0) :
    (remaining (calls ++ later)).holdings obj = 0 := by
  induction later using List.reverseRecOn with
  | nil => rwa [List.append_nil]
  | append_singleton later call inductionHypothesis =>
      rw [← List.append_assoc, remaining_concat]
      cases call with
      | registerObject name other =>
          rw [registrations_registerObject] at noRegistration
          have counted := Ledger.holdings_register
            (remaining (calls ++ later)) name other obj
          have before := inductionHypothesis (by omega)
          rw [Ledger.step, counted]
          omega
      | deregisterObject other =>
          rw [registrations_deregisterObject] at noRegistration
          have counted :=
            ((remaining (calls ++ later)).deregister_removes other).holdings obj
          have before := inductionHypothesis noRegistration
          rw [Ledger.step, counted]
          omega

omit [DecidableEq Object] in
/-- What a dump of either kind calls is registered. -/
theorem mem_of_dumped
    {registry : DiagnosticDumpRegistry Name Object}
    {call : RegistryCall Name Object}
    {output : List (Output Name Object)}
    (wrote : registry.answer call = .wrote output)
    {obj : Object}
    (called : obj ∈ dumped output) :
    ∃ name, (name, obj) ∈ registry.map.entries := by
  cases call with
  | change call => cases wrote
  | getNumberOfRegisteredObjects => cases wrote
  | dump =>
      cases wrote
      rw [DiagnosticDumpRegistry.dump, dumped_framed] at called
      obtain ⟨⟨name, _⟩, present, rfl⟩ := List.mem_map.mp called
      exact ⟨name, present⟩
  | dumpNamed name =>
      cases wrote
      rw [DiagnosticDumpRegistry.dumpNamed, dumped_framed,
        Multimap.equalRange_eq_filter] at called
      obtain ⟨⟨name, _⟩, present, rfl⟩ := List.mem_map.mp called
      exact ⟨name, List.mem_of_mem_filter present⟩

/-- An object with nothing left in the books is called by no dump. -/
theorem not_dumped
    {obj : Object}
    {calls : List (Call Name Object)}
    (nothing : (remaining calls).holdings obj = 0)
    {call : RegistryCall Name Object}
    {output : List (Output Name Object)}
    (wrote : (DiagnosticDumpRegistry.run calls).answer call = .wrote output) :
    obj ∉ dumped output := by
  intro called
  obtain ⟨name, present⟩ := mem_of_dumped wrote called
  rw [Ledger.holdings, List.countP_eq_zero] at nothing
  exact nothing (name, obj) ((run_arranges calls).mem_iff.mp present) (by simp)

/-- Once every registration of an object has been answered by a deregistration,
and as long as no new one is, no dump calls the object: neither one that ends
later nor one that is still going on, whenever it was called. -/
theorem deregistered_not_dumped
    [DecidableEq ThreadId]
    {todo : ThreadId → List (RegistryCall Name Object)}
    {earlier later : List (SharedMutex.Event ThreadId)}
    {between state}
    (ranEarlier : (DiagnosticDumpRegistry.mutex.system
        DiagnosticDumpRegistry.initial todo).run
      (DiagnosticDumpRegistry.mutex.system
        DiagnosticDumpRegistry.initial todo).initial earlier = some between)
    (ranLater : (DiagnosticDumpRegistry.mutex.system
        DiagnosticDumpRegistry.initial todo).run between later = some state)
    {obj : Object}
    (balanced : Balanced obj (changesOf between.history))
    (noRegistration : registrations obj
        (changesOf (state.history.drop between.history.length)) = 0) :
    (∀ thread call output,
      .answered thread call (.wrote output) ∈
        state.history.drop between.history.length → obj ∉ dumped output) ∧
    ∀ thread call rest output,
      state.inside.lookup thread = some (call, rest) →
        (rest.run state.shared).1 = .wrote output → obj ∉ dumped output := by
  obtain ⟨since, grown⟩ := DiagnosticDumpRegistry.mutex.history_prefix_of_run
    DiagnosticDumpRegistry.initial todo ranLater
  have isSince : state.history.drop between.history.length = since := by
    rw [← grown, List.drop_left]
  rw [isSince] at noRegistration ⊢
  have nothing : (remaining (changesOf between.history)).holdings obj = 0 := by
    have accounted := holdings_remaining balanced.neverMore
    rw [balanced.equal] at accounted
    omega
  have stillNothing : ∀ before, before <+: since →
      (remaining (changesOf (between.history ++ before))).holdings obj = 0 := by
    rintro before ⟨after, rfl⟩
    rw [changesOf_append] at noRegistration ⊢
    apply holdings_of_no_registration nothing
    rw [registrations, List.countP_append] at noRegistration
    exact Nat.eq_zero_of_add_eq_zero_right noRegistration
  have ran : (DiagnosticDumpRegistry.mutex.system
      DiagnosticDumpRegistry.initial todo).run
        (DiagnosticDumpRegistry.mutex.system
          DiagnosticDumpRegistry.initial todo).initial (earlier ++ later) =
            some state := by
    rw [System.run_append_eq_some]
    exact ⟨between, ranEarlier, ranLater⟩
  obtain ⟨_, ⟨final, sequential, _, atomic⟩, _⟩ :=
    DiagnosticDumpRegistry.mutex.linear_of_run ran
  refine ⟨?_, ?_⟩
  · intro thread call output present
    obtain ⟨before, after, rfl⟩ := List.append_of_mem present
    rw [← List.append_assoc] at grown
    obtain ⟨middle, ledBy, isAnswer⟩ :=
      sequential.answered_of_split grown.symm
    change _ = ((DiagnosticDumpRegistry.callRoutine call).run middle).1
      at isAnswer
    rw [DiagnosticDumpRegistry.callRoutine_run, run_changesOf ledBy] at isAnswer
    exact not_dumped (stillNothing before (List.prefix_append before _))
      isAnswer.symm
  · intro thread call rest output found isAnswer
    have ended := (atomic thread call rest found).1
    change _ = (DiagnosticDumpRegistry.callRoutine call).run final at ended
    rw [ended, DiagnosticDumpRegistry.callRoutine_run,
      run_changesOf sequential, ← grown] at isAnswer
    exact not_dumped (stillNothing since List.prefix_rfl) isAnswer

/-- An object is registered, dumped twice, deregistered, and a dump follows. -/
theorem deregistered_not_dumped_one :
    let system := DiagnosticDumpRegistry.mutex.system
      DiagnosticDumpRegistry.initial registerAndDump
    ∃ between state,
      system.run system.initial (dumpTogether ++ deregisterAlone) =
        some between ∧
      system.run between dumpAgain = some state ∧
      (state.history.drop between.history.length).length = 1 ∧
      (∀ thread call output,
        .answered thread call (.wrote output) ∈
          state.history.drop between.history.length → 'a' ∉ dumped output) ∧
      ∀ thread call rest output,
        state.inside.lookup thread = some (call, rest) →
          (rest.run state.shared).1 = .wrote output → 'a' ∉ dumped output := by
  intro system
  obtain ⟨between, state, ranEarlier, ranLater, isHistory, oneAnswer, noChange⟩ :
      ∃ between state,
        system.run system.initial (dumpTogether ++ deregisterAlone) =
          some between ∧
        system.run between dumpAgain = some state ∧
        changesOf between.history =
          [.registerObject 1 'a', .deregisterObject 'a'] ∧
        (state.history.drop between.history.length).length = 1 ∧
        changesOf (state.history.drop between.history.length) = [] :=
    ⟨_, _, rfl, rfl, rfl, rfl, rfl⟩
  have balanced : Balanced 'a' (changesOf between.history) := by
    rw [isHistory]
    refine ⟨?_, by decide⟩
    intro before isPrefix
    rcases List.prefix_cons_iff.mp isPrefix with rfl | ⟨after, rfl, further⟩
    · decide
    rcases List.prefix_cons_iff.mp further with rfl | ⟨last, rfl, atEnd⟩
    · decide
    · obtain rfl := List.prefix_nil.mp atEnd
      decide
  exact ⟨between, state, ranEarlier, ranLater, oneAnswer,
    deregistered_not_dumped ranEarlier ranLater balanced (by rw [noChange]; rfl)⟩

end Dump
end ModernCommon
