import Mathlib.Data.List.Induction
import Mathlib.Order.MinMax
import ModernCommon.Dump.Registry

/-!
# The books of the registry

The ledger lists the registrations that remain in the order in which they were
made; a deregistration strikes out the oldest one under the smallest name that
has one. Over every sequence of calls the map of the registry arranges the
ledger, so what is dumped, and in which order, is read off the ledger.
-/

namespace ModernCommon
namespace Dump

open Library

variable {Name Object : Type*} [LinearOrder Name] [DecidableEq Object]

/-- The registrations that remain, in the order in which they were made. -/
abbrev Ledger (Name Object : Type*) := List (Name × Object)

namespace Ledger

/-- The smallest name under which an object is registered. -/
def smallestName (ledger : Ledger Name Object) (obj : Object) : Option Name :=
  ((ledger.filter fun entry => entry.2 = obj).map Prod.fst).min?

/-- The new registration is the youngest. -/
def register
    (ledger : Ledger Name Object)
    (name : Name)
    (obj : Object) : Ledger Name Object :=
  ledger ++ [(name, obj)]

/-- The oldest registration under the smallest name is struck out. -/
def deregister (ledger : Ledger Name Object) (obj : Object) : Ledger Name Object :=
  match ledger.smallestName obj with
  | none => ledger
  | some name => ledger.erase (name, obj)

/-- How many registrations of an object remain. -/
def holdings (ledger : Ledger Name Object) (obj : Object) : Nat :=
  ledger.countP fun entry => entry.2 = obj

theorem smallestName_eq_none_iff
    {ledger : Ledger Name Object}
    {obj : Object} :
    ledger.smallestName obj = none ↔ ∀ name, (name, obj) ∉ ledger := by
  rw [smallestName, List.min?_eq_none_iff, List.map_eq_nil_iff, List.filter_eq_nil_iff]
  constructor
  · intro noEntry name member
    exact noEntry (name, obj) member (by simp)
  · rintro noName ⟨name, other⟩ member isObject
    have sameObject : other = obj := of_decide_eq_true isObject
    rw [sameObject] at member
    exact noName name member

theorem smallestName_eq_some_iff
    {ledger : Ledger Name Object}
    {obj : Object}
    {name : Name} :
    ledger.smallestName obj = some name ↔
      (name, obj) ∈ ledger ∧ ∀ other, (other, obj) ∈ ledger → name ≤ other := by
  have isName : ∀ other,
      other ∈ (ledger.filter fun entry => entry.2 = obj).map Prod.fst ↔
        (other, obj) ∈ ledger := by
    intro other
    simp
  rw [smallestName, List.min?_eq_some_iff, isName]
  simp only [isName]

end Ledger

/-- Exactly one registration of the object is gone, the oldest one under the
smallest name that had one, or none if there was none; the others are where they
were. -/
def Removes (obj : Object) (before after : Ledger Name Object) : Prop :=
  (after = before ∧ ∀ name, (name, obj) ∉ before) ∨
    ∃ front name back, before = front ++ (name, obj) :: back ∧
      after = front ++ back ∧ (name, obj) ∉ front ∧
      ∀ other, (other, obj) ∈ before → name ≤ other

theorem Ledger.deregister_removes
    (ledger : Ledger Name Object)
    (obj : Object) :
    Removes obj ledger (ledger.deregister obj) := by
  unfold deregister
  cases smallest : ledger.smallestName obj with
  | none => exact .inl ⟨rfl, smallestName_eq_none_iff.mp smallest⟩
  | some name =>
      obtain ⟨member, least⟩ := smallestName_eq_some_iff.mp smallest
      obtain ⟨front, back, notBefore, split, joined⟩ := List.exists_erase_eq member
      exact .inr ⟨front, name, back, split, joined, notBefore, least⟩

-- Registered under two names, and twice under the smaller one, an object loses
-- the older of these two registrations.
example :
    Ledger.deregister [(2, true), (1, false), (1, true), (3, false), (1, true)] true =
      [(2, true), (1, false), (3, false), (1, true)] := by decide

/-! ## The registry follows the ledger -/

namespace DiagnosticDumpRegistry

/-- What is erased from the map is one entry of the object, or nothing. -/
theorem deregisterObject_removes
    (registry : DiagnosticDumpRegistry Name Object)
    (obj : Object) :
    Removes obj registry.map.entries (registry.deregisterObject obj).map.entries := by
  rcases registry.map.eraseFirst_cases fun entry => entry.2 = obj with
    ⟨same, noEntry⟩ | ⟨front, ⟨name, other⟩, back, split, joined, notBefore, isObject, least⟩
  · refine .inl ⟨by rw [deregisterObject, same], fun name member => ?_⟩
    exact noEntry (name, obj) member (by simp)
  · have sameObject : other = obj := of_decide_eq_true isObject
    rw [sameObject] at split
    refine .inr ⟨front, name, back, split, joined, fun inFront => ?_, ?_⟩
    · exact notBefore (name, obj) inFront (by simp)
    · intro smaller member
      exact least (smaller, obj) member (by simp)

variable {registry : DiagnosticDumpRegistry Name Object} {ledger : Ledger Name Object}

/-- The ledger strikes out the registration whose entry is erased. -/
theorem deregisterObject_arranges
    (arranges : registry.map.Arranges ledger)
    (obj : Object) :
    (registry.deregisterObject obj).map.Arranges (ledger.deregister obj) := by
  unfold Ledger.deregister
  rcases registry.deregisterObject_removes obj with
    ⟨same, noName⟩ | ⟨front, name, back, split, joined, notBefore, least⟩
  · have noneLeft : ledger.smallestName obj = none := by
      rw [Ledger.smallestName_eq_none_iff]
      intro name member
      exact noName name (arranges.mem_iff.mpr member)
    rw [noneLeft]
    intro name
    rw [same]
    exact arranges name
  · have smallest : ledger.smallestName obj = some name := by
      rw [Ledger.smallestName_eq_some_iff]
      refine ⟨arranges.mem_iff.mp ?_, fun other member => ?_⟩
      · rw [split]
        exact List.mem_append_right _ List.mem_cons_self
      · exact least other (arranges.mem_iff.mpr member)
    rw [smallest]
    exact arranges.remove split joined notBefore

end DiagnosticDumpRegistry

/-- What a call does to the ledger. -/
def Ledger.step (ledger : Ledger Name Object) : Call Name Object → Ledger Name Object
  | .registerObject name obj => ledger.register name obj
  | .deregisterObject obj => ledger.deregister obj

/-- The registrations that remain after a sequence of calls. -/
def remaining (calls : List (Call Name Object)) : Ledger Name Object :=
  calls.foldl Ledger.step []

@[simp] theorem remaining_concat
    (calls : List (Call Name Object))
    (call : Call Name Object) :
    remaining (calls ++ [call]) = (remaining calls).step call := by
  rw [remaining, List.foldl_concat, ← remaining]

theorem step_arranges
    {registry : DiagnosticDumpRegistry Name Object}
    {ledger : Ledger Name Object}
    (arranges : registry.map.Arranges ledger)
    (call : Call Name Object) :
    (registry.step call).map.Arranges (ledger.step call) := by
  cases call with
  | registerObject name obj => exact arranges.emplace name obj
  | deregisterObject obj =>
      exact DiagnosticDumpRegistry.deregisterObject_arranges arranges obj

/-- After every sequence of calls the map arranges what remains. -/
theorem run_arranges (calls : List (Call Name Object)) :
    (DiagnosticDumpRegistry.run calls).map.Arranges (remaining calls) := by
  induction calls using List.reverseRecOn with
  | nil => exact Multimap.arranges_empty
  | append_singleton calls call ih =>
      rw [DiagnosticDumpRegistry.run_concat, remaining_concat]
      exact step_arranges ih call

/-- As many objects are registered as registrations remain. -/
theorem getNumberOfRegisteredObjects_run (calls : List (Call Name Object)) :
    (DiagnosticDumpRegistry.run calls).getNumberOfRegisteredObjects =
      (remaining calls).length :=
  (run_arranges calls).perm.length_eq

/-! ## Registrations against deregistrations -/

/-- How often an object was registered. -/
def registrations (obj : Object) (calls : List (Call Name Object)) : Nat :=
  calls.countP fun
    | .registerObject _ other => other = obj
    | .deregisterObject _ => false

/-- How often its deregistration was asked for. -/
def deregistrations (obj : Object) (calls : List (Call Name Object)) : Nat :=
  calls.countP fun
    | .registerObject _ _ => false
    | .deregisterObject other => other = obj

section Concat

variable (obj other : Object) (name : Name) (calls : List (Call Name Object))

omit [LinearOrder Name]

@[simp] theorem registrations_registerObject :
    registrations obj (calls ++ [.registerObject name other]) =
      registrations obj calls + if other = obj then 1 else 0 := by
  simp [registrations, List.countP_append, List.countP_singleton]

@[simp] theorem registrations_deregisterObject :
    registrations obj (calls ++ [.deregisterObject other]) =
      registrations obj calls := by
  simp [registrations, List.countP_append]

@[simp] theorem deregistrations_registerObject :
    deregistrations obj (calls ++ [.registerObject name other]) =
      deregistrations obj calls := by
  simp [deregistrations, List.countP_append]

@[simp] theorem deregistrations_deregisterObject :
    deregistrations obj (calls ++ [.deregisterObject other]) =
      deregistrations obj calls + if other = obj then 1 else 0 := by
  simp [deregistrations, List.countP_append, List.countP_singleton]

end Concat

/-- At no point were there more deregistrations than registrations. -/
def NeverMore (obj : Object) (calls : List (Call Name Object)) : Prop :=
  ∀ earlier, earlier <+: calls → deregistrations obj earlier ≤ registrations obj earlier

/-- Nothing is deregistered that is not registered, and in the end everything
is. -/
structure Balanced (obj : Object) (calls : List (Call Name Object)) : Prop where
  neverMore : NeverMore obj calls
  equal : deregistrations obj calls = registrations obj calls

omit [LinearOrder Name] in
theorem Ledger.holdings_register
    (ledger : Ledger Name Object)
    (name : Name)
    (other obj : Object) :
    (ledger.register name other).holdings obj =
      ledger.holdings obj + if other = obj then 1 else 0 := by
  simp [register, holdings, List.countP_append, List.countP_singleton]

/-- A removal takes one registration of its own object, if there is one. -/
theorem Removes.holdings
    {before after : Ledger Name Object}
    {other : Object}
    (removes : Removes other before after)
    (obj : Object) :
    after.holdings obj = before.holdings obj - if other = obj then 1 else 0 := by
  rcases removes with ⟨rfl, noName⟩ | ⟨front, name, back, rfl, rfl, -, -⟩
  · split_ifs with isObject
    · have nothing : after.holdings obj = 0 := by
        rw [Ledger.holdings, List.countP_eq_zero]
        rintro ⟨name, held⟩ member isHeld
        have sameObject : held = other := (of_decide_eq_true isHeld).trans isObject.symm
        rw [sameObject] at member
        exact noName name member
      omega
    · rfl
  · rw [Ledger.holdings, Ledger.holdings, List.countP_append, List.countP_append,
      List.countP_cons]
    by_cases isObject : other = obj
    · simp [isObject]
    · simp [isObject]

omit [LinearOrder Name] in
theorem NeverMore.init
    {obj : Object}
    {calls : List (Call Name Object)}
    {call : Call Name Object}
    (neverMore : NeverMore obj (calls ++ [call])) :
    NeverMore obj calls := fun earlier isPrefix =>
  neverMore earlier (isPrefix.trans (List.prefix_append calls [call]))

/-- Every registration of an object remains or was struck out by one of its
deregistrations. -/
theorem holdings_remaining
    {obj : Object}
    {calls : List (Call Name Object)}
    (neverMore : NeverMore obj calls) :
    (remaining calls).holdings obj + deregistrations obj calls =
      registrations obj calls := by
  induction calls using List.reverseRecOn with
  | nil => rfl
  | append_singleton calls call ih =>
      have before := ih neverMore.init
      have now := neverMore (calls ++ [call]) List.prefix_rfl
      rw [remaining_concat]
      cases call with
      | registerObject name other =>
          have counted := Ledger.holdings_register (remaining calls) name other obj
          rw [Ledger.step, counted, registrations_registerObject,
            deregistrations_registerObject]
          omega
      | deregisterObject other =>
          have counted := ((remaining calls).deregister_removes other).holdings obj
          rw [registrations_deregisterObject, deregistrations_deregisterObject] at now
          rw [Ledger.step, counted, registrations_deregisterObject,
            deregistrations_deregisterObject]
          omega

/-- Balanced calls leave no entry of their object. -/
theorem Balanced.no_entry
    {obj : Object}
    {calls : List (Call Name Object)}
    (balanced : Balanced obj calls)
    (name : Name) :
    (name, obj) ∉ (DiagnosticDumpRegistry.run calls).map.entries := by
  intro member
  have noHolding : (remaining calls).holdings obj = 0 := by
    have accounted := holdings_remaining balanced.neverMore
    rw [balanced.equal] at accounted
    omega
  rw [Ledger.holdings, List.countP_eq_zero] at noHolding
  exact noHolding (name, obj) ((run_arranges calls).mem_iff.mp member) (by simp)

/-! ## Exact books -/

/-- A deregistration removes the oldest registration of its object under the
smallest name, from the registrations that remain and from the map, or nothing;
balanced calls leave no entry; a dump of a name calls its remaining
registrations in the order in which they were made, and a dump of everything
calls all that remain, by ascending name. -/
theorem registry_keepsBooks (calls : List (Call Name Object)) :
    (∀ obj,
      Removes obj (remaining calls) (remaining (calls ++ [.deregisterObject obj])) ∧
      Removes obj (DiagnosticDumpRegistry.run calls).map.entries
        (DiagnosticDumpRegistry.run (calls ++ [.deregisterObject obj])).map.entries) ∧
    (∀ name obj,
      remaining (calls ++ [.registerObject name obj]) =
        remaining calls ++ [(name, obj)]) ∧
    (∀ obj, Balanced obj calls → ∀ name,
      (name, obj) ∉ (DiagnosticDumpRegistry.run calls).map.entries) ∧
    (∀ name, dumped ((DiagnosticDumpRegistry.run calls).dumpNamed name) =
      ((remaining calls).filter fun entry => entry.1 = name).map Prod.snd) ∧
    ∃ visited : List (Name × Object),
      dumped (DiagnosticDumpRegistry.run calls).dump = visited.map Prod.snd ∧
      visited.Perm (remaining calls) ∧
      (visited.Pairwise fun before after => before.1 ≤ after.1) ∧
      ∀ name, (visited.filter fun entry => entry.1 = name) =
        (remaining calls).filter fun entry => entry.1 = name := by
  have arranges := run_arranges calls
  refine ⟨fun obj => ⟨?_, ?_⟩, fun name obj => ?_, fun obj balanced name => ?_,
    fun name => ?_, ?_⟩
  · rw [remaining_concat]
    exact Ledger.deregister_removes _ obj
  · rw [DiagnosticDumpRegistry.run_concat]
    exact DiagnosticDumpRegistry.deregisterObject_removes _ obj
  · rw [remaining_concat]
    rfl
  · exact balanced.no_entry name
  · rw [DiagnosticDumpRegistry.dumpNamed, dumped_framed,
      Multimap.equalRange_eq_filter, arranges name]
  · refine ⟨(DiagnosticDumpRegistry.run calls).map.entries, dumped_framed _,
      arranges.perm, (DiagnosticDumpRegistry.run calls).map.sorted, arranges⟩

end Dump
end ModernCommon
