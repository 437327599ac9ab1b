import Mathlib.Data.List.Dedup
import Mathlib.Data.List.Induction
import ModernCommon.Protocol

/-!
# Protocols and their registrations

A protocol is what has been registered on it. A message runs the handler that
was last registered for the current state and the type of the message, and the
last unhandled hook where there is none, so registrations of different keys may
be made in any order.
-/

namespace ModernCommon

variable {S Msg TypeIndex E ε : Type}
variable [DecidableEq S] [DecidableEq TypeIndex] [MessageBase Msg TypeIndex]

/-- A call that builds up a protocol. -/
inductive Registration (S Msg TypeIndex E ε : Type) [MessageBase Msg TypeIndex]
  | onMessage {C : Type}
      (messageClass : MessageClass Msg TypeIndex C)
      (state : Option S)
      (handler : C → MachineM S E ε Unit)
  | onUnhandled (handler : Msg → MachineM S E ε Unit)

namespace Registration

/-- The key of the table that is assigned to. -/
def key : Registration S Msg TypeIndex E ε → Option (Option S × TypeIndex)
  | .onMessage messageClass state _ => some (state, messageClass.index)
  | .onUnhandled _ => none

/-- What is assigned, to a key or as the unhandled hook. -/
def handler : Registration S Msg TypeIndex E ε → Msg → MachineM S E ε Unit
  | .onMessage messageClass _ handler =>
      ProtocolStateMachine.entry messageClass handler
  | .onUnhandled handler => handler

/-- The handler last registered under a key, or as the unhandled hook. -/
def last
    (registrations : List (Registration S Msg TypeIndex E ε))
    (key : Option (Option S × TypeIndex)) :
    Option (Msg → MachineM S E ε Unit) :=
  ((registrations.filter fun registration => registration.key = key).getLast?).map
    Registration.handler

theorem last_concat
    (registrations : List (Registration S Msg TypeIndex E ε))
    (registration : Registration S Msg TypeIndex E ε)
    (key : Option (Option S × TypeIndex)) :
    last (registrations ++ [registration]) key =
      if registration.key = key then some registration.handler
      else last registrations key := by
  unfold last
  rw [List.filter_append]
  by_cases same : registration.key = key
  · simp [same]
  · simp [same]

theorem last_isSome_iff
    (registrations : List (Registration S Msg TypeIndex E ε))
    (key : Option (Option S × TypeIndex)) :
    (last registrations key).isSome ↔ key ∈ registrations.map Registration.key := by
  induction registrations using List.reverseRecOn with
  | nil => simp [last]
  | append_singleton registrations registration inductionHypothesis =>
      rw [last_concat, List.map_append, List.mem_append, ← inductionHypothesis]
      by_cases same : registration.key = key
      · simp [same]
      · simp [same, Ne.symm same]

omit [DecidableEq S] [DecidableEq TypeIndex] in
theorem eq_of_perm_of_length_le_one
    {found others : List (Registration S Msg TypeIndex E ε)}
    (perm : found.Perm others)
    (atMostOne : found.length ≤ 1) :
    found = others := by
  match found, atMostOne with
  | [], _ => exact (List.nil_perm.mp perm).symm
  | [only], _ => exact List.singleton_perm.mp perm

/-- Where no key is registered twice, order does not matter. -/
theorem last_of_perm
    {registrations others : List (Registration S Msg TypeIndex E ε)}
    (perm : registrations.Perm others)
    (distinct : (registrations.map Registration.key).Nodup)
    (key : Option (Option S × TypeIndex)) :
    last registrations key = last others key := by
  let found := registrations.filter fun registration => registration.key = key
  have isKey : ∀ other ∈ found.map Registration.key, other = key := by
    intro other present
    obtain ⟨registration, inFound, rfl⟩ := List.mem_map.mp present
    exact of_decide_eq_true (List.mem_filter.mp inFound).2
  have atMostOne : found.length ≤ 1 := by
    have nodup : (found.map Registration.key).Nodup :=
      distinct.sublist (List.filter_sublist.map Registration.key)
    rw [List.eq_replicate_of_mem isKey, List.nodup_replicate] at nodup
    simpa using nodup
  have same : found.Perm (others.filter fun registration =>
      registration.key = key) := perm.filter _
  have equal := eq_of_perm_of_length_le_one same atMostOne
  exact congrArg (fun matching => matching.getLast?.map Registration.handler) equal

end Registration

namespace ProtocolStateMachine

/-- Make one of the calls. -/
def register
    (protocol : ProtocolStateMachine S Msg TypeIndex E ε) :
    Registration S Msg TypeIndex E ε → ProtocolStateMachine S Msg TypeIndex E ε
  | .onMessage messageClass state handler =>
      protocol.onMessage messageClass state handler
  | .onUnhandled handler => protocol.onUnhandled handler

/-- A protocol and the calls that built it up. -/
def build
    (hooks : Hooks S E ε)
    (registrations : List (Registration S Msg TypeIndex E ε)) :
    ProtocolStateMachine S Msg TypeIndex E ε :=
  registrations.foldl register (construct hooks)

theorem build_concat
    (hooks : Hooks S E ε)
    (registrations : List (Registration S Msg TypeIndex E ε))
    (registration : Registration S Msg TypeIndex E ε) :
    build hooks (registrations ++ [registration]) =
      (build hooks registrations).register registration := by
  rw [build, List.foldl_concat]
  rfl

theorem find_build
    (hooks : Hooks S E ε)
    (registrations : List (Registration S Msg TypeIndex E ε))
    (key : Option S × TypeIndex) :
    (build hooks registrations).find key =
      Registration.last registrations (some key) := by
  induction registrations using List.reverseRecOn with
  | nil => rfl
  | append_singleton registrations registration inductionHypothesis =>
      rw [build_concat, Registration.last_concat, ← inductionHypothesis]
      cases registration with
      | onMessage messageClass state handler =>
          rw [register, find_onMessage]
          simp [Registration.key, Registration.handler, eq_comm]
      | onUnhandled handler =>
          rw [register, find_onUnhandled]
          simp [Registration.key]

theorem unhandled_build
    (hooks : Hooks S E ε)
    (registrations : List (Registration S Msg TypeIndex E ε)) :
    (build hooks registrations).unhandled =
      Registration.last registrations none := by
  induction registrations using List.reverseRecOn with
  | nil => rfl
  | append_singleton registrations registration inductionHypothesis =>
      rw [build_concat, Registration.last_concat, ← inductionHypothesis]
      cases registration with
      | onMessage messageClass state handler =>
          simp [register, Registration.key]
      | onUnhandled handler =>
          simp [register, Registration.key, Registration.handler]

/-- The table has one entry for each key that was registered. -/
theorem keys_build
    (hooks : Hooks S E ε)
    (registrations : List (Registration S Msg TypeIndex E ε)) :
    (build hooks registrations).table.keys.Perm
      (registrations.filterMap Registration.key).dedup := by
  apply (List.perm_ext_iff_of_nodup (AList.keys_nodup _)
    (List.nodup_dedup _)).mpr
  intro key
  rw [← AList.mem_keys, ← AList.lookup_isSome, List.mem_dedup,
    List.mem_filterMap]
  change ((build hooks registrations).find key).isSome ↔ _
  rw [find_build, Registration.last_isSome_iff, List.mem_map]

/-- What a message does. -/
theorem receive_build
    (hooks : Hooks S E ε)
    (registrations : List (Registration S Msg TypeIndex E ε))
    (msg : Msg)
    (machine : StateMachine S E) :
    ((build hooks registrations).receive msg).run machine =
      match (Registration.last registrations
          (some (machine.currentState, typeid msg))).or
            (Registration.last registrations none) with
      | some handler => (handler msg).run machine
      | none => .ok () machine := by
  rw [receive, EStateM.run_bind, EStateM.run_get]
  simp only
  rw [find_build, unhandled_build]
  cases Registration.last registrations
      (some (machine.currentState, typeid msg)) with
  | some handler => rfl
  | none => cases Registration.last registrations none <;> rfl

/-- Protocols with the same last registrations receive alike. -/
theorem receive_congr
    {hooks : Hooks S E ε}
    {registrations others : List (Registration S Msg TypeIndex E ε)}
    (same : Registration.last registrations = Registration.last others) :
    (build hooks registrations).receive = (build hooks others).receive := by
  funext msg
  funext machine
  have first := receive_build hooks registrations msg machine
  rw [same, ← receive_build hooks others msg machine] at first
  exact first

/-- A message runs the handler last registered for the current state and its
type, or else the last unhandled hook, or nothing; the table has as many entries
as keys were registered; and registrations of different keys, made in any order,
give a protocol that does the same in every run. -/
theorem receive_last
    (hooks : Hooks S E ε)
    (registrations : List (Registration S Msg TypeIndex E ε)) :
    (∀ msg (machine : StateMachine S E),
      ((build hooks registrations).receive msg).run machine =
        match (Registration.last registrations
            (some (machine.currentState, typeid msg))).or
              (Registration.last registrations none) with
        | some handler => (handler msg).run machine
        | none => .ok () machine) ∧
    (build hooks registrations).getTransitionTableSize =
      (registrations.filterMap Registration.key).dedup.length ∧
    ((registrations.map Registration.key).Nodup →
      ∀ others, registrations.Perm others →
        ∀ (messages : List Msg) (machine : StateMachine S E),
          (forM messages (build hooks registrations).receive).run machine =
            (forM messages (build hooks others).receive).run machine) := by
  refine ⟨receive_build hooks registrations, (keys_build _ _).length_eq, ?_⟩
  intro distinct others perm messages machine
  rw [receive_congr (funext (Registration.last_of_perm perm distinct))]

end ProtocolStateMachine
end ModernCommon
