import ModernCommon.Sip.Delivery

/-!
# What the transaction user is told

The transaction user learns one outcome: a final response, or an error. The
invariant ties the state to everything told so far. It concerns the calls to
the transaction user alone, and so does not depend on nested deliveries.
-/

namespace ModernCommon
namespace Sip

/-- Order in which a transaction passes its states. -/
def InviteClientState.rank : InviteClientState → Nat
  | .Calling => 0
  | .Proceeding => 1
  | .Completed => 2
  | .Terminated => 3

/-- A response with a status code below 200 is passed to the transaction user. -/
def Call.notifiesProvisional : Call → Bool
  | .notifyTU response => response.statusCode < 200
  | _ => false

/-- A response with a status code from 200 on is passed to the transaction user. -/
def Call.notifiesFinal : Call → Bool
  | .notifyTU response => 200 ≤ response.statusCode
  | _ => false

/-- The transaction user learns an outcome. -/
def Call.reportsOutcome : Call → Bool
  | .notifyTUError _ => true
  | call => call.notifiesFinal

/-- The calls so far have informed the transaction user as `state` demands. -/
structure Informed (state : InviteClientState) (calls : List Call) : Prop where
  undecided : state.rank < InviteClientState.Completed.rank →
    ∀ call ∈ calls, call.reportsOutcome = false
  atMostOneFinal : calls.countP Call.notifiesFinal ≤ 1
  noLateProvisional : calls.Pairwise fun earlier later =>
    earlier.reportsOutcome → later.notifiesProvisional = false
  finalInCompleted : state = .Completed → ∃ call ∈ calls, call.notifiesFinal
  outcomeInTerminated : state = .Terminated →
    ∃ call ∈ calls, call.reportsOutcome

/-! ## One message -/

/-- What the transaction user may be told as a message moves the state. -/
inductive Told : InviteClientState → InviteClientState → List Call → Prop
  | nothing : Told state state []
  | timerD : Told .Completed .Terminated []
  | provisional
      (undecided : state.rank < InviteClientState.Completed.rank)
      (early : response.statusCode < 200) :
      Told state .Proceeding [.notifyTU response]
  | final
      (undecided : state.rank < InviteClientState.Completed.rank)
      (decided : InviteClientState.Completed.rank ≤ next.rank)
      (late : 200 ≤ response.statusCode) :
      Told state next [.notifyTU response]
  | error
      (undecided : state.rank < InviteClientState.Completed.rank) :
      Told state .Terminated [.notifyTUError reason]

theorem transactionStep_told
    (state : InviteClientState)
    (message : Message) :
    Told state (transactionStep state message).1
      ((transactionStep state message).2.filter Call.informsTU) := by
  rcases message with _ | ⟨C, r⟩ | _ | _ | _ | _
  case response =>
    have bounds := r.statusCode_bounds
    rw [r.belongs] at bounds
    cases state <;> cases C <;>
      simp only [SipResponseClass.lowest] at bounds <;>
      first
      | exact .nothing
      | exact .provisional (by decide) (by omega)
      | exact .final (by decide) (by simp [transactionStep,
          InviteClientState.rank]) (by omega)
  all_goals
    cases state <;>
      first
      | exact .nothing
      | exact .timerD
      | exact .error (by decide)

/-- The state is never left for one of lower rank. -/
theorem Told.rank_le
    {state next : InviteClientState}
    {calls : List Call}
    (told : Told state next calls) :
    state.rank ≤ next.rank := by
  cases told with
  | nothing => exact le_rfl
  | timerD => decide
  | provisional undecided _ => cases state <;> simp_all [InviteClientState.rank]
  | final undecided decided _ => exact Nat.le_trans (Nat.le_of_lt undecided) decided
  | error undecided => cases state <;> simp_all [InviteClientState.rank]

/-- While nothing is decided, one more call keeps the transaction user informed
when it reports as much as the next state demands. -/
theorem Informed.append_singleton
    {state next : InviteClientState}
    {history : List Call}
    {call : Call}
    (informed : Informed state history)
    (undecided : state.rank < InviteClientState.Completed.rank)
    (silent : next.rank < InviteClientState.Completed.rank →
      call.reportsOutcome = false)
    (final : next = .Completed → call.notifiesFinal)
    (outcome : next = .Terminated → call.reportsOutcome) :
    Informed next (history ++ [call]) := by
  have unreported := informed.undecided undecided
  refine
    { undecided := fun early other present => ?_
      atMostOneFinal := ?_
      noLateProvisional := ?_
      finalInCompleted := fun completed => ⟨call, by simp, final completed⟩
      outcomeInTerminated := fun terminated =>
        ⟨call, by simp, outcome terminated⟩ }
  · rcases List.mem_append.mp present with old | new
    · exact unreported other old
    · obtain rfl := List.mem_singleton.mp new
      exact silent early
  · have noFinal : history.countP Call.notifiesFinal = 0 := by
      rw [List.countP_eq_zero]
      intro other present isFinal
      have reported : other.reportsOutcome = true := by
        cases other <;> simp_all [Call.reportsOutcome]
      rw [unreported other present] at reported
      cases reported
    rw [List.countP_append, noFinal, Nat.zero_add]
    exact List.countP_le_length
  · rw [List.pairwise_append]
    refine ⟨informed.noLateProvisional, List.pairwise_singleton _ _, ?_⟩
    intro earlier present _ _ reported
    rw [unreported earlier present] at reported
    cases reported

/-- One message keeps the transaction user informed. -/
theorem Told.informed
    {state next : InviteClientState}
    {history calls : List Call}
    (told : Told state next calls)
    (informed : Informed state history) :
    Informed next (history ++ calls) := by
  cases told with
  | nothing => simpa using informed
  | timerD =>
      rw [List.append_nil]
      obtain ⟨call, present, final⟩ := informed.finalInCompleted rfl
      have outcome : call.reportsOutcome := by
        cases call <;> simp_all [Call.reportsOutcome]
      exact
        { undecided := fun early => absurd early (by decide)
          atMostOneFinal := informed.atMostOneFinal
          noLateProvisional := informed.noLateProvisional
          finalInCompleted := nofun
          outcomeInTerminated := fun _ => ⟨call, present, outcome⟩ }
  | provisional undecided early =>
      apply informed.append_singleton undecided
      · intro _
        simpa [Call.reportsOutcome, Call.notifiesFinal] using early
      · nofun
      · nofun
  | final undecided decided late =>
      apply informed.append_singleton undecided
      · intro early
        exact absurd early (Nat.not_lt.mpr decided)
      · intro _
        simpa [Call.notifiesFinal] using late
      · intro _
        simpa [Call.reportsOutcome, Call.notifiesFinal] using late
  | error undecided =>
      apply informed.append_singleton undecided
      · intro early
        exact absurd early (by decide)
      · nofun
      · intro _
        rfl

/-! ## Whole runs -/

namespace InviteClientTransaction

theorem run_informed (messages : List Message) :
    Informed (machine.run .Calling messages).1
      ((machine.run .Calling messages).2.filter Call.informsTU) := by
  have start : Informed .Calling (([] : List Call).filter Call.informsTU) :=
    { undecided := by simp
      atMostOneFinal := by simp
      noLateProvisional := List.Pairwise.nil
      finalInCompleted := nofun
      outcomeInTerminated := nofun }
  apply Library.Mealy.run_invariant
    (fun state history => Informed state (history.filter Call.informsTU))
    ?_ start
  intro state history message informed
  rw [List.filter_append]
  exact (transactionStep_told state message).informed informed

theorem rank_le_run
    (state : InviteClientState)
    (messages : List Message) :
    state.rank ≤ (machine.run state messages).1.rank := by
  induction messages generalizing state with
  | nil => exact le_rfl
  | cons message messages inductionHypothesis =>
      have first := (transactionStep_told state message).rank_le
      exact Nat.le_trans first (inductionHypothesis _)

/-- Acknowledgements neither inform nor misinform the transaction user. -/
theorem informed_of_filter
    {state : InviteClientState}
    {calls : List Call}
    (informed : Informed state (calls.filter Call.informsTU)) :
    Informed state calls := by
  have informs_of_final : ∀ call : Call,
      call.notifiesFinal → call.informsTU := by
    rintro (_ | _ | _ | _) <;> simp [Call.notifiesFinal, Call.informsTU]
  have informs_of_outcome : ∀ call : Call,
      call.reportsOutcome → call.informsTU := by
    rintro (_ | _ | _ | _) <;>
      simp [Call.reportsOutcome, Call.notifiesFinal, Call.informsTU]
  have informs_of_provisional : ∀ call : Call,
      call.notifiesProvisional → call.informsTU := by
    rintro (_ | _ | _ | _) <;> simp [Call.notifiesProvisional, Call.informsTU]
  refine
    { undecided := fun early call present => ?_
      atMostOneFinal := ?_
      noLateProvisional := ?_
      finalInCompleted := fun completed => ?_
      outcomeInTerminated := fun terminated => ?_ }
  · by_contra reported
    have outcome : call.reportsOutcome := by simpa using reported
    rw [informed.undecided early call
      (List.mem_filter.mpr ⟨present, informs_of_outcome call outcome⟩)] at outcome
    cases outcome
  · have sameCount : (calls.filter Call.informsTU).countP Call.notifiesFinal =
        calls.countP Call.notifiesFinal := by
      rw [List.countP_filter]
      apply List.countP_congr
      intro call _
      simpa using informs_of_final call
    rw [← sameCount]
    exact informed.atMostOneFinal
  · refine (List.pairwise_filter.mp informed.noLateProvisional).imp ?_
    intro earlier later late reported
    by_contra provisional
    have told : later.notifiesProvisional := by simpa using provisional
    rw [late (informs_of_outcome earlier reported)
      (informs_of_provisional later told) reported] at told
    cases told
  · obtain ⟨call, present, final⟩ := informed.finalInCompleted completed
    exact ⟨call, List.mem_of_mem_filter present, final⟩
  · obtain ⟨call, present, outcome⟩ := informed.outcomeInTerminated terminated
    exact ⟨call, List.mem_of_mem_filter present, outcome⟩

/-- However messages are delivered, the transaction user has been informed as
the state demands; later states do not rank lower, and nothing is called and
nothing changes once the transaction has terminated. -/
theorem delivered_informed
    (name : String)
    (invite : InviteRequest)
    (deliveries more : List Delivery) :
    ∃ state laterState,
      (delivered name invite deliveries).currentState = some state ∧
      (delivered name invite (deliveries ++ more)).currentState =
        some laterState ∧
      Informed state (called (delivered name invite deliveries).trace) ∧
      state.rank ≤ laterState.rank ∧
      (state = .Terminated →
        laterState = .Terminated ∧
        called (delivered name invite (deliveries ++ more)).trace =
          called (delivered name invite deliveries).trace) := by
  obtain ⟨events, later, flat, laterFlat, reached, reachedLater⟩ :=
    delivered_append name invite deliveries more
  rw [reached, reachedLater]
  refine ⟨_, _, rfl, rfl, ?_, ?_, ?_⟩
  · have informed := run_informed (received events)
    rw [← flat.informed] at informed
    apply informed_of_filter
    exact informed
  · rw [received_append, Library.Mealy.run_append]
    exact rank_le_run _ _
  · intro terminated
    have quiet : called later = [] := by
      have calls := laterFlat.perm
      rw [terminated, run_terminated] at calls
      exact calls.eq_nil
    rw [received_append, Library.Mealy.run_append, terminated, run_terminated]
    simp [afterEvents, quiet]

end InviteClientTransaction
end Sip
end ModernCommon
