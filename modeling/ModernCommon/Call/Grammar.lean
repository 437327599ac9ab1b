import ModernCommon.Call.Protocol
import ModernCommon.Library.Grammar

/-!
# The grammar of calls

What a call takes without a violation are the beginnings of the words
`(Setup (Release | Answer Release))*`. A violation that is caught changes
nothing, so a call that has seen some is where the messages it accepted alone
would have brought it.
-/

namespace ModernCommon
namespace CallProtocol

open Library Computability

/-! ## The words -/

/-- The words of one message of a given type, whatever its fields. -/
def ofType (type : MessageType) : Language Message :=
  letter fun message => typeid message = type

/-- `(Setup (Release | Answer Release))*`. -/
def grammar : Language Message :=
  (ofType .setup * (ofType .release + ofType .answer * ofType .release))∗

/-- What is still to come in a state for the call to be a word. -/
def remaining : CallState → Language Message
  | .Idle => grammar
  | .Ringing => (ofType .release + ofType .answer * ofType .release) * grammar
  | .Connected => ofType .release * grammar

/-- The table as a system. -/
def calls : System CallState Message where
  initial := .Idle
  step := callStep

@[simp] theorem calls_step (state : CallState) (message : Message) :
    calls.step state message = callStep state message := rfl

/-- From every state a call can be completed. -/
theorem exists_mem_remaining (state : CallState) :
    ∃ word, word ∈ remaining state := by
  have ended : [] ∈ grammar := Language.nil_mem_kstar _
  have released : [.release "normal"] ∈ ofType .release := ⟨_, rfl, rfl⟩
  cases state with
  | Idle => exact ⟨[], ended⟩
  | Ringing =>
      exact ⟨[.release "normal"] ++ [],
        Language.append_mem_mul (.inl released) ended⟩
  | Connected =>
      exact ⟨[.release "normal"] ++ [], Language.append_mem_mul released ended⟩

/-- What is to come starts with a message of the table. -/
theorem cons_mem_remaining
    (state : CallState)
    (message : Message)
    (word : List Message) :
    message :: word ∈ remaining state ↔
      ∃ next, calls.step state message = some next ∧
        word ∈ remaining next := by
  cases state with
  | Idle =>
      rw [remaining, grammar, cons_mem_kstar, mul_assoc, ofType,
        cons_mem_letter_mul]
      cases message <;> simp [callStep, remaining, grammar, ofType]
  | Ringing =>
      rw [remaining, add_mul, Language.mem_add, mul_assoc, ofType, ofType,
        cons_mem_letter_mul, cons_mem_letter_mul]
      cases message <;> simp [callStep, remaining, ofType]
  | Connected =>
      rw [remaining, ofType, cons_mem_letter_mul]
      cases message <;> simp [callStep, remaining]

/-! ## Runs -/

/-- Construct a call and deliver the messages one after another; the first
violation ends the run. -/
def call (messages : List Message) : CallM E Unit := do
  let protocol ← construct
  forM messages protocol.receive

/-- Construct a call and deliver the messages, catching every violation. -/
def callCatching (messages : List Message) : CallM E Unit := do
  let protocol ← construct
  forM messages fun message => caught (protocol.receive message)

/-- The messages whose delivery to a call returns, when violations are caught. -/
def returning : StateMachine CallState E → List Message → List Message
  | _, [] => []
  | machine, message :: messages =>
      match (transitions.receive message : CallM E Unit).run machine with
      | .ok _ next => message :: returning next messages
      | .error _ next => returning next messages

/-- A call just constructed. -/
def fresh (name : String) : StateMachine CallState E :=
  { name, currentState := some .Idle }

theorem construct_run (name : String) :
    (construct : CallM E (Protocol E)).run { name } =
      .ok transitions (fresh name) := by
  simp only [construct, EStateM.run_bind, enter, hooks, setCurrentState_plain,
    EStateM.run_pure, fresh]

/-- A message without an entry is caught and forgotten. -/
theorem caught_receive_run
    (message : Message)
    {machine : StateMachine CallState E}
    {state : CallState}
    (current : machine.currentState = some state) :
    (caught (transitions.receive message) : CallM E Unit).run machine =
      .ok () { machine with
        currentState := some (calls.settle state message) } := by
  apply caught_run
  rw [receive_run message current, System.settle, calls_step]
  cases callStep state message with
  | some next => exact .inl rfl
  | none =>
      right
      rw [Option.getD_none, ← current]
      exact ⟨_, rfl⟩

/-- Delivery throws exactly where the table has no run. -/
theorem deliver_run
    (messages : List Message)
    {machine : StateMachine CallState E}
    {state : CallState}
    (current : machine.currentState = some state) :
    match calls.run state messages with
    | some final =>
        (forM messages transitions.receive : CallM E Unit).run machine =
          .ok () { machine with currentState := some final }
    | none => ∃ thrown left,
        (forM messages transitions.receive : CallM E Unit).run machine =
          .error thrown left := by
  induction messages generalizing machine state with
  | nil =>
      simp only [System.run, List.forM_nil, EStateM.run_pure]
      rw [← current]
  | cons message messages inductionHypothesis =>
      rw [List.forM_cons, EStateM.run_bind, receive_run message current,
        System.run, calls_step]
      cases stepped : callStep state message with
      | none => exact ⟨_, _, rfl⟩
      | some next =>
          have entered : ({ machine with currentState := some next } :
              StateMachine CallState E).currentState = some next := rfl
          exact inductionHypothesis entered

/-- Catching, delivery always ends, where the table settles. -/
theorem deliverCatching_run
    (messages : List Message)
    {machine : StateMachine CallState E}
    {state : CallState}
    (current : machine.currentState = some state) :
    (forM messages fun message => caught (transitions.receive message) :
        CallM E Unit).run machine =
      .ok () { machine with
        currentState := some (messages.foldl calls.settle state) } := by
  induction messages generalizing machine state with
  | nil =>
      simp only [List.forM_nil, List.foldl_nil, EStateM.run_pure]
      rw [← current]
  | cons message messages inductionHypothesis =>
      rw [List.forM_cons, EStateM.run_bind, caught_receive_run message current]
      exact inductionHypothesis rfl

/-- The messages that return are those the table accepts. -/
theorem returning_eq_accepted
    (messages : List Message)
    {machine : StateMachine CallState E}
    {state : CallState}
    (current : machine.currentState = some state) :
    returning machine messages = calls.accepted state messages := by
  induction messages generalizing machine state with
  | nil => rfl
  | cons message messages inductionHypothesis =>
      rw [returning, receive_run message current, System.accepted, calls_step]
      cases callStep state message with
      | none => exact inductionHypothesis current
      | some next =>
          exact congrArg (message :: ·) (inductionHypothesis rfl)

/-! ## Setups and releases -/

/-- How many messages are of a type. -/
def countOf (type : MessageType) (messages : List Message) : Nat :=
  messages.countP fun message => typeid message = type

/-- Whether a call is going on. -/
def CallState.busy : CallState → Nat
  | .Idle => 0
  | .Ringing | .Connected => 1

/-- Every setup but the one of the call going on has been released. -/
theorem countOf_setup_of_run
    {messages : List Message}
    {final : CallState}
    (ran : calls.run .Idle messages = some final) :
    countOf .setup messages = countOf .release messages + final.busy := by
  refine calls.history_of_run (fun messages state =>
    countOf .setup messages = countOf .release messages + state.busy) rfl ?_ ran
  intro history state message next _ balanced stepped
  rw [calls_step] at stepped
  simp only [countOf, List.countP_append, List.countP_singleton] at balanced ⊢
  cases state <;> cases message <;> cases stepped <;>
    simp [CallState.busy] at balanced ⊢ <;> omega

/-! ## Every sequence of messages -/

theorem call_run_of_run
    {name : String}
    {messages : List Message}
    {final : CallState}
    (ran : calls.run .Idle messages = some final) :
    (call messages : CallM E Unit).run { name } =
      .ok () { (fresh name : StateMachine CallState E) with
        currentState := some final } := by
  have delivered := deliver_run messages
    (rfl : (fresh name : StateMachine CallState E).currentState = some .Idle)
  rw [ran] at delivered
  rw [call, EStateM.run_bind, construct_run]
  exact delivered

theorem callCatching_run
    (name : String)
    (messages : List Message) :
    (callCatching messages : CallM E Unit).run { name } =
      .ok () { (fresh name : StateMachine CallState E) with
        currentState := some (messages.foldl calls.settle .Idle) } := by
  rw [callCatching, EStateM.run_bind, construct_run]
  exact deliverCatching_run messages rfl

/-- A call returns from every message exactly if they begin a word. -/
theorem call_returns_iff
    (name : String)
    (messages : List Message) :
    (∃ final, (call messages : CallM E Unit).run { name } = .ok () final) ↔
      ∃ rest, messages ++ rest ∈ grammar := by
  have words := calls.exists_run_iff remaining exists_mem_remaining
    cons_mem_remaining .Idle messages
  rw [remaining] at words
  rw [← words]
  constructor
  · rintro ⟨final, returned⟩
    have delivered := deliver_run messages
      (rfl : (fresh name : StateMachine CallState E).currentState = some .Idle)
    rw [call, EStateM.run_bind, construct_run] at returned
    cases ran : calls.run .Idle messages with
    | some reached => exact ⟨reached, rfl⟩
    | none =>
        rw [ran] at delivered
        obtain ⟨thrown, left, threw⟩ := delivered
        cases returned.symm.trans threw
  · rintro ⟨final, ran⟩
    exact ⟨_, call_run_of_run ran⟩

/-- Only a violation throws, and it leaves the call as it is. -/
theorem receive_error
    {message : Message}
    {machine left : StateMachine CallState E}
    {state : CallState}
    {thrown : LogicError}
    (current : machine.currentState = some state)
    (threw : (transitions.receive message : CallM E Unit).run machine =
      .error thrown left) :
    left = machine ∧ thrown.what = unexpected message machine.currentState := by
  rw [receive_run message current] at threw
  cases stepped : callStep state message with
  | some next =>
      rw [stepped] at threw
      cases threw
  | none =>
      rw [stepped] at threw
      cases threw
      rw [current]
      exact ⟨rfl, rfl⟩

/-- A call takes exactly the beginnings of the words of its grammar. Caught
violations change nothing: the call is where the messages that returned bring
it, and Idle exactly if these have as many setups as releases. -/
theorem call_of_messages
    (name : String)
    (messages : List Message) :
    ((∃ final, (call messages : CallM E Unit).run { name } = .ok () final) ↔
        ∃ rest, messages ++ rest ∈ grammar) ∧
      (∀ before message after reached thrown left,
        messages = before ++ message :: after →
        (callCatching before : CallM E Unit).run { name } = .ok () reached →
        (transitions.receive message).run reached = .error thrown left →
        left = reached ∧
          thrown.what = unexpected message reached.currentState) ∧
      ∃ (final : StateMachine CallState E) (accepted : List Message),
        accepted = returning (fresh name : StateMachine CallState E) messages ∧
          (callCatching messages).run { name } = .ok () final ∧
          (call accepted).run { name } = .ok () final ∧
          (final.currentState = some .Idle ↔
            countOf .setup accepted = countOf .release accepted) ∧
          (final.currentState ≠ some .Idle →
            countOf .setup accepted = countOf .release accepted + 1) := by
  refine ⟨call_returns_iff name messages, ?_, ?_⟩
  · intro before message after reached thrown left _ caughtRun threw
    rw [callCatching_run] at caughtRun
    cases caughtRun
    exact receive_error rfl threw
  · have ran := calls.run_accepted .Idle messages
    have balanced := countOf_setup_of_run ran
    have accepts : returning (fresh name : StateMachine CallState E) messages =
        calls.accepted .Idle messages := returning_eq_accepted messages rfl
    refine ⟨_, _, rfl, callCatching_run name messages, ?_, ?_, ?_⟩
    · rw [accepts]
      exact call_run_of_run ran
    · rw [accepts, balanced]
      cases messages.foldl calls.settle .Idle <;> simp [CallState.busy]
    · intro going
      rw [accepts, balanced]
      cases settled : messages.foldl calls.settle .Idle with
      | Idle => exact absurd (congrArg some settled) going
      | Ringing | Connected => rfl

end CallProtocol
end ModernCommon
