import ModernCommon.MySql.Transaction

/-!
# Transactions on a failing client library

The transaction functions ignore what `mysql_autocommit`, `mysql_commit` and
`mysql_rollback` return. The log of a run numbers its calls, and the journal of
a session lists the numbers of the statements in its content: with it one can
say of a modification that it is, or is not, in the committed content.
-/

namespace ModernCommon
namespace MySql

open Library
open Connected

/-- What a logged call does to a journal. -/
def Session.note
    (journal : Session (List Nat))
    (entry : (LibraryCall × Int) × Nat) : Session (List Nat) :=
  journal.answer (fun _ content => content ++ [entry.2]) entry.1

/-- The journal of a session opened with autocommit on or off. -/
def journal (opened : Bool) (log : List (LibraryCall × Int)) :
    Session (List Nat) :=
  log.zipIdx.foldl Session.note
    { committed := [], working := [], autocommit := opened, settled := fun _ => rfl }

@[simp] theorem journal_append_singleton
    (opened : Bool)
    (log : List (LibraryCall × Int))
    (answered : LibraryCall × Int) :
    journal opened (log ++ [answered]) =
      (journal opened log).note (answered, log.length) := by
  simp [journal, List.zipIdx_append]

/-- The statement with number `n` succeeded. -/
def Executed (log : List (LibraryCall × Int)) (n : Nat) : Prop :=
  ∃ query, log[n]? = some (.realQuery query, 0)

/-- The journal holds the number. -/
def Session.Notes (journal : Session (List Nat)) (n : Nat) : Prop :=
  n ∈ journal.working ∨ n ∈ journal.committed

theorem Session.notes_of_note
    {journal : Session (List Nat)}
    {answered : LibraryCall × Int}
    {number n : Nat}
    (noted : (journal.note (answered, number)).Notes n) :
    journal.Notes n ∨ n = number := by
  obtain ⟨call, code⟩ := answered
  unfold Session.Notes at *
  rw [Session.note, Session.answer] at noted
  split_ifs at noted with succeeded
  · cases call with
    | autocommit mode =>
        cases mode with
        | false => exact .inl noted
        | true => exact .inl (.inl (noted.elim id id))
    | commit => exact .inl (.inl (noted.elim id id))
    | rollback => exact .inl (.inr (noted.elim id id))
    | realQuery query =>
        simp only [Session.apply, Session.modify] at noted
        split_ifs at noted <;>
          simp only [List.mem_append, List.mem_singleton] at noted <;> tauto
  · exact .inl noted

/-- A journal holds numbers of its log only. -/
theorem lt_length_of_notes
    (opened : Bool)
    (log : List (LibraryCall × Int))
    {n : Nat}
    (noted : (journal opened log).Notes n) :
    n < log.length := by
  induction log using List.reverseRecOn with
  | nil => simp [journal, Session.Notes] at noted
  | append_singleton log answered inductionHypothesis =>
      rw [journal_append_singleton] at noted
      rw [List.length_append, List.length_singleton]
      rcases Session.notes_of_note noted with earlier | rfl
      · exact Nat.lt_succ_of_lt (inductionHypothesis earlier)
      · exact Nat.lt_succ_self _

/-- A number beyond the log is neither noted nor that of a statement. -/
theorem absent_of_length_le
    (opened : Bool)
    {log : List (LibraryCall × Int)}
    {n : Nat}
    (beyond : log.length ≤ n) :
    (n ∉ (journal opened log).working ∧ n ∉ (journal opened log).committed) ∧
      ¬Executed log n := by
  constructor
  · apply not_or.mp
    intro noted
    exact Nat.not_le_of_lt (lt_length_of_notes opened log noted) beyond
  · rintro ⟨query, isQuery⟩
    rw [List.getElem?_eq_none beyond] at isQuery
    cases isQuery

/-- Autocommit was on when call `n` was made. -/
def AutocommitOn
    (opened : Bool)
    (log : List (LibraryCall × Int))
    (n : Nat) : Prop :=
  (journal opened (log.take n)).autocommit = true

/-- The call neither ends a transaction nor is a statement that failed. -/
def Quiet (answered : LibraryCall × Int) : Prop :=
  answered.1 = .autocommit false ∨ ∃ query, answered = (.realQuery query, 0)

/-- A quiet call leaves the other numbers where they are. -/
theorem Session.mem_note_of_ne
    (journal : Session (List Nat))
    {answered : LibraryCall × Int}
    (quiet : Quiet answered)
    {number n : Nat}
    (other : n ≠ number) :
    (n ∈ (journal.note (answered, number)).working ↔ n ∈ journal.working) ∧
      (n ∈ (journal.note (answered, number)).committed ↔
        n ∈ journal.committed) := by
  obtain ⟨call, code⟩ := answered
  rw [Session.note, Session.answer]
  split_ifs with succeeded
  · rcases quiet with isOff | ⟨query, isQuery⟩
    · cases isOff
      exact ⟨Iff.rfl, Iff.rfl⟩
    · cases isQuery
      simp only [Session.apply, Session.modify, List.mem_append,
        List.mem_singleton, other, or_false, true_and]
      split_ifs with isOn
      · simp [journal.settled isOn, other]
      · exact Iff.rfl
  · exact ⟨Iff.rfl, Iff.rfl⟩

/-- A quiet call is noted when it is a statement, and committed at once with
autocommit on. -/
theorem Session.mem_note_self
    {journal : Session (List Nat)}
    {answered : LibraryCall × Int}
    (quiet : Quiet answered)
    {number : Nat}
    (fresh : ¬journal.Notes number) :
    (number ∈ (journal.note (answered, number)).working ↔
      ∃ query, answered = (.realQuery query, 0)) ∧
      (number ∈ (journal.note (answered, number)).committed ↔
        (∃ query, answered = (.realQuery query, 0)) ∧
          journal.autocommit = true) := by
  obtain ⟨notWorking, notCommitted⟩ := not_or.mp fresh
  obtain ⟨call, code⟩ := answered
  rcases quiet with isOff | ⟨query, isQuery⟩
  · cases isOff
    rw [Session.note, Session.answer]
    split_ifs <;>
      simp [Session.apply, Session.setAutocommit, notWorking, notCommitted]
  · cases isQuery
    simp only [Session.note, Session.answer, if_true, Session.apply,
      Session.modify]
    cases isOn : journal.autocommit <;> simp [notCommitted]

/-- Since a given point, before which nothing is noted that comes later, all
statements are in the working content, and those executed with autocommit on
in the committed content. -/
theorem mem_journal_of_quiet
    (opened : Bool)
    (log : List (LibraryCall × Int))
    {more : List (LibraryCall × Int)}
    (quiet : ∀ answered ∈ more, Quiet answered)
    {n : Nat}
    (later : log.length ≤ n) :
    (n ∈ (journal opened (log ++ more)).working ↔ Executed (log ++ more) n) ∧
      (n ∈ (journal opened (log ++ more)).committed ↔
        Executed (log ++ more) n ∧ AutocommitOn opened (log ++ more) n) := by
  induction more using List.reverseRecOn with
  | nil =>
      rw [List.append_nil]
      have absent := absent_of_length_le opened later
      tauto
  | append_singleton more answered inductionHypothesis =>
      have earlierQuiet : ∀ answered ∈ more, Quiet answered :=
        fun other present => quiet other (List.mem_append_left _ present)
      have nowQuiet : Quiet answered := quiet answered (by simp)
      rw [← List.append_assoc, journal_append_singleton]
      rcases Nat.lt_trichotomy n (log ++ more).length with before | rfl | after
      · have others := (journal opened (log ++ more)).mem_note_of_ne nowQuiet
          (Nat.ne_of_lt before)
        have earlier := inductionHypothesis earlierQuiet
        unfold Executed AutocommitOn at earlier ⊢
        rw [others.1, others.2, List.getElem?_append_left before,
          List.take_append_of_le_length (Nat.le_of_lt before)]
        exact earlier
      · have fresh : ¬(journal opened (log ++ more)).Notes (log ++ more).length :=
          fun noted => Nat.lt_irrefl _ (lt_length_of_notes opened _ noted)
        have itself := Session.mem_note_self nowQuiet fresh
        unfold Executed AutocommitOn
        rw [itself.1, itself.2, List.getElem?_append_right (Nat.le_refl _),
          List.take_append_of_le_length (Nat.le_refl _), List.take_length]
        simp
      · have outside : (log ++ more ++ [answered]).length ≤ n := by
          rw [List.length_append, List.length_singleton]
          exact after
        have absent := absent_of_length_le opened outside
        rw [journal_append_singleton] at absent
        tauto

/-! ## The journal and the content -/

/-- What the statements with the given numbers make of a content. -/
def contentOf
    (effect : Bytes → D → D)
    (log : List (LibraryCall × Int))
    (content : D)
    (numbers : List Nat) : D :=
  numbers.foldl
    (fun (content : D) (n : Nat) =>
      match log[n]? with
      | some (.realQuery query, _) => effect query content
      | _ => content)
    content

theorem contentOf_append
    (effect : Bytes → D → D)
    (log more : List (LibraryCall × Int))
    (content : D)
    {numbers : List Nat}
    (bounded : ∀ n ∈ numbers, n < log.length) :
    contentOf effect (log ++ more) content numbers =
      contentOf effect log content numbers := by
  unfold contentOf
  apply List.foldl_ext
  intro reached n present
  rw [List.getElem?_append_left (bounded n present)]

/-- The session holds what its journal says, over the content it began with. -/
structure Reads
    (effect : Bytes → D → D)
    (log : List (LibraryCall × Int))
    (content : D)
    (journal : Session (List Nat))
    (session : Session D) : Prop where
  committed : session.committed = contentOf effect log content journal.committed
  working : session.working = contentOf effect log content journal.working
  mode : session.autocommit = journal.autocommit

/-- One more answered call is read as it is noted. -/
theorem Reads.note
    {effect : Bytes → D → D}
    {log : List (LibraryCall × Int)}
    {content : D}
    {journal : Session (List Nat)}
    {session : Session D}
    (reads : Reads effect log content journal session)
    (bounded : ∀ n, journal.Notes n → n < log.length)
    (answered : LibraryCall × Int) :
    Reads effect (log ++ [answered]) content
      (journal.note (answered, log.length))
      (session.answer effect answered) := by
  have keptCommitted := contentOf_append effect log [answered] content
    fun n present => bounded n (.inr present)
  have keptWorking := contentOf_append effect log [answered] content
    fun n present => bounded n (.inl present)
  obtain ⟨call, code⟩ := answered
  rw [Session.note, Session.answer, Session.answer]
  split_ifs with succeeded
  · cases call with
    | autocommit mode =>
        cases mode with
        | false =>
            exact ⟨reads.committed.trans keptCommitted.symm,
              reads.working.trans keptWorking.symm, rfl⟩
        | true =>
            exact ⟨reads.working.trans keptWorking.symm,
              reads.working.trans keptWorking.symm, rfl⟩
    | commit =>
        exact ⟨reads.working.trans keptWorking.symm,
          reads.working.trans keptWorking.symm, reads.mode⟩
    | rollback =>
        exact ⟨reads.committed.trans keptCommitted.symm,
          reads.committed.trans keptCommitted.symm, reads.mode⟩
    | realQuery query =>
        have changed : effect query session.working =
            contentOf effect (log ++ [(.realQuery query, code)]) content
              (journal.working ++ [log.length]) := by
          rw [reads.working, ← keptWorking]
          simp [contentOf]
        refine ⟨?_, changed, reads.mode⟩
        simp only [Session.apply, Session.modify, reads.mode]
        split_ifs
        · exact changed
        · exact reads.committed.trans keptCommitted.symm
  · exact ⟨reads.committed.trans keptCommitted.symm,
      reads.working.trans keptWorking.symm, reads.mode⟩

theorem Reads.foldl
    {effect : Bytes → D → D}
    {opened : Bool}
    {log : List (LibraryCall × Int)}
    {content : D}
    {session : Session D}
    (reads : Reads effect log content (journal opened log) session)
    (answered : List (LibraryCall × Int)) :
    Reads effect (log ++ answered) content (journal opened (log ++ answered))
      (answered.foldl (Session.answer effect) session) := by
  induction answered generalizing log session with
  | nil => simpa using reads
  | cons first answered inductionHypothesis =>
      have noted := reads.note (fun n => lt_length_of_notes opened log) first
      rw [← journal_append_singleton] at noted
      simpa using inductionHypothesis noted

namespace Operation

/-- A session opened without a transaction holds, after any run whose
statements succeed, what the statements in its journal make of the content it
found. -/
theorem reads_reached
    (server : TransactionServer σ D)
    {session : σ}
    (fresh : (server.view session).working = (server.view session).committed)
    {operations : List (Operation server.modifies)}
    (accepted : StatementsSucceeded (reached server session operations).calls) :
    Reads server.effect (reached server session operations).calls
      (server.view session).committed
      (journal (server.view session).autocommit
        (reached server session operations).calls)
      ((reached server session operations).view server) := by
  induction operations using List.reverseRecOn with
  | nil =>
      have opened : Reads server.effect [] (server.view session).committed
          (journal (server.view session).autocommit []) (server.view session) :=
        ⟨rfl, fresh, rfl⟩
      have constructed := opened.foldl
        [(.autocommit true, (server.autocommit true session).1)]
      have answered : (reached server session []).view server =
          [(LibraryCall.autocommit true, (server.autocommit true session).1)].foldl
            (Session.answer server.effect) (server.view session) :=
        server.view_autocommit true session
      rw [answered]
      exact constructed
  | append_singleton before operation inductionHypothesis =>
      obtain ⟨answered, performed⟩ :=
        reached_append_singleton server session before operation
      rw [performed.log] at accepted ⊢
      have earlier := inductionHypothesis fun query code present =>
        accepted query code (List.mem_append_left _ present)
      rw [performed.view fun query code present =>
        accepted query code (List.mem_append_right _ present)]
      exact earlier.foldl answered

/-! ## From a start to an end -/

/-- An operation that ends nothing makes quiet calls, if its statement
succeeds. -/
theorem quiet_of_mem_calls
    {modifies : Bytes → Prop}
    {operation : Operation modifies}
    (goesOn : operation.ends = false)
    {active : Bool}
    {answered : LibraryCall × Int}
    (made : answered.1 ∈ operation.calls active)
    (succeeds : ∀ query, answered.1 = .realQuery query → answered.2 = 0) :
    Quiet answered := by
  cases operation with
  | startTransaction => exact .inl (List.mem_singleton.mp made)
  | commitTransaction => cases goesOn
  | rollbackTransaction => cases goesOn
  | modification factory query =>
      obtain ⟨kind, code⟩ := answered
      simp only [Operation.calls] at made
      split_ifs at made
      · obtain rfl := List.mem_singleton.mp made
        have succeeded : code = 0 := succeeds query rfl
        exact .inr ⟨query, by rw [succeeded]⟩
      · cases made

/-- From a start on, as long as no end is called, the flag is set and only
quiet calls are made. -/
theorem quiet_during
    (server : TransactionServer σ D)
    (session : σ)
    (before : List (Operation server.modifies))
    {during : List (Operation server.modifies)}
    (noEnd : ∀ operation ∈ during, operation.ends = false)
    (accepted : StatementsSucceeded
      (reached server session (before ++ .startTransaction :: during)).calls) :
    (reached server session
        (before ++ .startTransaction :: during)).transactionActive = true ∧
      ∃ more, (∀ answered ∈ more, Quiet answered) ∧
        (reached server session (before ++ .startTransaction :: during)).calls =
          (reached server session (before ++ [.startTransaction])).calls ++
            more := by
  induction during using List.reverseRecOn with
  | nil =>
      obtain ⟨answered, performed⟩ :=
        reached_append_singleton server session before .startTransaction
      exact ⟨performed.flag, [], nofun, (List.append_nil _).symm⟩
  | append_singleton during operation inductionHypothesis =>
      rw [← List.cons_append, ← List.append_assoc] at accepted ⊢
      obtain ⟨answered, performed⟩ := reached_append_singleton server session
        (before ++ .startTransaction :: during) operation
      rw [performed.log] at accepted
      obtain ⟨active, more, quiet, calls⟩ := inductionHypothesis
        (fun other present => noEnd other (List.mem_append_left _ present))
        (fun query code present =>
          accepted query code (List.mem_append_left _ present))
      have goesOn : operation.ends = false := noEnd operation (by simp)
      have flag := performed.flag
      have kinds := performed.calls
      refine ⟨?_, more ++ answered, ?_, by rw [performed.log, calls,
        List.append_assoc]⟩
      · rw [flag, active]
        cases operation <;> first | rfl | cases goesOn
      · intro call present
        rcases List.mem_append.mp present with earlier | now
        · exact quiet call earlier
        · have made := List.mem_map_of_mem (f := Prod.fst) now
          rw [kinds] at made
          refine quiet_of_mem_calls goesOn made fun query isQuery => ?_
          obtain ⟨kind, code⟩ := call
          cases isQuery
          exact accepted query code (List.mem_append_right _ now)

/-- An end of an active transaction makes its two calls. -/
theorem calls_of_end
    (server : TransactionServer σ D)
    (session : σ)
    (before : List (Operation server.modifies))
    (operation : Operation server.modifies)
    {call : LibraryCall}
    (calls : operation.calls true = [call, .autocommit true])
    (active : (reached server session before).transactionActive = true) :
    ∃ ended switched,
      (reached server session (before ++ [operation])).calls =
        (reached server session before).calls ++
          [(call, ended), (.autocommit true, switched)] := by
  obtain ⟨answered, performed⟩ :=
    reached_append_singleton server session before operation
  have kinds := performed.calls
  rw [active, calls] at kinds
  obtain ⟨⟨first, ended⟩, rest, rfl, rfl, restKinds⟩ :=
    List.map_eq_cons_iff.mp kinds
  obtain ⟨⟨second, switched⟩, nothing, rfl, secondKind, noKinds⟩ :=
    List.map_eq_cons_iff.mp restKinds
  obtain rfl : second = .autocommit true := secondKind
  obtain rfl := List.map_eq_nil_iff.mp noKinds
  exact ⟨ended, switched, performed.log⟩

end Operation

/-- What is committed after the two calls of a rollback. -/
theorem committed_rollback
    (opened : Bool)
    (log : List (LibraryCall × Int))
    (ended switched : Int) :
    (journal opened
        (log ++ [(.rollback, ended), (.autocommit true, switched)])).committed =
      if ended ≠ 0 ∧ switched = 0 then (journal opened log).working
      else (journal opened log).committed := by
  rw [List.append_cons, journal_append_singleton, journal_append_singleton]
  by_cases discarded : ended = 0 <;> by_cases isOn : switched = 0 <;>
    simp [Session.note, Session.answer, Session.apply, Session.setAutocommit,
      Session.rollback, discarded, isOn]

/-- What is committed after the two calls of a commit. -/
theorem committed_commit
    (opened : Bool)
    (log : List (LibraryCall × Int))
    (ended switched : Int) :
    (journal opened
        (log ++ [(.commit, ended), (.autocommit true, switched)])).committed =
      if ended = 0 ∨ switched = 0 then (journal opened log).working
      else (journal opened log).committed := by
  rw [List.append_cons, journal_append_singleton, journal_append_singleton]
  by_cases published : ended = 0 <;> by_cases isOn : switched = 0 <;>
    simp [Session.note, Session.answer, Session.apply, Session.setAutocommit,
      Session.commit, published, isOn]

/-! ## Exactly when an end keeps its promise -/

/-- The statement with number `n` was executed between a start and the end of
the operations that follow it. -/
def MadeDuring
    (server : TransactionServer σ D)
    (session : σ)
    (before during : List (Operation server.modifies))
    (n : Nat) : Prop :=
  (Operation.reached server session
      (before ++ [.startTransaction])).calls.length ≤ n ∧
    Executed (Operation.reached server session
      (before ++ .startTransaction :: during)).calls n

/-- It was executed with autocommit on. -/
def MadeWithAutocommit
    (server : TransactionServer σ D)
    (session : σ)
    (before during : List (Operation server.modifies))
    (n : Nat) : Prop :=
  AutocommitOn (server.view session).autocommit
    (Operation.reached server session
      (before ++ .startTransaction :: during)).calls n

/-- The numbers of the statements in the committed content after a run. -/
def committedNumbers
    (server : TransactionServer σ D)
    (session : σ)
    (operations : List (Operation server.modifies)) : List Nat :=
  (journal (server.view session).autocommit
    (Operation.reached server session operations).calls).committed

/-- What a start and an end, with `during` between them, do to the committed
content, by the results of the calls the end makes. -/
structure EndsExactly
    (server : TransactionServer σ D)
    (session : σ)
    (before during : List (Operation server.modifies)) : Prop where
  /-- The transaction functions always return normally. -/
  returns : ∀ operation : Operation server.modifies,
    operation = .startTransaction ∨ operation.ends →
    ∀ connected, ∃ after,
      (operation.program server.library).run connected = .ok () after
  /-- None of the modifications is committed after the rollback exactly when
  each was made with autocommit off, and the rollback did not fail before
  autocommit was switched on again. -/
  rollback : ∃ ended switched,
    (Operation.reached server session
        (before ++ .startTransaction :: during ++ [.rollbackTransaction])).calls =
      (Operation.reached server session
          (before ++ .startTransaction :: during)).calls ++
        [(.rollback, ended), (.autocommit true, switched)] ∧
    ((∀ n, MadeDuring server session before during n →
        n ∉ committedNumbers server session
          (before ++ .startTransaction :: during ++ [.rollbackTransaction])) ↔
      (∀ n, MadeDuring server session before during n →
        ¬MadeWithAutocommit server session before during n) ∧
        ((∀ n, ¬MadeDuring server session before during n) ∨ ended = 0 ∨
          switched ≠ 0))
  /-- All of the modifications are committed after the commit exactly when each
  was made with autocommit on, or one of the two calls succeeded. -/
  commit : ∃ ended switched,
    (Operation.reached server session
        (before ++ .startTransaction :: during ++ [.commitTransaction])).calls =
      (Operation.reached server session
          (before ++ .startTransaction :: during)).calls ++
        [(.commit, ended), (.autocommit true, switched)] ∧
    ((∀ n, MadeDuring server session before during n →
        n ∈ committedNumbers server session
          (before ++ .startTransaction :: during ++ [.commitTransaction])) ↔
      (∀ n, MadeDuring server session before during n →
        MadeWithAutocommit server session before during n) ∨
        ended = 0 ∨ switched = 0)

namespace Operation

/-- The transaction functions return normally, whatever the library answers. -/
theorem program_returns
    (library : TransactionalClient σ)
    {modifies : Bytes → Prop}
    {operation : Operation modifies}
    (isTransactionCall : operation = .startTransaction ∨ operation.ends)
    (connected : Connected σ) :
    ∃ after, (operation.program library).run connected = .ok () after := by
  cases operation with
  | startTransaction => exact ⟨_, rfl⟩
  | commitTransaction =>
      cases active : connected.transactionActive <;>
        simp [program, Connected.commitTransaction, isTransactionActive, active,
          ignoring, setTransactionActive]
  | rollbackTransaction =>
      cases active : connected.transactionActive <;>
        simp [program, Connected.rollbackTransaction, isTransactionActive, active,
          ignoring, setTransactionActive]
  | modification factory query =>
      rcases isTransactionCall with isStart | isEnd
      · cases isStart
      · cases isEnd

/-- Modifications made since a start are in the working content, and in the
committed content when autocommit was on. -/
theorem mem_journal_of_madeDuring
    (server : TransactionServer σ D)
    (session : σ)
    (before : List (Operation server.modifies))
    {during : List (Operation server.modifies)}
    (noEnd : ∀ operation ∈ during, operation.ends = false)
    (accepted : StatementsSucceeded
      (reached server session (before ++ .startTransaction :: during)).calls)
    {n : Nat}
    (made : MadeDuring server session before during n) :
    n ∈ (journal (server.view session).autocommit
        (reached server session
          (before ++ .startTransaction :: during)).calls).working ∧
      (n ∈ committedNumbers server session (before ++ .startTransaction :: during) ↔
        MadeWithAutocommit server session before during n) := by
  obtain ⟨_, more, quiet, calls⟩ :=
    quiet_during server session before noEnd accepted
  obtain ⟨later, executed⟩ := made
  unfold committedNumbers MadeWithAutocommit
  rw [calls] at executed ⊢
  have noted := mem_journal_of_quiet (server.view session).autocommit _ quiet later
  refine ⟨noted.1.mpr executed, ?_⟩
  rw [noted.2]
  exact and_iff_right executed

/-- Some calls of the library may fail: exactly when the end that follows a
start still keeps its promise. -/
theorem endsExactly_of_run
    (server : TransactionServer σ D)
    (session : σ)
    (before during : List (Operation server.modifies))
    (noEnd : ∀ operation ∈ during, operation.ends = false)
    (accepted : StatementsSucceeded
      (reached server session (before ++ .startTransaction :: during)).calls) :
    EndsExactly server session before during := by
  obtain ⟨active, _⟩ := quiet_during server session before noEnd accepted
  have noted := fun n (made : MadeDuring server session before during n) =>
    mem_journal_of_madeDuring server session before noEnd accepted made
  obtain ⟨discarded, rollbackSwitched, rolledBack⟩ := calls_of_end server
    session _ .rollbackTransaction rfl active
  obtain ⟨published, commitSwitched, committed⟩ := calls_of_end server
    session _ .commitTransaction rfl active
  refine
    { returns := fun _ isTransactionCall => program_returns _ isTransactionCall
      rollback := ⟨discarded, rollbackSwitched, rolledBack, ?_⟩
      commit := ⟨published, commitSwitched, committed, ?_⟩ }
  · rw [committedNumbers, rolledBack, committed_rollback]
    split_ifs with kept
    · constructor
      · intro dropped
        have none : ∀ n, ¬MadeDuring server session before during n :=
          fun n made => dropped n made (noted n made).1
        exact ⟨fun n made => absurd made (none n), .inl none⟩
      · rintro ⟨_, none | succeeded | stillOff⟩ n made
        · exact absurd made (none n)
        · exact absurd succeeded kept.1
        · exact absurd kept.2 stillOff
    · have sound : discarded = 0 ∨ rollbackSwitched ≠ 0 :=
        (not_and_or.mp kept).imp_left not_not.mp
      constructor
      · intro dropped
        refine ⟨fun n made isOn => ?_, .inr sound⟩
        exact dropped n made ((noted n made).2.mpr isOn)
      · rintro ⟨allOff, _⟩ n made present
        exact allOff n made ((noted n made).2.mp present)
  · rw [committedNumbers, committed, committed_commit]
    split_ifs with succeeded
    · exact ⟨fun _ => .inr succeeded, fun _ n made => (noted n made).1⟩
    · constructor
      · intro kept
        exact .inl fun n made => (noted n made).2.mp (kept n made)
      · rintro (allOn | late) n made
        · exact (noted n made).2.mpr (allOn n made)
        · exact absurd late succeeded

/-- One modification, on a session whose rollback fails before autocommit is
switched on again. -/
theorem endsExactly_lostRollback :
    EndsExactly notingServer { script := [0, 0, 0, 1, 0] } []
      [.modification { connection := some 0 } ⟨bytes "a", trivial⟩] := by
  apply endsExactly_of_run
  · simp [ends]
  · have succeeded : ∀ call ∈ (reached notingServer { script := [0, 0, 0, 1, 0] }
        ([] ++ .startTransaction :: [.modification { connection := some 0 }
          ⟨bytes "a", trivial⟩])).calls, call.2 = 0 := by
      decide +kernel
    exact fun query code present => succeeded _ present

/-- Start and rollback return normally, and the modification made between them
is in the committed content. -/
theorem not_dropped_lostRollback :
    ¬((∀ n, MadeDuring notingServer { script := [0, 0, 0, 1, 0] } []
        [.modification { connection := some 0 } ⟨bytes "a", trivial⟩] n →
      n ∉ committedNumbers notingServer { script := [0, 0, 0, 1, 0] }
        [.startTransaction,
          .modification { connection := some 0 } ⟨bytes "a", trivial⟩,
          .rollbackTransaction]) ∨
      bytes "a" ∉ ((reached notingServer { script := [0, 0, 0, 1, 0] }
        [.startTransaction,
          .modification { connection := some 0 } ⟨bytes "a", trivial⟩,
          .rollbackTransaction]).view notingServer).committed) := by
  rintro (dropped | absent)
  · refine dropped 2 ⟨by decide +kernel, bytes "a", by decide +kernel⟩ ?_
    decide +kernel
  · revert absent
    decide +kernel

end Operation

end MySql
end ModernCommon
