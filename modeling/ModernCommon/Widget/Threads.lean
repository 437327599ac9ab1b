import ModernCommon.Library.Termination
import ModernCommon.Widget.Store

/-!
# Threads at the widget table

Any number of threads ask the widget table over one connection, each through a
factory of its own. Their statements interleave call by call, but for the query
mutex. The answers are nevertheless those of a store that is asked one request
at a time.
-/

namespace ModernCommon
namespace Widget

open Library MySql Data DataFactory

variable {σ : Type}

/-- A request and the factory it goes through. -/
structure ThreadRequest where
  factory : ConnectedFactory
  request : Request

/-- The part of a request that is carried out with the query mutex; the rows of
its result set are a copy, which the thread maps on its own. -/
def ThreadRequest.routine
    (mysql : MySqlClient σ)
    (asked : ThreadRequest) : Routine (Client σ) Answer := do
  let ended ← ((asked.request.call asked.factory).guardedSection mysql).run
  return asked.request.conclude ended

/-- The query mutex of the connection to the widget table. -/
def tableMonitor (mysql : MySqlClient σ) :
    Monitor (Client σ) ThreadRequest Empty Answer where
  routine := ThreadRequest.routine mysql
  intrusion := nofun

/-- A request that nothing comes between ends as its statement does. -/
theorem ThreadRequest.routine_run
    (mysql : MySqlClient σ)
    (asked : ThreadRequest)
    {client : Client σ}
    (unlocked : client.queryMutex = false) :
    (asked.routine mysql).run client =
      (asked.request.conclude
          (asked.request.ended mysql asked.factory client).1,
        (asked.request.ended mysql asked.factory client).2) := by
  rw [ThreadRequest.routine, Routine.run_bind,
    StatementCall.guardedSection_run mysql _ unlocked]
  rfl

section Runs

variable {ThreadId : Type} [DecidableEq ThreadId]

/-- In every run the requests answered so far were answered as a store of the
table's rows allows. -/
theorem explained_of_run
    (server : WidgetServer σ)
    {todo : ThreadId → List ThreadRequest}
    (fits : ∀ thread, ∀ asked ∈ todo thread,
      asked.request.Fits server.characters)
    {start : Client σ}
    (unlocked : start.queryMutex = false)
    {events : List (Monitor.Event ThreadId Empty)}
    {state}
    (ran : ((tableMonitor server.toMySqlClient).system start todo).run
      ((tableMonitor server.toMySqlClient).system start todo).initial events =
        some state) :
    ∃ store : WidgetStore,
      store.Lists (server.content start.session).rows ∧
      let asked := (state.history.filterMap Monitor.Entry.operation).map
        ThreadRequest.request
      let answers := state.history.filterMap Monitor.Entry.answer
      Specification.Explains Answers store asked answers
          (replay store asked answers) ∧
        (state.inside = none → (replay store asked answers).Lists
          (server.content state.shared.session).rows) := by
  have refines : ∀ (asked : ThreadRequest) (client : Client σ)
      (store : WidgetStore),
      asked.request.Fits server.characters → HoldsTable server client store →
      ∃ next,
        Answers asked.request store
          (((tableMonitor server.toMySqlClient).routine asked).run client).1 next ∧
        HoldsTable server
          (((tableMonitor server.toMySqlClient).routine asked).run client).2
          next := by
    intro asked client store fits holds
    obtain ⟨next, answers, leaves⟩ :=
      asked.request.refines server asked.factory fits holds
    have ended := asked.routine_run server.toMySqlClient holds.unlocked
    exact ⟨next, ended ▸ answers, ended ▸ leaves.table⟩
  have lists := KeyedStore.ofRows_lists (server.content start.session).uniqueIds
  have holds : HoldsTable server start _ := ⟨unlocked, lists⟩
  obtain ⟨⟨final, explained, outside⟩, _⟩ :=
    (tableMonitor server.toMySqlClient).explains_of_run refines fits holds ran
  have carried := explained.map
  obtain rfl := carried.replay Answers.eq_acknowledge
  exact ⟨_, lists, carried, fun isOutside => (outside isOutside).lists⟩

end Runs

/-- In every run of any number of threads, the requests answered so far were
answered as a store of the table's rows allows, one after another in the order
in which the query mutex was taken, each thread's in its order. With no thread
inside, the table holds the replay of the acknowledged modifications. -/
theorem threads_refine
    {ThreadId : Type}
    [DecidableEq ThreadId]
    (server : WidgetServer σ)
    {todo : ThreadId → List ThreadRequest}
    (fits : ∀ thread, ∀ asked ∈ todo thread,
      asked.request.Fits server.characters)
    {start : Client σ}
    (unlocked : start.queryMutex = false)
    {events : List (Monitor.Event ThreadId Empty)}
    {state}
    (ran : ((tableMonitor server.toMySqlClient).system start todo).run
      ((tableMonitor server.toMySqlClient).system start todo).initial events =
        some state) :
    ∃ store : WidgetStore,
      store.Lists (server.content start.session).rows ∧
      let asked := (state.history.filterMap Monitor.Entry.operation).map
        ThreadRequest.request
      let answers := state.history.filterMap Monitor.Entry.answer
      Specification.Explains Answers store asked answers
          (replay store asked answers) ∧
        (state.inside = none → (replay store asked answers).Lists
          (server.content state.shared.session).rows) ∧
        ∀ thread,
          Monitor.operationsOf thread state.history ++
            Monitor.operationIn thread state.inside ++ state.todo thread =
            todo thread := by
  obtain ⟨store, lists, explained, outside⟩ :=
    explained_of_run server fits unlocked ran
  have linear := (tableMonitor server.toMySqlClient).linear_of_run
    (Monitor.allows_undisturbed _ start todo _ events) ran
  exact ⟨store, lists, explained, outside, linear.ordered⟩

/-- Two threads insert one bolt; one of them was scheduled until it left. -/
theorem threads_refine_bolts :
    let todo := fun _ : Bool =>
      [(⟨widgetConnection, .insert bolt⟩ : ThreadRequest)]
    let system := (tableMonitor referenceServer.toMySqlClient).system
      emptyTable todo
    ∃ events state, system.run system.initial events = some state ∧
    state.inside = none ∧ state.todo true = [] ∧
    ∃ store : WidgetStore,
      store.Lists (referenceServer.content emptyTable.session).rows ∧
      let asked := (state.history.filterMap Monitor.Entry.operation).map
        ThreadRequest.request
      let answers := state.history.filterMap Monitor.Entry.answer
      Specification.Explains Answers store asked answers
          (replay store asked answers) ∧
        (state.inside = none → (replay store asked answers).Lists
          (referenceServer.content state.shared.session).rows) ∧
        ∀ thread,
          Monitor.operationsOf thread state.history ++
            Monitor.operationIn thread state.inside ++ state.todo thread =
            todo thread := by
  intro todo system
  obtain ⟨events, ran⟩ := (tableMonitor referenceServer.toMySqlClient).finish
    emptyTable todo (Function.update todo true []) true
    ⟨widgetConnection, .insert bolt⟩
    ((tableMonitor referenceServer.toMySqlClient).routine
      ⟨widgetConnection, .insert bolt⟩) emptyTable []
  have entered : system.run system.initial (.enter true :: events) = some _ :=
    ran
  have fits : ∀ thread, ∀ asked ∈ todo thread,
      asked.request.Fits referenceServer.characters := by
    intro thread asked present
    obtain rfl := List.mem_singleton.mp present
    exact ⟨by decide, by decide⟩
  exact ⟨_, _, entered, rfl, Function.update_self true [] todo,
    threads_refine referenceServer fits rfl entered⟩

/-- However any number of threads at the table are scheduled, it ends, and not
before every request of every thread has been answered. The requests were then
answered as a store asked one request at a time answers them, and the table
holds what the acknowledged modifications left. -/
theorem threads_complete
    {ThreadId : Type}
    [DecidableEq ThreadId]
    [Finite ThreadId]
    (server : WidgetServer σ)
    {todo : ThreadId → List ThreadRequest}
    (fits : ∀ thread, ∀ asked ∈ todo thread,
      asked.request.Fits server.characters)
    {start : Client σ}
    (unlocked : start.queryMutex = false) :
    let system := (tableMonitor server.toMySqlClient).system start todo
    system.Ends system.initial ∧
      ∀ events state, system.run system.initial events = some state →
        system.Stuck state →
        ∃ store : WidgetStore,
          store.Lists (server.content start.session).rows ∧
          let asked := (state.history.filterMap Monitor.Entry.operation).map
            ThreadRequest.request
          let answers := state.history.filterMap Monitor.Entry.answer
          Specification.Explains Answers store asked answers
              (replay store asked answers) ∧
            (replay store asked answers).Lists
              (server.content state.shared.session).rows ∧
            ∀ thread,
              Monitor.operationsOf thread state.history = todo thread := by
  intro system
  obtain ⟨ends, answered⟩ :=
    (tableMonitor server.toMySqlClient).completes start todo
  refine ⟨ends, fun events state ran stuck => ?_⟩
  obtain ⟨isOutside, all⟩ := answered events state ran stuck
  obtain ⟨store, lists, explained, outside⟩ :=
    explained_of_run server fits unlocked ran
  exact ⟨store, lists, explained, outside isOutside, all⟩

theorem threads_complete_bolts :
    let todo := fun _ : Bool =>
      [(⟨widgetConnection, .insert bolt⟩ : ThreadRequest)]
    let system := (tableMonitor referenceServer.toMySqlClient).system
      emptyTable todo
    system.Ends system.initial ∧
      ∀ events state, system.run system.initial events = some state →
        system.Stuck state →
        ∃ store : WidgetStore,
          store.Lists (referenceServer.content emptyTable.session).rows ∧
          let asked := (state.history.filterMap Monitor.Entry.operation).map
            ThreadRequest.request
          let answers := state.history.filterMap Monitor.Entry.answer
          Specification.Explains Answers store asked answers
              (replay store asked answers) ∧
            (replay store asked answers).Lists
              (referenceServer.content state.shared.session).rows ∧
            ∀ thread,
              Monitor.operationsOf thread state.history = todo thread := by
  refine threads_complete referenceServer ?_ rfl
  intro thread asked present
  obtain rfl := List.mem_singleton.mp present
  exact ⟨by decide, by decide⟩

end Widget
end ModernCommon
