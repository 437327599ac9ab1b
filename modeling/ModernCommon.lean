import ModernCommon.Attention.Concentration
import ModernCommon.Attention.Degenerate
import ModernCommon.Attention.PlainFormula
import ModernCommon.Attention.ToyAttention
import ModernCommon.Cache.CacheData
import ModernCommon.Cache.ConcurrentReload
import ModernCommon.Cache.Contents
import ModernCommon.Cache.FailedReload
import ModernCommon.Cache.Interleaving
import ModernCommon.Cache.Lifetimes
import ModernCommon.Cache.SharedEntries
import ModernCommon.Cache.Synchronized
import ModernCommon.Call.Grammar
import ModernCommon.Call.Protocol
import ModernCommon.Data.Query
import ModernCommon.Data.Table
import ModernCommon.DataFactory.Callbacks
import ModernCommon.DataFactory.Client
import ModernCommon.DataFactory.Columns
import ModernCommon.DataFactory.Disconnect
import ModernCommon.DataFactory.Endings
import ModernCommon.DataFactory.Lifecycle
import ModernCommon.DataFactory.Ownership
import ModernCommon.DataFactory.RunQuery
import ModernCommon.DataFactory.Servers
import ModernCommon.DataFactory.Sessions
import ModernCommon.DataFactory.Statements
import ModernCommon.Dump.Concurrent
import ModernCommon.Dump.Ledger
import ModernCommon.Dump.Registry
import ModernCommon.Guards
import ModernCommon.Library.Ascii
import ModernCommon.Library.CountedHeap
import ModernCommon.Library.CriticalSections
import ModernCommon.Library.Grammar
import ModernCommon.Library.Keeps
import ModernCommon.Library.KeyedStore
import ModernCommon.Library.LockOrder
import ModernCommon.Library.Mealy
import ModernCommon.Library.Monitor
import ModernCommon.Library.Multimap
import ModernCommon.Library.Refinement
import ModernCommon.Library.Routine
import ModernCommon.Library.SharedMutex
import ModernCommon.Library.Slots
import ModernCommon.Library.Softmax
import ModernCommon.Library.System
import ModernCommon.Library.Termination
import ModernCommon.MySql.AllOrNothing
import ModernCommon.MySql.Connection
import ModernCommon.MySql.FailingTransaction
import ModernCommon.MySql.Lexer
import ModernCommon.MySql.Session
import ModernCommon.MySql.Sharing
import ModernCommon.MySql.Transaction
import ModernCommon.NestedTransitions
import ModernCommon.ObjectPool.Accounts
import ModernCommon.ObjectPool.Cleanliness
import ModernCommon.ObjectPool.Exceptions
import ModernCommon.ObjectPool.Growth
import ModernCommon.ObjectPool.Ownership
import ModernCommon.ObjectPool.Places
import ModernCommon.ObjectPool.Pool
import ModernCommon.ObjectPool.Recycling
import ModernCommon.ObjectPool.References
import ModernCommon.Protocol
import ModernCommon.Registrations
import ModernCommon.Sip.Acknowledgement
import ModernCommon.Sip.Course
import ModernCommon.Sip.Delivery
import ModernCommon.Sip.FailingAck
import ModernCommon.Sip.Figure5
import ModernCommon.Sip.Message
import ModernCommon.Sip.Outcome
import ModernCommon.Sip.Owner
import ModernCommon.Sip.Reentrancy
import ModernCommon.Sip.Transaction
import ModernCommon.StateMachine
import ModernCommon.ThrowingTransitions
import ModernCommon.Widget.CachedStore
import ModernCommon.Widget.Category
import ModernCommon.Widget.Reference
import ModernCommon.Widget.RoundTrip
import ModernCommon.Widget.Server
import ModernCommon.Widget.Statement
import ModernCommon.Widget.Store
import ModernCommon.Widget.Threads
import ModernCommon.Widget.Transactions
import ModernCommon.Widget.Update
import ModernCommon.Widget.WidgetTable
