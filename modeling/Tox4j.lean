import Tox4j.Lib.Run
import Tox4j.Native.Jni
import Tox4j.Lib.HandleTable
import Tox4j.Native.InstanceManager
import Tox4j.Native.ManagerSpec
import Tox4j.Native.HandleSafety
import Tox4j.Lib.ArrayList
import Tox4j.Kotlin.Event
import Tox4j.Native.Lifecycle
import Tox4j.Kotlin.Lifecycle
import Tox4j.Native.LifecycleSpec
import Tox4j.Kotlin.Ownership
import Tox4j.Kotlin.Closing
import Tox4j.Kotlin.Construction
import Tox4j.Kotlin.LifecycleSafety
import Tox4j.Kotlin.Multiplexer
import Tox4j.Lib.Exclusive
import Tox4j.Native.Threads
import Tox4j.Native.ThreadLocks
import Tox4j.Native.ThreadSafety
import Tox4j.Lib.Waiting
import Tox4j.Lib.RecursiveMutex
import Tox4j.Lib.AddressedList
import Tox4j.Lib.Proto3
import Tox4j.Lib.Proto3Message
import Tox4j.Log.JniLog
import Tox4j.Log.PrintArg
import Tox4j.Log.Threads
import Tox4j.Log.Journal
import Tox4j.Native.Calls
import Tox4j.Native.CallLocks
import Tox4j.Native.Deadlock
import Tox4j.Lib.Pointwise
import Tox4j.Log.Books
import Tox4j.Log.Schedule
import Tox4j.Log.LogSafety
import Tox4j.Log.Nested
import Tox4j.Events.Pipe
import Tox4j.Events.Core
import Tox4j.Events.CoreWire
import Tox4j.Events.CoreDispatch
import Tox4j.Events.Av
import Tox4j.Events.AvWire
import Tox4j.Events.AvDispatch
import Tox4j.Events.Iterate
import Tox4j.Log.Limit
import Tox4j.Native.EntryPoint
import Tox4j.Native.SendFrame
import Tox4j.Native.ArrayGuards
import Tox4j.Native.Blocking
import Tox4j.Lib.Numeral
import Tox4j.Log.Print
import Tox4j.Log.PrintTime
import Tox4j.Log.Newlines
import Tox4j.Log.Wire
import Tox4j.Log.Fetching
import Tox4j.Log.Lines
import Tox4j.Lib.Linearizable
import Tox4j.Native.History
import Tox4j.Native.Simulation
import Tox4j.Native.Linearization
import Tox4j.Lib.OwnedHeap
import Tox4j.Native.ToxApi
import Tox4j.Native.ToxCoreJni
import Tox4j.Native.Sessions
import Tox4j.Native.Isolation
import Tox4j.Native.UnsizedArrays
import Tox4j.Native.Aborts
import Tox4j.Native.Deliveries
import Tox4j.Native.Executions
import Tox4j.Native.Serial
import Tox4j.Native.Using
import Tox4j.Native.Serializability
import Tox4j.Kotlin.ToxCoreApi
