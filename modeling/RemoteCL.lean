import RemoteCL.Client.Api
import RemoteCL.Client.Bookkeeping
import RemoteCL.Client.Callbacks
import RemoteCL.Client.Connection
import RemoteCL.Client.Environment
import RemoteCL.Client.Mapping
import RemoteCL.Client.Memory
import RemoteCL.Client.Objects
import RemoteCL.Client.Program
import RemoteCL.Client.WriteBack
import RemoteCL.Common.Canonical
import RemoteCL.Common.EndOfInput
import RemoteCL.Common.Exchange
import RemoteCL.Common.OpenCL
import RemoteCL.Common.Packet
import RemoteCL.Common.Packets.Basic
import RemoteCL.Common.Packets.Commands
import RemoteCL.Common.Packets.Objects
import RemoteCL.Common.PartialSend
import RemoteCL.Common.Payload
import RemoteCL.Common.RoundTrip
import RemoteCL.Common.SocketStream
import RemoteCL.Common.Unreliable
import RemoteCL.Common.Version
import RemoteCL.Common.Wire
import RemoteCL.Server.Arguments
import RemoteCL.Server.Driver
import RemoteCL.Server.Instance
import RemoteCL.Server.Memory
import RemoteCL.Server.Numbering
import RemoteCL.Server.Objects
import RemoteCL.Server.Parts
import RemoteCL.Server.Pending
import RemoteCL.Server.Processes
import RemoteCL.Server.Program
import RemoteCL.Server.Progress
import RemoteCL.Server.Questions
import RemoteCL.Server.Run
import RemoteCL.Server.Staging
import RemoteCL.Server.Thread
import RemoteCL.Session.Agreement
import RemoteCL.Session.Answers
import RemoteCL.Session.Basic
import RemoteCL.Session.Bounds
import RemoteCL.Session.BufferCalls
import RemoteCL.Session.BufferSessions
import RemoteCL.Session.Buffers
import RemoteCL.Session.CallbackIDs
import RemoteCL.Session.CallbackStatuses
import RemoteCL.Session.Calls
import RemoteCL.Session.Calls.Commands
import RemoteCL.Session.Calls.Details
import RemoteCL.Session.Calls.Exact
import RemoteCL.Session.Calls.Images
import RemoteCL.Session.Calls.KernelArg
import RemoteCL.Session.Calls.Objects
import RemoteCL.Session.Calls.Programs
import RemoteCL.Session.Calls.Queries
import RemoteCL.Session.Calls.Registration
import RemoteCL.Session.Calls.Replies
import RemoteCL.Session.Calls.Shapes
import RemoteCL.Session.Calls.Transfers
import RemoteCL.Session.Creations
import RemoteCL.Session.Custody
import RemoteCL.Session.Effect
import RemoteCL.Session.EventLoss
import RemoteCL.Session.EventStream
import RemoteCL.Session.Failures
import RemoteCL.Session.Filling
import RemoteCL.Session.Guesses
import RemoteCL.Session.Handshake
import RemoteCL.Session.History
import RemoteCL.Session.KernelLists
import RemoteCL.Session.Launches
import RemoteCL.Session.Lifecycle
import RemoteCL.Session.Lifetimes
import RemoteCL.Session.Linearizable
import RemoteCL.Session.Mutexes
import RemoteCL.Session.Narrowing
import RemoteCL.Session.Notifications
import RemoteCL.Session.NullPlatforms
import RemoteCL.Session.Nulls
import RemoteCL.Session.Numbers
import RemoteCL.Session.OverSockets
import RemoteCL.Session.ProgramBinaries
import RemoteCL.Session.ProgramBuilds
import RemoteCL.Session.ProgramFetches
import RemoteCL.Session.ProgramOptions
import RemoteCL.Session.ProgramSources
import RemoteCL.Session.PropertyLists
import RemoteCL.Session.RawValues
import RemoteCL.Session.Rebuilding
import RemoteCL.Session.Record
import RemoteCL.Session.RectReads
import RemoteCL.Session.Registry
import RemoteCL.Session.Resolution
import RemoteCL.Session.Rules
import RemoteCL.Session.Runs
import RemoteCL.Session.Scripted
import RemoteCL.Session.Sizes
import RemoteCL.Session.Stores
import RemoteCL.Session.Tables
import RemoteCL.Session.WaitLists
import RemoteCL.Session.Waiting
import RemoteCL.Session.WaitingCalls
import RemoteCL.Theory.Alone
import RemoteCL.Theory.ArrayStore
import RemoteCL.Theory.Asking
import RemoteCL.Theory.Buffered
import RemoteCL.Theory.Canonical
import RemoteCL.Theory.Capabilities
import RemoteCL.Theory.Delivery
import RemoteCL.Theory.Dependencies
import RemoteCL.Theory.Descriptors
import RemoteCL.Theory.Determinism
import RemoteCL.Theory.Duplex
import RemoteCL.Theory.Ends
import RemoteCL.Theory.Execute
import RemoteCL.Theory.Layout
import RemoteCL.Theory.Lending
import RemoteCL.Theory.Liberal
import RemoteCL.Theory.Locking
import RemoteCL.Theory.Losses
import RemoteCL.Theory.Outcomes
import RemoteCL.Theory.Prog
import RemoteCL.Theory.Reader
import RemoteCL.Theory.Sequence
import RemoteCL.Theory.Termination
import RemoteCL.Theory.Traces
import RemoteCL.Theory.Unreliable
import RemoteCL.Theory.While
import RemoteCL.Theory.Wp
