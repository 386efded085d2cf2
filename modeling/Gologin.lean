import Gologin.Lib.Runs
import Gologin.Lib.Tables
import Gologin.Lib.Bytes
import Gologin.Lib.Utf8
import Gologin.Lib.Segments
import Gologin.Lib.Calls
import Gologin.Lib.Fifo
import Gologin.Lib.Threads
import Gologin.Lib.SharedMutex
import Gologin.Lib.StdString
import Gologin.Lib.Progress
import Gologin.Lib.Lockstep
import Gologin.Lib.Rest
import Gologin.Lib.Fairness
import Gologin.Core.Types
import Gologin.Tcp.Packet
import Gologin.Tcp.Recv
import Gologin.Tcp.Sending
import Gologin.Tcp.Framing
import Gologin.Tcp.Genuine
import Gologin.Tcp.Lengths
import Gologin.Messages.Json
import Gologin.Messages.Packer
import Gologin.Messages.Messages
import Gologin.Messages.Text
import Gologin.Messages.Across
import Gologin.Lib.Registers
import Gologin.Auth.Provider
import Gologin.Auth.History
import Gologin.Tcp.Dispatcher
import Gologin.Server.App
import Gologin.Server.Machine
import Gologin.Server.Handling
import Gologin.Server.Sockets
import Gologin.Server.Replies
import Gologin.Server.Sequential
import Gologin.Server.Authorisation
import Gologin.Server.Broadcast
import Gologin.Server.Consistency
import Gologin.Server.Registration
import Gologin.Server.Closing
import Gologin.Server.Snapshot
import Gologin.Server.Delivery
import Gologin.Server.Malformed
import Gologin.Server.Secrets
import Gologin.Server.Failure
import Gologin.Server.Lifecycle
import Gologin.Server.Threads
import Gologin.Server.Shutdown
import Gologin.Server.Attribution
import Gologin.Server.Locks
import Gologin.Server.Atomic
import Gologin.Server.Blocks
import Gologin.Client.Frame
import Gologin.Client.App
import Gologin.Client.Receive
import Gologin.Client.Machine
import Gologin.Client.Discipline
import Gologin.Client.Acknowledgement
import Gologin.Client.Connection
import Gologin.Client.Loop
import Gologin.Client.Disconnect
import Gologin.Client.Callbacks
import Gologin.Client.Credentials
import Gologin.Client.Address
import Gologin.Session.Closure
import Gologin.Session.Talk
import Gologin.Session.Outlook
import Gologin.Session.World
import Gologin.Session.Outsiders
import Gologin.Session.Meaning
import Gologin.Session.Service
import Gologin.Session.Ground
import Gologin.Session.Parties
import Gologin.Session.Agreement
import Gologin.Session.Rest
import Gologin.Session.Chat
import Gologin.Session.Availability
import Gologin.Session.Verdicts
import Gologin.Session.Letters
import Gologin.Session.Readers
import Gologin.Session.Spreading
