import Lpt.Base.Program
import Lpt.Base.Threads
import Lpt.Base.Partial
import Lpt.Base.Transition
import Lpt.Base.Acceptor
import Lpt.Base.Progress
import Lpt.Base.Mutex
import Lpt.Base.Merge
import Lpt.Base.Simulation
import Lpt.Base.Loops
import Lpt.Base.DoWhile
import Lpt.Base.CString
import Lpt.Base.Lines
import Lpt.Base.Cuts
import Lpt.Base.Paths
import Lpt.Base.Backoff
import Lpt.Base.Tokens
import Lpt.Base.Numbers
import Lpt.Base.Scan
import Lpt.Base.Codec
import Lpt.Cloud.Protocol
import Lpt.Cloud.Tcp
import Lpt.Cloud.World
import Lpt.Cloud.Ops
import Lpt.Cloud.Packet
import Lpt.Cloud.Framing
import Lpt.Cloud.Request
import Lpt.Cloud.Connection
import Lpt.Cloud.Device
import Lpt.Cloud.Daemon
import Lpt.Cloud.Handlers
import Lpt.Cloud.Api
import Lpt.Cloud.Command
import Lpt.Cloud.Trace
import Lpt.Cloud.Run
import Lpt.Cloud.Sent
import Lpt.Cloud.Session
import Lpt.Cloud.Frames
import Lpt.Cloud.Wire
import Lpt.Cloud.Recovery
import Lpt.Cloud.Saving
import Lpt.Cloud.PowerCut
import Lpt.Cloud.Console
import Lpt.Cloud.Written
import Lpt.Cloud.Authenticated
import Lpt.Cloud.DirtyFlag
import Lpt.Cloud.Descriptors
import Lpt.Cloud.Notices
import Lpt.Cloud.Binding
import Lpt.Cloud.Broken
import Lpt.Cloud.Retry
import Lpt.Cloud.Exchange
import Lpt.Cloud.Network
import Lpt.Cloud.Correlation
import Lpt.Cloud.Register
import Lpt.Cloud.Bounds
import Lpt.Cloud.Phrases
import Lpt.Cloud.Locks
import Lpt.Cloud.Deadlock
import Lpt.Cloud.Duo
import Lpt.Cloud.Pending
import Lpt.Cloud.Restart
import Lpt.Cloud.Credentials
import Lpt.Cloud.Unbind
import Lpt.Cloud.Connected
import Lpt.Cloud.Backoff
import Lpt.Cloud.RequestBuffer
import Lpt.Cloud.ReplyBuffer
import Lpt.Cloud.Control
import Lpt.Cloud.Leftovers
import Lpt.Cloud.Rename
import Lpt.Cloud.Sizes
import Lpt.Cloud.Reachable
import Lpt.Cloud.Address
import Lpt.Cloud.Signature
import Lpt.Relay.Socket
import Lpt.Relay.Client
import Lpt.Relay.Transparent
import Lpt.Relay.Server
import Lpt.Relay.Upload
import Lpt.Relay.Download
import Lpt.Relay.Worker
import Lpt.Relay.Stops
import Lpt.Relay.Classify
import Lpt.Relay.Echo
import Lpt.Relay.EchoClient
import Lpt.Relay.EchoSystem
import Lpt.Relay.Sending
import Lpt.Relay.Accept
import Lpt.Relay.Forking
import Lpt.Relay.Workers
import Lpt.Relay.Pipeline
import Lpt.Snippets.IpAddress
