import XdsService.Foundation.Json
import XdsService.Foundation.JsonText
import XdsService.Foundation.JsonLength
import XdsService.Foundation.JsonPlain
import XdsService.Foundation.Stringify
import XdsService.Foundation.Regex
import XdsService.Foundation.Markup
import XdsService.Foundation.Properties
import XdsService.Foundation.Buckets
import XdsService.Foundation.Program
import XdsService.Foundation.Runs
import XdsService.Foundation.Ledger
import XdsService.Foundation.Cells
import XdsService.Foundation.Coercion
import XdsService.Foundation.Interning
import XdsService.Foundation.RoundTrip
import XdsService.Foundation.Logs
import XdsService.Foundation.Matching
import XdsService.Foundation.Blocks
import XdsService.Foundation.Ghost
import XdsService.Foundation.Refinement
import XdsService.Supervisor.World
import XdsService.Supervisor.Daemons
import XdsService.Supervisor.Trace
import XdsService.Supervisor.Api
import XdsService.Supervisor.Record
import XdsService.Supervisor.Plan
import XdsService.Supervisor.Execution
import XdsService.Supervisor.Start
import XdsService.Supervisor.Stop
import XdsService.Supervisor.Selection
import XdsService.Supervisor.Session
import XdsService.Supervisor.Fleet
import XdsService.Supervisor.Protocol
import XdsService.Supervisor.Accepted
import XdsService.Supervisor.Coverage
import XdsService.Supervisor.Cleanup
import XdsService.Supervisor.StartStop
import XdsService.Supervisor.Criterion
import XdsService.Supervisor.Collection
import XdsService.Supervisor.Collecting
import XdsService.Supervisor.Representation
import XdsService.Supervisor.Readable
import XdsService.Supervisor.SelfTrace
import XdsService.Supervisor.Overrun
import XdsService.Supervisor.Independence
import XdsService.Supervisor.Stored
import XdsService.Supervisor.Answering
import XdsService.Supervisor.Discovery
import XdsService.Supervisor.Conversation
import XdsService.Supervisor.Recovery
import XdsService.Supervisor.Owned
import XdsService.Supervisor.Accounting
import XdsService.Supervisor.Memory
import XdsService.Utils.LinkedList
import XdsService.Utils.Elements
import XdsService.Utils.Indexing
import XdsService.Utils.Adding
import XdsService.Utils.Destroying
import XdsService.Utils.Operations
import XdsService.Lua.Value
import XdsService.Lua.ToJson
import XdsService.Lua.TraceEvents
import XdsService.Lua.Metrics
import XdsService.Websock.Page
import XdsService.Websock.Steps
import XdsService.Websock.Exchange
import XdsService.Websock.Closing
import XdsService.Websock.Allocation
import XdsService.Websock.Unsent
import XdsService.Websock.Events
import XdsService.Websock.Logger
import XdsService.Websock.Tokens
import XdsService.Websock.Highlight
import XdsService.Graph.Drawing
import XdsService.Graph.Nodes
import XdsService.Graph.Answers
import XdsService.Graph.Bindings
import XdsService.Console.Tab
import XdsService.Console.Reactions
import XdsService.Console.Accounts
import XdsService.Console.Steps
import XdsService.Console.Sockets
import XdsService.Console.Settling
import XdsService.Console.Transcript
import XdsService.Console.Listening
import XdsService.Console.Lifecycle
import XdsService.Console.Frames
import XdsService.Console.Correlation
import XdsService.Console.Reading
