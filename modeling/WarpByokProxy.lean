import WarpByokProxy.Library.Transducer
import WarpByokProxy.Library.Runs
import WarpByokProxy.Library.MaskedFields
import WarpByokProxy.Library.Sink
import WarpByokProxy.Library.Actors
import WarpByokProxy.Library.Json
import WarpByokProxy.Library.JsonText
import WarpByokProxy.Library.LastMatches
import WarpByokProxy.Library.Readings
import WarpByokProxy.Library.StringParts
import WarpByokProxy.Library.Pairing
import WarpByokProxy.Library.Base64
import WarpByokProxy.Library.Framing
import WarpByokProxy.Library.WireFormat
import WarpByokProxy.Library.SharedSupply
import WarpByokProxy.Serde
import WarpByokProxy.Frame
import WarpByokProxy.WarpApi
import WarpByokProxy.StreamAccumulator
import WarpByokProxy.BedrockClient
import WarpByokProxy.UiAdapter
import WarpByokProxy.RouteMultiAgent
import WarpByokProxy.StreamTasks
import WarpByokProxy.ModelId
import WarpByokProxy.Config
import WarpByokProxy.RequestFields
import WarpByokProxy.Cache
import WarpByokProxy.Translator
import WarpByokProxy.SdkRequest
import WarpByokProxy.SdkTranslator
import WarpByokProxy.Accumulator.Deltas
import WarpByokProxy.Accumulator.Blocks
import WarpByokProxy.Accumulator.Tail
import WarpByokProxy.Accumulator.Independence
import WarpByokProxy.Accumulator.AutoStart
import WarpByokProxy.Accumulator.ToolCalls
import WarpByokProxy.Adapter.Trace
import WarpByokProxy.Adapter.Turn
import WarpByokProxy.Adapter.Appends
import WarpByokProxy.Adapter.Finish
import WarpByokProxy.Adapter.Protocol
import WarpByokProxy.Adapter.Client
import WarpByokProxy.Adapter.Replay
import WarpByokProxy.Adapter.ContentRuns
import WarpByokProxy.Adapter.ToolCalls
import WarpByokProxy.Adapter.MaskCoverage
import WarpByokProxy.Pipeline.Stream
import WarpByokProxy.Pipeline.Text
import WarpByokProxy.Pipeline.Usage
import WarpByokProxy.Pump.Body
import WarpByokProxy.Pump.Termination
import WarpByokProxy.Pump.Arguments
import WarpByokProxy.Pump.Failure
import WarpByokProxy.Pump.Interleaving
import WarpByokProxy.Pump.Steps
import WarpByokProxy.Pump.Progress
import WarpByokProxy.Pump.Lag
import WarpByokProxy.Pump.WireEvents
import WarpByokProxy.Pump.Framing
import WarpByokProxy.History.ToolCallRoundTrip
import WarpByokProxy.History.Items
import WarpByokProxy.Prompt.CachePlacement
import WarpByokProxy.Prompt.CachePrefix
import WarpByokProxy.Prompt.SdkGrammar
import WarpByokProxy.Prompt.ContextBeta
import WarpByokProxy.Prompt.Documents
import WarpByokProxy.Prompt.ModelIds
import WarpByokProxy.Prompt.Tools
import WarpByokProxy.History.SdkMessages
import WarpByokProxy.History.Resumption
import WarpByokProxy.History.ToolNames
import WarpByokProxy.ConverseStream
import WarpByokProxy.Server
import WarpByokProxy.Server.Draws
import WarpByokProxy.Server.Ownership
import WarpByokProxy.Server.Isolation
import WarpByokProxy.Server.Sessions
import WarpByokProxy.Prompt.Dispatch
import WarpByokProxy.Server.Exchanges
import WarpByokProxy.Server.Opening
import WarpByokProxy.Server.NextTurn
import WarpByokProxy.Pump.Cuts
import WarpByokProxy.Server.Completion
import WarpByokProxy.Library.Growth
import WarpByokProxy.Adapter.Growth
import WarpByokProxy.Auth
import WarpByokProxy.RunServer
import WarpByokProxy.Server.CacheReuse
import WarpByokProxy.Server.Delivery
import WarpByokProxy.Server.Startup
import WarpByokProxy.Pump.Double
import WarpByokProxy.Server.Chats
