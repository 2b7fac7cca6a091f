import RapidRows.Streams.Subscriber
import RapidRows.Streams.Dispatcher
import RapidRows.Streams.System
import RapidRows.Streams.Invariants
import RapidRows.Streams.Contract
import RapidRows.Streams.Registry
import RapidRows.Streams.Shutdown
import RapidRows.Value
import RapidRows.Query.Cache
import RapidRows.Query.CacheKey
import RapidRows.Script.Acquire
import RapidRows.Script.Val2Any
import RapidRows.Script.Handler
import RapidRows.Streams.Listen
import RapidRows.Streams.EventStream
import RapidRows.Streams.Slices
import RapidRows.Server.Start
import RapidRows.Float.Binary64
import RapidRows.Float.Parse
import RapidRows.Config.Model
import RapidRows.Config.Validate
import RapidRows.Config.Sound
import RapidRows.Params.Prepare
import RapidRows.Params.Check
import RapidRows.Params.GetParams
import RapidRows.Float.Rounding
import RapidRows.Float.Integers
import RapidRows.Params.Numbers
import RapidRows.Url.Query
import RapidRows.Server.ConnURL
import RapidRows.Server.Serve
import RapidRows.Query.Csv
import RapidRows.Server.Timeouts
import RapidRows.Server.Lifecycle
