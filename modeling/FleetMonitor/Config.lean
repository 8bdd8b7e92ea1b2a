import FleetMonitor.Error
import FleetMonitor.Json.Parser
import FleetMonitor.Json.Record

namespace FleetMonitor

-- The settings of a session.
structure Config where
  streamEndpoint       : String
  apiBase              : String
  token?               : Option String
  maxReconnectAttempts : UInt32
  baseDelay            : UInt64
  maxDelay             : UInt64
  jitterRatio          : Float
  pollInterval         : UInt64
  seriesCapacity       : UInt64
  windowSpan           : Int64

namespace Config

def defaultCapacity : UInt64 := 1000
def defaultWindowSpan : Int64 := 900000

def default : Config where
  streamEndpoint       := "/api/events"
  apiBase              := "/api"
  token?               := none
  maxReconnectAttempts := 10
  baseDelay            := 1000
  maxDelay             := 30000
  jitterRatio          := 0.1
  pollInterval         := 5000
  seriesCapacity       := defaultCapacity
  windowSpan           := defaultWindowSpan

instance : Inhabited Config := ⟨default⟩

-- The first setting that the reconnect schedule and the charts cannot work with, if there is one.
def fault? (c : Config) : Option ConfigFault :=
  if c.maxReconnectAttempts = 0 then some .noAttempts
  else if c.seriesCapacity = 0 then some .noCapacity
  else if c.maxDelay < c.baseDelay then some (.delaysInverted c.baseDelay c.maxDelay)
  else if ¬(0.0 ≤ c.jitterRatio ∧ c.jitterRatio < 1.0) then some (.jitterOutside c.jitterRatio)
  else if c.pollInterval = 0 then some .noPollInterval
  else if c.windowSpan ≤ 0 then some .noWindow
  else none

def validate (c : Config) : Except MonitorError Config :=
  match c.fault? with
  | none   => .ok c
  | some f => .error (.config f)

-- Parameters of a page.

-- The integer under `key`, white space around it aside, or the default if there is none.
def param (lookup : String → Option String) (r : IntRange) (key : String) (default : Int) :
    Except MonitorError Int :=
  match lookup key with
  | none     => .ok default
  | some raw =>
    match r.read? (Text.trim raw.toList) with
    | some n => .ok n
    | none   => .error (.config (.unparsable key raw))

-- A token of blanks is no token.
def presentToken? (token : String) : Option String :=
  if (Text.trim token.toList).isEmpty then none else some token

def dropTrailingSlashes (path : String) : String :=
  String.ofList (Text.dropTrailing '/' path.toList)

-- The configuration that page parameters give: what is not a parameter has its default.
def ofParams (lookup : String → Option String) : Except MonitorError Config := do
  let attempts  ← param lookup .uint32 "maxReconnect" default.maxReconnectAttempts.toNat
  let baseDelay ← param lookup .uint64 "reconnectDelay" default.baseDelay.toNat
  let maxDelay  ← param lookup .uint64 "maxReconnectDelay" default.maxDelay.toNat
  let interval  ← param lookup .uint64 "pollInterval" default.pollInterval.toNat
  let capacity  ← param lookup .uint64 "points" default.seriesCapacity.toNat
  let span      ← param lookup .int64 "window" default.windowSpan.toInt
  validate {
    streamEndpoint       := (lookup "endpoint").getD default.streamEndpoint
    apiBase              := dropTrailingSlashes ((lookup "api").getD default.apiBase)
    token?               := (lookup "token").bind presentToken?
    maxReconnectAttempts := .ofNat attempts.toNat
    baseDelay            := .ofNat baseDelay.toNat
    maxDelay             := .ofNat maxDelay.toNat
    jitterRatio          := default.jitterRatio
    pollInterval         := .ofNat interval.toNat
    seriesCapacity       := .ofNat capacity.toNat
    windowSpan           := .ofInt span
  }

-- JSON blocks.

def fieldNames : List String :=
  ["streamEndpoint", "apiBase", "token", "maxReconnectAttempts", "baseReconnectDelayMs",
   "maxReconnectDelayMs", "jitterRatio", "defaultPollIntervalMs", "seriesCapacity", "windowSpanMs"]

open Source in
-- A configuration as a record; a field that is not written has its default.
def read? [Source σ] (s : σ) : Option Config :=
  match fields? fieldNames s with
  | some [endpoint, api, token, attempts, baseDelay, maxDelay, ratio, interval, points, span] => do
    some {
      streamEndpoint       := ← orElse text? default.streamEndpoint endpoint
      apiBase              := ← orElse text? default.apiBase api
      token?               := ← optional text? token
      maxReconnectAttempts := ← orElse uint32? default.maxReconnectAttempts attempts
      baseDelay            := ← orElse uint64? default.baseDelay baseDelay
      maxDelay             := ← orElse uint64? default.maxDelay maxDelay
      jitterRatio          := ← orElse float? default.jitterRatio ratio
      pollInterval         := ← orElse uint64? default.pollInterval interval
      seriesCapacity       := ← orElse uint64? default.seriesCapacity points
      windowSpan           := ← orElse int64? default.windowSpan span
    }
  | _ => none

def ofJson (raw : String) : Except MonitorError Config :=
  match (Document.parse? raw).bind fun d => read? d.written with
  | none   => .error (.config .unreadable)
  | some c => validate c

end Config
end FleetMonitor
