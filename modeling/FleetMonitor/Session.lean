import FleetMonitor.Connection
import FleetMonitor.Message.Polled
import FleetMonitor.Routing

namespace FleetMonitor

-- No count is taken to reach 2^64.
structure Stats where
  received    : Nat
  -- Refused as malformed.
  dropped     : Nat
  -- Readable, but nobody waited for it.
  unrouted    : Nat
  points      : Nat
  pollFailures : Nat
  -- Reconnections that were scheduled.
  retries     : Nat
  -- How often polling took over.
  fallbacks   : Nat
  deriving DecidableEq

namespace Stats

def zero : Stats := ⟨0, 0, 0, 0, 0, 0, 0⟩

end Stats

-- What became of a message.
inductive Outcome where
  -- The stream is acknowledged, and so many poll timers were stopped.
  | acknowledged (timers : Nat)
  | delivered (d : Delivery)
  | unrouted
  | dropped
  deriving DecidableEq

-- A session is changed by operations alone, each of which has an answer and effects and leads to
-- the next session.
structure Session where
  config     : Config
  connection : Connection
  board      : Board
  -- The number of the next poll timer.
  nextTimer  : Nat
  stats      : Stats

namespace Session

def new (c : Config) : Session where
  config     := c
  connection := .new c
  board      := ⟨.new c.seriesCapacity.toNat (.follow c.windowSpan), .empty⟩
  nextTimer  := 0
  stats      := .zero

-- A session after an operation, with the operation's answer and its effects in order.
structure Step (α : Type) where
  session : Session
  answer  : α
  effects : List Effect

def Step.map (f : α → β) (s : Step α) : Step β where
  session := s.session
  answer  := f s.answer
  effects := s.effects

def registry (s : Session) : Registry :=
  s.board.registry

def withRegistry (s : Session) (r : Registry) : Session :=
  { s with board := { s.board with registry := r } }

def tab? (s : Session) (k : ObjectKey) : Option Tab :=
  s.registry.tab? k

def status (s : Session) : Status :=
  s.connection.status

-- Poll timers.

-- Starts timers for the given targets at the current interval.
def startTimers (s : Session) (targets : List PollTarget) : Step Nat :=
  let timers := Timer.startAll s.nextTimer s.connection.pollInterval targets
  { session := { s.withRegistry (s.registry.keepTimers timers) with
      nextTimer := s.nextTimer + timers.length }
    answer  := timers.length
    effects := timers.map .start }

def stopTimers (s : Session) : Step Nat where
  session := s.withRegistry s.registry.clearTimers
  answer  := s.registry.timers.length
  effects := s.registry.timers.map .stop

def activateFallback (s : Session) : Step Nat :=
  s.startTimers s.registry.missingTargets

-- While polling, gives the timers to one tab that it lacks.
def backfill (s : Session) (k : ObjectKey) : Step Nat :=
  if s.connection.phase = .polling then s.startTimers (s.registry.missingTargetsOf k)
  else ⟨s, 0, []⟩

-- The connection.

-- Starts a new connection. Polling goes on until the server acknowledges it.
def connect (s : Session) : Step StreamRequest where
  session := { s with connection := s.connection.connect }
  answer  := s.connection.request
  effects := []

-- Takes up an acknowledgement. Polling ends before pushed data comes in again. One that is not
-- expected changes nothing.
def acknowledge (s : Session) (ack : Ack) : Step Outcome :=
  if s.connection.phase.expectsAck then
    let stopped := s.stopTimers
    { session := { stopped.session with connection := s.connection.acknowledge ack }
      answer  := .acknowledged stopped.answer
      effects := stopped.effects }
  else
    { session := { s with stats := { s.stats with unrouted := s.stats.unrouted + 1 } }
      answer  := .unrouted
      effects := [] }

-- Takes note of a failure of the stream. When the attempts are used up, every open tab and chart
-- polls at once.
def transportError (s : Session) (unit : Float) : Step Recovery :=
  let recovery := s.connection.recovery unit
  let failed   := { s with connection := s.connection.fail }
  match recovery with
  | .retry .. =>
    { session := { failed with stats := { s.stats with retries := s.stats.retries + 1 } }
      answer  := recovery
      effects := [] }
  | .fallback =>
    let failed := { failed with stats := { s.stats with fallbacks := s.stats.fallbacks + 1 } }
    failed.activateFallback.map fun _ => recovery
  | .idle => ⟨failed, recovery, []⟩

def redeem (s : Session) (t : Ticket) : Step (Option StreamRequest) where
  session := { s with connection := s.connection.redeem t }
  answer  := s.connection.redeemed? t
  effects := []

-- Ends the session's connection and all its timers.
def close (s : Session) : Step Unit :=
  let closed := { s with connection := s.connection.close }
  closed.stopTimers.map fun _ => ()

-- Messages.

-- The acknowledgement in a message. Its fields stand in the payload if that is an object, and
-- beside the tag otherwise.
def ack? (e : Envelope) (raw : String) : Option Ack :=
  if e.data.isObject then Ack.read? e.data
  else (Json.parse? raw).bind Ack.read?

def countReceived (s : Session) : Session :=
  { s with stats := { s.stats with received := s.stats.received + 1 } }

def drop (s : Session) : Step Outcome where
  session := { s with stats := { s.stats with dropped := s.stats.dropped + 1 } }
  answer  := .dropped
  effects := []

def leaveUnrouted (s : Session) : Step Outcome where
  session := { s with stats := { s.stats with unrouted := s.stats.unrouted + 1 } }
  answer  := .unrouted
  effects := []

def deliver (s : Session) (u : Board.Update) : Step Outcome :=
  if u.delivery.isUnrouted then
    { ({ s with board := u.board } : Session).leaveUnrouted with effects := u.effects }
  else
    { session := { s with
        board := u.board
        stats := { s.stats with points := s.stats.points + u.delivery.points } }
      answer  := .delivered u.delivery
      effects := u.effects }

-- Handles one message of the stream. The name of its event stands in for a tag that it lacks.
def handleMessage (s : Session) (event? : Option String) (raw : String) (received : Millis) :
    Step Outcome :=
  let s := s.countReceived
  match Envelope.parse? raw with
  | none   => s.drop
  | some e =>
    match e.kind? event? with
    | none            => s.leaveUnrouted
    | some .connected =>
      match ack? e raw with
      | none     => s.drop
      | some ack => s.acknowledge ack
    | some kind =>
      match s.board.route kind e received with
      | .error _ => s.drop
      | .ok u    => s.deliver u

-- Tabs and charts.

-- Opens a tab; while polling it gets its timer at once.
def openTab (s : Session) (k : ObjectKey) (displayName? : Option String) (renderer : Renderer) :
    Step Bool :=
  match s.registry.openTab? k displayName? renderer with
  | none   => ⟨s, false, []⟩
  | some r => ((s.withRegistry r).backfill k).map fun _ => true

def closeTab (s : Session) (k : ObjectKey) : Step Bool where
  session := s.withRegistry (s.registry.closeTab k)
  answer  := s.registry.contains k
  effects := (s.registry.timersOf k).map .stop

-- Opens a chart on an open tab; while polling it gets its timer at once.
def openChart (s : Session) (k : ObjectKey) (series : SeriesKey) (options : DisplayOptions)
    (surface : Surface) : Step Bool :=
  match (s.tab? k).bind (·.openChart? series options surface) with
  | none   => ⟨s, false, []⟩
  | some t => ((s.withRegistry (s.registry.set k t)).backfill k).map fun _ => true

def closeChart (s : Session) (k : ObjectKey) (series : SeriesKey) : Step Bool :=
  match s.tab? k with
  | none   => ⟨s, false, []⟩
  | some t =>
    { session := s.withRegistry (s.registry.set k (t.closeChart series))
      answer  := t.hasChart series
      effects := (t.seriesTimers.find? series).toList.map .stop }

-- Changes the range of a tab and aligns its charts anew.
def setRange (s : Session) (k : ObjectKey) (range : TimeRange) : Step Bool :=
  let u := s.registry.setRange k range
  { session := s.withRegistry u.registry
    answer  := s.registry.contains k
    effects := u.effects }

-- Polled data.

-- Whether polled data for a tab is wanted: as long as one of its timers runs.
def acceptsPolled (s : Session) (k : ObjectKey) : Bool :=
  (s.tab? k).any fun t => 0 < t.timerCount

def takePolled (s : Session) (k : ObjectKey) (u : Registry.Update) : Step Delivery :=
  if s.acceptsPolled k then
    { session := { s.withRegistry u.registry with
        stats := { s.stats with points := s.stats.points + u.delivery.points } }
      answer  := u.delivery
      effects := u.effects }
  else ⟨s, .empty, []⟩

-- Takes up a polled snapshot as if it had been pushed.
def polledSnapshot (s : Session) (k : ObjectKey) (p : PolledSnapshot) (received : Millis) :
    Step Delivery :=
  s.takePolled k (s.registry.takeSnapshot k p.data (p.timestamp?.getD received))

-- Takes up a polled value as if it had been pushed.
def polledValue (s : Session) (k : ObjectKey) (series : SeriesKey) (p : PolledValue)
    (received : Millis) : Step Delivery :=
  s.takePolled k (s.registry.takeValue k series p.sample (p.timestamp?.getD received))

-- Takes note of a poll that failed. Nothing else happens until the timer's next turn.
def pollFailed (s : Session) : Step Unit where
  session := { s with stats := { s.stats with pollFailures := s.stats.pollFailures + 1 } }
  answer  := ()
  effects := []

end Session

inductive Operation where
  | connect
  | message (event? : Option String) (raw : String) (received : Millis)
  -- `unit` is the random number that scales the delay.
  | transportError (unit : Float)
  | redeem (t : Ticket)
  | close
  | openTab (k : ObjectKey) (displayName? : Option String) (renderer : Renderer)
  | closeTab (k : ObjectKey)
  | openChart (k : ObjectKey) (s : SeriesKey) (options : DisplayOptions) (surface : Surface)
  | closeChart (k : ObjectKey) (s : SeriesKey)
  | setRange (k : ObjectKey) (range : TimeRange)
  | activateFallback
  | polledSnapshot (k : ObjectKey) (p : PolledSnapshot) (received : Millis)
  | polledValue (k : ObjectKey) (s : SeriesKey) (p : PolledValue) (received : Millis)
  | pollFailed

inductive Answer where
  | request  (r : StreamRequest)
  | outcome  (o : Outcome)
  | recovery (r : Recovery)
  | redeemed (r? : Option StreamRequest)
  | done
  | flag     (b : Bool)
  | count    (n : Nat)
  | delivery (d : Delivery)

namespace Session

def step (s : Session) : Operation → Step Answer
  | .connect                      => s.connect.map .request
  | .message event? raw received  => (s.handleMessage event? raw received).map .outcome
  | .transportError unit          => (s.transportError unit).map .recovery
  | .redeem t                     => (s.redeem t).map .redeemed
  | .close                        => s.close.map fun _ => .done
  | .openTab k name? renderer     => (s.openTab k name? renderer).map .flag
  | .closeTab k                   => (s.closeTab k).map .flag
  | .openChart k series o surface => (s.openChart k series o surface).map .flag
  | .closeChart k series          => (s.closeChart k series).map .flag
  | .setRange k range             => (s.setRange k range).map .flag
  | .activateFallback             => s.activateFallback.map .count
  | .polledSnapshot k p received  => (s.polledSnapshot k p received).map .delivery
  | .polledValue k series p received => (s.polledValue k series p received).map .delivery
  | .pollFailed                   => s.pollFailed.map fun _ => .done

def run (s : Session) (ops : List Operation) : Session :=
  ops.foldl (fun s op => (s.step op).session) s

end Session
end FleetMonitor
