import FleetMonitor.Message.Envelope
import FleetMonitor.Registry
import FleetMonitor.Servers

namespace FleetMonitor

-- Where a message goes: to the renderer and the charts of an open tab, or to the directory of
-- servers. A message that nobody waits for is no error; it reaches nothing.
structure Board where
  registry : Registry
  servers  : ServerDirectory

namespace Board

-- A board after a message, what was asked of renderers and surfaces, and what was reached.
structure Update where
  board    : Board
  effects  : List Effect
  delivery : Delivery

def unreached (b : Board) : Update where
  board    := b
  effects  := []
  delivery := .empty

def ofRegistry (b : Board) (u : Registry.Update) : Update where
  board    := { b with registry := u.registry }
  effects  := u.effects
  delivery := u.delivery

def ofServers (b : Board) (servers : ServerDirectory) : Update where
  board    := { b with servers := servers }
  effects  := []
  delivery := ⟨1, 0, 0⟩

-- The tab that a sensor update goes to: that of its object, or, if no server is named, the only one
-- that is shown under its object's name.
def sensorTab? (b : Board) (e : Envelope) : Except MonitorError (Option ObjectKey) :=
  match e.key?, e.objectName? with
  | some k, _         => .ok (some k)
  | none,   some name => .ok (b.registry.resolve? name)
  | none,   none      => .error (.missingField "objectName")

def takeSensorUpdate (b : Board) (e : Envelope) (time : Millis) : Except MonitorError Update :=
  match SensorUpdate.read? e.data with
  | none   => .error .unreadable
  | some u => do
    match ← b.sensorTab? e, Sample.ofJson? u.value with
    | some k, some y => .ok (b.ofRegistry (b.registry.takeValue k (.external u.name) y time))
    | _,      _      => .ok b.unreached

def takeServerStatus (b : Board) (e : Envelope) (received : Millis) : Except MonitorError Update :=
  match e.serverId?, e.data.pick? Json.bool? ["connected"] with
  | none,    _              => .error (.missingField "serverId")
  | some _,  none           => .error (.missingField "data.connected")
  | some id, some connected => .ok (b.ofServers (b.servers.report id e.serverName? connected received))

-- Routes a message by its kind. Acknowledgements are not for the board and reach nothing here.
def route (b : Board) (kind : Kind) (e : Envelope) (received : Millis) : Except MonitorError Update :=
  let time := e.time received
  match kind with
  | .connected      => .ok b.unreached
  | .objectSnapshot => do
    let k ← e.requireKey
    .ok (b.ofRegistry (b.registry.takeSnapshot k e.data time))
  | .sensorUpdate   => b.takeSensorUpdate e time
  | .batch d        => do
    let k ← e.requireKey
    match BatchEntry.readAll? e.data with
    | none         => .error .unreadable
    | some entries => .ok (b.ofRegistry (b.registry.takeBatch k d entries time))
  | .serverStatus   => b.takeServerStatus e received
  | .objectsList    => .ok (b.ofServers b.servers.refresh)

end Board
end FleetMonitor
