import FleetMonitor.Message.Key

namespace FleetMonitor

-- The protocol whose values a batch carries.
inductive Domain where
  | ionc
  | modbus
  | opcua
  deriving DecidableEq, Repr

namespace Domain

def tag : Domain → String
  | ionc   => "ionc_sensor_batch"
  | modbus => "modbus_register_batch"
  | opcua  => "opcua_sensor_batch"

-- The mark of the series that the batches of a domain feed.
def mark : Domain → String
  | ionc   => "ionc"
  | modbus => "mb"
  | opcua  => "opcua"

def all : List Domain :=
  [ionc, modbus, opcua]

def ofTag? (tag : String) : Option Domain :=
  all.find? (·.tag = tag)

end Domain

-- The kinds of messages that the event stream carries.
inductive Kind where
  -- The acknowledgement of a new stream.
  | connected
  -- The full state of one object.
  | objectSnapshot
  -- A change of one external sensor.
  | sensorUpdate
  -- Several changes from one domain.
  | batch (d : Domain)
  -- A server went up or down.
  | serverStatus
  -- The list of objects changed.
  | objectsList
  deriving DecidableEq, Repr

namespace Kind

def tag : Kind → String
  | connected      => "connected"
  | objectSnapshot => "object_data"
  | sensorUpdate   => "sensor_data"
  | batch d        => d.tag
  | serverStatus   => "server_status"
  | objectsList    => "objects_list"

-- Every kind, in the order in which the stream is asked for them.
def all : List Kind :=
  [connected, objectSnapshot, sensorUpdate, batch .ionc, batch .modbus, batch .opcua, serverStatus,
   objectsList]

def ofTag? (tag : String) : Option Kind :=
  all.find? (·.tag = tag)

theorem ofTag?_tag (k : Kind) : ofTag? k.tag = some k := by
  rcases k with _ | _ | _ | (_ | _ | _) | _ | _ <;> decide

def domain? : Kind → Option Domain
  | batch d => some d
  | _       => none

end Kind
end FleetMonitor
