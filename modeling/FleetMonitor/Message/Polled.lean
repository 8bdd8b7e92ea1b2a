import FleetMonitor.Error
import FleetMonitor.Message.Sample
import FleetMonitor.Time.Timestamp

namespace FleetMonitor

structure PolledSnapshot where
  data       : Json
  timestamp? : Option Millis

namespace PolledSnapshot

-- The body is the state itself, or an object with the state under `data`.
def ofBody (body : Json) : Except MonitorError PolledSnapshot :=
  match body with
  | .object _ =>
    let data :=
      match body.member? "data" with
      | some (.object ms) => .object ms
      | _                 => body
    .ok { data, timestamp? := body.member? "timestamp" >>= Timestamp.ofJson? }
  | _ => .error (.malformed .snapshotNotObject)

end PolledSnapshot

structure PolledValue where
  sample     : Sample
  timestamp? : Option Millis

namespace PolledValue

-- The body is the value itself, or an object with the value under `value`.
def ofBody (body : Json) : Except MonitorError PolledValue :=
  match Sample.ofJson? body with
  | some sample => .ok { sample, timestamp? := body.member? "timestamp" >>= Timestamp.ofJson? }
  | none        => .error (.malformed (.notNumeric body))

end PolledValue
end FleetMonitor
