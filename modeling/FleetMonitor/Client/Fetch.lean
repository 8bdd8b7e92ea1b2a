import FleetMonitor.Json.Parser
import FleetMonitor.Session
import FleetMonitor.Url.Endpoint

namespace FleetMonitor

-- What becomes of a fetch.
inductive Reply where
  | response (status : Nat) (body : String)
  | failure  (text : String)

namespace Reply

-- The body of a reply. Its status is looked at before its text.
def body (url : String) : Reply → Except MonitorError Json
  | failure text         => .error (.transport text)
  | response status text =>
    if 200 ≤ status ∧ status < 300 then
      match Json.parse? text with
      | some j => .ok j
      | none   => .error .unreadable
    else .error (.fetch url status)

end Reply

namespace PollTarget

def url (base : String) : PollTarget → String
  | object k   => Endpoint.object base k
  | series k s => Endpoint.series base k s

def operation (t : PollTarget) (received : Millis) (body : Json) : Except MonitorError Operation :=
  match t with
  | object k   => (PolledSnapshot.ofBody body).map (.polledSnapshot k · received)
  | series k s => (PolledValue.ofBody body).map (.polledValue k s · received)

-- What a reply means for the session: data for the target, or one more failed poll.
def onReply (t : PollTarget) (base : String) (received : Millis) (r : Reply) : Operation :=
  match (r.body (t.url base)).bind (t.operation received) with
  | .ok op   => op
  | .error _ => .pollFailed

end PollTarget
end FleetMonitor
