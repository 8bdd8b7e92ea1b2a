import FleetMonitor.Error
import FleetMonitor.Json.Parser
import FleetMonitor.Json.Record
import FleetMonitor.Message.Kind
import FleetMonitor.Time.Timestamp

namespace FleetMonitor

-- What every pushed message has around it.
structure Envelope where
  tag?        : Option String
  serverId?   : Option String
  serverName? : Option String
  objectName? : Option String
  data        : Json
  timestamp?  : Option Json

namespace Envelope

def fieldNames : List String :=
  ["type", "serverId", "serverName", "objectName", "data", "timestamp"]

open Source in
def read? [Source σ] (s : σ) : Option Envelope :=
  match fields? fieldNames s with
  | some [tag, serverId, serverName, objectName, data, timestamp] => do
    some {
      tag?        := ← optional text? tag
      serverId?   := ← optional text? serverId
      serverName? := ← optional text? serverName
      objectName? := ← optional text? objectName
      data        := ← orElse value? .null data
      timestamp?  := ← optional value? timestamp
    }
  | _ => none

def parse? (raw : String) : Option Envelope :=
  (Document.parse? raw).bind fun d => read? d.written

-- The kind of a message: by its own tag, or by the name of its event if it has none.
def kind? (e : Envelope) (event? : Option String) : Option Kind :=
  (e.tag?.or event?).bind Kind.ofTag?

-- The object that a message is addressed to, if it names both halves of the key.
def key? (e : Envelope) : Option ObjectKey :=
  match e.serverId?, e.objectName? with
  | some server, some object => some ⟨server, object⟩
  | _,           _           => none

-- The key, or the first of its halves that is missing.
def requireKey (e : Envelope) : Except MonitorError ObjectKey :=
  match e.serverId?, e.objectName? with
  | none,        _           => .error (.missingField "serverId")
  | _,           none        => .error (.missingField "objectName")
  | some server, some object => .ok ⟨server, object⟩

theorem requireKey_of_key? {e : Envelope} {k : ObjectKey} (h : e.key? = some k) :
    e.requireKey = .ok k := by
  unfold key? at h
  unfold requireKey
  cases hs : e.serverId? <;> cases ho : e.objectName? <;> rw [hs, ho] at h
  case some.some => exact congrArg Except.ok (Option.some.inj h)
  all_goals contradiction

-- The time of a message, which is the time of its receipt if it does not say.
def time (e : Envelope) (received : Millis) : Millis :=
  Timestamp.orElse e.timestamp? received

end Envelope
end FleetMonitor
