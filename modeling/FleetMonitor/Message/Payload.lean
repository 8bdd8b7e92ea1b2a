import FleetMonitor.Json.Record

namespace FleetMonitor

open Source

-- What the server says about its control session.
structure Control where
  enabled       : Bool
  isController  : Bool
  hasController : Bool
  deriving DecidableEq, Repr

namespace Control

def fieldNames : List String :=
  ["enabled", "isController", "hasController"]

def read? [Source σ] (s : σ) : Option Control :=
  match fields? fieldNames s with
  | some [enabled, isController, hasController] => do
    some {
      enabled       := ← orElse bool? false enabled
      isController  := ← orElse bool? false isController
      hasController := ← orElse bool? false hasController
    }
  | _ => none

end Control

-- The acknowledgement of a new stream.
structure Ack where
  -- The poll interval that the server chooses, in milliseconds.
  pollInterval? : Option UInt64
  smEnabled     : Bool
  control?      : Option Control

namespace Ack

def fieldNames : List String :=
  ["pollInterval", "smEnabled", "control"]

def read? [Source σ] (s : σ) : Option Ack :=
  match fields? fieldNames s with
  | some [interval, sm, control] => do
    some {
      pollInterval? := ← optional uint64? interval
      smEnabled     := ← orElse bool? false sm
      control?      := ← optional Control.read? control
    }
  | _ => none

end Ack

-- A new value of one external sensor.
structure SensorUpdate where
  name  : String
  value : Json

namespace SensorUpdate

def fieldNames : List String :=
  ["name", "value"]

-- A value that is not written is null.
def read? (j : Json) : Option SensorUpdate :=
  match fields? fieldNames j with
  | some [some name, value] => do
    some {
      name  := ← text? name
      value := ← orElse value? .null value
    }
  | _ => none

end SensorUpdate

structure BatchEntry where
  name  : String
  value : Json
  -- The other members of the row, for renderers.
  extra : List (String × Json)

namespace BatchEntry

-- A row is an object; a value that is not written is null.
def read? (j : Json) : Option BatchEntry :=
  match j with
  | .object members => do
    let name ← j.member? "name" >>= Json.text?
    some {
      name  := name
      value := (j.member? "value").getD .null
      extra := members.filter fun (n, _) => n ≠ "name" ∧ n ≠ "value"
    }
  | _ => none

def readAll? (j : Json) : Option (List BatchEntry) :=
  match j with
  | .array rows => rows.mapM read?
  | _           => none

end BatchEntry
end FleetMonitor
