import FleetMonitor.SortedMap
import FleetMonitor.Time.Timestamp

namespace FleetMonitor

structure ServerInfo where
  id         : String
  -- The id until the server reports a name.
  name       : String
  connected  : Bool
  -- When `connected` changed last, by time of receipt.
  lastChange : Millis
  deriving DecidableEq

-- Messages about servers change nothing else, and each change of a server's state asks for a new
-- list of objects.
structure ServerDirectory where
  servers  : SortedMap String ServerInfo
  -- Counts the requests for a new list of objects, and is not taken to reach 2^64.
  revision : Nat
  deriving DecidableEq

namespace ServerDirectory

def empty : ServerDirectory where
  servers  := ∅
  revision := 0

def find? (d : ServerDirectory) (id : String) : Option ServerInfo :=
  d.servers.find? id

-- What is known of a server just before a report. A server that was never reported counts as being
-- in the opposite state.
def prior (d : ServerDirectory) (id : String) (connected : Bool) (time : Millis) : ServerInfo :=
  (d.find? id).getD ⟨id, id, !connected, time⟩

def flips (d : ServerDirectory) (id : String) (connected : Bool) : Bool :=
  (d.prior id connected 0).connected != connected

-- Takes up a report. An empty name is no name.
def report (d : ServerDirectory) (id : String) (name? : Option String) (connected : Bool)
    (time : Millis) : ServerDirectory :=
  let prior := d.prior id connected time
  let flips := d.flips id connected
  { servers := d.servers.insert id {
      id         := prior.id
      name       := (name?.filter (· ≠ "")).getD prior.name
      connected  := connected
      lastChange := if flips then time else prior.lastChange }
    revision := if flips then d.revision + 1 else d.revision }

def refresh (d : ServerDirectory) : ServerDirectory :=
  { d with revision := d.revision + 1 }

def connectedCount (d : ServerDirectory) : Nat :=
  d.servers.values.countP (·.connected)

end ServerDirectory
end FleetMonitor
