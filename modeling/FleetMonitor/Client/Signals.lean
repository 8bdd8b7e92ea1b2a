import FleetMonitor.Session

namespace FleetMonitor

-- What the page shows of a session, and how often it was set.
structure Signals where
  status      : Status
  servers     : ServerDirectory
  stats       : Stats
  statusSets  : Nat
  serversSets : Nat
  statsSets   : Nat
  deriving DecidableEq

namespace Signals

def start : Signals where
  status      := .default
  servers     := .empty
  stats       := .zero
  statusSets  := 0
  serversSets := 0
  statsSets   := 0

-- Takes over what a session shows. The counters are set in any case, the others only when they are
-- new.
def sync (g : Signals) (s : Session) : Signals where
  status      := s.status
  servers     := s.board.servers
  stats       := s.stats
  statusSets  := if g.status = s.status then g.statusSets else g.statusSets + 1
  serversSets := if g.servers = s.board.servers then g.serversSets else g.serversSets + 1
  statsSets   := g.statsSets + 1

end Signals
end FleetMonitor
