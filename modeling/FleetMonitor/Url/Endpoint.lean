import FleetMonitor.Message.Key
import FleetMonitor.Url.Percent

namespace FleetMonitor

-- What to open for an event stream: its endpoint and the token to send, not yet encoded.
structure StreamRequest where
  endpoint : String
  token?   : Option String
  deriving DecidableEq

namespace StreamRequest

-- The token goes in as one more parameter of the query.
def url (r : StreamRequest) : String :=
  match r.token? with
  | none       => r.endpoint
  | some token =>
    let separator := if '?' ∈ r.endpoint.toList then "&" else "?"
    r.endpoint ++ separator ++ "token=" ++ Percent.encode token

end StreamRequest

namespace Endpoint

def object (base : String) (k : ObjectKey) : String :=
  String.ofList (Text.dropTrailing '/' base.toList) ++ "/objects/" ++ Percent.encode k.server ++ "/" ++
    Percent.encode k.object

def series (base : String) (k : ObjectKey) (s : SeriesKey) : String :=
  object base k ++ "/series/" ++ Percent.encode s.text

end Endpoint
end FleetMonitor
