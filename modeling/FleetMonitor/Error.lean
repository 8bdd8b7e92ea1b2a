import FleetMonitor.Json.Printer
import FleetMonitor.Text.Basic

namespace FleetMonitor

inductive ConfigFault where
  | unreadable
  | unparsable (key raw : String)
  | noAttempts
  | noCapacity
  | delaysInverted (base max : UInt64)
  | jitterOutside (ratio : Float)
  | noPollInterval
  | noWindow
  | other (text : String)

namespace ConfigFault

def message : ConfigFault → String
  | unreadable         => "not a readable configuration"
  | unparsable key raw => key ++ ": cannot parse `" ++ raw ++ "`"
  | noAttempts         => "maxReconnectAttempts must be at least 1"
  | noCapacity         => "seriesCapacity must be at least 1"
  | delaysInverted base max =>
    "baseReconnectDelayMs (" ++ toString base.toNat ++ ") exceeds maxReconnectDelayMs (" ++
      toString max.toNat ++ ")"
  | jitterOutside ratio =>
    "jitterRatio " ++ String.ofList (FloatLayout.display.render ratio) ++ " outside [0, 1)"
  | noPollInterval => "defaultPollIntervalMs must be positive"
  | noWindow       => "windowSpanMs must be positive"
  | other text     => text

end ConfigFault

inductive PayloadFault where
  -- Not JSON text, or not of the expected shape.
  | unreadable
  | snapshotNotObject
  | notNumeric (body : Json)
  | other (text : String)

namespace PayloadFault

def message : PayloadFault → String
  | unreadable        => "not a readable payload"
  | snapshotNotObject => "object snapshot is not a JSON object"
  | notNumeric body   => "series value is not numeric: " ++ body.compact
  | other text        => text

end PayloadFault

inductive MonitorError where
  | malformed    (fault : PayloadFault)
  | missingField (name : String)
  | fetch        (url : String) (status : Nat)
  | transport    (text : String)
  | config       (fault : ConfigFault)

namespace MonitorError

def message : MonitorError → String
  | malformed fault  => "malformed event payload: " ++ fault.message
  | missingField name => "event payload is missing `" ++ name ++ "`"
  | fetch url status => "fetch " ++ url ++ " failed with status " ++ toString status
  | transport text   => "transport failure: " ++ text
  | config fault     => "invalid configuration: " ++ fault.message

-- The payload could not be read at all.
def unreadable : MonitorError :=
  malformed .unreadable

end MonitorError
end FleetMonitor
