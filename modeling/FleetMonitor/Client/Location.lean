import FleetMonitor.Config
import FleetMonitor.Text.Quoted
import FleetMonitor.Url.Query

namespace FleetMonitor

-- The address of the page.
inductive Location where
  -- There is no window.
  | absent
  -- Reading the address throws.
  | throws (text : String)
  -- The query, and what reading its parameters throws if it does.
  | search (query : String) (throws? : Option String)

namespace Location

def thrown (text : String) : MonitorError :=
  .transport ("JsValue(" ++ Text.quoted text ++ ")")

def config : Location → Except MonitorError Config
  | absent                => .error (.transport "no window")
  | throws text           => .error (thrown text)
  | search _ (some text)  => .error (thrown text)
  | search query none     => Config.ofParams (Query.lookup query)

end Location
end FleetMonitor
