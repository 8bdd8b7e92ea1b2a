import FleetMonitor.Text.Basic
import FleetMonitor.Url.Percent
import FleetMonitor.Url.Utf8

namespace FleetMonitor.Query

def decodeText (cs : List Char) : String :=
  Utf8.decode (Percent.decode (cs.map fun c => if c = '+' then ' ' else c))

-- The name and value of one parameter. A name alone has the empty value.
def parameter (cs : List Char) : String × String :=
  match Text.cut? '=' cs with
  | some (name, value) => (decodeText name, decodeText value)
  | none               => (decodeText cs, "")

-- The parameters of a query in their order. A leading question mark is no part of them.
def parameters (search : String) : List (String × String) :=
  let cs := match search.toList with
    | '?' :: cs => cs
    | cs        => cs
  ((Text.splitOn '&' cs).filter (· ≠ [])).map parameter

def lookup (search : String) (name : String) : Option String :=
  (parameters search).lookup name

end FleetMonitor.Query
