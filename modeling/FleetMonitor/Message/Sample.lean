import FleetMonitor.Json.Basic
import FleetMonitor.Number.Binary64
import FleetMonitor.Text.Basic

namespace FleetMonitor

-- The value of a chart point; `none` is a gap in the line.
abbrev Sample := Option Float

namespace Json

-- Follows the names from one object to the next.
def walk? (j : Json) : List String → Option Json
  | []            => some j
  | name :: names => if name = "" then none else (j.member? name).bind (walk? · names)

def pathNames (path : String) : List String :=
  (Text.splitOn '.' path.toList).map String.ofList

-- The member that a dotted path leads to. A member of the root with the whole path as its name goes
-- before the walk through nested objects.
def lookup? (j : Json) (path : String) : Option Json :=
  (j.member? path).or (j.walk? (pathNames path))

-- The first of the members with the given names that `read` accepts.
def pick? (read : Json → Option α) (j : Json) (names : List String) : Option α :=
  names.findSome? fun name => (j.member? name).bind read

end Json

namespace Sample

def ofFloat? (x : Float) : Option Sample :=
  if Binary64.isFinite x then some (some x) else none

-- The sample that a value other than an object stands for.
def ofPlain? : Json → Option Sample
  | .null     => some none
  | .bool b   => some (some (if b then 1 else 0))
  | .number n => ofFloat? n.toFloat
  | .text s   => (Decimal.read? (Text.trim s.toList)).bind fun d => ofFloat? d.toFloat
  | _         => none

-- The sample that a value stands for: null is a gap, truth is one or zero, text is read as a
-- number, and an object stands for its `value` member. No sample is infinite or not a number.
def ofJson? : Json → Option Sample
  | .object members => (members.lookup "value").bind ofPlain?
  | j               => ofPlain? j

end Sample
end FleetMonitor
