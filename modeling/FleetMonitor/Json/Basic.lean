import FleetMonitor.Number.Decimal

namespace FleetMonitor

-- A number keeps whether it was written as an integer.
inductive Number where
  | int   (n : Int)
  | float (x : Float)

namespace Number

-- The nearest double.
def toFloat : Number → Float
  | int n   => Decimal.toFloat ⟨n < 0, n.natAbs, 0⟩
  | float x => x

end Number

-- The members of an object stand in ascending order of their names, each name once.
inductive Json where
  | null
  | bool   (b : Bool)
  | number (n : Number)
  | text   (s : String)
  | array  (items : List Json)
  | object (members : List (String × Json))

namespace Json

instance : Inhabited Json := ⟨null⟩

def isNull : Json → Bool
  | null => true
  | _    => false

def isObject : Json → Bool
  | object _ => true
  | _        => false

def bool? : Json → Option Bool
  | bool b => some b
  | _      => none

def text? : Json → Option String
  | text s => some s
  | _      => none

def number? : Json → Option Number
  | number n => some n
  | _        => none

def float? (j : Json) : Option Float :=
  j.number?.map Number.toFloat

def member? (name : String) : Json → Option Json
  | object members => members.lookup name
  | _              => none

-- Puts a member at its place in name order; a member of that name which is there already stays.
def insertMember (name : String) (value : Json) : List (String × Json) → List (String × Json)
  | [] => [(name, value)]
  | (name', value') :: ms =>
    if name < name' then (name, value) :: (name', value') :: ms
    else if name = name' then (name', value') :: ms
    else (name', value') :: insertMember name value ms

end Json
end FleetMonitor
