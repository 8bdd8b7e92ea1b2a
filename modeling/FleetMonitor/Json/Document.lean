import FleetMonitor.Json.Basic

namespace FleetMonitor

-- JSON text once its grammar has been checked, before its values are known. Members stand as they
-- were written, repeated names included, and a number or text may turn out to have no value. A
-- member that nobody asks for is never evaluated, so nothing but the grammar is asked of it.
inductive Document where
  | null
  | bool   (b : Bool)
  -- `none` if no double is that large.
  | number (n? : Option Number)
  -- `none` if the escapes leave half of a surrogate pair.
  | text   (s? : Option String)
  | array  (items : List Document)
  | object (members : List (Option String × Document))

namespace Document

instance : Inhabited Document := ⟨null⟩

-- How many arrays and objects may stand inside each other in a value.
def depthLimit : Nat :=
  127

mutual

-- The value of a document that nests at most `depth` arrays and objects.
def value? (depth : Nat) : Document → Option Json
  | null           => some .null
  | bool b         => some (.bool b)
  | number n?      => n?.map .number
  | text s?        => s?.map .text
  | array items    =>
    match depth with
    | 0     => none
    | d + 1 => (items? d items).map .array
  | object members =>
    match depth with
    | 0     => none
    | d + 1 => (members? d members).map .object

def items? (depth : Nat) : List Document → Option (List Json)
  | []      => some []
  | d :: ds =>
    match value? depth d, items? depth ds with
    | some j, some js => some (j :: js)
    | _,      _       => none

-- The members in name order; of members with one name the last counts.
def members? (depth : Nat) : List (Option String × Document) → Option (List (String × Json))
  | []               => some []
  | (name?, d) :: ms =>
    match name?, value? depth d, members? depth ms with
    | some name, some j, some js => some (Json.insertMember name j js)
    | _,         _,      _       => none

end
end Document
end FleetMonitor
