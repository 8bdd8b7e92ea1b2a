import FleetMonitor.Json.Document
import FleetMonitor.Json.Token

namespace FleetMonitor

-- An array or object that is still open, with what it holds so far in reverse. An object waits for
-- the value of its last name.
inductive Frame where
  | array  (items : List Document)
  | object (members : List (Option String × Document)) (name? : Option String)

inductive Expect where
  | value
  -- A value, or the end of the array just opened.
  | itemOrEnd
  -- A name, or the end of the object just opened.
  | nameOrEnd
  | name      (members : List (Option String × Document))
  | colon     (members : List (Option String × Document)) (name? : Option String)
  -- A separator or an end, after a value.
  | rest      (d : Document)

-- The grammar over tokens, as a machine with a stack of the arrays and objects that are still open.
structure Parser where
  expect : Expect
  stack  : List Frame

namespace Parser

def start : Parser where
  expect := .value
  stack  := []

def scalar? : Token → Option Document
  | .null      => some .null
  | .bool b    => some (.bool b)
  | .number n? => some (.number n?)
  | .text s?   => some (.text s?)
  | _          => none

def value? (stack : List Frame) (t : Token) : Option Parser :=
  match t with
  | .openArray  => some ⟨.itemOrEnd, .array [] :: stack⟩
  | .openObject => some ⟨.nameOrEnd, stack⟩
  | t           => (scalar? t).map fun d => ⟨.rest d, stack⟩

-- What a value that is complete is followed by.
def rest? (d : Document) (stack : List Frame) (t : Token) : Option Parser :=
  match t, stack with
  | .comma,       .array ds :: fs     => some ⟨.value, .array (d :: ds) :: fs⟩
  | .closeArray,  .array ds :: fs     => some ⟨.rest (.array (d :: ds).reverse), fs⟩
  | .comma,       .object ms k? :: fs => some ⟨.name ((k?, d) :: ms), fs⟩
  | .closeObject, .object ms k? :: fs => some ⟨.rest (.object ((k?, d) :: ms).reverse), fs⟩
  | _,            _                   => none

def step? (p : Parser) (t : Token) : Option Parser :=
  match p.expect with
  | .value     => value? p.stack t
  | .itemOrEnd =>
    match t, p.stack with
    | .closeArray, .array _ :: fs => some ⟨.rest (.array []), fs⟩
    | t,           fs             => value? fs t
  | .nameOrEnd =>
    match t with
    | .closeObject => some ⟨.rest (.object []), p.stack⟩
    | .text s?     => some ⟨.colon [] s?, p.stack⟩
    | _            => none
  | .name ms =>
    match t with
    | .text s? => some ⟨.colon ms s?, p.stack⟩
    | _        => none
  | .colon ms k? =>
    match t with
    | .colon => some ⟨.value, .object ms k? :: p.stack⟩
    | _      => none
  | .rest d => rest? d p.stack t

def run? (p : Parser) : List Token → Option Parser
  | []      => some p
  | t :: ts => (p.step? t).bind (·.run? ts)

def finish? (p : Parser) : Option Document :=
  match p.expect, p.stack with
  | .rest d, [] => some d
  | _,       _  => none

end Parser

def Document.parse? (s : String) : Option Document :=
  (Token.scan? s.toList).bind fun ts => (Parser.start.run? ts).bind Parser.finish?

def Json.parse? (s : String) : Option Json :=
  (Document.parse? s).bind (·.value? Document.depthLimit)

end FleetMonitor
