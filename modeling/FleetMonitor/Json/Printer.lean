import FleetMonitor.Json.Basic
import FleetMonitor.Number.Shortest

namespace FleetMonitor.Json

def hexDigit (n : Nat) : Char :=
  (Nat.toDigits 16 n).headD '0'

def escapeChar (c : Char) : List Char :=
  if c = '"' then ['\\', '"']
  else if c = '\\' then ['\\', '\\']
  else if c = '\x08' then ['\\', 'b']
  else if c = '\x0c' then ['\\', 'f']
  else if c = '\n' then ['\\', 'n']
  else if c = '\r' then ['\\', 'r']
  else if c = '\t' then ['\\', 't']
  else if c.toNat < 0x20 then ['\\', 'u', '0', '0', hexDigit (c.toNat / 16), hexDigit (c.toNat % 16)]
  else [c]

def quote (s : String) : List Char :=
  '"' :: (s.toList.flatMap escapeChar ++ ['"'])

def renderNumber : Number → List Char
  | .int n   => if n < 0 then '-' :: Nat.toDigits 10 n.natAbs else Nat.toDigits 10 n.natAbs
  | .float x => FloatLayout.json.render x

mutual

-- The value without any space between tokens.
def render : Json → List Char
  | null           => ['n', 'u', 'l', 'l']
  | bool b         => if b then ['t', 'r', 'u', 'e'] else ['f', 'a', 'l', 's', 'e']
  | number n       => renderNumber n
  | text s         => quote s
  | array items    => '[' :: (renderItems items ++ [']'])
  | object members => '\x7b' :: (renderMembers members ++ ['\x7d'])

def renderItems : List Json → List Char
  | []      => []
  | [j]     => render j
  | j :: js => render j ++ ',' :: renderItems js

def renderMembers : List (String × Json) → List Char
  | []               => []
  | [(name, j)]      => quote name ++ ':' :: render j
  | (name, j) :: ms  => quote name ++ ':' :: (render j ++ ',' :: renderMembers ms)

end

def compact (j : Json) : String :=
  String.ofList (render j)

end FleetMonitor.Json
