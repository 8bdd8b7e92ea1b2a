namespace FleetMonitor.Percent

-- The characters that need no escape: ASCII letters and digits, and `-`, `_`, `.`, `~`.
def isUnreserved (c : Char) : Bool :=
  ('a' ≤ c && c ≤ 'z') || ('A' ≤ c && c ≤ 'Z') || ('0' ≤ c && c ≤ '9') ||
  c = '-' || c = '_' || c = '.' || c = '~'

def hexDigit (n : Nat) : Char :=
  if n < 10 then Char.ofNat ('0'.toNat + n) else Char.ofNat ('A'.toNat + (n - 10))

def encodeByte (b : UInt8) : List Char :=
  ['%', hexDigit (b.toNat / 16), hexDigit (b.toNat % 16)]

def encodeChar (c : Char) : List Char :=
  if isUnreserved c then [c] else (String.utf8EncodeChar c).flatMap encodeByte

-- The text with everything but unreserved characters escaped.
def encode (s : String) : String :=
  String.ofList (s.toList.flatMap encodeChar)

def hexValue? (c : Char) : Option Nat :=
  if '0' ≤ c ∧ c ≤ '9' then some (c.toNat - '0'.toNat)
  else if 'a' ≤ c ∧ c ≤ 'f' then some (c.toNat - 'a'.toNat + 10)
  else if 'A' ≤ c ∧ c ≤ 'F' then some (c.toNat - 'A'.toNat + 10)
  else none

-- The bytes that percent-encoded text stands for. A percent sign without two hexadecimal digits
-- stands for itself.
def decode : List Char → List UInt8
  | []           => []
  | '%' :: h :: l :: cs =>
    match hexValue? h, hexValue? l with
    | some h', some l' => UInt8.ofNat (16 * h' + l') :: decode cs
    | _,       _       => String.utf8EncodeChar '%' ++ decode (h :: l :: cs)
  | c :: cs      => String.utf8EncodeChar c ++ decode cs

end FleetMonitor.Percent
