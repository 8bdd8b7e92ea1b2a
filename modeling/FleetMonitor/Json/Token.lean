import FleetMonitor.Json.Basic
import FleetMonitor.Number.Scaling

namespace FleetMonitor

-- The words between the marks are runs of the characters that numbers and names are made of.
inductive Token where
  | openArray
  | closeArray
  | openObject
  | closeObject
  | comma
  | colon
  | null
  | bool   (b : Bool)
  | number (n? : Option Number)
  | text   (s? : Option String)

namespace Token

-- One element of quoted text: a character, or the UTF-16 code unit of a `\u` escape.
inductive Piece where
  | char (c : Char)
  | unit (u : Nat)

-- The text that pieces spell. A unit of a surrogate pair must stand before or after its other half.
def spell? : List Piece → Option (List Char)
  | []             => some []
  | .char c :: ps  => (spell? ps).map (c :: ·)
  | .unit u :: ps  =>
    if u < 0xD800 ∨ 0xDFFF < u then (spell? ps).map (Char.ofNat u :: ·)
    else if 0xDC00 ≤ u then none
    else
      match ps with
      | .unit l :: ps =>
        if 0xDC00 ≤ l ∧ l ≤ 0xDFFF then
          (spell? ps).map (Char.ofNat (0x10000 + (u - 0xD800) * 0x400 + (l - 0xDC00)) :: ·)
        else none
      | _ => none

-- The parts of a number without its sign: no zero before other digits, and digits after a point.
def unsignedParts? (cs : List Char) : Option (List Char × List Char × List Char) :=
  let (whole, rest) := Digits.span cs
  if whole = [] ∨ (whole.head? = some '0' ∧ whole ≠ ['0']) then none
  else
    match rest with
    | '.' :: rs =>
      let (fraction, rest') := Digits.span rs
      if fraction = [] then none else some (whole, fraction, rest')
    | rs => some (whole, [], rs)

-- The value of a number: an integer if it has neither point nor exponent and fits 64 bits, and a
-- double otherwise, if one is large enough. Minus zero is a double.
def numberValue? (negative : Bool) (whole fraction exponent : List Char) (power : Int) :
    Option Number :=
  let n := Digits.value whole
  if fraction = [] ∧ exponent = [] ∧ ¬negative ∧ IntRange.uint64.Contains n then some (.int n)
  else if fraction = [] ∧ exponent = [] ∧ negative ∧ 0 < n ∧ IntRange.int64.Contains (-n) then
    some (.int (-n))
  else (Decimal.truncated negative whole fraction power).scaled?.map .float

def number? (negative : Bool) (cs : List Char) : Option Token :=
  match unsignedParts? cs with
  | none => none
  | some (whole, fraction, exponent) =>
    (Decimal.exponentPart? exponent).map fun power =>
      number (numberValue? negative whole fraction exponent power)

def ofWord? (cs : List Char) : Option Token :=
  if cs = ['n', 'u', 'l', 'l'] then some null
  else if cs = ['t', 'r', 'u', 'e'] then some (bool true)
  else if cs = ['f', 'a', 'l', 's', 'e'] then some (bool false)
  else
    match cs with
    | '-' :: ds => number? true ds
    | ds        => number? false ds

def mark? : Char → Option Token
  | '[' => some openArray
  | ']' => some closeArray
  | '\x7b' => some openObject
  | '\x7d' => some closeObject
  | ',' => some comma
  | ':' => some colon
  | _   => none

def isSpace (c : Char) : Bool :=
  c = ' ' || c = '\t' || c = '\n' || c = '\r'

def isWordChar (c : Char) : Bool :=
  ('a' ≤ c && c ≤ 'z') || ('A' ≤ c && c ≤ 'Z') || Digits.isDigit c || c = '+' || c = '-' || c = '.'

def hexValue? (c : Char) : Option Nat :=
  if '0' ≤ c ∧ c ≤ '9' then some (c.toNat - '0'.toNat)
  else if 'a' ≤ c ∧ c ≤ 'f' then some (c.toNat - 'a'.toNat + 10)
  else if 'A' ≤ c ∧ c ≤ 'F' then some (c.toNat - 'A'.toNat + 10)
  else none

-- What the character after a backslash stands for, if it is not `u`.
def escaped? : Char → Option Char
  | '"'  => some '"'
  | '\\' => some '\\'
  | '/'  => some '/'
  | 'b'  => some '\x08'
  | 'f'  => some '\x0c'
  | 'n'  => some '\n'
  | 'r'  => some '\r'
  | 't'  => some '\t'
  | _    => none

end Token

-- Where the reader of tokens is: between tokens, in a word, in quoted text, after a backslash
-- there, or among the four digits of an escape. What a token holds so far is kept in reverse.
inductive Scan where
  | between
  | word   (cs : List Char)
  | quoted (ps : List Token.Piece)
  | escape (ps : List Token.Piece)
  | unit   (ps : List Token.Piece) (digits : Nat) (value : Nat)

-- The reader's place and the tokens so far, in reverse.
structure Scanner where
  place  : Scan
  tokens : List Token

namespace Scanner

def start : Scanner where
  place  := .between
  tokens := []

def endWord? (cs : List Char) (tokens : List Token) : Option (List Token) :=
  (Token.ofWord? cs.reverse).map (· :: tokens)

-- One character between tokens.
def begin? (tokens : List Token) (c : Char) : Option Scanner :=
  if Token.isSpace c then some ⟨.between, tokens⟩
  else if c = '"' then some ⟨.quoted [], tokens⟩
  else if Token.isWordChar c then some ⟨.word [c], tokens⟩
  else (Token.mark? c).map fun t => ⟨.between, t :: tokens⟩

def step? (s : Scanner) (c : Char) : Option Scanner :=
  match s.place with
  | .between => begin? s.tokens c
  | .word cs =>
    if Token.isWordChar c then some ⟨.word (c :: cs), s.tokens⟩
    else (endWord? cs s.tokens).bind (begin? · c)
  | .quoted ps =>
    if c = '"' then
      some ⟨.between, .text ((Token.spell? ps.reverse).map String.ofList) :: s.tokens⟩
    else if c = '\\' then some ⟨.escape ps, s.tokens⟩
    else if c.toNat < 0x20 then none
    else some ⟨.quoted (.char c :: ps), s.tokens⟩
  | .escape ps =>
    if c = 'u' then some ⟨.unit ps 0 0, s.tokens⟩
    else (Token.escaped? c).map fun e => ⟨.quoted (.char e :: ps), s.tokens⟩
  | .unit ps digits value =>
    (Token.hexValue? c).map fun h =>
      let value := 16 * value + h
      if digits = 3 then ⟨.quoted (.unit value :: ps), s.tokens⟩
      else ⟨.unit ps (digits + 1) value, s.tokens⟩

-- The tokens in reading order, if the text may end here.
def finish? (s : Scanner) : Option (List Token) :=
  match s.place with
  | .between => some s.tokens.reverse
  | .word cs => (endWord? cs s.tokens).map List.reverse
  | _        => none

def run? (s : Scanner) : List Char → Option Scanner
  | []      => some s
  | c :: cs => (s.step? c).bind (·.run? cs)

end Scanner

def Token.scan? (cs : List Char) : Option (List Token) :=
  (Scanner.start.run? cs).bind Scanner.finish?

end FleetMonitor
