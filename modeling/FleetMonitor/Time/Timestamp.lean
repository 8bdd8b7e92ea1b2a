import FleetMonitor.Json.Basic
import FleetMonitor.Number.Binary64
import FleetMonitor.Text.Basic
import FleetMonitor.Time.Calendar

namespace FleetMonitor

-- Epoch milliseconds.
abbrev Millis := Int64

-- A time of day. Second 60 is the second that follows the 59th.
structure Clock where
  hour   : Nat
  minute : Nat
  second : Nat
  -- The fraction of the second in whole milliseconds.
  millis : Nat
  deriving DecidableEq, Repr

namespace Clock

def Exists (c : Clock) : Prop :=
  c.hour ≤ 23 ∧ c.minute ≤ 59 ∧ c.second ≤ 60

instance (c : Clock) : Decidable c.Exists :=
  inferInstanceAs (Decidable (_ ∧ _))

def millisOfDay (c : Clock) : Nat :=
  ((c.hour * 60 + c.minute) * 60 + c.second) * 1000 + c.millis

end Clock

namespace Timestamp

def ofDateTime (d : Date) (c : Clock) : Int :=
  d.dayNumber * 86400000 + c.millisOfDay

-- Readers of the parts: what is read, and the rest.

-- Exactly `n` digits.
def exactly? (n : Nat) (cs : List Char) : Option (Nat × List Char) :=
  if (cs.take n).length = n ∧ (cs.take n).all Digits.isDigit then
    some (Digits.value (cs.take n), cs.drop n)
  else none

-- One digit at least, and at most `n`.
def upTo? (n : Nat) (cs : List Char) : Option (Nat × List Char) :=
  let ds := (cs.take n).takeWhile Digits.isDigit
  if ds = [] then none else some (Digits.value ds, cs.drop ds.length)

-- Any number of digits, but at least one.
def all? (cs : List Char) : Option (Nat × List Char) :=
  let (ds, rest) := Digits.span cs
  if ds = [] then none else some (Digits.value ds, rest)

def char? (c : Char) : List Char → Option (List Char)
  | d :: cs => if c = d then some cs else none
  | []      => none

-- An optional fraction of a second, in whole milliseconds; further digits are cut off.
def fraction? : List Char → Option (Nat × List Char)
  | '.' :: cs =>
    let (ds, rest) := Digits.span cs
    if ds = [] then none else some (Digits.value ((ds ++ ['0', '0']).take 3), rest)
  | cs => some (0, cs)

-- With an offset.

-- The offset from UTC in minutes, which ends the text.
def offset? : List Char → Option Int
  | ['Z'] => some 0
  | ['z'] => some 0
  | s :: cs => do
    let sign ← if s = '+' then some (1 : Int) else if s = '-' ∨ s = '\u2212' then some (-1) else none
    let (h, cs) ← exactly? 2 cs
    let cs      ← char? ':' cs
    let (m, cs) ← exactly? 2 cs
    if cs = [] ∧ h ≤ 23 ∧ m ≤ 59 then some (sign * (h * 60 + m)) else none
  | [] => none

-- A date, a letter or a space, a time and an offset, every part at full width.
def withOffset? (cs : List Char) : Option Int := do
  let (year, cs)  ← exactly? 4 cs
  let cs          ← char? '-' cs
  let (month, cs) ← exactly? 2 cs
  let cs          ← char? '-' cs
  let (day, cs)   ← exactly? 2 cs
  let cs          ← (char? 'T' cs).or ((char? 't' cs).or (char? ' ' cs))
  let (hour, cs)  ← exactly? 2 cs
  let cs          ← char? ':' cs
  let (min, cs)   ← exactly? 2 cs
  let cs          ← char? ':' cs
  let (sec, cs)   ← exactly? 2 cs
  let (ms, cs)    ← fraction? cs
  let offset      ← offset? cs
  let date  : Date  := ⟨year, month, day⟩
  let clock : Clock := ⟨hour, min, sec, ms⟩
  if date.Exists ∧ clock.Exists then some (ofDateTime date clock - offset * 60000) else none

-- Without an offset.

-- A year of up to four digits, or of any number after a sign.
def year? : List Char → Option (Int × List Char)
  | '-' :: cs => (all? cs).map fun (n, cs) => (-n, cs)
  | '+' :: cs => (all? cs).map fun (n, cs) => (n, cs)
  | cs        => (upTo? 4 cs).map fun (n, cs) => (n, cs)

-- Any white space, and then one or two digits.
def pair? (cs : List Char) : Option (Nat × List Char) :=
  upTo? 2 (Text.trimStart cs)

-- A date, what `between` reads, and a time, all in UTC.
def naive? (between : List Char → Option (List Char)) (cs : List Char) : Option Int := do
  let (year, cs)  ← year? (Text.trimStart cs)
  let cs          ← char? '-' cs
  let (month, cs) ← pair? cs
  let cs          ← char? '-' cs
  let (day, cs)   ← pair? cs
  let cs          ← between cs
  let (hour, cs)  ← pair? cs
  let cs          ← char? ':' cs
  let (min, cs)   ← pair? cs
  let cs          ← char? ':' cs
  let (sec, cs)   ← pair? cs
  let (ms, cs)    ← fraction? cs
  let date  : Date  := ⟨year, month, day⟩
  let clock : Clock := ⟨hour, min, sec, ms⟩
  if cs = [] ∧ date.Exists ∧ clock.Exists then some (ofDateTime date clock) else none

-- The instant that a text names: with an offset, or in UTC with a `T` or with white space between
-- date and time.
def ofText? (cs : List Char) : Option Int :=
  (withOffset? cs).or ((naive? (char? 'T') cs).or (naive? (fun cs => some (Text.trimStart cs)) cs))

-- The instant that a number names: the number if it is an integer that fits, and otherwise the
-- nearest integer to it as a double, moved into range.
def ofNumber? : Number → Option Int
  | .int n   => if IntRange.int64.Contains n then some n else nearest? (Number.int n).toFloat
  | .float x => nearest? x
where
  nearest? (x : Float) : Option Int :=
    (Binary64.ofFloat? x).map fun b => IntRange.int64.saturate b.round

def ofJson? : Json → Option Millis
  | .number n => (ofNumber? n).map Int64.ofInt
  | .text s   => (ofText? (Text.trim s.toList)).map Int64.ofInt
  | _         => none

-- The time of a message: its own timestamp if there is a readable one, else the given time.
def orElse (timestamp? : Option Json) (fallback : Millis) : Millis :=
  (timestamp?.bind ofJson?).getD fallback

end Timestamp
end FleetMonitor
