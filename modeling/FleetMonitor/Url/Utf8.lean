namespace FleetMonitor.Utf8

def replacement : Char :=
  '\uFFFD'

-- What the first byte of a sequence calls for: how many bytes follow, the bits that it gives, and
-- the range of the byte after it.
structure Lead where
  trailing : Nat
  bits     : Nat
  least    : Nat
  greatest : Nat

def lead? (b : Nat) : Option Lead :=
  if b < 0x80 then some ⟨0, b, 0x80, 0xBF⟩
  else if 0xC2 ≤ b ∧ b ≤ 0xDF then some ⟨1, b - 0xC0, 0x80, 0xBF⟩
  else if b = 0xE0 then some ⟨2, 0, 0xA0, 0xBF⟩
  else if b = 0xED then some ⟨2, 0xD, 0x80, 0x9F⟩
  else if 0xE1 ≤ b ∧ b ≤ 0xEF then some ⟨2, b - 0xE0, 0x80, 0xBF⟩
  else if b = 0xF0 then some ⟨3, 0, 0x90, 0xBF⟩
  else if b = 0xF4 then some ⟨3, 4, 0x80, 0x8F⟩
  else if 0xF1 ≤ b ∧ b ≤ 0xF3 then some ⟨3, b - 0xF0, 0x80, 0xBF⟩
  else none

-- A sequence that is not complete yet: how many bytes are missing, the bits so far, and the range
-- of the next byte.
abbrev Pending := Lead

-- The characters that one byte completes, and what is pending after it. A byte that does not fit
-- ends the pending sequence with one replacement and starts anew.
def step (pending? : Option Pending) (byte : UInt8) : List Char × Option Pending :=
  let b := byte.toNat
  let fresh : List Char × Option Pending :=
    match lead? b with
    | none              => ([replacement], none)
    | some ⟨0, b, _, _⟩ => ([Char.ofNat b], none)
    | some l            => ([], some l)
  match pending? with
  | none   => fresh
  | some p =>
    if p.least ≤ b ∧ b ≤ p.greatest then
      let bits := p.bits * 64 + (b - 0x80)
      if p.trailing ≤ 1 then ([Char.ofNat bits], none)
      else ([], some ⟨p.trailing - 1, bits, 0x80, 0xBF⟩)
    else (replacement :: fresh.1, fresh.2)

def decodeFrom (pending? : Option Pending) : List UInt8 → List Char
  | []      => if pending?.isSome then [replacement] else []
  | b :: bs => let (cs, pending?) := step pending? b; cs ++ decodeFrom pending? bs

-- The text that bytes stand for; each sequence that is cut off or cannot be is one replacement.
def decode (bs : List UInt8) : String :=
  String.ofList (decodeFrom none bs)

end FleetMonitor.Utf8
