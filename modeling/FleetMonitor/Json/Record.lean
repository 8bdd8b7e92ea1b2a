import FleetMonitor.Json.Document

namespace FleetMonitor

-- What records and their fields can be read from.
class Source (σ : Type) where
  isNull  : σ → Bool
  bool?   : σ → Option Bool
  number? : σ → Option Number
  text?   : σ → Option String
  value?  : σ → Option Json
  items?  : σ → Option (List σ)
  -- The members as written. A name that is no text fails the whole record.
  members? : σ → Option (List (String × σ))

namespace Source

variable [Source σ]

def named (name : String) (members : List (String × σ)) : List σ :=
  members.filterMap fun (n, s) => if n = name then some s else none

-- What a record's fields are read from, by name. No field may be written twice.
def byName? (members : List (String × σ)) : List String → Option (List (Option σ))
  | []            => some []
  | name :: names =>
    match named name members, byName? members names with
    | [],  some fs => some (none :: fs)
    | [s], some fs => some (some s :: fs)
    | _,   _       => none

-- What a record's fields are read from, by position.
def byPosition? : List σ → List String → Option (List (Option σ))
  | [],      names      => some (names.map fun _ => none)
  | s :: ss, _ :: names => (byPosition? ss names).map (some s :: ·)
  | _ :: _,  []         => none

-- What the fields of a record are read from, in the order of their names. A record is written as an
-- object, whose unknown members are passed over, or as an array of its fields, which may stop early.
def fields? (names : List String) (s : σ) : Option (List (Option σ)) :=
  match members? s, items? s with
  | some ms, _       => byName? ms names
  | none,    some ss => byPosition? ss names
  | none,    none    => none

def int? (r : IntRange) (s : σ) : Option Int :=
  match number? s with
  | some (.int n) => if r.Contains n then some n else none
  | _             => none

def uint32? (s : σ) : Option UInt32 :=
  (int? .uint32 s).map fun n => .ofNat n.toNat

def uint64? (s : σ) : Option UInt64 :=
  (int? .uint64 s).map fun n => .ofNat n.toNat

def int64? (s : σ) : Option Int64 :=
  (int? .int64 s).map .ofInt

def float? (s : σ) : Option Float :=
  (number? s).map Number.toFloat

-- A field that has a value even if it is not written.
def orElse (read : σ → Option α) (default : α) : Option σ → Option α
  | none   => some default
  | some s => read s

-- A field that may be null or not written.
def optional (read : σ → Option α) : Option σ → Option (Option α)
  | none   => some none
  | some s => if isNull s then some none else (read s).map some

end Source

namespace Json

instance : Source Json where
  isNull  := isNull
  bool?   := bool?
  number? := number?
  text?   := text?
  value?  := some
  items?
    | array items => some items
    | _           => none
  members?
    | object members => some members
    | _              => none

end Json

-- A document of which at most `depth` arrays and objects inside each other are read.
structure Written where
  document : Document
  depth    : Nat

namespace Written

def enter (w : Written) (ds : List Document) : Option (List Written) :=
  if w.depth = 0 then none else some (ds.map (⟨·, w.depth - 1⟩))

def readable? : List (Option String × α) → Option (List (String × α))
  | []                   => some []
  | (some name, a) :: ms => (readable? ms).map ((name, a) :: ·)
  | (none, _) :: _       => none

instance : Source Written where
  isNull w :=
    match w.document with
    | .null => true
    | _     => false
  bool? w :=
    match w.document with
    | .bool b => some b
    | _       => none
  number? w :=
    match w.document with
    | .number n? => n?
    | _          => none
  text? w :=
    match w.document with
    | .text s? => s?
    | _        => none
  value? w := w.document.value? w.depth
  items? w :=
    match w.document with
    | .array ds => w.enter ds
    | _         => none
  members? w :=
    match w.document with
    | .object ms =>
      if w.depth = 0 then none else readable? (ms.map fun (name?, d) => (name?, ⟨d, w.depth - 1⟩))
    | _          => none

end Written

-- The whole of a text, as a source.
def Document.written (d : Document) : Written where
  document := d
  depth    := depthLimit

end FleetMonitor
