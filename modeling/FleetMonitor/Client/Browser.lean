import FleetMonitor.Message.Kind
import FleetMonitor.Number.Binary64

namespace FleetMonitor

inductive BrowserCall where
  | opened  (stream : Nat) (url : String)
  | refused (url : String)
  | closed  (stream : Nat)
  | slept   (sleep : Nat) (ms : UInt64)
  | fetched (fetch : Nat) (url : String)
  deriving DecidableEq

-- An event stream, with the names of the events that it was asked for.
structure EventStream where
  url    : String
  names  : List String
  isOpen : Bool
  deriving DecidableEq

-- A sleep that is not over.
structure Sleep where
  id  : Nat
  due : Int
  deriving DecidableEq

-- How long a sleep of so many milliseconds really is. One that cannot begin has no length.
abbrev SleepLength : Type :=
  UInt64 → Option Nat

namespace SleepLength

-- Sleeps shorter than `bound` can begin, and those shorter than `exactBound` last as long as they
-- should.
def bound : UInt64 := 0x100000000
def exactBound : UInt64 := 0x80000000

-- Every sleep lasts as long as it should.
def unbounded : SleepLength :=
  fun ms => some ms.toNat

-- Sleeps are begun with a number of 32 bits. The first bit is taken for a sign, and what is to last
-- less than nothing is over at once.
def bounded : SleepLength :=
  fun ms => if ms < exactBound then some ms.toNat else if ms < bound then some 0 else none

-- What a browser has to do with sleeps.
structure Faithful (f : SleepLength) : Prop where
  begins : ∀ ms < bound, f ms ≠ none
  exact  : ∀ ms < exactBound, f ms = some ms.toNat

theorem faithful_unbounded : Faithful unbounded :=
  ⟨fun _ _ => by simp [unbounded], fun _ _ => rfl⟩

end SleepLength

-- Streams, sleeps and fetches are numbered in the order in which they begin.
structure Browser where
  -- Epoch milliseconds.
  now       : Int
  -- The random numbers to come; after them it is one half for ever.
  randoms   : List Float
  -- How many of the next streams cannot be opened.
  refusals  : Nat
  -- After how many more subscriptions one fails, once.
  unsubscribable? : Option Nat
  sleepLength : SleepLength
  streams   : List EventStream
  sleeps    : List Sleep
  -- Sleeps that could not begin. They are never over, so whatever asked for one is lost.
  lostSleeps : List Nat
  nextSleep : Nat
  fetches   : List Nat
  nextFetch : Nat
  -- What was asked so far, and the sleeps and fetches that were given up before they were over.
  calls            : List BrowserCall
  cancelledSleeps  : List Nat
  cancelledFetches : List Nat

namespace Browser

def start (now : Int) (randoms : List Float) (refusals : Nat) (sleepLength : SleepLength) :
    Browser where
  now              := now
  randoms          := randoms
  refusals         := refusals
  unsubscribable?  := none
  sleepLength      := sleepLength
  streams          := []
  sleeps           := []
  lostSleeps       := []
  nextSleep        := 0
  fetches          := []
  nextFetch        := 0
  calls            := []
  cancelledSleeps  := []
  cancelledFetches := []

-- Forgets what was asked so far.
def clearTrace (b : Browser) : Browser :=
  { b with calls := [], cancelledSleeps := [], cancelledFetches := [] }

def log (b : Browser) (c : BrowserCall) : Browser :=
  { b with calls := b.calls ++ [c] }

-- The clock as messages are stamped with it: it is read as a double, which far from zero is not
-- the exact time.
def time (b : Browser) : Int64 :=
  .ofInt (IntRange.int64.saturate (Binary64.nearestInt b.now))

def random (b : Browser) : Float :=
  b.randoms.headD 0.5

def dropRandom (b : Browser) : Browser :=
  { b with randoms := b.randoms.tail }

def sleep (b : Browser) (ms : UInt64) : Browser × Nat :=
  let length? := b.sleepLength ms
  let b' : Browser := { b with
    sleeps     := b.sleeps ++ (length?.map fun d => ⟨b.nextSleep, b.now + d⟩).toList
    lostSleeps := b.lostSleeps ++ if length? = none then [b.nextSleep] else []
    nextSleep  := b.nextSleep + 1 }
  (b'.log (.slept b.nextSleep ms), b.nextSleep)

def fetch (b : Browser) (url : String) : Browser × Nat :=
  let b' : Browser := { b with fetches := b.fetches ++ [b.nextFetch], nextFetch := b.nextFetch + 1 }
  (b'.log (.fetched b.nextFetch url), b.nextFetch)

def endSleep (b : Browser) (id : Nat) : Browser :=
  { b with sleeps := b.sleeps.filter (·.id ≠ id) }

def endFetch (b : Browser) (id : Nat) : Browser :=
  { b with fetches := b.fetches.filter (· ≠ id) }

-- Gives up a sleep; one that is over stays as it is.
def cancelSleep (b : Browser) (id : Nat) : Browser :=
  if b.sleeps.any (·.id = id) then
    { b.endSleep id with cancelledSleeps := b.cancelledSleeps ++ [id] }
  else b

-- Gives up a fetch; one that is over stays as it is.
def cancelFetch (b : Browser) (id : Nat) : Browser :=
  if id ∈ b.fetches then { b.endFetch id with cancelledFetches := b.cancelledFetches ++ [id] } else b

def isOpen (b : Browser) (stream : Nat) : Bool :=
  b.streams[stream]?.any (·.isOpen)

-- Closes a stream; one that is closed stays as it is.
def close (b : Browser) (stream : Nat) : Browser :=
  if b.isOpen stream then
    { b with streams := b.streams.modify stream ({ · with isOpen := false }) }.log (.closed stream)
  else b

-- The name of messages that are sent without one.
def plainName : String :=
  "message"

def subscriptions : List String :=
  Kind.all.map Kind.tag ++ [plainName]

-- Begins a stream with subscriptions to the given names; `left?` says how many more subscriptions
-- there are before one fails.
def addStream (b : Browser) (url : String) (names : List String) (left? : Option Nat) : Browser :=
  let b' : Browser :=
    { b with streams := b.streams ++ [⟨url, names, true⟩], unsubscribable? := left? }
  b'.log (.opened b.streams.length url)

-- Opens a stream and subscribes to its events, one after the other. If a subscription fails the
-- stream is closed again.
def open? (b : Browser) (url : String) : Browser × Option Nat :=
  if 0 < b.refusals then ({ b with refusals := b.refusals - 1 }.log (.refused url), none)
  else
    let id := b.streams.length
    match b.unsubscribable? with
    | none   => (b.addStream url subscriptions none, some id)
    | some n =>
      if n < subscriptions.length then
        ((b.addStream url (subscriptions.take n) none).close id, none)
      else (b.addStream url subscriptions (some (n - subscriptions.length)), some id)

-- How many subscriptions of a stream an event of the given name reaches.
def reached (b : Browser) (stream : Nat) (name : String) : Nat :=
  match b.streams[stream]? with
  | some s => if s.isOpen then s.names.count name else 0
  | none   => 0

-- The one of two sleeps that is over first; of those with the same time it is the one that began
-- first.
def earlier? (best? : Option Sleep) (s : Sleep) : Option Sleep :=
  match best? with
  | none      => some s
  | some best =>
    if s.due < best.due ∨ (s.due = best.due ∧ s.id < best.id) then some s else some best

-- The sleep that is over next, if it is so until `target`.
def nextDue? (b : Browser) (target : Int) : Option Sleep :=
  (b.sleeps.filter (·.due ≤ target)).foldl earlier? none

-- Lets the clock go on to the end of a sleep, but never back.
def wake (b : Browser) (s : Sleep) : Browser :=
  { b.endSleep s.id with now := max b.now s.due }

end Browser
end FleetMonitor
