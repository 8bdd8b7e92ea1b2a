import FleetMonitor.Client.Browser
import FleetMonitor.Client.Fetch
import FleetMonitor.Client.Signals

namespace FleetMonitor

-- A loop is what it waits for. When that comes, or when the loop is stopped, it is made ready. It
-- passes over whatever it does not wait for any more, and one that was stopped before it runs does
-- nothing more than to let go of what it holds.
inductive StreamLoop where
  -- Its first turn, in which it opens the stream.
  | starting (r : StreamRequest)
  | reading  (stream : Nat)
  -- The end of the delay before the next attempt.
  | delayed  (sleep : Nat) (t : Ticket)
  deriving DecidableEq

-- Whether it waits for the end of the given sleep.
def StreamLoop.isDelayed (sleep : Nat) : StreamLoop → Bool
  | delayed s _ => s = sleep
  | _           => false

inductive PollLoop where
  | starting
  | sleeping (sleep : Nat)
  | fetching (fetch : Nat)
  deriving DecidableEq

-- A connection loop that is not over.
structure StreamTask where
  waits   : StreamLoop
  stopped : Bool
  deriving DecidableEq

-- A poll loop that is not over.
structure PollTask where
  timer   : Timer
  waits   : PollLoop
  stopped : Bool
  deriving DecidableEq

inductive StreamSignal where
  -- The first turn of a loop, or its last one after it was stopped.
  | turn
  | woken   (sleep : Nat)
  -- A message of a stream; its data may be no text.
  | message (stream : Nat) (name : String) (data? : Option String)
  | failure (stream : Nat)

inductive PollSignal where
  | turn
  | woken (sleep : Nat)
  | reply (fetch : Nat) (r : Reply)

-- A loop that is ready. Poll loops are known by the number of their timer.
inductive Ready where
  | stream (task : Nat) (why : StreamSignal)
  | poll   (timer : Nat) (why : PollSignal)

-- A session, the connection loop that reads its stream, and one poll loop for each of its timers.
-- The loops that are ready run one after the other, each until it waits again.
structure Client where
  session : Session
  signals : Signals
  browser : Browser
  streams : SortedMap Nat StreamTask
  polls   : SortedMap Nat PollTask
  -- The number of the next connection loop, and the loop that belongs to the current connection.
  nextTask : Nat
  current? : Option Nat
  -- First in, first out.
  ready    : List Ready
  -- What the client and its loops asked of the session, and the answers.
  asked    : List (Operation × Answer)
  -- What was asked of renderers and surfaces.
  shown    : List (ObjectKey × TabCall)

namespace Client

def setBrowser (c : Client) (browser : Browser) : Client :=
  { c with browser }

def enqueue (c : Client) (r : Ready) : Client :=
  { c with ready := c.ready ++ [r] }

def sync (c : Client) : Client :=
  { c with signals := c.signals.sync c.session }

@[simp]
theorem session_sync {c : Client} : c.sync.session = c.session :=
  rfl

-- Effects of the session.

def startPoll (c : Client) (t : Timer) : Client :=
  { c with polls := c.polls.insert t.id ⟨t, .starting, false⟩ }.enqueue (.poll t.id .turn)

def stopPoll (c : Client) (timer : Nat) : Client :=
  if c.polls.contains timer then
    { c with polls := c.polls.modify timer ({ · with stopped := true }) }.enqueue (.poll timer .turn)
  else c

def apply (c : Client) : Effect → Client
  | .call k call => { c with shown := c.shown ++ [(k, call)] }
  | .start t     => c.startPoll t
  | .stop t      => c.stopPoll t.id

def take (c : Client) (s : Session.Step α) : Client :=
  s.effects.foldl apply { c with session := s.session }

-- Asks an operation of the session, as only the client and its loops do; the page has the session to
-- itself for its tabs and charts.
def ask (c : Client) (op : Operation) : Client :=
  let step := c.session.step op
  { c with asked := c.asked ++ [(op, step.answer)] }.take step

-- Effects concern poll loops and what is shown, and nothing else.

section

variable {c : Client} {s : Session.Step α} {op : Operation}

theorem apply_eq (e : Effect) : ∃ polls ready shown, c.apply e = { c with polls, ready, shown } := by
  cases e with
  | call  => exact ⟨_, _, _, rfl⟩
  | start => exact ⟨_, _, _, rfl⟩
  | stop  =>
    simp only [apply, stopPoll]
    split <;> exact ⟨_, _, _, rfl⟩

theorem foldl_apply_eq (es : List Effect) (c : Client) : ∃ polls ready shown,
    es.foldl apply c = { c with polls, ready, shown } := by
  induction es generalizing c with
  | nil          => exact ⟨_, _, _, rfl⟩
  | cons e es hi =>
    obtain ⟨_, _, _, he⟩ := c.apply_eq e
    obtain ⟨_, _, _, hs⟩ := hi (c.apply e)
    exact ⟨_, _, _, by rw [List.foldl_cons, hs, he]⟩

theorem take_eq : ∃ polls ready shown,
    c.take s = { c with session := s.session, polls, ready, shown } :=
  foldl_apply_eq s.effects { c with session := s.session }

@[simp]
theorem session_take : (c.take s).session = s.session := by
  obtain ⟨_, _, _, h⟩ := c.take_eq (s := s)
  rw [h]

@[simp]
theorem signals_take : (c.take s).signals = c.signals := by
  obtain ⟨_, _, _, h⟩ := c.take_eq (s := s)
  rw [h]

@[simp]
theorem browser_take : (c.take s).browser = c.browser := by
  obtain ⟨_, _, _, h⟩ := c.take_eq (s := s)
  rw [h]

@[simp]
theorem streams_take : (c.take s).streams = c.streams := by
  obtain ⟨_, _, _, h⟩ := c.take_eq (s := s)
  rw [h]

@[simp]
theorem current?_take : (c.take s).current? = c.current? := by
  obtain ⟨_, _, _, h⟩ := c.take_eq (s := s)
  rw [h]

@[simp]
theorem nextTask_take : (c.take s).nextTask = c.nextTask := by
  obtain ⟨_, _, _, h⟩ := c.take_eq (s := s)
  rw [h]

@[simp]
theorem asked_take : (c.take s).asked = c.asked := by
  obtain ⟨_, _, _, h⟩ := c.take_eq (s := s)
  rw [h]

@[simp]
theorem session_ask : (c.ask op).session = (c.session.step op).session :=
  session_take

@[simp]
theorem signals_ask : (c.ask op).signals = c.signals :=
  signals_take

@[simp]
theorem browser_ask : (c.ask op).browser = c.browser :=
  browser_take

@[simp]
theorem streams_ask : (c.ask op).streams = c.streams :=
  streams_take

@[simp]
theorem current?_ask : (c.ask op).current? = c.current? :=
  current?_take

@[simp]
theorem nextTask_ask : (c.ask op).nextTask = c.nextTask :=
  nextTask_take

@[simp]
theorem asked_ask : (c.ask op).asked = c.asked ++ [(op, (c.session.step op).answer)] :=
  asked_take

end

-- Connection loops.

def setStream (c : Client) (task : Nat) (waits : StreamLoop) : Client :=
  { c with streams := c.streams.insert task ⟨waits, false⟩ }

def endStream (c : Client) (task : Nat) : Client :=
  { c with streams := c.streams.erase task }

-- What a loop does after its stream failed: it waits for the next attempt, or is over. A random
-- number is used up only if there is a delay to scale.
def recover (c : Client) (task : Nat) : Client :=
  let unit   := c.browser.random
  let answer := (c.session.transportError unit).answer
  let c      := (c.ask (.transportError unit)).sync
  match answer with
  | .retry _ delay ticket =>
    let (browser, sleep) := c.browser.dropRandom.sleep delay
    (c.setBrowser browser).setStream task (.delayed sleep ticket)
  | _ => c.endStream task

-- Opens a stream and reads it from then on.
def openStream (c : Client) (task : Nat) (r : StreamRequest) : Client :=
  match c.browser.open? r.url with
  | (browser, some stream) => (c.setBrowser browser).setStream task (.reading stream)
  | (browser, none)        => (c.setBrowser browser).recover task

-- Hands a message to the session. The name of plain messages is no name, and what is no text is
-- passed over.
def readMessage (c : Client) (name : String) : Option String → Client
  | none     => c
  | some raw =>
    let event? := if name = Browser.plainName then none else some name
    (c.ask (.message event? raw c.browser.time)).sync

-- What a loop does after the delay: it redeems its ticket and opens the next stream, or is over.
def resume (c : Client) (task : Nat) (t : Ticket) : Client :=
  let answer := (c.session.redeem t).answer
  let c      := (c.ask (.redeem t)).sync
  match answer with
  | some r => c.openStream task r
  | none   => c.endStream task

-- Lets go of what a connection loop holds.
def releaseStream (b : Browser) : StreamLoop → Browser
  | .starting _      => b
  | .reading stream  => b.close stream
  | .delayed sleep _ => b.cancelSleep sleep

def runStream (c : Client) (task : Nat) (why : StreamSignal) : Client :=
  match c.streams.find? task with
  | none                => c
  | some ⟨waits, true⟩  => (c.setBrowser (releaseStream c.browser waits)).endStream task
  | some ⟨waits, false⟩ =>
    match waits, why with
    | .starting r, .turn => c.openStream task r
    | .reading stream, .message stream' name data? =>
      if stream' = stream then c.readMessage name data? else c
    | .reading stream, .failure stream' =>
      if stream' = stream then (c.setBrowser (c.browser.close stream)).recover task else c
    | .delayed sleep t, .woken sleep' => if sleep' = sleep then c.resume task t else c
    | _, _ => c

-- Poll loops.

def setPoll (c : Client) (timer : Nat) (waits : PollLoop) : Client :=
  { c with polls := c.polls.modify timer ({ · with waits }) }

def endPoll (c : Client) (timer : Nat) : Client :=
  { c with polls := c.polls.erase timer }

def sleepPoll (c : Client) (t : Timer) : Client :=
  let (browser, sleep) := c.browser.sleep t.every
  (c.setBrowser browser).setPoll t.id (.sleeping sleep)

def fetchPoll (c : Client) (t : Timer) : Client :=
  let (browser, fetch) := c.browser.fetch (t.target.url c.session.config.apiBase)
  (c.setBrowser browser).setPoll t.id (.fetching fetch)

def readReply (c : Client) (t : Timer) (r : Reply) : Client :=
  (c.ask (t.target.onReply c.session.config.apiBase c.browser.time r)).sync

-- Lets go of what a poll loop holds.
def releasePoll (b : Browser) : PollLoop → Browser
  | .starting       => b
  | .sleeping sleep => b.cancelSleep sleep
  | .fetching fetch => b.cancelFetch fetch

def runPoll (c : Client) (timer : Nat) (why : PollSignal) : Client :=
  match c.polls.find? timer with
  | none                   => c
  | some ⟨_, waits, true⟩  => (c.setBrowser (releasePoll c.browser waits)).endPoll timer
  | some ⟨t, waits, false⟩ =>
    match waits, why with
    | .starting, .turn => c.sleepPoll t
    | .sleeping sleep, .woken sleep' => if sleep' = sleep then c.fetchPoll t else c
    | .fetching fetch, .reply fetch' r =>
      if fetch' = fetch then (c.readReply t r).sleepPoll t else c
    | _, _ => c

-- The poll loops that there are after each change.

section

variable {c : Client} {t : Timer} {timer i : Nat} {waits : PollLoop} {p : PollTask}

theorem find?_startPoll : (c.startPoll t).polls.find? i =
    if i = t.id then some ⟨t, .starting, false⟩ else c.polls.find? i := by
  simp only [startPoll, enqueue, SortedMap.find?_insert, Std.compare_eq_iff_eq]

theorem find?_stopPoll : (c.stopPoll timer).polls.find? i =
    if i = timer then (c.polls.find? i).map ({ · with stopped := true }) else c.polls.find? i := by
  unfold stopPoll
  split
  case isTrue => simp only [enqueue, SortedMap.find?_modify, Std.compare_eq_iff_eq]
  case isFalse hc =>
    split
    case isTrue hi =>
      have hn : c.polls.find? i = none := by simpa [SortedMap.contains, hi] using hc
      rw [hn, Option.map_none]
    case isFalse => rfl

theorem find?_setPoll : (c.setPoll timer waits).polls.find? i =
    if i = timer then (c.polls.find? i).map ({ · with waits }) else c.polls.find? i := by
  simp only [setPoll, SortedMap.find?_modify, Std.compare_eq_iff_eq]

theorem find?_endPoll : (c.endPoll timer).polls.find? i =
    if i = timer then none else c.polls.find? i := by
  simp only [endPoll, SortedMap.find?_erase, Std.compare_eq_iff_eq]

theorem exists_of_find?_setPoll (h : (c.setPoll timer waits).polls.find? i = some p) :
    ∃ q, c.polls.find? i = some q ∧ p.timer = q.timer ∧ p.stopped = q.stopped := by
  rw [find?_setPoll] at h
  split at h
  · obtain ⟨q, hq, rfl⟩ := Option.map_eq_some_iff.mp h
    exact ⟨q, hq, rfl, rfl⟩
  · exact ⟨p, h, rfl, rfl⟩

theorem find?_of_find?_endPoll (h : (c.endPoll timer).polls.find? i = some p) :
    i ≠ timer ∧ c.polls.find? i = some p := by
  rw [find?_endPoll] at h
  split at h
  · contradiction
  · exact ⟨‹_›, h⟩

end

-- Turns.

def runReady (c : Client) : Ready → Client
  | .stream task why => c.runStream task why
  | .poll timer why  => c.runPoll timer why

def round (c : Client) : Client :=
  c.ready.foldl runReady { c with ready := [] }

-- Runs loops until none is ready. What a first round makes ready is poll loops that start or stop,
-- and those make nothing ready.
def settle (c : Client) : Client :=
  c.round.round

-- What the page does.

def stopStream (c : Client) : Client :=
  match c.current? with
  | none      => c
  | some task =>
    let c := { c with current? := none }
    if c.streams.contains task then
      { c with streams := c.streams.modify task ({ · with stopped := true }) }.enqueue
        (.stream task .turn)
    else c

-- Starts a new connection, in place of the loop of the old one.
def connect (c : Client) : Client :=
  let c       := c.stopStream
  let request := c.session.connect.answer
  let c       := (c.ask .connect).sync
  let task    := c.nextTask
  { c with
    streams  := c.streams.insert task ⟨.starting request, false⟩
    nextTask := task + 1
    current? := some task }.enqueue (.stream task .turn)

-- Ends the connection and all polls.
def close (c : Client) : Client :=
  (c.stopStream.ask .close).sync

-- A client before anything happened to it.
def blank (config : Config) (browser : Browser) : Client where
  session  := .new config
  signals  := .start
  browser  := browser
  streams  := ∅
  polls    := ∅
  nextTask := 0
  current? := none
  ready    := []
  asked    := []
  shown    := []

def start (config : Config) (browser : Browser) : Client :=
  (blank config browser).connect

-- Lets go of the client and of its session with it.
def discard (c : Client) : Client :=
  let c := c.stopStream
  c.polls.keys.foldl stopPoll c

-- What the browser does.

def reader? (c : Client) (stream : Nat) : Option Nat :=
  (c.streams.entries.find? fun e => e.2.waits = .reading stream).map (·.1)

def wakeReader (c : Client) (stream : Nat) (why : StreamSignal) : Client :=
  match c.reader? stream with
  | some task => c.enqueue (.stream task why)
  | none      => c

-- Delivers a message to the subscriptions of its name.
def deliver (c : Client) (stream : Nat) (name : String) (data? : Option String) : Client :=
  if 0 < c.browser.reached stream name then c.wakeReader stream (.message stream name data?) else c

def failStream (c : Client) (stream : Nat) : Client :=
  if c.browser.isOpen stream then c.wakeReader stream (.failure stream) else c

def reply (c : Client) (fetch : Nat) (r : Reply) : Client :=
  if fetch ∈ c.browser.fetches then
    let c := c.setBrowser (c.browser.endFetch fetch)
    match c.polls.entries.find? fun e => e.2.waits = .fetching fetch with
    | some (timer, _) => c.enqueue (.poll timer (.reply fetch r))
    | none            => c
  else c

def wakeSleeper (c : Client) (sleep : Nat) : Client :=
  match c.streams.entries.find? fun e => e.2.waits.isDelayed sleep with
  | some (task, _) => c.enqueue (.stream task (.woken sleep))
  | none           =>
    match c.polls.entries.find? fun e => e.2.waits = .sleeping sleep with
    | some (timer, _) => c.enqueue (.poll timer (.woken sleep))
    | none            => c

-- Ends a sleep.
def wake (c : Client) (s : Sleep) : Client :=
  (c.setBrowser (c.browser.wake s)).wakeSleeper s.id

-- Ends the sleeps that are over until `target`, at most `fuel` of them, and runs the loops after
-- each.
def passTime (target : Int) : Nat → Client → Client
  | 0,        c => c
  | fuel + 1, c =>
    match c.browser.nextDue? target with
    | none   => c
    | some s => passTime target fuel (c.wake s).settle

-- How many sleeps can end while time passes and nothing else happens: those that there are, one for
-- each stream that cannot be opened, and those of the poll loops that start when polling takes
-- over.
def sleepBound (c : Client) : Nat :=
  c.browser.sleeps.length + c.browser.refusals + 2 + c.session.registry.missingTargets.length

def advance (c : Client) (ms : Nat) : Client :=
  let target := c.browser.now + ms
  let c      := passTime target c.sleepBound c
  c.setBrowser { c.browser with now := target }

end Client
end FleetMonitor
