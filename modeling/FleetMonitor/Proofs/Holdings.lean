import FleetMonitor.Client.Acts

namespace FleetMonitor

-- What loops hold of the browser.
inductive Holding where
  | stream (id : Nat)
  | sleep  (id : Nat)

def StreamLoop.holding? : StreamLoop → Option Holding
  | starting _       => none
  | reading stream   => some (.stream stream)
  | delayed sleep _  => some (.sleep sleep)

def PollLoop.holding? : PollLoop → Option Holding
  | sleeping sleep => some (.sleep sleep)
  | _              => none

namespace Browser

variable {b b' : Browser} {x : Holding} {s : Nat} {url : String}

-- Whether something was begun so far.
def Issued (b : Browser) : Holding → Prop
  | .stream s => s < b.streams.length
  | .sleep z  => z < b.nextSleep

-- Whether something is not over. A sleep that could not begin never is.
def Lasts (b : Browser) : Holding → Prop
  | .stream s => b.isOpen s
  | .sleep z  => (∃ s ∈ b.sleeps, s.id = z) ∨ z ∈ b.lostSleeps

-- From one state to another nothing was begun or ended.
structure SameHoldings (b b' : Browser) : Prop where
  streams   : b'.streams = b.streams
  sleeps    : b'.sleeps = b.sleeps
  lost      : b'.lostSleeps = b.lostSleeps
  nextSleep : b'.nextSleep = b.nextSleep

namespace SameHoldings

variable (h : b.SameHoldings b')

include h

theorem issued_iff : b'.Issued x ↔ b.Issued x := by
  cases x with
  | stream => simp [Issued, h.streams]
  | sleep  => simp [Issued, h.nextSleep]

theorem lasts_iff : b'.Lasts x ↔ b.Lasts x := by
  cases x with
  | stream => simp [Lasts, isOpen, h.streams]
  | sleep  => simp [Lasts, h.sleeps, h.lost]

end SameHoldings

-- Sleeps.

theorem not_issued_sleep : ¬b.Issued (.sleep b.nextSleep) :=
  Nat.lt_irrefl _

theorem issued_of_sleep {ms : UInt64} (h : b.Issued x) : (b.sleep ms).1.Issued x := by
  cases x with
  | stream => exact h
  | sleep  => exact Nat.lt_succ_of_lt h

theorem issued_sleep {ms : UInt64} : (b.sleep ms).1.Issued (.sleep (b.sleep ms).2) :=
  Nat.lt_succ_self _

theorem lasts_of_sleep {ms : UInt64} (h : b.Lasts x) : (b.sleep ms).1.Lasts x := by
  cases x with
  | stream => exact h
  | sleep  =>
    rcases h with ⟨s, hs, hi⟩ | hl
    · exact .inl ⟨s, mem_sleeps_sleep.mpr (.inl hs), hi⟩
    · exact .inr (mem_lostSleeps_sleep.mpr (.inl hl))

theorem lasts_sleep {ms : UInt64} : (b.sleep ms).1.Lasts (.sleep (b.sleep ms).2) := by
  cases hd : b.sleepLength ms with
  | none   => exact .inr (mem_lostSleeps_sleep.mpr (.inr ⟨hd, rfl⟩))
  | some d => exact .inl ⟨_, mem_sleeps_sleep.mpr (.inr ⟨d, hd, rfl⟩), rfl⟩

theorem lasts_endSleep (h : b.Lasts x) (hn : x ≠ .sleep s) : (b.endSleep s).Lasts x := by
  cases x with
  | stream => exact h
  | sleep  =>
    rcases h with ⟨sl, hs, rfl⟩ | hl
    · refine .inl ⟨sl, List.mem_filter.mpr ⟨hs, ?_⟩, rfl⟩
      simpa using hn
    · exact .inr hl

theorem issued_cancelSleep : (b.cancelSleep s).Issued x ↔ b.Issued x := by
  unfold cancelSleep
  split <;> exact Iff.rfl

theorem lasts_cancelSleep (h : b.Lasts x) (hn : x ≠ .sleep s) : (b.cancelSleep s).Lasts x := by
  unfold cancelSleep
  split
  · exact lasts_endSleep h hn
  · exact h

theorem sameHoldings_cancelFetch : b.SameHoldings (b.cancelFetch s) := by
  unfold cancelFetch
  split <;> exact ⟨rfl, rfl, rfl, rfl⟩

-- Streams.

theorem issued_close : (b.close s).Issued x ↔ b.Issued x := by
  unfold close
  split
  · cases x with
    | stream => simp [Issued, log]
    | sleep  => exact Iff.rfl
  · exact Iff.rfl

theorem lasts_close (h : b.Lasts x) (hn : x ≠ .stream s) : (b.close s).Lasts x := by
  unfold close
  split
  case isFalse => exact h
  case isTrue =>
    cases x with
    | sleep    => exact h
    | stream i =>
      have hi : s ≠ i := by rintro rfl; exact hn rfl
      simpa [Lasts, isOpen, log, List.getElem?_modify, hi] using h

section

variable {names : List String} {left? : Option Nat}

theorem length_addStream :
    (b.addStream url names left?).streams.length = b.streams.length + 1 := by
  simp [addStream, log]

theorem isOpen_addStream : (b.addStream url names left?).isOpen b.streams.length := by
  simp [isOpen, addStream, log]

theorem issued_addStream (h : b.Issued x) : (b.addStream url names left?).Issued x := by
  cases x with
  | stream => exact Nat.lt_of_lt_of_eq (Nat.lt_succ_of_lt h) length_addStream.symm
  | sleep  => exact h

end

-- What a loop that asked for a stream is given: the last stream that there is, and it is open.
structure Opens (b : Browser) (s : Nat) (b' : Browser) : Prop where
  issued : ∀ x, b.Issued x → b'.Issued x
  new    : ¬b.Issued (.stream s)
  isOpen : b'.isOpen s
  last   : b'.streams.length = s + 1

theorem opens_addStream {names : List String} {left? : Option Nat} :
    b.Opens b.streams.length (b.addStream url names left?) :=
  ⟨fun _ => issued_addStream, Nat.lt_irrefl _, isOpen_addStream, length_addStream⟩

theorem Opens.issued_stream (h : b.Opens s b') : b'.Issued (.stream s) :=
  Nat.lt_of_lt_of_eq (Nat.lt_succ_self s) h.last.symm

theorem opens_of_open? (h : b.open? url = (b', some s)) : b.Opens s b' := by
  unfold open? at h
  split at h
  case isTrue => simp at h
  case isFalse =>
    dsimp only at h
    split at h
    case h_1 =>
      obtain ⟨rfl, hs⟩ := Prod.mk.inj h
      exact Option.some.inj hs ▸ opens_addStream
    case h_2 =>
      split at h
      case isTrue => simp at h
      case isFalse =>
        obtain ⟨rfl, hs⟩ := Prod.mk.inj h
        exact Option.some.inj hs ▸ opens_addStream

theorem issued_of_refused (h : b.open? url = (b', none)) (hx : b.Issued x) : b'.Issued x := by
  unfold open? at h
  split at h
  case isTrue =>
    obtain ⟨rfl, _⟩ := Prod.mk.inj h
    exact hx
  case isFalse =>
    dsimp only at h
    split at h
    case h_1 => simp at h
    case h_2 =>
      split at h
      case isFalse => simp at h
      case isTrue =>
        obtain ⟨rfl, _⟩ := Prod.mk.inj h
        exact issued_close.mpr (issued_addStream hx)

end Browser

namespace Client

-- What a connection loop holds.
def streamHolding? (streams : SortedMap Nat StreamTask) (task : Nat) : Option Holding :=
  (streams.find? task).bind (·.waits.holding?)

-- What a poll loop holds.
def pollHolding? (polls : SortedMap Nat PollTask) (timer : Nat) : Option Holding :=
  (polls.find? timer).bind (·.waits.holding?)

-- Everything that loops hold was issued, and to no other connection loop.
structure Owns (b : Browser) (streams : SortedMap Nat StreamTask) (polls : SortedMap Nat PollTask) :
    Prop where
  stream : ∀ {i x}, streamHolding? streams i = some x → b.Issued x
  poll   : ∀ {i x}, pollHolding? polls i = some x → b.Issued x
  unique : ∀ {i j x}, streamHolding? streams i = some x → streamHolding? streams j = some x → i = j
  apart  : ∀ {i j x}, streamHolding? streams i = some x → pollHolding? polls j ≠ some x

variable {c : Client} {b b' : Browser} {streams streams' : SortedMap Nat StreamTask}
  {polls polls' : SortedMap Nat PollTask} {task i : Nat} {x : Holding}

theorem streamHolding?_insert {st : StreamTask} : streamHolding? (streams.insert task st) i =
    if i = task then st.waits.holding? else streamHolding? streams i := by
  simp only [streamHolding?, SortedMap.find?_insert, Std.compare_eq_iff_eq]
  split <;> rfl

theorem streamHolding?_erase : streamHolding? (streams.erase task) i =
    if i = task then none else streamHolding? streams i := by
  simp only [streamHolding?, SortedMap.find?_erase, Std.compare_eq_iff_eq]
  split <;> rfl

theorem streamHolding?_stop :
    streamHolding? (streams.modify task ({ · with stopped := true })) i =
      streamHolding? streams i := by
  unfold streamHolding?
  rw [SortedMap.find?_modify]
  split <;> cases streams.find? i <;> rfl

-- Effects on poll loops give them nothing to hold.
theorem pollHolding?_apply {e : Effect} (h : pollHolding? (c.apply e).polls i = some x) :
    pollHolding? c.polls i = some x := by
  unfold pollHolding? at h ⊢
  cases e with
  | call    => exact h
  | start t =>
    rw [apply, find?_startPoll] at h
    split at h
    · contradiction
    · exact h
  | stop t =>
    rw [apply, find?_stopPoll] at h
    split at h
    · cases hp : c.polls.find? i <;> rw [hp] at h <;> exact h
    · exact h

theorem pollHolding?_take {s : Session.Step α} (h : pollHolding? (c.take s).polls i = some x) :
    pollHolding? c.polls i = some x := by
  have hf (es : List Effect) : ∀ c : Client, pollHolding? (es.foldl apply c).polls i = some x →
      pollHolding? c.polls i = some x := by
    induction es with
    | nil          => exact fun _ => id
    | cons e es hi => exact fun c h => pollHolding?_apply (hi (c.apply e) h)
  exact hf s.effects { c with session := s.session } h

namespace Owns

variable (h : Owns b streams polls)

include h

theorem browser (hb : ∀ x, b.Issued x → b'.Issued x) : Owns b' streams polls where
  stream := hb _ ∘ h.stream
  poll   := hb _ ∘ h.poll
  unique := h.unique
  apart  := h.apart

theorem streams_of_fewer (hs : ∀ i x, streamHolding? streams' i = some x →
    streamHolding? streams i = some x) : Owns b streams' polls where
  stream  := h.stream ∘ hs _ _
  poll    := h.poll
  unique  := fun hi hj => h.unique (hs _ _ hi) (hs _ _ hj)
  apart   := h.apart ∘ hs _ _

theorem polls_of_fewer (hp : ∀ i x, pollHolding? polls' i = some x → pollHolding? polls i = some x) :
    Owns b streams polls' where
  stream := h.stream
  poll   := h.poll ∘ hp _ _
  unique := h.unique
  apart  := fun hs hj => h.apart hs (hp _ _ hj)

-- A connection loop comes to hold what has just been issued, or nothing.
theorem insert {st : StreamTask} (hb : ∀ x, b.Issued x → b'.Issued x)
    (hx : ∀ x, st.waits.holding? = some x → ¬b.Issued x ∧ b'.Issued x) :
    Owns b' (streams.insert task st) polls where
  poll := hb _ ∘ h.poll
  stream hi := by
    rw [streamHolding?_insert] at hi
    split at hi
    · exact (hx _ hi).right
    · exact hb _ (h.stream hi)
  unique hi hj := by
    rw [streamHolding?_insert] at hi hj
    split at hi <;> split at hj
    case isTrue.isTrue ei ej   => exact ei.trans ej.symm
    case isTrue.isFalse        => exact absurd (h.stream hj) (hx _ hi).left
    case isFalse.isTrue        => exact absurd (h.stream hi) (hx _ hj).left
    case isFalse.isFalse       => exact h.unique hi hj
  apart hi hj := by
    rw [streamHolding?_insert] at hi
    split at hi
    · exact (hx _ hi).left (h.poll hj)
    · exact h.apart hi hj

theorem erase : Owns b (streams.erase task) polls := by
  refine h.streams_of_fewer fun i x hi => ?_
  rw [streamHolding?_erase] at hi
  split at hi
  · contradiction
  · exact hi

-- So does a poll loop.
theorem setPoll {timer : Nat} {waits : PollLoop} (hb : ∀ x, b.Issued x → b'.Issued x)
    (hx : ∀ x, waits.holding? = some x → ¬b.Issued x ∧ b'.Issued x) :
    Owns b' streams (polls.modify timer ({ · with waits })) := by
  have hp {i : Nat} {x : Holding}
      (hi : pollHolding? (polls.modify timer ({ · with waits })) i = some x) :
      waits.holding? = some x ∨ pollHolding? polls i = some x := by
    unfold pollHolding? at hi ⊢
    rw [SortedMap.find?_modify] at hi
    split at hi
    · obtain ⟨_, hm, hw⟩ := Option.bind_eq_some_iff.mp hi
      obtain ⟨p, _, rfl⟩ := Option.map_eq_some_iff.mp hm
      exact .inl hw
    · exact .inr hi
  refine ⟨hb _ ∘ h.stream, fun hi => ?poll, h.unique, fun hs hj => ?apart⟩
  case poll  => exact (hp hi).elim (fun hw => (hx _ hw).right) (hb _ ∘ h.poll)
  case apart => exact (hp hj).elim (fun hw => (hx _ hw).left (h.stream hs)) (h.apart hs)

theorem endPoll {timer : Nat} : Owns b streams (polls.erase timer) := by
  refine h.polls_of_fewer fun i x hi => ?_
  unfold pollHolding? at hi ⊢
  rw [SortedMap.find?_erase] at hi
  split at hi
  · contradiction
  · exact hi

end Owns

end Client
end FleetMonitor
