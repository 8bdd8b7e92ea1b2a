import FleetMonitor.Proofs.Holdings
import FleetMonitor.Proofs.Phases

namespace FleetMonitor

namespace StreamLoop

-- The phases in which a loop waits for something.
def Fits (c : Connection) : StreamLoop → Prop
  | starting _  => c.phase = .connecting
  | reading _   => c.phase = .connecting ∨ c.phase = .connected
  | delayed _ t => c.accepts t

-- What makes a loop ready that does not read.
def summons? (task : Nat) : StreamLoop → Option Ready
  | starting _      => some (.stream task .turn)
  | reading _       => none
  | delayed sleep _ => some (.stream task (.woken sleep))

theorem summons?_eq {w : StreamLoop} {i task : Nat} {why : StreamSignal}
    (h : w.summons? i = some (.stream task why)) : i = task := by
  cases w <;> cases h <;> rfl

theorem summons?_ne_poll {w : StreamLoop} {i timer : Nat} {why : PollSignal} :
    w.summons? i ≠ some (.poll timer why) := by
  cases w <;> simp [summons?]

theorem holding?_of_isDelayed {w : StreamLoop} {z : Nat} (h : w.isDelayed z) :
    w.holding? = some (.sleep z) := by
  cases w <;> simp_all [isDelayed, holding?]

theorem Fits.expectsAck {c : Connection} {w : StreamLoop} (h : w.Fits c) : c.phase.expectsAck := by
  cases w with
  | starting => rw [show c.phase = _ from h]; rfl
  | reading  => rcases h with h | h <;> rw [h] <;> rfl
  | delayed  => rw [(Connection.accepts_iff.mp h).right]; rfl

end StreamLoop

namespace Connection

variable {c c' : Connection} {unit : Float} {w : StreamLoop}

theorem not_expectsAck_fail (h : ∀ n delay t, c.recovery unit ≠ .retry n delay t) :
    ¬c.fail.phase.expectsAck := by
  unfold recovery at h
  unfold fail
  split at h
  case isTrue hp =>
    rw [if_pos hp]
    exact not_expectsAck_iff.mpr hp
  case isFalse hp =>
    rw [if_neg hp]
    dsimp only at h ⊢
    split at h
    case isTrue hs => simp [hs, Phase.expectsAck]
    case isFalse   => exact absurd rfl (h _ _ _)

namespace Moves

variable {op : Operation} {a : Answer} {event? : Option String} {raw : String} {received : Millis}

theorem eq_of_isLocal (m : c.Moves op a c') (h : op.isLocal) : c' = c := by
  cases m with
  | «local» => rfl
  | _       => contradiction

-- A loop may go on to read after any message.
theorem fits_of_message (m : c.Moves (.message event? raw received) a c') {s : Nat}
    (h : (StreamLoop.reading s).Fits c) : (StreamLoop.reading s).Fits c' := by
  cases m with
  | acknowledge => exact .inr rfl
  | message     => exact h
  | «local»     => contradiction

theorem expectsAck_of_message (m : c.Moves (.message event? raw received) a c')
    (h : c'.phase.expectsAck) : c.phase.expectsAck := by
  cases m with
  | acknowledge ha => exact ha
  | message        => exact h
  | «local»        => contradiction

end Moves

end Connection

namespace PollTarget

theorem isLocal_of_operation {t : PollTarget} {received : Millis} {body : Json} {op : Operation}
    (h : t.operation received body = .ok op) : op.isLocal := by
  cases t with
  | object k =>
    cases hp : PolledSnapshot.ofBody body <;> rw [operation, hp] at h <;> cases h
    rfl
  | series k s =>
    cases hp : PolledValue.ofBody body <;> rw [operation, hp] at h <;> cases h
    rfl

theorem isLocal_onReply {t : PollTarget} {base : String} {received : Millis} {r : Reply} :
    (t.onReply base received r).isLocal := by
  unfold onReply
  split
  case h_1 op h =>
    cases hb : r.body (t.url base) with
    | error   => rw [hb] at h; contradiction
    | ok body => rw [hb] at h; exact isLocal_of_operation h
  case h_2 => rfl

end PollTarget

theorem Operation.isLocal_of_isDisplay {op : Operation} (h : op.isDisplay) : op.isLocal := by
  cases op <;> first | rfl | contradiction

namespace Browser

variable {b : Browser} {x : Holding} {w : StreamLoop} {p : PollLoop}

theorem issued_releaseStream (h : b.Issued x) : (Client.releaseStream b w).Issued x := by
  cases w with
  | starting => exact h
  | reading  => exact issued_close.mpr h
  | delayed  => exact issued_cancelSleep.mpr h

theorem lasts_releaseStream (h : b.Lasts x) (hn : w.holding? ≠ some x) :
    (Client.releaseStream b w).Lasts x := by
  cases w with
  | starting => exact h
  | reading  => exact lasts_close h fun e => hn (congrArg some e.symm)
  | delayed  => exact lasts_cancelSleep h fun e => hn (congrArg some e.symm)

theorem length_releaseStream :
    (Client.releaseStream b w).streams.length = b.streams.length := by
  cases w with
  | starting  => rfl
  | reading s =>
    change (b.close s).streams.length = _
    unfold close
    split
    · exact List.length_modify ..
    · rfl
  | delayed z _ =>
    change (b.cancelSleep z).streams.length = _
    unfold cancelSleep
    split <;> rfl

theorem issued_releasePoll (h : b.Issued x) : (Client.releasePoll b p).Issued x := by
  cases p with
  | starting => exact h
  | sleeping => exact issued_cancelSleep.mpr h
  | fetching => exact sameHoldings_cancelFetch.issued_iff.mpr h

theorem lasts_releasePoll (h : b.Lasts x) (hn : p.holding? ≠ some x) :
    (Client.releasePoll b p).Lasts x := by
  cases p with
  | starting => exact h
  | sleeping => exact lasts_cancelSleep h fun e => hn (congrArg some e.symm)
  | fetching => exact sameHoldings_cancelFetch.lasts_iff.mpr h

theorem streams_releasePoll : (Client.releasePoll b p).streams = b.streams := by
  cases p with
  | starting   => rfl
  | sleeping z =>
    change (b.cancelSleep z).streams = _
    unfold cancelSleep
    split <;> rfl
  | fetching   => exact sameHoldings_cancelFetch.streams

end Browser

namespace Client

variable {c c' : Client} {b : Browser} {task task' i : Nat} {w w' : StreamLoop} {r : Ready}

-- A loop that was not stopped and is not over.
def Runs (c : Client) (task : Nat) (w : StreamLoop) : Prop :=
  c.streams.find? task = some ⟨w, false⟩

-- What a loop waits for is still to come, or has made it ready.
def Awaits (c : Client) (task : Nat) : StreamLoop → Prop
  | .starting _  => .stream task .turn ∈ c.ready
  | .reading s   => c.browser.isOpen s ∧ c.browser.streams.length = s + 1
  | .delayed z _ => c.browser.Lasts (.sleep z) ∨ .stream task (.woken z) ∈ c.ready

-- A connection loop that was not stopped is the only one, and it does what the phase says. What it
-- waits for is still to come, or has made it ready.
structure Driven (c : Client) : Prop where
  owns    : Owns c.browser c.streams c.polls
  current : ∀ {task w}, c.Runs task w → c.current? = some task
  fits    : ∀ {task w}, c.Runs task w → w.Fits c.session.connection
  awaits  : ∀ {task w}, c.Runs task w → c.Awaits task w
  driven  : c.session.connection.phase.expectsAck → ∃ task w, c.Runs task w

-- While a loop runs nothing is said of it, but there is no other one.
structure Sole (c : Client) (task : Nat) : Prop where
  owns    : Owns c.browser c.streams c.polls
  current : c.current? = some task
  only    : ∀ {i w}, c.Runs i w → i = task

theorem Runs.streamHolding? (h : c.Runs task w) : streamHolding? c.streams task = w.holding? := by
  rw [Client.streamHolding?, h]
  rfl

theorem Runs.eq (h : c.Runs task w) (h' : c.Runs task w') : w = w' := by
  have e := Option.some.inj (h.symm.trans h')
  exact congrArg StreamTask.waits e

theorem runs_setStream :
    (c.setStream task w).Runs i w' ↔ if i = task then w = w' else c.Runs i w' := by
  simp only [Runs, setStream, SortedMap.find?_insert, Std.compare_eq_iff_eq]
  split <;> simp

theorem runs_endStream : (c.endStream task).Runs i w ↔ i ≠ task ∧ c.Runs i w := by
  simp only [Runs, endStream, SortedMap.find?_erase, Std.compare_eq_iff_eq]
  split <;> simp_all

theorem mem_ready_take {s : Session.Step α} (h : r ∈ c.ready) : r ∈ (c.take s).ready := by
  obtain ⟨rs, e, _⟩ := addsTurns_take (c := c) (s := s)
  rw [e]
  exact List.mem_append_left _ h

theorem mem_ready_ask {op : Operation} (h : r ∈ c.ready) : r ∈ (c.ask op).ready :=
  mem_ready_take (c := { c with asked := c.asked ++ [(op, (c.session.step op).answer)] }) h

theorem owns_take {s : Session.Step α} (h : Owns c.browser c.streams c.polls) :
    Owns (c.take s).browser (c.take s).streams (c.take s).polls := by
  rw [browser_take, streams_take]
  exact h.polls_of_fewer fun _ _ => pollHolding?_take

theorem owns_ask {op : Operation} (h : Owns c.browser c.streams c.polls) :
    Owns (c.ask op).sync.browser (c.ask op).sync.streams (c.ask op).sync.polls :=
  owns_take (c := { c with asked := c.asked ++ [(op, (c.session.step op).answer)] }) h

theorem Awaits.mono (h : c.Awaits task w)
    (hl : ∀ x, w.holding? = some x → c.browser.Lasts x → c'.browser.Lasts x)
    (hs : c'.browser.streams.length = c.browser.streams.length)
    (hr : ∀ r, w.summons? task = some r → r ∈ c.ready → r ∈ c'.ready) : c'.Awaits task w := by
  cases w with
  | starting => exact hr _ rfl h
  | reading  => exact ⟨hl _ rfl h.left, hs.trans h.right⟩
  | delayed  => exact h.imp (hl _ rfl) (hr _ rfl)

namespace Sole

variable (h : c.Sole task)

include h

theorem setBrowser (hb : ∀ x, c.browser.Issued x → b.Issued x) : (c.setBrowser b).Sole task :=
  ⟨h.owns.browser hb, h.current, h.only⟩

theorem ask {op : Operation} : (c.ask op).sync.Sole task where
  owns := owns_ask h.owns
  current := (current?_ask (c := c)).trans h.current
  only hr := h.only (by simpa [Runs, sync] using hr)

-- The loop goes on to wait.
theorem wait (hb : ∀ x, c.browser.Issued x → b.Issued x)
    (hx : ∀ x, w.holding? = some x → ¬c.browser.Issued x ∧ b.Issued x)
    (hf : w.Fits c.session.connection) (ha : ((c.setBrowser b).setStream task w).Awaits task w) :
    ((c.setBrowser b).setStream task w).Driven := by
  have hr : ((c.setBrowser b).setStream task w).Runs task w := runs_setStream.mpr (by simp)
  have he {i : Nat} {w' : StreamLoop} (hi : ((c.setBrowser b).setStream task w).Runs i w') :
      i = task ∧ w = w' := by
    rw [runs_setStream] at hi
    split at hi
    case isTrue e  => exact ⟨e, hi⟩
    case isFalse e => exact absurd (h.only hi) e
  refine ⟨h.owns.insert hb hx, fun hi => ?current, fun hi => ?fits, fun hi => ?awaits,
    fun _ => ⟨task, w, hr⟩⟩
  all_goals obtain ⟨rfl, rfl⟩ := he hi
  case current => exact h.current
  case fits    => exact hf
  case awaits  => exact ha

-- The loop is over.
theorem finish (hp : ¬c.session.connection.phase.expectsAck) : (c.endStream task).Driven := by
  have hn {i : Nat} {w : StreamLoop} (hi : (c.endStream task).Runs i w) : False :=
    (runs_endStream.mp hi).left (h.only (runs_endStream.mp hi).right)
  exact ⟨h.owns.erase, fun hi => (hn hi).elim, fun hi => (hn hi).elim, fun hi => (hn hi).elim,
    fun ha => absurd ha hp⟩

theorem recover : (c.recover task).Driven := by
  have hs : (c.ask (.transportError c.browser.random)).sync.Sole task := h.ask
  have hk : (c.ask (.transportError c.browser.random)).sync.session.connection =
      c.session.connection.fail := by
    rw [session_sync, session_ask]
    exact Session.connection_transportError
  simp only [Client.recover, Session.answer_transportError]
  split
  case h_1 n delay t he =>
    have hm : c.session.connection.Moves (.transportError c.browser.random)
      (.recovery (.retry n delay t)) c.session.connection.fail := he ▸ .fail
    let b := (c.ask (.transportError c.browser.random)).sync.browser.dropRandom
    have hb : ∀ x, b.Issued x → (b.sleep delay).1.Issued x := fun _ => Browser.issued_of_sleep
    refine hs.wait hb (fun x hx => ?new) ?fits (.inl Browser.lasts_sleep)
    case new =>
      obtain rfl := Option.some.inj hx
      exact ⟨b.not_issued_sleep, Browser.issued_sleep⟩
    case fits =>
      rw [StreamLoop.Fits, hk]
      exact (hm.accepts_of_ticket? rfl).left
  case h_2 hn =>
    refine hs.finish ?_
    rw [hk]
    exact Connection.not_expectsAck_fail hn

theorem openStream {q : StreamRequest} (hp : c.session.connection.phase = .connecting) :
    (c.openStream task q).Driven := by
  simp only [Client.openStream]
  split
  case h_1 b s he =>
    have ho := Browser.opens_of_open? he
    refine h.wait ho.issued (fun x hx => ?_) (.inl hp) ⟨ho.isOpen, ho.last⟩
    obtain rfl := Option.some.inj hx
    exact ⟨ho.new, ho.issued_stream⟩
  case h_2 b he => exact (h.setBrowser fun _ => Browser.issued_of_refused he).recover

theorem resume {t : Ticket} (ha : c.session.connection.accepts t) : (c.resume task t).Driven := by
  have hk : (c.ask (.redeem t)).sync.session.connection = c.session.connection.connect := by
    rw [session_sync, session_ask]
    exact if_pos ha
  have hr : (c.session.redeem t).answer = some c.session.connection.request := if_pos ha
  simp only [Client.resume, hr]
  exact h.ask.openStream (by rw [hk]; rfl)

end Sole

namespace Driven

variable (h : c.Driven)

include h

theorem sole (hr : c.Runs task w) : c.Sole task :=
  ⟨h.owns, h.current hr, fun hi => Option.some.inj ((h.current hi).symm.trans (h.current hr))⟩

-- The loop goes on as it was.
theorem of_streams (ho : Owns c'.browser c'.streams c'.polls) (hs : c'.streams = c.streams)
    (hc : c'.current? = c.current?) (hf : ∀ {i w}, c.Runs i w → w.Fits c'.session.connection)
    (hp : c'.session.connection.phase.expectsAck → c.session.connection.phase.expectsAck)
    (ha : ∀ {i w}, c.Runs i w → c'.Awaits i w) : c'.Driven := by
  have e {i : Nat} {w : StreamLoop} : c'.Runs i w ↔ c.Runs i w := by rw [Runs, hs, Runs]
  refine ⟨ho, fun hr => ?_, fun hr => hf (e.mp hr), fun hr => ha (e.mp hr), fun hk => ?_⟩
  · rw [hc]
    exact h.current (e.mp hr)
  · obtain ⟨i, w, hr⟩ := h.driven (hp hk)
    exact ⟨i, w, e.mpr hr⟩

theorem of_connection (ho : Owns c'.browser c'.streams c'.polls) (hs : c'.streams = c.streams)
    (hc : c'.current? = c.current?) (hk : c'.session.connection = c.session.connection)
    (ha : ∀ {i w}, c.Runs i w → c'.Awaits i w) : c'.Driven := by
  refine h.of_streams ho hs hc (fun hr => ?_) (fun hp => ?_) ha
  · rw [hk]
    exact h.fits hr
  · rwa [hk] at hp

theorem setBrowser (hb : c.browser.SameHoldings b) : (c.setBrowser b).Driven := by
  refine h.of_connection (h.owns.browser fun _ => hb.issued_iff.mpr) rfl rfl rfl fun hr => ?_
  exact (h.awaits hr).mono (fun _ _ => hb.lasts_iff.mpr) (congrArg List.length hb.streams)
    fun _ _ => id

theorem enqueue : (c.enqueue r).Driven :=
  h.of_connection h.owns rfl rfl rfl fun hr =>
    (h.awaits hr).mono (fun _ _ => id) rfl fun _ _ => List.mem_append_left _

theorem ask {op : Operation}
    (hf : ∀ {i w}, c.Runs i w → w.Fits (c.session.step op).session.connection)
    (hp : (c.session.step op).session.connection.phase.expectsAck →
      c.session.connection.phase.expectsAck) : (c.ask op).sync.Driven := by
  have hk : (c.ask op).sync.session = (c.session.step op).session := session_ask
  have hb : (c.ask op).sync.browser = c.browser := browser_ask
  refine h.of_streams (owns_ask h.owns) streams_ask current?_ask ?_ ?_ fun hr => ?_
  · rwa [hk]
  · rwa [hk]
  · exact (h.awaits hr).mono (fun x _ => by rw [hb]; exact id) (by rw [hb]) fun _ _ => mem_ready_ask

theorem ask_local {op : Operation} (ho : op.isLocal) : (c.ask op).sync.Driven := by
  have hk := (c.session.moves op).eq_of_isLocal ho
  refine h.ask (fun hr => ?_) fun hp => ?_
  · rw [hk]
    exact h.fits hr
  · rwa [hk] at hp

theorem display {op : Operation} (ho : op.isDisplay) : (c.take (c.session.step op)).Driven := by
  have hk := (c.session.moves op).eq_of_isLocal (Operation.isLocal_of_isDisplay ho)
  refine h.of_connection (owns_take h.owns) streams_take current?_take ?_ fun hr => ?_
  · rw [session_take, hk]
  · refine (h.awaits hr).mono (fun x _ hl => ?_) ?_ fun _ _ => mem_ready_take
    · rwa [browser_take]
    · rw [browser_take]

-- Poll loops.

theorem setPoll {timer : Nat} {p : PollLoop} (hb : ∀ x, c.browser.Issued x → b.Issued x)
    (hl : ∀ x, c.browser.Lasts x → b.Lasts x) (hs : b.streams = c.browser.streams)
    (hx : ∀ x, p.holding? = some x → ¬c.browser.Issued x ∧ b.Issued x) :
    ((c.setBrowser b).setPoll timer p).Driven :=
  h.of_connection (h.owns.setPoll hb hx) rfl rfl rfl fun hr =>
    (h.awaits hr).mono (fun _ _ => hl _) (congrArg List.length hs) fun _ _ => id

theorem sleepPoll {t : Timer} : (c.sleepPoll t).Driven := by
  refine h.setPoll (fun _ => Browser.issued_of_sleep) (fun _ => Browser.lasts_of_sleep) rfl ?_
  intro x hx
  obtain rfl := Option.some.inj hx
  exact ⟨Browser.not_issued_sleep, Browser.issued_sleep⟩

theorem fetchPoll {t : Timer} : (c.fetchPoll t).Driven := by
  have hb : c.browser.SameHoldings (c.browser.fetch (t.target.url c.session.config.apiBase)).1 :=
    ⟨rfl, rfl, rfl, rfl⟩
  exact h.setPoll (fun _ => hb.issued_iff.mpr) (fun _ => hb.lasts_iff.mpr) rfl nofun

theorem endPoll {timer : Nat} {p : PollTask} (hp : c.polls.find? timer = some p) :
    ((c.setBrowser (releasePoll c.browser p.waits)).endPoll timer).Driven := by
  have ho : Owns (releasePoll c.browser p.waits) c.streams c.polls :=
    h.owns.browser fun _ => Browser.issued_releasePoll
  refine h.of_connection ho.endPoll rfl rfl rfl fun hr => (h.awaits hr).mono (fun x hx hl => ?_)
    (congrArg List.length Browser.streams_releasePoll) fun _ _ => id
  refine Browser.lasts_releasePoll hl fun hw => ?_
  exact h.owns.apart (hr.streamHolding?.trans hx) (by rw [pollHolding?, hp]; exact hw)

theorem runPoll {timer : Nat} {why : PollSignal} : (c.runPoll timer why).Driven := by
  simp only [Client.runPoll]
  split
  case h_1    => exact h
  case h_2 hp => exact h.endPoll hp
  case h_3 =>
    split
    case h_1 => exact h.sleepPoll
    case h_2 => split; exacts [h.fetchPoll, h]
    case h_3 => split; exacts [(h.ask_local PollTarget.isLocal_onReply).sleepPoll, h]
    case h_4 => exact h

-- Connection loops.

theorem dequeue (hi : c.ready[i]? = some r) (hn : ∀ {j w}, c.Runs j w → w.summons? j ≠ some r) :
    (c.dequeue i).Driven := by
  refine h.of_connection h.owns rfl rfl rfl fun hr => (h.awaits hr).mono (fun _ _ => id) rfl ?_
  intro r' hs hm
  obtain ⟨j, hj⟩ := List.mem_iff_getElem?.mp hm
  refine List.mem_eraseIdx_iff_getElem?.mpr ⟨j, ?_, hj⟩
  rintro rfl
  exact hn hr (hs.trans (hj.symm.trans hi))

theorem endStream (ht : c.streams.find? task = some ⟨w, true⟩) :
    ((c.setBrowser (releaseStream c.browser w)).endStream task).Driven := by
  have hw : streamHolding? c.streams task = w.holding? := by rw [streamHolding?, ht]; rfl
  have ho : Owns (releaseStream c.browser w) c.streams c.polls :=
    h.owns.browser fun _ => Browser.issued_releaseStream
  have e {i : Nat} {w' : StreamLoop} :
      ((c.setBrowser (releaseStream c.browser w)).endStream task).Runs i w' ↔
        i ≠ task ∧ c.Runs i w' := runs_endStream
  refine ⟨ho.erase, fun hr => h.current (e.mp hr).right, fun hr => h.fits (e.mp hr).right,
    fun hr => ?awaits, fun hp => ?driven⟩
  case awaits =>
    obtain ⟨hn, hr⟩ := e.mp hr
    refine (h.awaits hr).mono (fun x hx hl => ?_) Browser.length_releaseStream fun _ _ => id
    exact Browser.lasts_releaseStream hl fun he =>
      hn (h.owns.unique (hr.streamHolding?.trans hx) (hw.trans he))
  case driven =>
    obtain ⟨i, w', hr⟩ := h.driven hp
    refine ⟨i, w', e.mpr ⟨?_, hr⟩⟩
    rintro rfl
    rw [Runs, ht] at hr
    simp at hr

theorem readMessage {s : Nat} (hr : c.Runs task (.reading s)) {name : String}
    {data? : Option String} : (c.readMessage name data?).Driven := by
  cases data? with
  | none     => exact h
  | some raw =>
    have m := c.session.moves
      (.message (if name = Browser.plainName then none else some name) raw c.browser.time)
    refine h.ask (fun hi => ?_) m.expectsAck_of_message
    obtain rfl := (h.sole hr).only hi
    obtain rfl := hr.eq hi
    exact m.fits_of_message (h.fits hr)

-- A loop passes over what it does not wait for.
theorem runStream {why : StreamSignal} (hi : c.ready[i]? = some (.stream task why)) :
    ((c.dequeue i).runStream task why).Driven := by
  have hd (hn : ∀ {w}, c.Runs task w → w.summons? task ≠ some (.stream task why)) :
      (c.dequeue i).Driven := by
    refine h.dequeue hi fun {j w} hr hs => ?_
    obtain rfl := StreamLoop.summons?_eq hs
    exact hn hr hs
  simp only [Client.runStream]
  split
  case h_1 hf => exact hd fun hr => absurd (hf.symm.trans hr) (by simp)
  case h_2 hf => exact (hd fun hr => absurd (hf.symm.trans hr) (by simp)).endStream hf
  case h_3 w hf =>
    have hr : c.Runs task w := hf
    have hs : (c.dequeue i).Sole task := ⟨h.owns, h.current hr, (h.sole hr).only⟩
    replace hd (hn : w.summons? task ≠ some (.stream task why)) : (c.dequeue i).Driven :=
      hd fun hr' => hr.eq hr' ▸ hn
    split
    case h_1 => exact hs.openStream (h.fits hr)
    case h_2 =>
      have hd : (c.dequeue i).Driven := hd (by simp [StreamLoop.summons?])
      split
      · exact hd.readMessage hr
      · exact hd
    case h_3 =>
      split
      · exact (hs.setBrowser fun _ => Browser.issued_close.mpr).recover
      · exact hd (by simp [StreamLoop.summons?])
    case h_4 z t z' =>
      split
      case isTrue    => exact hs.resume (h.fits hr)
      case isFalse e => exact hd (by simpa [StreamLoop.summons?, eq_comm] using e)
    case h_5 hn _ _ hw =>
      refine hd fun he => ?_
      cases w with
      | starting q  => exact hn q rfl (by simpa [StreamLoop.summons?, eq_comm] using he)
      | reading     => contradiction
      | delayed z t => exact hw z t z rfl (by simpa [StreamLoop.summons?, eq_comm] using he)

theorem stopStream : Owns c.stopStream.browser c.stopStream.streams c.stopStream.polls ∧
    ∀ {i w}, ¬c.stopStream.Runs i w := by
  simp only [Client.stopStream]
  split
  case h_1 hn =>
    refine ⟨h.owns, fun hr => ?_⟩
    have he := hn.symm.trans (h.current hr)
    contradiction
  case h_2 task ht =>
    have he {i : Nat} {w : StreamLoop} (hr : c.Runs i w) : i = task :=
      Option.some.inj ((h.current hr).symm.trans ht)
    split
    case isTrue =>
      refine ⟨h.owns.streams_of_fewer fun i x hx => streamHolding?_stop.symm.trans hx, ?_⟩
      intro i w hr
      have hr : (c.streams.modify task ({ · with stopped := true })).find? i = some ⟨w, false⟩ := hr
      rw [SortedMap.find?_modify] at hr
      split at hr
      case isTrue =>
        obtain ⟨_, _, hs⟩ := Option.map_eq_some_iff.mp hr
        simp at hs
      case isFalse hn => exact hn (Std.compare_eq_iff_eq.mpr (he hr))
    case isFalse hc =>
      refine ⟨h.owns, fun {i w} hr => hc ?_⟩
      obtain rfl := he hr
      rw [SortedMap.contains, show c.streams.find? i = _ from hr]
      rfl

theorem connect : c.connect.Driven := by
  obtain ⟨ho, hn⟩ := h.stopStream
  let opened := (c.stopStream.ask .connect).sync
  let task := opened.nextTask
  let next : Client :=
    { opened with nextTask := task + 1, current? := some task }.enqueue (.stream task .turn)
  have hs : next.Sole task := by
    refine ⟨owns_ask ho, rfl, fun {i w} hr => (hn (i := i) (w := w) ?_).elim⟩
    have hr : opened.streams.find? i = some ⟨w, false⟩ := hr
    rwa [show opened.streams = c.stopStream.streams from streams_ask] at hr
  have hk : next.session = (c.stopStream.session.step .connect).session := session_ask
  have ha : Ready.stream task .turn ∈ next.ready := List.mem_append_right _ (by simp)
  exact hs.wait (fun _ => id) (by simp [StreamLoop.holding?]) (by rw [hk]; rfl) ha

theorem close : c.close.Driven := by
  obtain ⟨ho, hn⟩ := h.stopStream
  have hn {i : Nat} {w : StreamLoop} (hr : c.close.Runs i w) : False := by
    refine hn (i := i) (w := w) ?_
    simpa [Client.close, Runs, sync] using hr
  refine ⟨owns_ask ho, fun hr => (hn hr).elim, fun hr => (hn hr).elim, fun hr => (hn hr).elim, ?_⟩
  intro hp
  rw [Client.close, session_sync, session_ask] at hp
  contradiction

-- What the browser does.

theorem wakeReader {s : Nat} {why : StreamSignal} : (c.wakeReader s why).Driven := by
  simp only [Client.wakeReader]
  split
  · exact h.enqueue
  · exact h

theorem reply {fetch : Nat} {q : Reply} : (c.reply fetch q).Driven := by
  have hb : (c.setBrowser (c.browser.endFetch fetch)).Driven := h.setBrowser ⟨rfl, rfl, rfl, rfl⟩
  simp only [Client.reply]
  split
  · split
    · exact hb.enqueue
    · exact hb
  · exact h

-- The end of a sleep makes the loop ready that waits for it.
theorem summons_wake {s : Sleep} :
    ∃ rs, c.wake s = { c.setBrowser (c.browser.wake s) with ready := c.ready ++ rs } ∧
      ∀ task t, c.Runs task (.delayed s.id t) → .stream task (.woken s.id) ∈ rs := by
  simp only [Client.wake, wakeSleeper]
  split
  case h_1 task st hf =>
    refine ⟨[.stream task (.woken s.id)], rfl, fun i t hr => ?_⟩
    have hd := List.find?_some hf
    have hm : c.streams.find? task = some st :=
      SortedMap.find?_eq_some_iff.mpr (List.mem_of_find?_eq_some hf)
    have hx : streamHolding? c.streams task = some (.sleep s.id) := by
      rw [streamHolding?, hm]
      exact StreamLoop.holding?_of_isDelayed hd
    obtain rfl := h.owns.unique hx hr.streamHolding?
    exact List.mem_singleton_self _
  case h_2 hf =>
    have hn (task : Nat) (t : Ticket) (hr : c.Runs task (.delayed s.id t)) : False := by
      have he := List.find?_eq_none.mp hf _ (SortedMap.find?_eq_some_iff.mp hr)
      simp [StreamLoop.isDelayed] at he
    split
    · exact ⟨[_], rfl, fun task t hr => (hn task t hr).elim⟩
    · refine ⟨[], ?_, fun task t hr => (hn task t hr).elim⟩
      rw [List.append_nil]
      rfl

theorem wake {s : Sleep} : (c.wake s).Driven := by
  have hb : ∀ x, c.browser.Issued x → (c.browser.wake s).Issued x := by
    intro x hx
    cases x <;> exact hx
  obtain ⟨rs, he, hr⟩ := h.summons_wake (s := s)
  rw [he]
  refine h.of_connection (h.owns.browser hb) rfl rfl rfl fun {i w} hi => ?_
  have ha := h.awaits hi
  cases w with
  | starting    => exact List.mem_append_left _ ha
  | reading     => exact ha
  | delayed z t =>
    by_cases hz : z = s.id
    case pos =>
      obtain rfl := hz
      exact .inr (List.mem_append_right _ (hr i t hi))
    case neg =>
      refine ha.imp (fun hl => ?_) (List.mem_append_left _)
      exact Browser.lasts_endSleep hl (by simpa using hz)

theorem step (e : Happening) : (c.step e).Driven := by
  cases e with
  | connect            => exact h.connect
  | close              => exact h.close
  | display op ho      => exact h.display ho
  | message            => simp only [Client.step, deliver]; split; exacts [h.wakeReader, h]
  | failure            => simp only [Client.step, failStream]; split; exacts [h.wakeReader, h]
  | expiry             => simp only [Client.step]; split; exacts [h.wake, h]
  | reply              => exact h.reply
  | clock              => exact h.setBrowser ⟨rfl, rfl, rfl, rfl⟩
  | refuse             => exact h.setBrowser ⟨rfl, rfl, rfl, rfl⟩
  | refuseSubscription => exact h.setBrowser ⟨rfl, rfl, rfl, rfl⟩
  | turn i =>
    simp only [Client.step]
    split
    case h_2       => exact h
    case h_1 r hi =>
      cases r with
      | stream task why => exact h.runStream hi
      | poll timer why  => exact (h.dequeue hi fun _ => StreamLoop.summons?_ne_poll).runPoll

end Driven

theorem driven_blank {config : Config} : (blank config b).Driven := by
  have hs {i : Nat} : streamHolding? (blank config b).streams i = none := rfl
  have hp {i : Nat} : pollHolding? (blank config b).polls i = none := rfl
  refine ⟨⟨fun h => ?_, fun h => ?_, fun h => ?_, fun h => ?_⟩, fun h => ?_, fun h => ?_,
    fun h => ?_, fun h => ?_⟩
  · rw [hs] at h; contradiction
  · rw [hp] at h; contradiction
  · rw [hs] at h; contradiction
  · rw [hs] at h; contradiction
  all_goals contradiction

theorem driven (o : Outset) (hs : List Happening) : (o.after hs).Driven :=
  run_induction driven_blank.connect (fun _ e h => h.step e) hs

end Client
end FleetMonitor
