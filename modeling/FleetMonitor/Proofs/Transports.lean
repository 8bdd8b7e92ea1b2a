import FleetMonitor.Proofs.Fallback
import FleetMonitor.Proofs.Refusals

namespace FleetMonitor

namespace Envelope

-- Whether the body of a poll has the timestamp of a message. One that is null is none.
def Timed (e : Envelope) (body : Json) : Prop :=
  (body.member? "timestamp").filter (!·.isNull) = e.timestamp?

variable {e : Envelope} {body : Json} {received : Millis}

-- Wherever the timestamp stands, the points get the same time.
theorem Timed.getD_eq (h : e.Timed body) :
    ((body.member? "timestamp").bind Timestamp.ofJson?).getD received = e.time received := by
  rw [time, Timestamp.orElse, ← h]
  cases body.member? "timestamp" with
  | none   => rfl
  | some t => cases t <;> rfl

end Envelope

namespace PolledSnapshot

theorem ofBody_of_data {body data : Json} (h : body.member? "data" = some data)
    (ho : data.isObject) :
    ofBody body = .ok ⟨data, (body.member? "timestamp").bind Timestamp.ofJson?⟩ := by
  cases body <;> try contradiction
  cases data <;> try contradiction
  unfold ofBody
  dsimp only
  rw [h]
  rfl

end PolledSnapshot

namespace Sample

-- A value is read alike by itself and as the member of a body.
theorem ofJson?_body {body value : Json} (h : body.member? "value" = some value)
    (ho : ¬value.isObject) : ofJson? body = ofJson? value := by
  cases body <;> try contradiction
  have hb : ofJson? (.object _) = ofPlain? value := congrArg (Option.bind · ofPlain?) h
  cases value
  case object => contradiction
  all_goals exact hb

end Sample

namespace Session

-- A message and the answer to a poll that do the same: the sessions after them differ by no more than
-- the counters, they ask for the same, and they reach the same.
structure Agrees (pushed : Step Outcome) (polled : Step Delivery) : Prop where
  session : pushed.session = { polled.session with stats := pushed.session.stats }
  effects : pushed.effects = polled.effects
  answer  : pushed.answer =
    if polled.answer.isUnrouted then .unrouted else .delivered polled.answer

variable {s : Session} {k : ObjectKey} {e : Envelope} {event? : Option String} {raw : String}
  {received : Millis} {body : Json}

theorem agrees_deliver {u : Registry.Update} (h : s.acceptsPolled k) :
    Agrees (s.countReceived.deliver (s.board.ofRegistry u)) (s.takePolled k u) := by
  rw [takePolled, if_pos h, deliver]
  split
  case isTrue hu  => exact ⟨rfl, rfl, (if_pos hu).symm⟩
  case isFalse hu => exact ⟨rfl, rfl, (if_neg hu).symm⟩

theorem handleMessage_of_route {kind : Kind} {u : Board.Update} (he : Envelope.parse? raw = some e)
    (hk : e.kind? event? = some kind) (hc : kind ≠ .connected)
    (hr : s.board.route kind e received = .ok u) :
    s.handleMessage event? raw received = s.countReceived.deliver u := by
  replace hr : s.countReceived.board.route kind e received = .ok u := hr
  unfold handleMessage
  cases kind
  case connected => contradiction
  all_goals simp only [he, hk, hr]

-- A snapshot that is taken up reaches the renderer of its tab at least.
theorem isUnrouted_takeSnapshot {data : Json} {time : Millis} (h : s.acceptsPolled k) :
    (s.registry.takeSnapshot k data time).delivery.isUnrouted = false := by
  obtain ⟨t, ht, _⟩ := (Option.any_eq_true _ _).mp h
  replace ht : s.registry.tab? k = some t := ht
  simp [Registry.takeSnapshot, Registry.update, ht, Tab.takeSnapshot, Tab.pass, Delivery.isUnrouted]

theorem agrees_snapshot (h : s.acceptsPolled k) (he : Envelope.parse? raw = some e)
    (ht : e.Timed body) (hn : e.kind? event? = some .objectSnapshot) (hk : e.key? = some k) :
    Agrees (s.handleMessage event? raw received) (s.polledSnapshot k
      ⟨e.data, (body.member? "timestamp").bind Timestamp.ofJson?⟩ received) := by
  have hr : s.board.route .objectSnapshot e received =
      .ok (s.board.ofRegistry (s.registry.takeSnapshot k e.data (e.time received))) := by
    simp only [Board.route, Envelope.requireKey_of_key? hk]
    rfl
  rw [handleMessage_of_route he hn (by simp) hr, polledSnapshot, ht.getD_eq]
  exact agrees_deliver h

theorem sensorTab?_of_key? (hk : e.key? = some k) : s.board.sensorTab? e = .ok (some k) := by
  rw [Board.sensorTab?, hk]

theorem agrees_value {name : String} {v : Json} {y : Sample} (h : s.acceptsPolled k)
    (he : Envelope.parse? raw = some e) (ht : e.Timed body)
    (hn : e.kind? event? = some .sensorUpdate) (hk : s.board.sensorTab? e = .ok (some k))
    (hu : SensorUpdate.read? e.data = some ⟨name, v⟩) (hy : Sample.ofJson? v = some y) :
    Agrees (s.handleMessage event? raw received) (s.polledValue k (.external name)
      ⟨y, (body.member? "timestamp").bind Timestamp.ofJson?⟩ received) := by
  have hr : s.board.route .sensorUpdate e received =
      .ok (s.board.ofRegistry (s.registry.takeValue k (.external name) y (e.time received))) := by
    simp only [Board.route, Board.takeSensorUpdate, hu, hk, hy]
    rfl
  rw [handleMessage_of_route he hn (by simp) hr, polledValue, ht.getD_eq]
  exact agrees_deliver h

-- A value that stands for no sample reaches nothing.
theorem handleMessage_of_no_sample {name : String} {v : Json} (he : Envelope.parse? raw = some e)
    (hn : e.kind? event? = some .sensorUpdate) (hk : s.board.sensorTab? e = .ok (some k))
    (hu : SensorUpdate.read? e.data = some ⟨name, v⟩) (hy : Sample.ofJson? v = none) :
    s.handleMessage event? raw received =
      ⟨{ s with stats := s.stats.after .unrouted }, .unrouted, []⟩ := by
  have hr : s.board.route .sensorUpdate e received = .ok s.board.unreached := by
    simp only [Board.route, Board.takeSensorUpdate, hu, hk, hy]
    rfl
  rw [handleMessage_of_route he hn (by simp) hr]
  rfl

-- For a tab that has a timer it makes no difference by which way its data comes. A pushed snapshot
-- does just what the poll of a body does that has the same state under `data` and the same
-- timestamp, and so does a pushed value and the poll of its series, whatever the value and the
-- timestamp are. If the value stands for no sample, the poll is refused and the message only counted.
theorem transports_agree {s : Session} {k : ObjectKey} {event? : Option String} {raw : String}
    {e : Envelope} {body : Json} (received : Millis) (h : s.acceptsPolled k)
    (he : Envelope.parse? raw = some e) (ht : e.Timed body) :
    (e.kind? event? = some .objectSnapshot → e.key? = some k →
      e.data.isObject → body.member? "data" = some e.data →
      ∃ p, PolledSnapshot.ofBody body = .ok p ∧
        Agrees (s.handleMessage event? raw received) (s.polledSnapshot k p received) ∧
        (s.handleMessage event? raw received).answer =
          .delivered (s.polledSnapshot k p received).answer) ∧
    (e.kind? event? = some .sensorUpdate → s.board.sensorTab? e = .ok (some k) →
      ∀ name v, SensorUpdate.read? e.data = some ⟨name, v⟩ → ¬v.isObject →
      body.member? "value" = some v →
      (Sample.ofJson? v ≠ none → ∃ p, PolledValue.ofBody body = .ok p ∧
        Agrees (s.handleMessage event? raw received) (s.polledValue k (.external name) p received)) ∧
      (Sample.ofJson? v = none →
        PolledValue.ofBody body = .error (.malformed (.notNumeric body)) ∧
        s.handleMessage event? raw received =
          ⟨{ s with stats := s.stats.after .unrouted }, .unrouted, []⟩)) := by
  refine ⟨fun hn hk ho hd => ?snapshot,
    fun hn hk name v hu ho hv => ⟨fun hy => ?value, fun hy => ?none⟩⟩
  case snapshot =>
    let p : PolledSnapshot := ⟨e.data, (body.member? "timestamp").bind Timestamp.ofJson?⟩
    have hp : PolledSnapshot.ofBody body = .ok p := PolledSnapshot.ofBody_of_data hd ho
    have ha : Agrees (s.handleMessage event? raw received) (s.polledSnapshot k p received) :=
      agrees_snapshot h he ht hn hk
    refine ⟨p, hp, ha, ha.answer.trans (if_neg ?_)⟩
    rw [polledSnapshot, takePolled, if_pos h, isUnrouted_takeSnapshot h]
    exact Bool.false_ne_true
  case value =>
    obtain ⟨y, hy⟩ := Option.ne_none_iff_exists'.mp hy
    let p : PolledValue := ⟨y, (body.member? "timestamp").bind Timestamp.ofJson?⟩
    have hp : PolledValue.ofBody body = .ok p := by
      rw [PolledValue.ofBody, Sample.ofJson?_body hv ho, hy]
      rfl
    exact ⟨p, hp, agrees_value h he ht hn hk hu hy⟩
  case none =>
    refine ⟨?_, handleMessage_of_no_sample he hn hk hu hy⟩
    rw [PolledValue.ofBody, Sample.ofJson?_body hv ho, hy]

-- A tab that is polled, and a snapshot and a value that come for it with a timestamp either way.
theorem transports_agree_while_polling : ∃ (s : Session) (k : ObjectKey) (snapshot value : String)
    (polled : Json) (p : PolledSnapshot) (polled' : Json) (p' : PolledValue), s.acceptsPolled k ∧
    PolledSnapshot.ofBody polled = .ok p ∧
    Agrees (s.handleMessage none snapshot 10) (s.polledSnapshot k p 10) ∧
    (s.handleMessage none snapshot 10).answer = .delivered (s.polledSnapshot k p 10).answer ∧
    PolledValue.ofBody polled' = .ok p' ∧
    Agrees (s.handleMessage none value 10) (s.polledValue k (.external "x") p' 10) := by
  let k : ObjectKey := ⟨"a", "b"⟩
  let s := (new { Config.default with maxReconnectAttempts := 1 }).run [
    .openTab k none ⟨true, []⟩,
    .connect,
    .transportError 0.5]
  let address := "\"serverId\":\"a\",\"objectName\":\"b\",\"timestamp\":5,\"data\":"
  let snapshot := "\x7b\"type\":\"object_data\"," ++ address ++ "\x7b\x7d\x7d"
  let value := "\x7b\"type\":\"sensor_data\"," ++ address ++ "\x7b\"name\":\"x\",\"value\":true\x7d\x7d"
  have h : s.acceptsPolled k := by decide +kernel
  have hs : (Envelope.parse? snapshot).any fun e => e.kind? none = some .objectSnapshot ∧
      e.key? = some k ∧ e.data.isObject ∧ e.timestamp?.any (!·.isNull) := by decide +kernel
  have hv : (Envelope.parse? value).any fun e => e.kind? none = some .sensorUpdate ∧
      e.key? = some k ∧ e.timestamp?.any (!·.isNull) ∧ (SensorUpdate.read? e.data).any fun u =>
        u.name = "x" ∧ ¬u.value.isObject ∧ (Sample.ofJson? u.value).isSome := by decide +kernel
  obtain ⟨e, he, hs⟩ := (Option.any_eq_true _ _).mp hs
  obtain ⟨hn, hk, ho, ht⟩ := of_decide_eq_true hs
  obtain ⟨t, ht, hz⟩ := (Option.any_eq_true _ _).mp ht
  let body := Json.object [("data", e.data), ("timestamp", t)]
  have hb : e.Timed body := (if_pos hz).trans ht.symm
  obtain ⟨p, hp, ha, hd⟩ := (transports_agree 10 h he hb).left hn hk ho rfl
  obtain ⟨e', he', hv⟩ := (Option.any_eq_true _ _).mp hv
  obtain ⟨hn', hk', ht', hu⟩ := of_decide_eq_true hv
  obtain ⟨t', ht', hz'⟩ := (Option.any_eq_true _ _).mp ht'
  obtain ⟨⟨name, v⟩, hu, hx⟩ := (Option.any_eq_true _ _).mp hu
  obtain ⟨rfl, hj, hy⟩ := of_decide_eq_true hx
  let body' := Json.object [("timestamp", t'), ("value", v)]
  have hb' : e'.Timed body' := (if_pos hz').trans ht'.symm
  obtain ⟨p', hp', ha'⟩ := ((transports_agree 10 h he' hb').right hn' (sensorTab?_of_key? hk') "x" v hu
    hj rfl).left (by simpa [Option.isSome_iff_ne_none] using hy)
  exact ⟨s, k, snapshot, value, body, p, body', p', h, hp, ha, hd, hp', ha'⟩

-- When polled data is accepted.

section

variable {s : Session} {k : ObjectKey} {event? : Option String} {raw : String} {received : Millis}
  {d : Delivery} {es : List Event}

theorem acceptsPolled_iff : s.acceptsPolled k ↔ s.registry.timersOf k ≠ [] := by
  unfold acceptsPolled Registry.timersOf Session.tab?
  cases s.registry.tab? k with
  | none   => simp
  | some t => simp [Tab.timerCount, List.length_pos_iff]

theorem takePolled_of_not_acceptsPolled {u : Registry.Update} (h : ¬s.acceptsPolled k) :
    s.takePolled k u = ⟨s, .empty, []⟩ :=
  if_neg h

-- A message that is delivered leaves the timers alone, and so it changes nothing about whether polled
-- data is accepted.
theorem acceptsPolled_delivered (hk : s.registry.Keyed)
    (hd : (s.handleMessage event? raw received).answer = .delivered d) :
    (s.handleMessage event? raw received).session.acceptsPolled k = s.acceptsPolled k := by
  have hf : s.Feeds (.message event? raw received) (s.handleMessage event? raw received) :=
    feeds_message hk fun n h => by simp [hd] at h
  rw [Bool.eq_iff_iff, acceptsPolled_iff, acceptsPolled_iff, hf.framed.timersOf]

-- What is delivered to a tab finds it open.
theorem tab?_of_delivered (hk : s.registry.Keyed)
    (hf : (s.feedOf? k (.message event? raw received)).isSome)
    (hd : (s.handleMessage event? raw received).answer = .delivered d) : s.tab? k ≠ none := by
  intro ht
  replace ht : s.registry.tab? k = none := ht
  obtain ⟨f, hf⟩ := Option.isSome_iff_exists.mp hf
  have hs : s.feed? (.message event? raw received) = some (k, f) := feedOf?_eq_some_iff.mp hf
  generalize hm : s.handleMessage event? raw received = st at hd
  have hr : s.Receives (.message event? raw received) st := hm ▸ receives hk
  cases hr with
  | acknowledges _ hp => rw [acknowledge_eq hp] at hd; contradiction
  | directs hn        => rw [hs] at hn; contradiction
  | refuses hn        => rw [hs] at hn; contradiction
  | feeds =>
    rw [hs, take, Registry.take, Registry.update, ht] at hd
    contradiction

namespace Polls

-- While polling, the object of every open tab is polled.
theorem acceptsPolled_of_polling (h : Polls es s) (hp : s.connection.phase = .polling)
    (ht : s.tab? k ≠ none) : s.acceptsPolled k := by
  obtain ⟨t, ht⟩ := Option.ne_none_iff_exists'.mp ht
  replace ht : s.registry.tab? k = some t := ht
  have ho : s.registry.owns (.object k) := by simp [Registry.owns, PollTarget.key, ht, Tab.owns]
  obtain ⟨timer, hx⟩ := Option.ne_none_iff_exists'.mp (h.covered hp _ ho)
  have hm : timer ∈ s.registry.timersOf k :=
    (Registry.mem_timersOf_iff h.keeps.sound.keyed).mpr ⟨_, rfl, hx⟩
  exact acceptsPolled_iff.mpr (List.ne_nil_of_mem hm)

-- A tab has timers only while polling or while a connection that is to end it is being made.
theorem polling_of_acceptsPolled (h : Polls es s) (ha : s.acceptsPolled k) :
    s.connection.phase = .polling ∨ s.connection.phase = .connecting ∧
      ∃ e ∈ since Event.endsPolling es, e.session.connection.phase = .polling := by
  obtain ⟨timer, hm⟩ := List.exists_mem_of_ne_nil _ (acceptsPolled_iff.mp ha)
  obtain ⟨x, _, hx⟩ := (Registry.mem_timersOf_iff h.keeps.sound.keyed).mp hm
  have hn : liveTimers es ≠ [] := fun hn => by
    rw [h.keeps.eq_nil_iff.mp hn x] at hx
    contradiction
  exact (h.mayPoll hn).phase.imp id fun hc => ⟨hc, h.polled hn hc⟩

end Polls

end

-- Nothing that is delivered to a tab finds timers there, except while polling and while a connection
-- that was started to end polling has been neither acknowledged nor closed. Whoever finds none before
-- finds none after, and then nothing that is polled is taken up for the tab.
theorem not_polled_unless_unacknowledged {c : Config} {ops : List Operation} {k : ObjectKey}
    {event? : Option String} {raw : String} {received : Millis} {d : Delivery}
    (ha : .activateFallback ∉ ops)
    (hf : (((new c).run ops).feedOf? k (.message event? raw received)).isSome)
    (hd : (((new c).run ops).handleMessage event? raw received).answer = .delivered d) :
    let s := (new c).run ops
    let st := s.handleMessage event? raw received
    (s.connection.phase = .polling → s.acceptsPolled k ∧ st.session.acceptsPolled k) ∧
    ((s.connection.phase = .polling ∨ s.connection.phase = .connecting ∧
        ∃ e ∈ since Event.endsPolling ((new c).events ops), e.session.connection.phase = .polling) ∨
      s.registry.timersOf k = [] ∧ st.session.registry.timersOf k = [] ∧
        (∀ p time, st.session.polledSnapshot k p time = ⟨st.session, .empty, []⟩) ∧
        ∀ series p time, st.session.polledValue k series p time = ⟨st.session, .empty, []⟩) := by
  intro s st
  have h : Polls ((new c).events ops) s := polls c ha
  have hk : s.registry.Keyed := h.keeps.sound.keyed
  have he : st.session.acceptsPolled k = s.acceptsPolled k := acceptsPolled_delivered hk hd
  refine ⟨fun hp => ?polling, ?other⟩
  case polling =>
    have hs : s.acceptsPolled k := h.acceptsPolled_of_polling hp (tab?_of_delivered hk hf hd)
    exact ⟨hs, he ▸ hs⟩
  case other =>
    by_cases hs : s.acceptsPolled k
    case pos => exact .inl (h.polling_of_acceptsPolled hs)
    case neg =>
      have hs' : ¬st.session.acceptsPolled k := he ▸ hs
      exact .inr ⟨not_not.mp fun hn => hs (acceptsPolled_iff.mpr hn),
        not_not.mp fun hn => hs' (acceptsPolled_iff.mpr hn),
        fun _ _ => takePolled_of_not_acceptsPolled hs', fun _ _ _ => takePolled_of_not_acceptsPolled hs'⟩

-- After the acknowledgement a snapshot is delivered, and a poll of the same object is not taken up.
theorem not_polled_after_ack : ∃ c ops raw k, .activateFallback ∉ ops ∧
    let s := (new c).run ops
    let st := s.handleMessage none raw 10
    st.answer = .delivered ⟨1, 0, 0⟩ ∧ s.registry.timersOf k = [] ∧
    ∀ p time, st.session.polledSnapshot k p time = ⟨st.session, .empty, []⟩ := by
  let c := Config.default
  let k : ObjectKey := ⟨"a", "b"⟩
  let ops : List Operation := [
    .openTab k none ⟨true, []⟩,
    .connect,
    .message none "\x7b\"type\":\"connected\"\x7d" 0]
  let raw := "\x7b\"type\":\"object_data\",\"serverId\":\"a\",\"objectName\":\"b\",\"data\":\x7b\x7d\x7d"
  have ha : Operation.activateFallback ∉ ops := by simp [ops]
  have hf : (((new c).run ops).feedOf? k (.message none raw 10)).isSome := by decide +kernel
  have hd : (((new c).run ops).handleMessage none raw 10).answer = .delivered ⟨1, 0, 0⟩ := by
    decide +kernel
  have hp : ((new c).run ops).connection.phase = .connected := by decide +kernel
  obtain ⟨ht, _, hs, _⟩ := (not_polled_unless_unacknowledged ha hf hd).right.resolve_left (by simp [hp])
  exact ⟨c, ops, raw, k, ha, hd, ht, hs⟩

-- Before the acknowledgement a snapshot is delivered to a tab that has timers, and then a poll of the
-- same object is taken up as well.
theorem polled_and_pushed_before_ack : ∃ c ops raw k p, .activateFallback ∉ ops ∧
    let s := (new c).run ops
    let st := s.handleMessage none raw 10
    (s.feedOf? k (.message none raw 10)).isSome ∧ st.answer = .delivered ⟨1, 0, 0⟩ ∧
    s.registry.timersOf k ≠ [] ∧ (st.session.polledSnapshot k p 20).answer = ⟨1, 0, 0⟩ := by
  let c := { Config.default with maxReconnectAttempts := 1 }
  let k : ObjectKey := ⟨"a", "b"⟩
  let ops : List Operation := [
    .openTab k none ⟨true, []⟩,
    .connect,
    .transportError 0.5,
    .connect]
  let raw := "\x7b\"type\":\"object_data\",\"serverId\":\"a\",\"objectName\":\"b\",\"data\":\x7b\x7d\x7d"
  have ha : Operation.activateFallback ∉ ops := by simp [ops]
  exact ⟨c, ops, raw, k, ⟨.object [], none⟩, ha, by decide +kernel⟩

end Session
end FleetMonitor
