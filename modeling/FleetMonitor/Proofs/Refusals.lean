import FleetMonitor.Proofs.Deliveries
import FleetMonitor.Proofs.Frames

namespace FleetMonitor

namespace BatchEntry

-- A batch is read as a whole or not at all.
theorem readAll?_eq_none_iff {rows : List Json} :
    readAll? (.array rows) = none ↔ ∃ row ∈ rows, read? row = none := by
  change rows.mapM read? = none ↔ _
  induction rows with
  | nil => simp
  | cons row rows hi =>
    cases hr : read? row with
    | none   => simp [hr]
    | some _ => cases hs : rows.mapM read? <;> simp [hr, hs] at hi ⊢ <;> exact hi

end BatchEntry

namespace Envelope

-- Whether a message lacks something that a message of its kind must have.
def lacks (e : Envelope) (raw : String) : Kind → Bool
  | .connected      => (Session.ack? e raw).isNone
  | .objectSnapshot => e.key?.isNone
  | .sensorUpdate   => (SensorUpdate.read? e.data).isNone || e.objectName?.isNone
  | .batch _        => e.key?.isNone || (BatchEntry.readAll? e.data).isNone
  | .serverStatus   => e.serverId?.isNone || (e.data.pick? Json.bool? ["connected"]).isNone
  | .objectsList    => false

variable {e : Envelope} {b : Board} {raw : String} {received : Millis} {kind : Kind}

-- Routing refuses a message for nothing else.
theorem route_refuses_iff (hk : kind ≠ .connected) :
    (∃ err, b.route kind e received = .error err) ↔ e.lacks raw kind := by
  cases kind
  case connected   => contradiction
  case objectsList => simp [Board.route, lacks]
  case objectSnapshot =>
    simp only [Board.route, requireKey, lacks, key?]
    cases e.serverId? <;> cases e.objectName? <;> simp [bind, Except.bind]
  case sensorUpdate =>
    simp only [Board.route, Board.takeSensorUpdate, Board.sensorTab?, lacks, key?]
    cases SensorUpdate.read? e.data with
    | none   => simp
    | some u =>
      dsimp only
      cases e.serverId? <;> cases e.objectName? <;> cases Sample.ofJson? u.value
      case none.some.some name _ =>
        cases hr : b.registry.resolve? name <;> simp [bind, Except.bind, hr]
      all_goals simp [bind, Except.bind]
  case batch d =>
    simp only [Board.route, requireKey, lacks, key?]
    cases e.serverId? <;> cases e.objectName? <;> cases BatchEntry.readAll? e.data <;>
      simp [bind, Except.bind]
  case serverStatus =>
    simp only [Board.route, Board.takeServerStatus, lacks]
    cases e.serverId? <;> cases e.data.pick? Json.bool? ["connected"] <;> simp

end Envelope

-- Of the messages only an acknowledgement moves a connection.
theorem Connection.Moves.eq_of_message {c c' : Connection} {event? : Option String} {raw : String}
    {received : Millis} {o : Outcome} (m : c.Moves (.message event? raw received) (.outcome o) c')
    (h : ∀ n, o ≠ .acknowledged n) : c' = c := by
  cases m with
  | acknowledge => exact absurd rfl (h _)
  | message     => rfl
  | «local» h   => contradiction

namespace Session

-- Whether a message cannot be read, or lacks what its kind needs.
def isMalformed (event? : Option String) (raw : String) : Bool :=
  match Envelope.parse? raw with
  | none   => true
  | some e => (e.kind? event?).any (e.lacks raw)

variable {s : Session} {event? : Option String} {raw : String} {received : Millis}

theorem deliver_ne_dropped {u : Board.Update} : (s.deliver u).answer ≠ .dropped := by
  unfold deliver
  split <;> simp [leaveUnrouted]

theorem acknowledge_ne_dropped {ack : Ack} : (s.acknowledge ack).answer ≠ .dropped := by
  unfold acknowledge
  split <;> simp

theorem dropped_iff_isMalformed :
    (s.handleMessage event? raw received).answer = .dropped ↔ isMalformed event? raw := by
  unfold handleMessage isMalformed
  cases Envelope.parse? raw with
  | none   => simp [drop]
  | some e =>
    dsimp only
    cases e.kind? event? with
    | none      => simp [leaveUnrouted]
    | some kind =>
      by_cases hc : kind = .connected
      case pos =>
        subst hc
        cases ha : ack? e raw <;> simp [Envelope.lacks, ha, drop, acknowledge_ne_dropped]
      case neg =>
        have hl : (∃ err, s.countReceived.board.route kind e received = .error err) ↔
            e.lacks raw kind := Envelope.route_refuses_iff hc
        simp only [Option.any_some, ← hl]
        cases s.countReceived.board.route kind e received <;> simp [drop, deliver_ne_dropped]

-- The acknowledgement that a message is.
def ackIn? (event? : Option String) (raw : String) : Option Ack :=
  match Envelope.parse? raw with
  | none   => none
  | some e => if e.kind? event? = some .connected then ack? e raw else none

theorem ackIn?_eq_some_iff {ack : Ack} : ackIn? event? raw = some ack ↔
    ∃ e, Envelope.parse? raw = some e ∧ e.kind? event? = some .connected ∧ ack? e raw = some ack := by
  unfold ackIn?
  cases Envelope.parse? raw with
  | none   => simp
  | some e => by_cases hk : e.kind? event? = some .connected <;> simp [hk]

-- It is taken up while there is a stream to be acknowledged, and otherwise the message is one of the
-- others.
theorem handleMessage_of_ackIn? {ack : Ack} (h : ackIn? event? raw = some ack) :
    s.handleMessage event? raw received = s.countReceived.acknowledge ack := by
  obtain ⟨e, he, hk, ha⟩ := ackIn?_eq_some_iff.mp h
  simp only [handleMessage, he, hk, ha]

theorem acknowledged_iff : (∃ n, (s.handleMessage event? raw received).answer = .acknowledged n) ↔
    (ackIn? event? raw).isSome ∧ s.connection.phase.expectsAck := by
  constructor
  case mp =>
    rintro ⟨n, h⟩
    generalize hm : s.handleMessage event? raw received = st at h
    have hh : s.Handles event? raw received st := hm ▸ handles
    cases hh with
    | acknowledges he hk ha hp =>
      exact ⟨Option.isSome_of_eq_some (ackIn?_eq_some_iff.mpr ⟨_, he, hk, ha⟩), hp⟩
    | delivers                 => exact absurd h deliver_ne_acknowledged
    | refuses o ho             => exact absurd h (Outcome.ne_acknowledged ho n)
  case mpr =>
    rintro ⟨ha, hp⟩
    obtain ⟨ack, ha⟩ := Option.isSome_iff_exists.mp ha
    rw [handleMessage_of_ackIn? ha, acknowledge_eq hp]
    exact ⟨_, rfl⟩

-- A message that is dropped is counted and nothing else.
theorem handleMessage_of_dropped (h : (s.handleMessage event? raw received).answer = .dropped) :
    s.handleMessage event? raw received =
      ⟨{ s with stats := s.stats.after .dropped }, .dropped, []⟩ := by
  generalize hm : s.handleMessage event? raw received = st at h
  have hh : s.Handles event? raw received st := hm ▸ handles
  cases hh with
  | acknowledges => exact absurd h acknowledge_ne_dropped
  | delivers     => exact absurd h deliver_ne_dropped
  | refuses o    =>
    obtain rfl : o = .dropped := h
    rfl

theorem feeds_message (hk : s.registry.Keyed)
    (h : ∀ n, (s.handleMessage event? raw received).answer ≠ .acknowledged n) :
    s.Feeds (.message event? raw received) (s.handleMessage event? raw received) := by
  generalize hm : s.handleMessage event? raw received = st at h
  have hh : s.Handles event? raw received st := hm ▸ handles
  cases hh with
  | delivers he hn hr => exact feeds_delivered hk he hn hr
  | refuses o _ hr    => exact feeds_of_none (feed?_refused hk hr) rfl rfl rfl
  | acknowledges _ _ _ hp =>
    rw [acknowledge_eq hp] at h
    exact absurd rfl (h _)

theorem connection_message (h : ∀ n, (s.handleMessage event? raw received).answer ≠ .acknowledged n) :
    (s.handleMessage event? raw received).session.connection = s.connection :=
  moves_message.eq_of_message h

-- A feed asks for calls only.
theorem Feeds.exists_call {op : Operation} {st : Step α} {e : Effect} (h : s.Feeds op st)
    (hm : e ∈ st.effects) : ∃ k c, e = .call k c := by
  rw [h.effects] at hm
  rcases hf : s.feed? op with _ | ⟨k, f⟩ <;> rw [hf] at hm
  case none => contradiction
  case some =>
    rw [take, Registry.effects_take] at hm
    obtain ⟨c, _, rfl⟩ := List.mem_map.mp hm
    exact ⟨k, c, rfl⟩

-- A message is dropped exactly if it cannot be read or lacks what its kind needs, as a batch does of
-- which one row cannot be read. Then it is counted, and everything else stays as it was. And unless a
-- message is acknowledged, the connection stays as it was, every ticket is worth the same as before,
-- and all timers run on and no others are started.
theorem malformed_changes_nothing (c : Config) (ops : List Operation) (event? : Option String)
    (raw : String) (received : Millis) :
    let s := (new c).run ops
    let st := s.handleMessage event? raw received
    (st.answer = .dropped ↔ isMalformed event? raw) ∧
    (∀ e d rows row, Envelope.parse? raw = some e → e.kind? event? = some (.batch d) →
      e.data = .array rows → row ∈ rows → BatchEntry.read? row = none → st.answer = .dropped) ∧
    (st.answer = .dropped → st.effects = [] ∧ st.session = { s with
      stats := { s.stats with
        received := s.stats.received + 1
        dropped  := s.stats.dropped + 1 } }) ∧
    ((∀ n, st.answer ≠ .acknowledged n) →
      (st.session.connection = s.connection ∧ st.session.status = s.status ∧
        ∀ t, (st.session.redeem t).answer = (s.redeem t).answer) ∧
      st.session.nextTimer = s.nextTimer ∧ (∀ x, st.session.registry.timer? x = s.registry.timer? x) ∧
      st.session.registry.timers = s.registry.timers ∧
      ∀ timer, .start timer ∉ st.effects ∧ .stop timer ∉ st.effects) := by
  intro s st
  refine ⟨dropped_iff_isMalformed, fun e d rows row he hk hd hr hn => ?batch, fun h => ?dropped,
    fun h => ?other⟩
  case batch =>
    have hb : BatchEntry.readAll? e.data = none :=
      hd ▸ BatchEntry.readAll?_eq_none_iff.mpr ⟨row, hr, hn⟩
    exact dropped_iff_isMalformed.mpr (by simp [isMalformed, he, hk, Envelope.lacks, hb])
  case dropped =>
    rw [show st = _ from handleMessage_of_dropped h]
    exact ⟨rfl, rfl⟩
  case other =>
    have hf : s.Feeds (.message event? raw received) st := feeds_message (sound c ops).keyed h
    have hc : st.session.connection = s.connection := connection_message h
    refine ⟨⟨hc, congrArg Connection.status hc, fun t => congrArg (Connection.redeemed? · t) hc⟩,
      hf.nextTimer, fun x => hf.registry ▸ timer?_take, hf.framed.timers, fun timer => ?_⟩
    constructor <;> intro hm
    all_goals
      obtain ⟨_, _, he⟩ := hf.exists_call hm
      contradiction

-- The second row of a batch has no name, and so the chart of the first row gets nothing either, as it
-- would if the batch ended there.
theorem batch_dropped_for_one_row : ∃ c ops raw whole,
    let s := (new c).run ops
    let st := s.handleMessage none raw 10
    (s.handleMessage none whole 10).answer = .delivered ⟨1, 1, 1⟩ ∧
    st.answer = .dropped ∧ st.effects = [] ∧
    st.session = { s with stats := { s.stats with
      received := s.stats.received + 1
      dropped  := s.stats.dropped + 1 } } ∧
    st.session.connection = s.connection := by
  let c := Config.default
  let k : ObjectKey := ⟨"a", "b"⟩
  let ops : List Operation := [
    .openTab k none ⟨true, []⟩,
    .openChart k ⟨"ionc:x"⟩ ⟨none, none, false, false⟩ ⟨true⟩]
  let head := "\x7b\"type\":\"ionc_sensor_batch\",\"serverId\":\"a\",\"objectName\":\"b\",\"data\":[" ++
    "\x7b\"name\":\"x\",\"value\":1\x7d"
  let raw := head ++ ",\x7b\"value\":2\x7d]\x7d"
  let whole := head ++ "]\x7d"
  have hw : (((new c).run ops).handleMessage none whole 10).answer = .delivered ⟨1, 1, 1⟩ := by
    decide +kernel
  have hd : (((new c).run ops).handleMessage none raw 10).answer = .dropped := by decide +kernel
  obtain ⟨_, _, hn, hc⟩ := malformed_changes_nothing c ops none raw 10
  obtain ⟨he, hs⟩ := hn hd
  exact ⟨c, ops, raw, whole, hw, hd, he, hs, (hc fun n h => by simp [hd] at h).left.left⟩

end Session
end FleetMonitor
