import FleetMonitor.Proofs.Events

namespace FleetMonitor

-- The operations on tabs, charts and polls.
def Operation.isLocal : Operation → Bool
  | connect | message .. | transportError _ | redeem _ | close => false
  | _ => true

-- The answers to them.
def Answer.isLocal : Answer → Bool
  | flag _ | count _ | delivery _ | done => true
  | _ => false

-- How a connection may change by an operation that is answered in some way.
inductive Connection.Moves (c : Connection) : Operation → Answer → Connection → Prop
  | connect : Moves c .connect (.request c.request) c.connect
  | acknowledge {ack : Ack} (h : c.phase.expectsAck) :
    Moves c (.message event? raw received) (.outcome (.acknowledged n)) (c.acknowledge ack)
  | message (o : Outcome) (h : ∀ n, o ≠ .acknowledged n) :
    Moves c (.message event? raw received) (.outcome o) c
  | fail : Moves c (.transportError unit) (.recovery (c.recovery unit)) c.fail
  | redeem : Moves c (.redeem t) (.redeemed (c.redeemed? t)) (c.redeem t)
  | close : Moves c .close .done c.close
  | local (h : op.isLocal) (ha : a.isLocal) : Moves c op a c

-- The counters after a message of which something became.
def Stats.after (st : Stats) : Outcome → Stats
  | .acknowledged _ => { st with received := st.received + 1 }
  | .delivered d    => { st with received := st.received + 1, points := st.points + d.points }
  | .unrouted       => { st with received := st.received + 1, unrouted := st.unrouted + 1 }
  | .dropped        => { st with received := st.received + 1, dropped := st.dropped + 1 }

theorem Outcome.ne_acknowledged {o : Outcome} (h : o = .unrouted ∨ o = .dropped) (n : Nat) :
    o ≠ .acknowledged n := by
  rcases h with rfl | rfl <;> simp

namespace Session

-- Two sessions that differ by no more than the tabs, their timers and the counters.
structure Frame (s s' : Session) : Prop where
  config     : s'.config = s.config
  connection : s'.connection = s.connection
  servers    : s'.board.servers = s.board.servers

variable {s : Session}

theorem frame_backfill {k : ObjectKey} : s.Frame (s.backfill k).session := by
  unfold backfill
  split <;> exact ⟨rfl, rfl, rfl⟩

theorem frame_withRegistry_backfill {r : Registry} {k : ObjectKey} :
    s.Frame ((s.withRegistry r).backfill k).session :=
  ⟨frame_backfill.config, frame_backfill.connection, frame_backfill.servers⟩

theorem frame_openTab {k : ObjectKey} {name? : Option String} {renderer : Renderer} :
    s.Frame (s.openTab k name? renderer).session := by
  unfold openTab
  split
  · exact ⟨rfl, rfl, rfl⟩
  · exact frame_withRegistry_backfill

theorem frame_openChart
    {k : ObjectKey} {series : SeriesKey} {options : DisplayOptions} {surface : Surface} :
    s.Frame (s.openChart k series options surface).session := by
  unfold openChart
  split
  · exact ⟨rfl, rfl, rfl⟩
  · exact frame_withRegistry_backfill

theorem frame_closeChart {k : ObjectKey} {series : SeriesKey} :
    s.Frame (s.closeChart k series).session := by
  unfold closeChart
  split <;> exact ⟨rfl, rfl, rfl⟩

theorem frame_takePolled {k : ObjectKey} {u : Registry.Update} :
    s.Frame (s.takePolled k u).session := by
  unfold takePolled
  split <;> exact ⟨rfl, rfl, rfl⟩

theorem connection_deliver {u : Board.Update} : (s.deliver u).session.connection = s.connection := by
  unfold deliver
  split <;> rfl

theorem deliver_ne_acknowledged {u : Board.Update} {n : Nat} :
    (s.deliver u).answer ≠ .acknowledged n := by
  unfold deliver
  split <;> simp [leaveUnrouted]

theorem acknowledge_eq {ack : Ack} (h : s.connection.phase.expectsAck) :
    s.countReceived.acknowledge ack =
      ⟨{ s.countReceived.stopTimers.session with connection := s.connection.acknowledge ack },
        .acknowledged s.registry.timers.length, s.registry.timers.map .stop⟩ :=
  if_pos h

-- What may come of a message: it is an acknowledgement that is expected, it is routed, or it changes
-- nothing but the counters.
inductive Handles (s : Session) (event? : Option String) (raw : String) (received : Millis) :
    Step Outcome → Prop
  | acknowledges {ack : Ack} (he : Envelope.parse? raw = some e)
      (hk : e.kind? event? = some .connected) (ha : ack? e raw = some ack)
      (hp : s.connection.phase.expectsAck) :
    Handles s event? raw received (s.countReceived.acknowledge ack)
  | delivers (he : Envelope.parse? raw = some e) (hk : e.kind? event? = some kind)
      (hr : s.board.route kind e received = .ok u) :
    Handles s event? raw received (s.countReceived.deliver u)
  | refuses (o : Outcome) (ho : o = .unrouted ∨ o = .dropped)
      (h : ∀ e, Envelope.parse? raw = some e → ∀ kind, e.kind? event? = some kind →
        kind = .connected ∨ ∃ err, s.board.route kind e received = .error err) :
    Handles s event? raw received ⟨{ s with stats := s.stats.after o }, o, []⟩

theorem handles {event? : Option String} {raw : String} {received : Millis} :
    s.Handles event? raw received (s.handleMessage event? raw received) := by
  unfold handleMessage
  dsimp only
  split
  case h_1 he => exact .refuses .dropped (.inr rfl) (by simp [he])
  case h_2 e he =>
    split
    case h_1 hk => exact .refuses .unrouted (.inl rfl) (by simp [he, hk])
    case h_2 hk =>
      split
      case h_1 => exact .refuses .dropped (.inr rfl) (by simp [he, hk])
      case h_2 ack ha =>
        by_cases hp : s.connection.phase.expectsAck
        case pos => exact .acknowledges he hk ha hp
        case neg =>
          have hp : s.countReceived.connection.phase.expectsAck ≠ true := hp
          rw [acknowledge, if_neg hp]
          exact .refuses .unrouted (.inl rfl) (by simp [he, hk])
    case h_3 kind _ hk =>
      split
      case h_1 err hr =>
        replace hr : s.board.route kind e received = .error err := hr
        exact .refuses .dropped (.inr rfl) (by simp [he, hk, hr])
      case h_2 u hr => exact .delivers he hk hr

theorem moves_message {event? : Option String} {raw : String} {received : Millis} :
    s.connection.Moves (.message event? raw received)
      (.outcome (s.handleMessage event? raw received).answer)
      (s.handleMessage event? raw received).session.connection := by
  generalize hm : s.handleMessage event? raw received = st
  have h : s.Handles event? raw received st := hm ▸ handles
  cases h with
  | acknowledges _ _ _ hp =>
    rw [acknowledge_eq hp]
    exact .acknowledge hp
  | delivers =>
    rw [connection_deliver]
    exact .message _ fun _ => deliver_ne_acknowledged
  | refuses o ho => exact .message o (Outcome.ne_acknowledged ho)

theorem answer_transportError {unit : Float} :
    (s.transportError unit).answer = s.connection.recovery unit := by
  unfold transportError
  dsimp only
  split <;> rfl

theorem connection_transportError {unit : Float} :
    (s.transportError unit).session.connection = s.connection.fail := by
  unfold transportError
  dsimp only
  split <;> rfl

theorem moves_transportError {unit : Float} :
    s.connection.Moves (.transportError unit) (.recovery (s.transportError unit).answer)
      (s.transportError unit).session.connection := by
  rw [answer_transportError, connection_transportError]
  exact .fail

theorem moves (op : Operation) :
    s.connection.Moves op (s.step op).answer (s.step op).session.connection := by
  cases op
  case connect        => exact .connect
  case message        => exact moves_message
  case transportError => exact moves_transportError
  case redeem         => exact .redeem
  case close          => exact .close
  case openTab    => exact frame_openTab.connection ▸ .local rfl rfl
  case closeTab   => exact .local rfl rfl
  case openChart  => exact frame_openChart.connection ▸ .local rfl rfl
  case closeChart => exact frame_closeChart.connection ▸ .local rfl rfl
  case setRange   => exact .local rfl rfl
  case activateFallback => exact .local rfl rfl
  case polledSnapshot   => exact frame_takePolled.connection ▸ .local rfl rfl
  case polledValue      => exact frame_takePolled.connection ▸ .local rfl rfl
  case pollFailed       => exact .local rfl rfl

end Session
end FleetMonitor
