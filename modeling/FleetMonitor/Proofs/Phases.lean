import FleetMonitor.Proofs.Tickets

namespace FleetMonitor

namespace Answer

-- The answers after which a connection stays in its phase.
def isQuiet : Answer → Bool
  | outcome (.acknowledged _)                  => false
  | recovery (.retry ..) | recovery .fallback  => false
  | redeemed (some _)                          => false
  | _                                          => true

theorem isQuiet_of_isLocal {a : Answer} (h : a.isLocal) : a.isQuiet := by
  cases a <;> first | rfl | contradiction

end Answer

namespace Connection

-- The phases in which an operation with its answer may find a connection, and the one it leads to.
inductive Turns (c : Connection) : Operation → Answer → Phase → Prop
  | connect : Turns c .connect (.request c.request) .connecting
  | close : Turns c .close .done .disconnected
  | acknowledge (h : c.phase.expectsAck) :
    Turns c (.message event? raw received) (.outcome (.acknowledged n)) .connected
  | retry (h : c.phase.expectsAck) :
    Turns c (.transportError unit) (.recovery (.retry n delay t)) .reconnecting
  | fallback (h : c.phase.expectsAck) : Turns c (.transportError unit) (.recovery .fallback) .polling
  | redeem (h : c.accepts t) : Turns c (.redeem t) (.redeemed (some c.request)) .connecting
  | stay (ho : op ≠ .connect) (h : a.isQuiet) : Turns c op a c.phase

-- What is shown of a connection agrees with its phase, and an attempt is waited for only as long as
-- there is one left.
structure Consistent (c : Connection) : Prop where
  connected : c.connected ↔ c.phase = .connected
  attempts  : c.phase = .reconnecting → 1 ≤ c.attempts ∧ c.attempts < c.maxAttempts

variable {c c' : Connection} {op : Operation} {a : Answer} {unit : Float} {p : Phase}

theorem not_expectsAck_iff : ¬p.expectsAck ↔ p = .disconnected ∨ p = .polling := by
  cases p <;> simp [Phase.expectsAck]

theorem turns_fail : c.Turns (.transportError unit) (.recovery (c.recovery unit)) c.fail.phase := by
  by_cases h : c.phase.expectsAck
  case neg =>
    have hi : c.recovery unit = .idle := recovery_of_idle (not_expectsAck_iff.mp h)
    rw [fail_of_idle hi, hi]
    exact .stay nofun rfl
  case pos =>
    have hn : ¬(c.phase = .disconnected ∨ c.phase = .polling) :=
      mt not_expectsAck_iff.mpr (not_not_intro h)
    simp only [recovery, fail, if_neg hn]
    split
    · exact .fallback h
    · exact .retry h

theorem turns_redeem {t : Ticket} :
    c.Turns (.redeem t) (.redeemed (c.redeemed? t)) (c.redeem t).phase := by
  unfold Connection.redeemed? Connection.redeem
  split
  case isTrue h => exact .redeem h
  case isFalse  => exact .stay nofun rfl

theorem Moves.turns (m : c.Moves op a c') : c.Turns op a c'.phase := by
  cases m
  case connect       => exact .connect
  case acknowledge h => exact .acknowledge h
  case fail          => exact turns_fail
  case redeem        => exact turns_redeem
  case close         => exact .close
  case message o h =>
    refine .stay nofun ?_
    cases o with
    | acknowledged n => exact absurd rfl (h n)
    | _ => rfl
  case «local» h ha =>
    have hc : op ≠ .connect := by rintro rfl; contradiction
    exact .stay hc (Answer.isQuiet_of_isLocal ha)

namespace Turns

variable (t : c.Turns op a p)

include t

theorem acknowledges_of_enters (h : c.phase ≠ p) (hp : p = .connected) :
    a.acknowledges ∧ c.phase.expectsAck := by
  cases t with
  | acknowledge ha => exact ⟨rfl, ha⟩
  | stay           => exact absurd rfl h
  | _              => contradiction

theorem fallsBack_of_enters (h : c.phase ≠ p) (hp : p = .polling) :
    (∃ unit, op = .transportError unit) ∧ a = .recovery .fallback := by
  cases t with
  | fallback => exact ⟨⟨_, rfl⟩, rfl⟩
  | stay     => exact absurd rfl h
  | _        => contradiction

theorem connect_or_redeem_of_enters (h : c.phase ≠ p) (hp : p = .connecting) :
    op = .connect ∨ ∃ t, op = .redeem t ∧ c.accepts t := by
  cases t with
  | connect   => exact .inl rfl
  | redeem ha => exact .inr ⟨_, rfl, ha⟩
  | stay      => exact absurd rfl h
  | _         => contradiction

-- Nothing but a new connection brings back a stream that is given up or closed.
theorem connect_of_expectsAck (h : ¬c.phase.expectsAck) (hp : p.expectsAck) : op = .connect := by
  cases t with
  | connect        => rfl
  | acknowledge ha => exact absurd ha h
  | retry ha       => exact absurd ha h
  | redeem ha      => rw [(accepts_iff.mp ha).right] at h; exact absurd rfl h
  | stay           => exact absurd hp h
  | _              => contradiction

theorem connect_or_close_of_leaves (h : c.phase = .polling) (hp : p ≠ .polling) :
    op = .connect ∧ p = .connecting ∨ op = .close ∧ p = .disconnected := by
  have hn : ¬c.phase.expectsAck := not_expectsAck_iff.mpr (.inr h)
  cases t with
  | connect        => exact .inl ⟨rfl, rfl⟩
  | close          => exact .inr ⟨rfl, rfl⟩
  | acknowledge ha => exact absurd ha hn
  | retry ha       => exact absurd ha hn
  | fallback       => exact absurd rfl hp
  | redeem ha      => rw [(accepts_iff.mp ha).right] at h; contradiction
  | stay           => exact absurd h hp

theorem of_acknowledges (h : a.acknowledges) : c.phase.expectsAck ∧ p = .connected := by
  cases t with
  | acknowledge ha => exact ⟨ha, rfl⟩
  | stay _ hq =>
    obtain ⟨_, rfl⟩ := Answer.acknowledges_iff.mp h
    contradiction
  | _ => contradiction

theorem of_fallback (h : a = .recovery .fallback) : c.phase.expectsAck ∧ p = .polling := by
  cases t with
  | fallback ha => exact ⟨ha, rfl⟩
  | stay _ hq   => rw [h] at hq; contradiction
  | _           => cases h

end Turns

namespace Consistent

theorem new {config : Config} : (new config).Consistent :=
  ⟨by simp [Connection.new], nofun⟩

theorem fail (h : c.Consistent) : c.fail.Consistent := by
  unfold Connection.fail
  split
  case isTrue => exact h
  case isFalse =>
    constructor
    case connected =>
      dsimp only
      split <;> simp
    case attempts =>
      have hs := toNat_saturatingSucc (n := c.attempts)
      have hz : UInt32.size = 4294967296 := rfl
      dsimp only
      split
      case isTrue => exact nofun
      case isFalse hl =>
        intro _
        refine ⟨?_, UInt32.not_le.mp hl⟩
        rw [UInt32.le_iff_toNat_le, hs, UInt32.toNat_one]
        omega

theorem step (h : c.Consistent) (m : c.Moves op a c') : c'.Consistent := by
  cases m
  case connect     => exact ⟨by simp [Connection.connect], by simp [Connection.connect]⟩
  case acknowledge => exact ⟨by simp [Connection.acknowledge], by simp [Connection.acknowledge]⟩
  case message     => exact h
  case fail        => exact h.fail
  case close       => exact ⟨by simp [Connection.close], by simp [Connection.close]⟩
  case «local»     => exact h
  case redeem =>
    unfold Connection.redeem
    split
    · exact ⟨by simp [Connection.connect], by simp [Connection.connect]⟩
    · exact h

end Consistent

theorem status_eq_connected_iff : c.status = .connected ↔ c.phase = .connected := by
  unfold status
  split <;> simp_all

theorem status_eq_reconnecting {attempt max : UInt32} (h : c.status = .reconnecting attempt max) :
    c.phase = .reconnecting ∧ attempt = c.attempts ∧ max = c.maxAttempts := by
  unfold status at h
  split at h <;> simp_all

end Connection

namespace Session

variable {s : Session} {op : Operation} {ops : List Operation}

theorem consistent (c : Config) (ops : List Operation) :
    ((new c).run ops).connection.Consistent :=
  run_induction (s := new c) (P := fun _ s => s.connection.Consistent) .new
    (fun _ s op h => h.step (s.moves op)) ops

-- A session whose stream is given up: a failure changes nothing, no acknowledgement is waited for,
-- however well it is formed, and no ticket is taken.
structure GivenUp (s : Session) : Prop where
  idle     : ∀ unit, (s.transportError unit).answer = .idle
  unrouted : ∀ event? raw received e ack, Envelope.parse? raw = some e →
    e.kind? event? = some .connected → ack? e raw = some ack →
    (s.handleMessage event? raw received).answer = .unrouted
  refused  : ∀ t, (s.redeem t).answer = none

theorem givenUp (h : ¬s.connection.phase.expectsAck) : s.GivenUp where
  idle unit := by
    rw [answer_transportError]
    exact Connection.recovery_of_idle (Connection.not_expectsAck_iff.mp h)
  unrouted event? raw received e ack he hk ha := by
    have hc : ¬s.countReceived.connection.phase.expectsAck := h
    simp only [handleMessage, he, hk, ha, acknowledge, if_neg hc]
  refused t := by
    have hn : ¬s.connection.accepts t := by
      rw [Connection.accepts_iff]
      rintro ⟨_, hp⟩
      exact h (hp ▸ rfl)
    change s.connection.redeemed? t = none
    exact if_neg hn

namespace Event

def phase (e : Event) : Phase :=
  e.session.connection.phase

-- The phase that an event leads to.
def nextPhase (e : Event) : Phase :=
  e.step.session.connection.phase

def enters (p : Phase) (e : Event) : Prop :=
  e.phase ≠ p ∧ e.nextPhase = p

def leaves (p : Phase) (e : Event) : Prop :=
  e.phase = p ∧ e.nextPhase ≠ p

-- Whether an event is the failure of a stream that is answered by the fallback to polling.
def fallsBack (e : Event) : Prop :=
  (∃ unit, e.op = .transportError unit) ∧ e.answer = .recovery .fallback

end Event

theorem turns (e : Event) : e.session.connection.Turns e.op e.answer e.nextPhase :=
  (e.session.moves e.op).turns

theorem expectsAck_iff_mem {p : Phase} :
    p.expectsAck ↔ p ∈ [Phase.connecting, .reconnecting, .connected] := by
  cases p <;> simp [Phase.expectsAck]

-- A stream that is given up or closed stays so until a new connection is asked for.
theorem not_expectsAck_run (h : ¬s.connection.phase.expectsAck)
    (hc : ∀ e ∈ s.events ops, e.op ≠ .connect) : ¬(s.run ops).connection.phase.expectsAck := by
  induction ops generalizing s with
  | nil => exact h
  | cons op ops hi =>
    simp only [events, List.mem_cons, forall_eq_or_imp] at hc
    refine hi (fun hp => hc.left ?_) hc.right
    exact (s.moves op).turns.connect_of_expectsAck h hp

theorem not_expectsAck_of_fallsBack {es₁ es₂ : List Event} {e : Event}
    (he : s.events ops = es₁ ++ e :: es₂) (hf : e.fallsBack) (hc : ∀ e ∈ es₂, e.op ≠ .connect) :
    ¬(s.run ops).connection.phase.expectsAck := by
  obtain ⟨ops₁, ops₂, rfl, _, he⟩ := events_eq_append he
  cases ops₂ with
  | nil => simp [events] at he
  | cons op ops₂ =>
    obtain ⟨rfl, rfl⟩ := List.cons.inj he
    rw [run_append, run_cons]
    refine not_expectsAck_run ?_ hc
    have hp := ((turns ⟨s.run ops₁, op⟩).of_fallback hf.right).right
    exact Connection.not_expectsAck_iff.mpr (.inr hp)

-- What is shown of a session agrees with the phase of its connection, and every phase is entered and
-- left in no other ways than these. After a fallback to polling the stream is given up until a new
-- connection is asked for, so there is one between any two of them.
theorem phases_follow_graph (c : Config) (ops : List Operation) :
    ((((new c).run ops).connection.connected ↔ ((new c).run ops).connection.phase = .connected) ∧
      (((new c).run ops).connection.connected ↔ ((new c).run ops).status = .connected) ∧
      ∀ attempt max, ((new c).run ops).status = .reconnecting attempt max →
        1 ≤ attempt ∧ attempt < max) ∧
    (∀ e ∈ (new c).events ops,
      (e.enters .connected → e.acknowledges) ∧
      (e.acknowledges →
        e.phase ∈ [.connecting, .reconnecting, .connected] ∧ e.nextPhase = .connected) ∧
      (e.enters .polling → e.fallsBack) ∧ (e.fallsBack → e.nextPhase = .polling) ∧
      (e.leaves .polling → e.op = .connect ∧ e.nextPhase = .connecting ∨
        e.op = .close ∧ e.nextPhase = .disconnected) ∧
      (e.enters .connecting →
        e.op = .connect ∨ ∃ t, e.op = .redeem t ∧ e.session.connection.accepts t)) ∧
    (∀ es₁ e es₂ e' es₃, (new c).events ops = es₁ ++ e :: es₂ ++ e' :: es₃ →
      e.fallsBack → e'.fallsBack → ∃ e ∈ es₂, e.op = .connect) ∧
    ∀ es₁ e es₂, (new c).events ops = es₁ ++ e :: es₂ → e.fallsBack →
      (∀ e ∈ es₂, e.op ≠ .connect) → ((new c).run ops).GivenUp := by
  have hs := consistent c ops
  refine ⟨⟨hs.connected, ?status, ?budget⟩, fun e _ => ?event, ?between, ?after⟩
  case status =>
    rw [hs.connected]
    exact Connection.status_eq_connected_iff.symm
  case budget =>
    intro attempt max h
    obtain ⟨hp, rfl, rfl⟩ := Connection.status_eq_reconnecting h
    exact hs.attempts hp
  case event =>
    have t := turns e
    refine ⟨fun h => ?_, fun h => ?_, fun h => ?_, fun h => ?_, fun h => ?_, fun h => ?_⟩
    · exact (t.acknowledges_of_enters (h.right ▸ h.left) h.right).left
    · have ⟨hp, hn⟩ := t.of_acknowledges h
      exact ⟨expectsAck_iff_mem.mp hp, hn⟩
    · exact t.fallsBack_of_enters (h.right ▸ h.left) h.right
    · exact (t.of_fallback h.right).right
    · exact t.connect_or_close_of_leaves h.left h.right
    · exact t.connect_or_redeem_of_enters (h.right ▸ h.left) h.right
  case between =>
    intro es₁ e es₂ e' es₃ he hf hf'
    by_contra hc
    have hc : ∀ e ∈ es₂, e.op ≠ .connect := fun e hm ho => hc ⟨e, hm, ho⟩
    obtain ⟨ops₁, ops₂, rfl, h₁, h₂⟩ := events_eq_append he
    cases ops₂ with
    | nil => simp [events] at h₂
    | cons op ops₂ =>
      obtain ⟨rfl, _⟩ := List.cons.inj h₂
      have hp := not_expectsAck_of_fallsBack h₁.symm hf hc
      exact hp ((turns ⟨(new c).run ops₁, op⟩).of_fallback hf'.right).left
  case after =>
    intro es₁ e es₂ he hf hc
    exact givenUp (not_expectsAck_of_fallsBack he hf hc)

-- With a single attempt the first failure ends in polling, and closing the session does not bring
-- the stream back.
theorem given_up_after_fallback : ∃ c es₁ e es₂,
    (new c).events [.connect, .transportError 0.5, .pollFailed, .close] = es₁ ++ e :: es₂ ∧
    e.fallsBack ∧ (∀ e ∈ es₂, e.op ≠ .connect) ∧
    ((new c).run [.connect, .transportError 0.5, .pollFailed, .close]).GivenUp := by
  let c : Config := { Config.default with maxReconnectAttempts := 1 }
  let ops : List Operation := [.connect, .transportError 0.5, .pollFailed, .close]
  let event (n : Nat) (op : Operation) : Event := ⟨(new c).run (ops.take n), op⟩
  have ⟨_, _, _, h⟩ := phases_follow_graph c ops
  have hf : (event 1 (.transportError 0.5)).fallsBack := ⟨⟨_, rfl⟩, rfl⟩
  have hc : ∀ e ∈ [event 2 .pollFailed, event 3 .close], e.op ≠ .connect := by simp [event]
  exact ⟨c, [event 0 .connect], _, _, rfl, hf, hc, h [event 0 .connect] _ _ rfl hf hc⟩

end Session
end FleetMonitor
