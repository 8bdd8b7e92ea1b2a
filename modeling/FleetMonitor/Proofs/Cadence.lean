import FleetMonitor.Proofs.Fallback
import FleetMonitor.Proofs.Refusals

namespace FleetMonitor

theorem Connection.Moves.pollInterval_eq {c c' : Connection} {op : Operation} {a : Answer}
    (m : c.Moves op a c') (h : ¬a.acknowledges) : c'.pollInterval = c.pollInterval := by
  cases m with
  | acknowledge => exact absurd rfl h
  | fail        => exact pollInterval_fail
  | redeem      => unfold Connection.redeem; split <;> rfl
  | _           => rfl

-- What runs after some effects ran before, or one of them started it.
theorem Effect.mem_live {ts : List Timer} {es : List Effect} {t : Timer} (h : t ∈ live ts es) :
    t ∈ ts ∨ .start t ∈ es := by
  induction es generalizing ts with
  | nil => exact .inl h
  | cons e es hi =>
    cases hi h with
    | inr hs => exact .inr (List.mem_cons_of_mem _ hs)
    | inl ht =>
      cases e with
      | call   => exact .inl ht
      | stop   => exact .inl (List.mem_of_mem_filter ht)
      | start u =>
        cases List.mem_append.mp ht with
        | inl ht => exact .inl ht
        | inr hu => exact .inr (List.mem_singleton.mp hu ▸ List.mem_cons_self ..)

namespace Session

variable {s : Session} {op : Operation} {st : Step Answer} {k : ObjectKey} {t : Timer}
  {es : List Event} {e : Event} {n : UInt64}

-- The poll interval that the server chooses with an acknowledgement that is taken up. Zero is none.
def Event.interval? (e : Event) : Option UInt64 :=
  match e.op with
  | .message event? raw _ =>
    if e.acknowledges then (ackIn? event? raw).bind (·.pollInterval?.filter (0 < ·)) else none
  | _ => none

theorem pos_of_interval? (h : e.interval? = some n) : 0 < n := by
  unfold Event.interval? at h
  split at h
  case h_2 => contradiction
  case h_1 =>
    split at h
    case isFalse => contradiction
    case isTrue =>
      obtain ⟨ack, _, h⟩ := Option.bind_eq_some_iff.mp h
      exact of_decide_eq_true (Option.filter_eq_some_iff.mp h).right

theorem interval?_of_not_acknowledges (h : ¬e.acknowledges) : e.interval? = none := by
  unfold Event.interval?
  split
  · exact if_neg h
  · rfl

-- Only a message is an acknowledgement, and it does what it says.
theorem exists_ack_of_acknowledges (h : Event.acknowledges ⟨s, op⟩) :
    ∃ event? raw received ack, op = .message event? raw received ∧ ackIn? event? raw = some ack ∧
      s.step op = ⟨{ s.countReceived.stopTimers.session with
          connection := s.connection.acknowledge ack },
        .outcome (.acknowledged s.registry.timers.length), s.registry.timers.map .stop⟩ := by
  obtain ⟨n, hn⟩ := Answer.acknowledges_iff.mp h
  cases op with
  | message event? raw received =>
    obtain ⟨hk, hp⟩ := acknowledged_iff.mp ⟨n, Answer.outcome.inj hn⟩
    obtain ⟨ack, hk⟩ := Option.isSome_iff_exists.mp hk
    refine ⟨event?, raw, received, ack, rfl, hk, ?_⟩
    rw [step, handleMessage_of_ackIn? hk, acknowledge_eq hp]
    rfl
  | _ => contradiction

-- An interval that is chosen is the one from then on.
theorem pollInterval_step : (s.step op).session.connection.pollInterval =
    (Event.interval? ⟨s, op⟩).getD s.connection.pollInterval := by
  by_cases h : Event.acknowledges ⟨s, op⟩
  case neg =>
    rw [interval?_of_not_acknowledges h]
    exact (s.moves op).pollInterval_eq h
  case pos =>
    obtain ⟨event?, raw, received, ack, rfl, hk, hs⟩ := exists_ack_of_acknowledges h
    simp only [Event.interval?, if_pos h, hk, Option.bind_some, hs]
    rfl

theorem every_of_start_backfill (h : .start t ∈ (s.backfill k).effects) :
    t.every = s.connection.pollInterval := by
  unfold backfill at h
  split at h
  case isFalse => contradiction
  case isTrue =>
    obtain ⟨u, hm, he⟩ := List.mem_map.mp h
    obtain rfl := Effect.start.inj he
    exact Timer.every_of_mem_startAll hm

-- Timers are started at the interval that the operation finds.
theorem Course.every_of_start (c : s.Course op st) (h : .start t ∈ st.effects) :
    t.every = s.connection.pollInterval := by
  cases c with
  | feeds hf =>
    obtain ⟨_, _, he⟩ := hf.exists_call h
    contradiction
  | refuses => contradiction
  | stops _ _ _ _ he =>
    rw [he] at h
    simp at h
  | starts _ _ timers hs _ _ he =>
    rw [he] at h
    obtain ⟨u, hm, hu⟩ := List.mem_map.mp h
    obtain rfl := Effect.start.inj hu
    exact Timer.every_of_mem_startAll (hs ▸ hm)
  | @openTab _ _ _ r     => exact every_of_start_backfill (s := s.withRegistry r) h
  | closeTab             => simp [Step.map, Session.closeTab] at h
  | @openChart k _ _ _ t => exact every_of_start_backfill (s := s.withRegistry (s.registry.set k t)) h
  | closeChart           => simp at h

theorem not_acknowledges_of_start (h : .start t ∈ (s.step op).effects) :
    ¬Event.acknowledges ⟨s, op⟩ := by
  intro ha
  obtain ⟨_, _, _, _, _, _, hs⟩ := exists_ack_of_acknowledges ha
  rw [hs] at h
  simp at h

-- What a session owes to its events about the pace of its timers.
structure Paced (c : Config) (es : List Event) (s : Session) : Prop where
  keeps    : s.registry.Keeps s.nextTimer (liveTimers es)
  interval : s.connection.pollInterval =
    ((es.filterMap Event.interval?).getLast?).getD c.pollInterval
  every    : ∀ t ∈ liveTimers es, t.every = s.connection.pollInterval

namespace Paced

variable {c : Config}

theorem init : Paced c [] (.new c) where
  keeps    := .new
  interval := rfl
  every    := nofun

theorem course (h : Paced c es s) : s.Course op (s.step op) :=
  Session.course h.keeps.sound.keyed op

theorem keeps_step (h : Paced c es s) : (s.step op).session.registry.Keeps
    (s.step op).session.nextTimer (liveTimers (es ++ [⟨s, op⟩])) :=
  liveTimers_concat ▸ h.course.keeps h.keeps

theorem interval_step (h : Paced c es s) : (s.step op).session.connection.pollInterval =
    (((es ++ [Event.mk s op]).filterMap Event.interval?).getLast?).getD c.pollInterval := by
  rw [pollInterval_step, h.interval, List.filterMap_append]
  cases hi : Event.interval? ⟨s, op⟩ <;> simp [hi]

-- All timers are stopped before the interval changes.
theorem every_step (h : Paced c es s) (ht : t ∈ liveTimers (es ++ [⟨s, op⟩])) :
    t.every = (s.step op).session.connection.pollInterval := by
  by_cases ha : Event.acknowledges ⟨s, op⟩
  case pos =>
    obtain ⟨_, _, _, _, _, _, hs⟩ := exists_ack_of_acknowledges ha
    have hn : liveTimers (es ++ [⟨s, op⟩]) = [] := h.keeps_step.eq_nil_iff.mpr fun x => by
      rw [hs]
      exact Registry.timer?_clearTimers
    rw [hn] at ht
    contradiction
  case neg =>
    rw [(s.moves op).pollInterval_eq ha]
    rw [liveTimers_concat] at ht
    cases Effect.mem_live ht with
    | inl ht => exact h.every t ht
    | inr ht => exact h.course.every_of_start ht

theorem step (h : Paced c es s) : Paced c (es ++ [⟨s, op⟩]) (s.step op).session where
  keeps    := h.keeps_step
  interval := h.interval_step
  every    := fun _ => h.every_step

theorem pos (h : Paced c es s) (hc : 0 < c.pollInterval) : 0 < s.connection.pollInterval := by
  rw [h.interval]
  cases hl : (es.filterMap Event.interval?).getLast? with
  | none   => exact hc
  | some n =>
    obtain ⟨e, _, he⟩ := List.mem_filterMap.mp (List.mem_of_getLast? hl)
    exact pos_of_interval? he

end Paced

theorem paced (c : Config) (ops : List Operation) :
    Paced c ((new c).events ops) ((new c).run ops) :=
  run_induction .init (fun _ _ _ h => h.step) ops

-- The poll interval is the last one that the server chose with an acknowledgement that was taken up,
-- or else the configured one, and never zero. Every timer is started at the interval that there is
-- before and after the operation that starts it, and every timer that runs does so at the interval
-- that there is now.
theorem timers_keep_pace {c : Config} (h : 0 < c.pollInterval) (ops : List Operation) :
    (0 < ((new c).run ops).connection.pollInterval ∧
      ((new c).run ops).connection.pollInterval =
        ((((new c).events ops).filterMap Event.interval?).getLast?).getD c.pollInterval) ∧
    (∀ e ∈ (new c).events ops, ∀ t, .start t ∈ e.step.effects →
      t.every = e.session.connection.pollInterval ∧
      t.every = e.step.session.connection.pollInterval) ∧
    ∀ t ∈ liveTimers ((new c).events ops), t.every = ((new c).run ops).connection.pollInterval := by
  have hp := paced c ops
  refine ⟨⟨hp.pos h, hp.interval⟩, fun e he t ht => ?started, hp.every⟩
  case started =>
    obtain ⟨ops₁, hr⟩ := exists_run_of_mem he
    have hk : e.session.registry.Keyed := hr ▸ (paced c ops₁).keeps.sound.keyed
    have hv : t.every = e.session.connection.pollInterval := (course hk e.op).every_of_start ht
    have ha : ¬e.acknowledges := not_acknowledges_of_start ht
    exact ⟨hv, hv.trans ((e.session.moves e.op).pollInterval_eq ha).symm⟩

-- The server chooses an interval and later sends a zero, which does not count. Then the tab is polled at
-- the chosen interval, and the chart that is opened while polling as well.
theorem polled_at_chosen_interval : ∃ c ops, 0 < c.pollInterval ∧
    ((new c).run ops).connection.pollInterval = 2500 ∧
    (liveTimers ((new c).events ops)).map Timer.target =
      [.object ⟨"a", "b"⟩, .series ⟨"a", "b"⟩ ⟨"x"⟩] ∧
    ∀ t ∈ liveTimers ((new c).events ops), t.every = ((new c).run ops).connection.pollInterval := by
  let c : Config := { Config.default with maxReconnectAttempts := 1 }
  let k : ObjectKey := ⟨"a", "b"⟩
  let ops : List Operation := [
    .openTab k none ⟨true, []⟩,
    .activateFallback,
    .connect,
    .message none "\x7b\"type\":\"connected\",\"pollInterval\":2500\x7d" 0,
    .message none "\x7b\"type\":\"connected\",\"pollInterval\":0\x7d" 0,
    .transportError 0.5,
    .openChart k ⟨"x"⟩ ⟨none, none, false, false⟩ ⟨true⟩]
  have hc : 0 < c.pollInterval := by decide
  have ⟨_, _, h⟩ := timers_keep_pace hc ops
  exact ⟨c, ops, hc, by decide +kernel, by decide +kernel, h⟩

end Session
end FleetMonitor
