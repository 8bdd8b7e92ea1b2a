import FleetMonitor.Proofs.Timers

namespace FleetMonitor

namespace Connection

-- Whether no failure will be answered by another attempt.
def Spent (c : Connection) : Prop :=
  c.maxAttempts.toNat ≤ c.attempts.toNat

-- Whether timers may run.
structure MayPoll (c : Connection) : Prop where
  phase : c.phase = .polling ∨ c.phase = .connecting
  spent : c.Spent

theorem phase_fail_of_spent {c : Connection} (h : c.Spent) (hp : c.phase = .connecting) :
    c.fail.phase = .polling ∧ c.fail.Spent := by
  have hs : c.maxAttempts.toNat ≤ (saturatingSucc c.attempts).toNat := by
    have : c.maxAttempts.toNat < UInt32.size := c.maxAttempts.toNat_lt
    have : c.maxAttempts.toNat ≤ c.attempts.toNat := h
    rw [toNat_saturatingSucc]
    omega
  simp [fail, hp, Spent, UInt32.le_iff_toNat_le, hs]

namespace Moves

variable {c c' : Connection} {op : Operation} {a : Answer}

theorem phase_of_fallback (m : c.Moves op a c') (h : a = .recovery .fallback) :
    c'.phase = .polling ∧ c'.Spent := by
  cases m <;> try contradiction
  case fail unit =>
    have h : c.recovery unit = .fallback := Answer.recovery.inj h
    unfold Connection.recovery at h
    unfold Connection.fail
    split at h
    case isTrue => contradiction
    case isFalse hp =>
      dsimp only at h
      split at h
      case isTrue hs => simp [hp, Spent, hs, UInt32.le_iff_toNat_le.mp hs]
      case isFalse   => contradiction
  case «local» ha _ => subst h; contradiction

-- Only the fallback leads to polling.
theorem eq_of_polling (m : c.Moves op a c') (h : c'.phase = .polling)
    (ha : a ≠ .recovery .fallback) : c' = c ∧ op ≠ .close ∧ ¬a.acknowledges := by
  cases m with
  | connect       => contradiction
  | acknowledge   => contradiction
  | close         => contradiction
  | message o hn  =>
    refine ⟨rfl, nofun, fun hk => ?_⟩
    have ⟨n, e⟩ := Answer.acknowledges_iff.mp hk
    exact hn n (Answer.outcome.inj e)
  | fail =>
    refine ⟨?_, nofun, nofun⟩
    have hr := fun e => ha (congrArg Answer.recovery e)
    unfold Connection.recovery at hr
    unfold Connection.fail at h ⊢
    split at h
    case isTrue hp => rw [if_pos hp]
    case isFalse hp =>
      simp only [if_neg hp] at hr
      split at hr <;> simp_all
  | redeem =>
    refine ⟨?_, nofun, nofun⟩
    unfold Connection.redeem at h ⊢
    split at h
    case isTrue     => contradiction
    case isFalse hn => rw [if_neg hn]
  | «local» ho ha' =>
    refine ⟨rfl, ?_, ?_⟩
    · rintro rfl; contradiction
    · cases a <;> simp_all [Answer.isLocal, Answer.acknowledges]

theorem mayPoll (m : c.Moves op a c') (h : c.MayPoll) (hc : op ≠ .close) (ha : ¬a.acknowledges) :
    c'.MayPoll := by
  cases m with
  | connect       => exact ⟨.inr rfl, h.spent⟩
  | acknowledge   => contradiction
  | close         => contradiction
  | message       => exact h
  | «local»       => exact h
  | fail =>
    cases h.phase
    case inl hp => simp only [Connection.fail, hp, or_true, if_true]; exact h
    case inr hp =>
      have ⟨hp, hs⟩ := phase_fail_of_spent h.spent hp
      exact ⟨.inl hp, hs⟩
  | redeem =>
    unfold Connection.redeem
    split
    case isTrue ha' => cases h.phase <;> simp_all [accepts]
    case isFalse    => exact h

end Moves

end Connection

-- Whether it ends the session's connection.
def Operation.closes : Operation → Bool
  | close => true
  | _     => false

namespace Session

variable {s : Session} {op : Operation} {st : Step Answer} {k : ObjectKey} {x : PollTarget}
  {es : List Event} {ts : List Timer}

-- Whether it ends polling.
def Event.endsPolling (e : Event) : Bool :=
  e.op.closes || e.acknowledges

-- The timers that run after some events.
def liveTimers (es : List Event) : List Timer :=
  Effect.live [] (es.flatMap (·.step.effects))

theorem liveTimers_concat {e : Event} : liveTimers (es ++ [e]) = Effect.live (liveTimers es) e.step.effects := by
  simp [liveTimers, Effect.live_append]

-- Whether every open target has a timer.
def Covered (r : Registry) : Prop :=
  ∀ x, r.owns x → r.timer? x ≠ none

section

variable {r r' : Registry}

theorem covered_of_fewer (h : Covered r) (ho : ∀ x, r'.owns x → r.owns x ∧ r'.timer? x = r.timer? x) :
    Covered r' := by
  intro x hx
  rw [(ho x hx).right]
  exact h x (ho x hx).left

-- Opening a target leaves all others covered.
theorem timer?_ne_none_of_opens {y : PollTarget} (h : Covered r)
    (ho : ∀ x, r'.owns x = (r.owns x || x = y)) (ht : ∀ x, r'.timer? x = r.timer? x)
    (hx : r'.owns x) (hk : x.key ≠ y.key) : r'.timer? x ≠ none := by
  rw [ho, Bool.or_eq_true_iff] at hx
  cases hx
  case inl hx => exact ht x ▸ h x hx
  case inr e  => exact absurd (congrArg PollTarget.key (of_decide_eq_true e)) hk

theorem covered_keepTimers (h : Covered r) {timers : List Timer} : Covered (r.keepTimers timers) := by
  intro x ho hn
  rw [Registry.owns_keepTimers] at ho
  exact h x ho (Registry.timer?_keepTimers_eq_none_iff.mp hn).left

theorem covered_closeTab (h : Covered r) : Covered (r.closeTab k) := by
  refine covered_of_fewer h fun x hx => ?_
  have hx : r.owns x ∧ x.key ≠ k := by simpa [Registry.owns_closeTab] using hx
  exact ⟨hx.left, Registry.timer?_closeTab.trans (if_neg hx.right)⟩

theorem covered_closeChart {t : Tab} {series : SeriesKey} (h : Covered r) (ht : r.tab? k = some t) :
    Covered (r.set k (t.closeChart series)) := by
  refine covered_of_fewer h fun x hx => ?_
  have hx : r.owns x ∧ x ≠ .series k series := by simpa [Registry.owns_closeChart ht] using hx
  exact ⟨hx.left, (Registry.timer?_closeChart ht).trans (if_neg hx.right)⟩

end

-- While polling, a tab gets the timers that it lacks.
theorem timer?_backfill_ne_none (hk : s.registry.Keyed) (hp : s.connection.phase = .polling)
    (ho : s.registry.owns x) (hx : x.key = k) :
    (s.backfill k).session.registry.timer? x ≠ none := by
  intro hn
  rw [backfill, if_pos hp] at hn
  have ⟨hn, hm⟩ := Registry.timer?_keepTimers_eq_none_iff.mp hn
  rw [Timer.map_target_startAll, Registry.mem_missingTargetsOf_iff hk] at hm
  exact hm ho ⟨hx, ho, hn⟩

theorem covered_backfill (hk : s.registry.Keyed) (hp : s.connection.phase = .polling)
    (h : ∀ x, s.registry.owns x → x.key ≠ k → s.registry.timer? x ≠ none) :
    Covered (s.backfill k).session.registry := by
  intro x ho
  rw [owns_backfill] at ho
  by_cases hx : x.key = k
  case pos => exact timer?_backfill_ne_none hk hp ho hx
  case neg =>
    intro hn
    rw [backfill, if_pos hp] at hn
    exact h x ho hx (Registry.timer?_keepTimers_eq_none_iff.mp hn).left

theorem Course.covered (c : s.Course op st) (hs : s.registry.Sound)
    (hp : s.connection.phase = .polling) (h : Covered s.registry) (hc : op ≠ .close)
    (ha : ¬st.answer.acknowledges) : Covered st.session.registry := by
  cases c with
  | feeds hf =>
    refine covered_of_fewer h fun x hx => ?_
    rw [hf.registry, owns_take] at hx
    exact ⟨hx, hf.registry ▸ timer?_take⟩
  | refuses             => exact h
  | stops ho            => exact absurd ho (not_or.mpr ⟨hc, ha⟩)
  | starts _ _ _ _ _ hr => exact hr ▸ covered_keepTimers h
  | openTab ho =>
    exact covered_backfill (s := s.withRegistry _) (hs.openTab? ho).keyed hp fun _ =>
      timer?_ne_none_of_opens h (fun _ => Registry.owns_openTab? ho)
        (fun _ => Registry.timer?_openTab? ho)
  | closeTab => exact covered_closeTab h
  | openChart ho =>
    exact covered_backfill (s := s.withRegistry _) (hs.openChart ho).keyed hp fun _ =>
      timer?_ne_none_of_opens h (fun _ => Registry.owns_openChart ho)
        (fun _ => Registry.timer?_openChart ho)
  | closeChart ht => exact covered_closeChart h ht

theorem Course.covered_of_fallback (c : s.Course op st) (hk : s.registry.Keyed)
    (h : st.answer = .recovery .fallback) (hc : op ≠ .close) : Covered st.session.registry := by
  cases c with
  | feeds _ _ ha => rw [h] at ha; contradiction
  | stops ho =>
    cases ho
    case inl ho => exact absurd ho hc
    case inr ho => rw [h] at ho; contradiction
  | starts _ _ timers hs _ hr =>
    intro x ho hn
    rw [hr] at ho hn
    rw [Registry.owns_keepTimers] at ho
    have ⟨hn, hm⟩ := Registry.timer?_keepTimers_eq_none_iff.mp hn
    rw [hs, Timer.map_target_startAll, Registry.mem_missingTargets_iff hk] at hm
    exact hm ho ⟨ho, hn⟩
  | _ => contradiction

-- The end of polling stops all timers.
theorem Course.timer?_of_ends (c : s.Course op st) (h : op = .close ∨ st.answer.acknowledges)
    (ho : op ≠ .activateFallback) (hf : st.answer ≠ .recovery .fallback) :
    st.session.registry.timer? x = none := by
  cases c with
  | feeds _ hc ha =>
    rcases h with rfl | h
    · contradiction
    · have ⟨n, e⟩ := Answer.acknowledges_iff.mp h
      rw [e] at ha
      contradiction
  | stops _ _ _ hr      => rw [hr]; exact Registry.timer?_clearTimers
  | starts h            => exact absurd h (not_or.mpr ⟨ho, hf⟩)
  | refuses hs          => cases h <;> simp_all [Operation.isSubscription, Answer.acknowledges]
  | _                   => cases h <;> contradiction

-- Outside of polling nothing but the fallback starts timers.
theorem Course.timer?_eq_none (c : s.Course op st) (hp : s.connection.phase ≠ .polling)
    (ha : op ≠ .activateFallback) (hf : st.answer ≠ .recovery .fallback)
    (h : s.registry.timer? x = none) : st.session.registry.timer? x = none := by
  cases c with
  | feeds hf =>
    rw [hf.registry, timer?_take]
    exact h
  | refuses         => exact h
  | stops _ _ _ hr  => rw [hr]; exact Registry.timer?_clearTimers
  | starts h        => exact absurd h (not_or.mpr ⟨ha, hf⟩)
  | @openTab _ _ _ r ho =>
    rw [backfill_of_ne_polling (s := s.withRegistry r) hp]
    exact (Registry.timer?_openTab? ho).trans h
  | closeTab =>
    refine Registry.timer?_closeTab.trans ?_
    split
    · rfl
    · exact h
  | @openChart k _ _ _ t ho =>
    rw [backfill_of_ne_polling (s := s.withRegistry (s.registry.set k t)) hp]
    exact (Registry.timer?_openChart ho).trans h
  | closeChart ht =>
    refine (Registry.timer?_closeChart ht).trans ?_
    split
    · rfl
    · exact h

-- What a session owes to its events about its timers.
structure Polls (es : List Event) (s : Session) : Prop where
  keeps   : s.registry.Keeps s.nextTimer (liveTimers es)
  spent   : s.connection.phase = .polling → s.connection.Spent
  covered : s.connection.phase = .polling → Covered s.registry
  mayPoll : liveTimers es ≠ [] → s.connection.MayPoll
  polled  : liveTimers es ≠ [] → s.connection.phase = .connecting →
    ∃ e ∈ since Event.endsPolling es, e.session.connection.phase = .polling

namespace Polls

theorem init {c : Config} : Polls [] (.new c) where
  keeps   := .new
  spent   := nofun
  covered := nofun
  mayPoll := fun h => absurd rfl h
  polled  := fun h => absurd rfl h

theorem mayPoll_of_or (h : Polls es s) (hn : liveTimers es ≠ [] ∨ s.connection.phase = .polling) :
    s.connection.MayPoll :=
  hn.elim h.mayPoll fun hp => ⟨.inl hp, h.spent hp⟩

theorem course (h : Polls es s) : s.Course op (s.step op) :=
  Session.course h.keeps.sound.keyed op

theorem keeps_step (h : Polls es s) : (s.step op).session.registry.Keeps
    (s.step op).session.nextTimer (liveTimers (es ++ [⟨s, op⟩])) :=
  liveTimers_concat ▸ h.course.keeps h.keeps

theorem step_fallback (h : Polls es s) (hf : (s.step op).answer = .recovery .fallback) :
    Polls (es ++ [⟨s, op⟩]) (s.step op).session := by
  have ⟨hp, hs⟩ := (s.moves op).phase_of_fallback hf
  have hc : op ≠ .close := by rintro rfl; contradiction
  refine ⟨h.keeps_step, fun _ => hs, fun _ => ?_, fun _ => ⟨.inl hp, hs⟩, fun _ hc => ?_⟩
  · exact h.course.covered_of_fallback h.keeps.sound.keyed hf hc
  · rw [hp] at hc; contradiction

theorem step_end (h : Polls es s) (ho : op ≠ .activateFallback)
    (hf : (s.step op).answer ≠ .recovery .fallback)
    (he : op = .close ∨ (s.step op).answer.acknowledges) :
    Polls (es ++ [⟨s, op⟩]) (s.step op).session := by
  have hp : (s.step op).session.connection.phase ≠ .polling := fun hp =>
    absurd he (not_or.mpr ((s.moves op).eq_of_polling hp hf).right)
  have hn : liveTimers (es ++ [⟨s, op⟩]) = [] :=
    h.keeps_step.eq_nil_iff.mpr fun _ => h.course.timer?_of_ends he ho hf
  exact ⟨h.keeps_step, (absurd · hp), (absurd · hp), absurd hn, absurd hn⟩

-- Timers that run after such an operation ran before it, unless polling was on.
theorem liveTimers_or_polling (h : Polls es s) (ho : op ≠ .activateFallback)
    (hf : (s.step op).answer ≠ .recovery .fallback) (hn : liveTimers (es ++ [⟨s, op⟩]) ≠ []) :
    liveTimers es ≠ [] ∨ s.connection.phase = .polling := by
  by_contra hs
  have ⟨hs, hp⟩ := not_or.mp hs
  have hs := h.keeps.eq_nil_iff.mp (not_not.mp hs)
  exact hn <| h.keeps_step.eq_nil_iff.mpr fun x => h.course.timer?_eq_none hp ho hf (hs x)

theorem step_other (h : Polls es s) (ho : op ≠ .activateFallback)
    (hf : (s.step op).answer ≠ .recovery .fallback) (hc : op ≠ .close)
    (ha : ¬(s.step op).answer.acknowledges) : Polls (es ++ [⟨s, op⟩]) (s.step op).session := by
  have m := s.moves op
  refine ⟨h.keeps_step, fun hp => ?spent, fun hp => ?covered, fun hn => ?mayPoll, fun hn hp => ?polled⟩
  case spent =>
    have e := (m.eq_of_polling hp hf).left
    exact e ▸ h.spent (e ▸ hp)
  case covered =>
    have hp := (m.eq_of_polling hp hf).left ▸ hp
    exact h.course.covered h.keeps.sound hp (h.covered hp) hc ha
  case mayPoll => exact m.mayPoll (h.mayPoll_of_or (h.liveTimers_or_polling ho hf hn)) hc ha
  case polled =>
    have hs : ¬Event.endsPolling ⟨s, op⟩ := by
      have hc : ¬op.closes := by cases op <;> simp_all [Operation.closes]
      have ha : ¬Event.acknowledges ⟨s, op⟩ := ha
      simp [Event.endsPolling, hc, ha]
    rw [since_concat, if_neg hs]
    by_cases hq : s.connection.phase = .polling
    case pos => exact ⟨⟨s, op⟩, by simp, hq⟩
    case neg =>
      have hn := (h.liveTimers_or_polling ho hf hn).resolve_right hq
      have ⟨e, hm, he⟩ := h.polled hn ((h.mayPoll hn).phase.resolve_left hq)
      exact ⟨e, List.mem_append_left _ hm, he⟩

theorem step (h : Polls es s) (ho : op ≠ .activateFallback) :
    Polls (es ++ [⟨s, op⟩]) (s.step op).session := by
  by_cases hf : (s.step op).answer = .recovery .fallback
  case pos => exact h.step_fallback hf
  case neg =>
    by_cases he : op = .close ∨ (s.step op).answer.acknowledges
    case pos => exact h.step_end ho hf he
    case neg => exact h.step_other ho hf (not_or.mp he).left (not_or.mp he).right

end Polls

theorem polls (c : Config) {ops : List Operation} (h : .activateFallback ∉ ops) :
    Polls ((new c).events ops) ((new c).run ops) := by
  induction ops using List.reverseRec with
  | nil => exact .init
  | append_singleton ops op hi =>
    rw [List.mem_append, List.mem_singleton, not_or] at h
    rw [events_concat, run_concat]
    exact (hi h.left).step (Ne.symm h.right)

-- The tabs keep just the timers that run, each for the target that it was started for. While polling,
-- those are all the open tabs and charts. Otherwise no timer runs, except while a connection that was
-- started to end polling has been neither acknowledged nor closed.
theorem timers_follow_polling {c : Config} {ops : List Operation} (h : .activateFallback ∉ ops) :
    ((liveTimers ((new c).events ops)).Perm ((new c).run ops).registry.timers ∧
      (∀ k t, ((new c).run ops).tab? k = some t →
        (∀ timer, t.objectTimer? = some timer → timer.target = .object k) ∧
        ∀ series timer, t.seriesTimers.find? series = some timer →
          t.hasChart series ∧ timer.target = .series k series) ∧
      ((liveTimers ((new c).events ops)).map Timer.target).Nodup) ∧
    (((new c).run ops).connection.phase = .polling → ∀ x,
      x ∈ (liveTimers ((new c).events ops)).map Timer.target ↔ ((new c).run ops).registry.owns x) ∧
    (((new c).run ops).connection.phase ∈ [.disconnected, .connected, .reconnecting] →
      liveTimers ((new c).events ops) = []) ∧
    (liveTimers ((new c).events ops) ≠ [] → ((new c).run ops).connection.phase = .connecting →
      ∃ e ∈ since Event.endsPolling ((new c).events ops), e.session.connection.phase = .polling) := by
  have hs := polls c h
  have hp := hs.keeps.perm
  refine ⟨⟨hp, fun k t ht => ?owners, ?targets⟩, fun hq x => ?covered, fun hq => ?rest, hs.polled⟩
  case owners =>
    have hx : ∀ x timer, x.key = k → t.timer? x = some timer → timer.target = x ∧ t.owns x := by
      rintro x timer rfl hx
      replace ht : ((new c).run ops).registry.tab? x.key = some t := ht
      simpa [Registry.owns, ht] using hs.keeps.sound.timers x timer (by simp [Registry.timer?, ht, hx])
    refine ⟨fun timer ho => (hx (.object k) timer rfl ho).left, fun series timer ho => ?_⟩
    exact (hx (.series k series) timer rfl ho).symm
  case targets => exact (hp.map _).nodup_iff.mpr (Registry.nodup_targets hs.keeps.sound)
  case covered =>
    rw [List.mem_map]
    constructor
    case mp =>
      rintro ⟨timer, hm, rfl⟩
      exact (hs.keeps.sound.timers _ timer ((hs.keeps.kept timer).mp hm)).right
    case mpr =>
      intro ho
      obtain ⟨timer, ht⟩ := Option.ne_none_iff_exists'.mp (hs.covered hq x ho)
      have hx := (hs.keeps.sound.timers x timer ht).left
      exact ⟨timer, (hs.keeps.kept timer).mpr (hx ▸ ht), hx⟩
  case rest =>
    by_contra hn
    cases (hs.mayPoll hn).phase <;> simp_all

-- The only attempt fails, and the open tab and its chart are polled.
theorem polled_after_failure : ∃ c ops, Operation.activateFallback ∉ ops ∧
    ((new c).run ops).connection.phase = .polling ∧
    (liveTimers ((new c).events ops)).map Timer.target =
      [.object ⟨"a", "b"⟩, .series ⟨"a", "b"⟩ ⟨"x"⟩] ∧
    ∀ x, x ∈ (liveTimers ((new c).events ops)).map Timer.target ↔
      ((new c).run ops).registry.owns x := by
  have h : Operation.activateFallback ∉ [
      .openTab ⟨"a", "b"⟩ none ⟨true, []⟩,
      .connect,
      .openChart ⟨"a", "b"⟩ ⟨"x"⟩ ⟨none, none, false, false⟩ ⟨true⟩,
      .transportError 0.5] := by simp
  have ⟨_, hp, _⟩ := timers_follow_polling (c := { Config.default with maxReconnectAttempts := 1 }) h
  exact ⟨_, _, h, rfl, rfl, hp rfl⟩

end Session
end FleetMonitor
