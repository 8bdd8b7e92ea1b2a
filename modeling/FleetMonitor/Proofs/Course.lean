import FleetMonitor.Proofs.Registry

namespace FleetMonitor

namespace Operation

-- The operations that open or close a tab or a chart.
def isSubscription : Operation → Bool
  | openTab .. | closeTab _ | openChart .. | closeChart .. => true
  | _ => false

-- The operations that do so or are there to start or stop timers.
def isControl : Operation → Bool
  | close | activateFallback => true
  | op => op.isSubscription

end Operation

theorem Session.feed?_of_isSubscription {s : Session} {op : Operation} (h : op.isSubscription) :
    s.feed? op = none := by
  cases op <;> first | rfl | contradiction

-- The answers to operations by which all timers are started or stopped.
def Answer.isTurn : Answer → Bool
  | outcome (.acknowledged _) | recovery .fallback => true
  | _ => false

theorem Answer.isTurn_outcome {o : Outcome} (h : ∀ n, o ≠ .acknowledged n) :
    (outcome o).isTurn = false := by
  cases o with
  | acknowledged n => exact absurd rfl (h n)
  | _ => rfl

namespace Session

open Connection

-- What an operation does to tabs and timers. It feeds a tab or does nothing to them, it is refused,
-- it stops all timers, starts those that are missing, or opens or closes a tab or a chart.
inductive Course (s : Session) : Operation → Step Answer → Prop
  | feeds (h : s.Feeds op st) (ho : op.isControl = false) (ha : st.answer.isTurn = false) :
    Course s op st
  | refuses (h : op.isSubscription) : Course s op ⟨s, .flag false, []⟩
  | stops (h : op = .close ∨ st.answer.acknowledges) (hf : s.feed? op = none)
      (ht : st.session.nextTimer = s.nextTimer) (hr : st.session.registry = s.registry.clearTimers)
      (he : st.effects = s.registry.timers.map .stop) : Course s op st
  | starts (h : op = .activateFallback ∨ st.answer = .recovery .fallback) (hf : s.feed? op = none)
      (timers : List Timer)
      (hs : timers = Timer.startAll s.nextTimer s.connection.pollInterval s.registry.missingTargets)
      (ht : st.session.nextTimer = s.nextTimer + timers.length)
      (hr : st.session.registry = s.registry.keepTimers timers)
      (he : st.effects = timers.map .start) : Course s op st
  | openTab (h : s.registry.openTab? k name? renderer = some r) :
    Course s (.openTab k name? renderer) (((s.withRegistry r).backfill k).map fun _ => .flag true)
  | closeTab : Course s (.closeTab k) ((s.closeTab k).map .flag)
  | openChart (h : (s.tab? k).bind (·.openChart? series options surface) = some t) :
    Course s (.openChart k series options surface)
      (((s.withRegistry (s.registry.set k t)).backfill k).map fun _ => .flag true)
  | closeChart (h : s.tab? k = some t) :
    Course s (.closeChart k series)
      ⟨s.withRegistry (s.registry.set k (t.closeChart series)), .flag (t.hasChart series),
        (t.seriesTimers.find? series).toList.map .stop⟩

variable {s : Session}

theorem course_message {event? : Option String} {raw : String} {received : Millis}
    (hs : s.registry.Keyed) : s.Course (.message event? raw received)
      ((s.handleMessage event? raw received).map .outcome) := by
  generalize hm : s.handleMessage event? raw received = st
  have h : s.Handles event? raw received st := hm ▸ handles
  cases h with
  | acknowledges he hk _ hp =>
    rw [acknowledge_eq hp]
    exact .stops (.inr rfl) (feed?_message he hk) rfl rfl rfl
  | delivers he hk hr =>
    exact .feeds ((feeds_delivered hs he hk hr).map _) rfl <|
      Answer.isTurn_outcome fun _ => deliver_ne_acknowledged
  | refuses o ho h =>
    exact .feeds (feeds_of_none (feed?_refused hs h) rfl rfl rfl) rfl <|
      Answer.isTurn_outcome (Outcome.ne_acknowledged ho)

theorem course_transportError {unit : Float} :
    s.Course (.transportError unit) ((s.transportError unit).map .recovery) := by
  unfold Session.transportError
  dsimp only
  split
  case h_1 h => rw [h]; exact .feeds (feeds_of_none rfl rfl rfl rfl) rfl rfl
  case h_2 h =>
    have hs : s.connection.fail.pollInterval = s.connection.pollInterval := pollInterval_fail
    rw [h]
    exact .starts (.inr rfl) rfl _ (by rw [← hs]; rfl) rfl rfl rfl
  case h_3 h => rw [h]; exact .feeds (feeds_of_none rfl rfl rfl rfl) rfl rfl

theorem course_openTab {k : ObjectKey} {name? : Option String} {renderer : Renderer} :
    s.Course (.openTab k name? renderer) ((s.openTab k name? renderer).map .flag) := by
  unfold Session.openTab
  split
  case h_1   => exact .refuses rfl
  case h_2 h => exact .openTab h

theorem course_openChart
    {k : ObjectKey} {series : SeriesKey} {options : DisplayOptions} {surface : Surface} :
    s.Course (.openChart k series options surface)
      ((s.openChart k series options surface).map .flag) := by
  unfold Session.openChart
  split
  case h_1   => exact .refuses rfl
  case h_2 h => exact .openChart h

theorem course_closeChart {k : ObjectKey} {series : SeriesKey} :
    s.Course (.closeChart k series) ((s.closeChart k series).map .flag) := by
  unfold Session.closeChart
  split
  case h_1   => exact .refuses rfl
  case h_2 h => exact .closeChart h

theorem feeds_polledSnapshot {k : ObjectKey} {p : PolledSnapshot} {received : Millis} :
    s.Feeds (.polledSnapshot k p received) (s.polledSnapshot k p received) :=
  feeds_takePolled (f := .snapshot p.data (p.timestamp?.getD received)) rfl

theorem feeds_polledValue
    {k : ObjectKey} {series : SeriesKey} {p : PolledValue} {received : Millis} :
    s.Feeds (.polledValue k series p received) (s.polledValue k series p received) :=
  feeds_takePolled (f := .value series p.sample (p.timestamp?.getD received)) rfl

theorem course (hk : s.registry.Keyed) (op : Operation) : s.Course op (s.step op) := by
  cases op
  case connect          => exact .feeds (feeds_of_none rfl rfl rfl rfl) rfl rfl
  case message          => exact course_message hk
  case transportError   => exact course_transportError
  case redeem           => exact .feeds (feeds_of_none rfl rfl rfl rfl) rfl rfl
  case close            => exact .stops (.inl rfl) rfl rfl rfl rfl
  case openTab          => exact course_openTab
  case closeTab         => exact .closeTab
  case openChart        => exact course_openChart
  case closeChart       => exact course_closeChart
  case setRange         => exact .feeds ⟨rfl, rfl, rfl⟩ rfl rfl
  case activateFallback => exact .starts (.inl rfl) rfl _ rfl rfl rfl rfl
  case polledSnapshot   => exact .feeds (feeds_polledSnapshot.map _) rfl rfl
  case polledValue      => exact .feeds (feeds_polledValue.map _) rfl rfl
  case pollFailed       => exact .feeds (feeds_of_none rfl rfl rfl rfl) rfl rfl

namespace Course

variable {op : Operation} {st : Step Answer}

theorem sound (c : s.Course op st) (h : s.registry.Sound) : st.session.registry.Sound := by
  cases c with
  | feeds hf            => exact hf.registry ▸ sound_take h
  | refuses             => exact h
  | stops _ _ _ hr      => exact hr ▸ h.clearTimers
  | starts _ _ _ _ _ hr => exact hr ▸ h.keepTimers
  | openTab ho          => exact sound_backfill (h.openTab? ho)
  | closeTab            => exact h.closeTab
  | openChart ho        => exact sound_backfill (h.openChart ho)
  | closeChart ht       => exact h.closeChart ht

theorem capacity_eq (c : s.Course op st) :
    st.session.registry.capacity = s.registry.capacity := by
  cases c with
  | feeds hf            => exact hf.registry ▸ capacity_take
  | refuses             => rfl
  | stops _ _ _ hr      => rw [hr]; rfl
  | starts _ _ _ _ _ hr => rw [hr]; exact Registry.capacity_keepTimers
  | openTab ho          => exact capacity_backfill.trans (Registry.capacity_openTab? ho)
  | closeTab            => rfl
  | openChart           => exact capacity_backfill
  | closeChart          => rfl

end Course

theorem sound (c : Config) (ops : List Operation) : ((new c).run ops).registry.Sound :=
  run_induction (s := new c) (P := fun _ s => s.registry.Sound) Registry.Sound.new
    (fun _ _ _ h => (course h.keyed _).sound h) ops

end Session
end FleetMonitor
