import FleetMonitor.Proofs.Arrivals
import FleetMonitor.Proofs.Deliveries
import FleetMonitor.Proofs.Retries
import Mathlib.Data.List.Nodup

namespace FleetMonitor

namespace Operation

def isMessage : Operation → Bool
  | message .. => true
  | _          => false

def isPollFailure : Operation → Bool
  | pollFailed => true
  | _          => false

end Operation

namespace Answer

def isDelivered : Answer → Bool
  | outcome (.delivered _) => true
  | _                      => false

def isUnrouted : Answer → Bool
  | outcome .unrouted => true
  | _                 => false

def isDropped : Answer → Bool
  | outcome .dropped => true
  | _                => false

-- Whether polling takes over.
def isFallback : Answer → Bool
  | recovery .fallback => true
  | _                  => false

-- Whether it is an answer to a message, or to a failure of a stream that was wanted.
def isCounted : Answer → Bool
  | outcome _      => true
  | recovery .idle => false
  | recovery _     => true
  | _              => false

theorem of_not_isCounted {a : Answer} (h : ¬a.isCounted) :
    (¬a.acknowledges ∧ ¬a.isDelivered ∧ ¬a.isUnrouted ∧ ¬a.isDropped) ∧
      ¬a.ticket?.isSome ∧ ¬a.isFallback := by
  cases a with
  | outcome    => exact absurd rfl h
  | recovery r =>
    cases r with
    | idle => simp [acknowledges, isDelivered, isUnrouted, isDropped, ticket?, isFallback]
    | _    => exact absurd rfl h
  | _ => simp [acknowledges, isDelivered, isUnrouted, isDropped, ticket?, isFallback]

end Answer

namespace Stats

-- How the counters grow by an operation that is answered in some way.
inductive Grows (st : Stats) : Operation → Answer → Stats → Prop
  | message (o : Outcome) : Grows st (.message event? raw time) (.outcome o) (st.after o)
  | retry : Grows st (.transportError unit) (.recovery (.retry n delay t))
    { st with retries := st.retries + 1 }
  | fallback : Grows st (.transportError unit) (.recovery .fallback)
    { st with fallbacks := st.fallbacks + 1 }
  | polledSnapshot : Grows st (.polledSnapshot k p time) (.delivery d)
    { st with points := st.points + d.points }
  | polledValue : Grows st (.polledValue k series p time) (.delivery d)
    { st with points := st.points + d.points }
  | pollFailed : Grows st .pollFailed .done { st with pollFailures := st.pollFailures + 1 }
  | nothing (hm : ¬op.isMessage) (hp : ¬op.isPollFailure) (ha : ¬a.isCounted) : Grows st op a st

namespace Grows

variable {st st' : Stats} {op : Operation} {a : Answer} (g : st.Grows op a st')

include g

theorem received_eq : st'.received = st.received + op.isMessage.toNat := by
  cases g with
  | message o  => cases o <;> rfl
  | nothing hm => simp [hm]
  | _          => rfl

theorem unrouted_eq : st'.unrouted = st.unrouted + a.isUnrouted.toNat := by
  cases g with
  | message o      => cases o <;> rfl
  | nothing _ _ ha => simp [Answer.of_not_isCounted ha]
  | _              => rfl

theorem dropped_eq : st'.dropped = st.dropped + a.isDropped.toNat := by
  cases g with
  | message o      => cases o <;> rfl
  | nothing _ _ ha => simp [Answer.of_not_isCounted ha]
  | _              => rfl

theorem retries_eq : st'.retries = st.retries + a.ticket?.isSome.toNat := by
  cases g with
  | message o      => cases o <;> rfl
  | nothing _ _ ha => have := Answer.of_not_isCounted ha; simp_all
  | _              => rfl

theorem fallbacks_eq : st'.fallbacks = st.fallbacks + a.isFallback.toNat := by
  cases g with
  | message o      => cases o <;> rfl
  | nothing _ _ ha => simp [Answer.of_not_isCounted ha]
  | _              => rfl

theorem pollFailures_eq : st'.pollFailures = st.pollFailures + op.isPollFailure.toNat := by
  cases g with
  | message o    => cases o <;> rfl
  | nothing _ hp => simp [hp]
  | _            => rfl

-- A message becomes just one of four things.
theorem isMessage_eq : op.isMessage.toNat =
    a.acknowledges.toNat + a.isDelivered.toNat + a.isUnrouted.toNat + a.isDropped.toNat := by
  cases g with
  | message o       => cases o <;> rfl
  | nothing hm _ ha => simp [hm, Answer.of_not_isCounted ha]
  | _               => rfl

end Grows

end Stats

namespace Tab
variable {t : Tab} {f : Feed} {points : List (SeriesKey × Point)}

theorem length_flatMap_pointsOf_cons {s : SeriesKey} {p : Point} {ks : List SeriesKey} :
    (ks.flatMap (pointsOf · ((s, p) :: points))).length =
      (ks.flatMap (pointsOf · points)).length + ks.count s := by
  induction ks with
  | nil => rfl
  | cons s' ks hi =>
    simp only [List.flatMap_cons, List.length_append, hi, List.count_cons, beq_iff_eq]
    have hp : (pointsOf s' ((s, p) :: points)).length =
        (pointsOf s' points).length + if s' = s then 1 else 0 := by
      by_cases h : s = s' <;> simp [pointsOf, h, eq_comm (a := s')]
    omega

-- Points that are all for different charts of a list are shared out among them without loss.
theorem length_flatMap_pointsOf {ks : List SeriesKey} (hn : ks.Nodup)
    (hk : ∀ sp ∈ points, sp.1 ∈ ks) : (ks.flatMap (pointsOf · points)).length = points.length := by
  induction points with
  | nil => simp [pointsOf]
  | cons sp points hi =>
    obtain ⟨hs, hk⟩ := List.forall_mem_cons.mp hk
    rw [length_flatMap_pointsOf_cons, hi hk, List.count_eq_one_of_mem hn hs, List.length_cons]

-- What a feed has for the charts of a tab is what the tab counts.
theorem length_points_feed : (t.charts.keys.flatMap f.points).length =
    ((t.take? f).map fun p => p.delivery.points).getD 0 := by
  have hk : ∀ s, t.hasChart s ↔ s ∈ t.charts.keys := fun s => SortedMap.mem_keys_iff.symm
  have hl : (t.charts.keys.flatMap f.points).length = (t.appended f).length := by
    rw [← length_flatMap_pointsOf SortedMap.nodup_keys fun sp hm =>
      (hk sp.1).mp (hasChart_of_mem_appended hm)]
    congr 1
    exact List.flatMap_congr fun s hs => (pointsOf_appended ((hk s).mpr hs)).symm
  rw [hl]
  rcases take?_eq (t := t) (f := f) with ⟨ht, hn⟩ | ⟨_, _, ht⟩
  · rw [ht, hn]; rfl
  · rw [ht]; rfl

end Tab

namespace Session

variable {s : Session} {op : Operation} {es : List Event}

-- The points that an operation appends to the open charts, one chart after the other.
def appends (s : Session) (op : Operation) : List Point :=
  s.registry.tabs.values.flatMap fun t => t.charts.keys.flatMap (s.pointsFor t.key · op)

theorem length_appends (hk : s.registry.Keyed) :
    (s.appends op).length = (s.take (s.feed? op)).delivery.points := by
  rcases hf : s.feed? op with _ | ⟨k, f⟩
  case none =>
    simp [appends, pointsFor_of_none hf, take, Registry.unreached, Delivery.empty]
  case some =>
    have hp {t : Tab} {k' : ObjectKey} (ht : s.registry.tab? k' = some t) (series : SeriesKey) :
        s.pointsFor t.key series op = if k = k' then f.points series else [] := by
      rw [pointsFor, hf, hk k' t ht]
    have ha : s.appends op =
        ((s.registry.tab? k).map fun t => t.charts.keys.flatMap f.points).getD [] := by
      have ho := SortedMap.filterMap_flatMap_values (m := s.registry.tabs) (k := k) (g := some)
        (f := fun t => t.charts.keys.flatMap (s.pointsFor t.key · op)) fun k' t ht hn => by
          simp [hp ht, Ne.symm hn]
      simp only [List.filterMap_some] at ho
      rw [appends, ho]
      cases ht : s.registry.tab? k with
      | none   => rw [show s.registry.tabs.find? k = none from ht]; rfl
      | some t => rw [show s.registry.tabs.find? k = some t from ht]; simp [hp ht]
    rw [ha, take, Registry.take, Registry.update]
    cases ht : s.registry.tab? k with
    | none => rfl
    | some t =>
      rw [Option.map_some, Option.getD_some, Tab.length_points_feed, Option.bind_some]
      cases t.take? f <;> rfl

-- Whoever gets a point counts as a consumer.
theorem points_le_consumers {f? : Option (ObjectKey × Feed)} :
    (s.take f?).delivery.points ≤ (s.take f?).delivery.consumers := by
  rcases f? with _ | ⟨k, f⟩
  case none => exact Nat.le_refl 0
  case some =>
    simp only [take, Registry.take, Registry.update]
    split
    case h_1   => exact Nat.le_refl 0
    case h_2 h =>
      obtain ⟨t, _, hp⟩ := Option.bind_eq_some_iff.mp h
      have ht : t.Takes f (t.take? f) := Tab.takes
      rw [hp] at ht
      cases ht with
      | pass _ n points => exact Nat.le_add_left points.length n

theorem points_deliver {u : Board.Update} (h : u.delivery.points ≤ u.delivery.consumers) :
    (s.deliver u).session.stats.points = s.stats.points + u.delivery.points := by
  unfold deliver
  split
  case isTrue hu =>
    have hn : u.delivery.consumers = 0 := of_decide_eq_true hu
    rw [hn] at h
    rw [Nat.le_zero.mp h]
    rfl
  case isFalse => rfl

theorem points_message {event? : Option String} {raw : String} {received : Millis}
    (hk : s.registry.Keyed) : (s.handleMessage event? raw received).session.stats.points =
      s.stats.points + (s.take (s.feed? (.message event? raw received))).delivery.points := by
  generalize hm : s.handleMessage event? raw received = st
  have h : s.Handles event? raw received st := hm ▸ handles
  cases h with
  | acknowledges he hn _ hp =>
    rw [feed?_message he hn, acknowledge_eq hp]
    rfl
  | refuses o ho h =>
    rw [feed?_refused hk h]
    rcases ho with rfl | rfl <;> rfl
  | @delivers e kind u he hn hr =>
    have h : s.Routed (s.messageFeed? e received kind) (s.board.route kind e received) :=
      routed kind hk
    rw [feed?_message he hn]
    rw [hr] at h
    cases h with
    | fed => exact points_deliver points_le_consumers
    | directed hf servers =>
      rw [hf]
      exact points_deliver (Nat.zero_le _)

theorem points_takePolled {k : ObjectKey} {f : Feed} :
    (s.takePolled k (s.registry.take k f)).session.stats.points = s.stats.points +
      (s.take (if s.acceptsPolled k then some (k, f) else none)).delivery.points := by
  unfold takePolled
  split <;> rfl

theorem grows_transportError {unit : Float} : s.stats.Grows (.transportError unit)
    (.recovery (s.transportError unit).answer) (s.transportError unit).session.stats := by
  unfold transportError
  dsimp only
  split
  case h_1 h => rw [h]; exact .retry
  case h_2 h => rw [h]; exact .fallback
  case h_3 h => rw [h]; exact .nothing nofun nofun nofun

theorem stats_withRegistry_backfill {r : Registry} {k : ObjectKey} :
    ((s.withRegistry r).backfill k).session.stats = s.stats := by
  unfold backfill
  split <;> rfl

theorem stats_openTab {k : ObjectKey} {name? : Option String} {renderer : Renderer} :
    (s.openTab k name? renderer).session.stats = s.stats := by
  unfold openTab
  split
  · rfl
  · exact stats_withRegistry_backfill

theorem stats_openChart
    {k : ObjectKey} {series : SeriesKey} {options : DisplayOptions} {surface : Surface} :
    (s.openChart k series options surface).session.stats = s.stats := by
  unfold openChart
  split
  · rfl
  · exact stats_withRegistry_backfill

theorem stats_closeChart {k : ObjectKey} {series : SeriesKey} :
    (s.closeChart k series).session.stats = s.stats := by
  unfold closeChart
  split <;> rfl

theorem stats_takePolled {k : ObjectKey} {u : Registry.Update} : (s.takePolled k u).session.stats =
    { s.stats with points := s.stats.points + (s.takePolled k u).answer.points } := by
  unfold takePolled
  split <;> rfl

theorem grows (op : Operation) : s.stats.Grows op (s.step op).answer (s.step op).session.stats := by
  cases op
  case message        => exact stats_handleMessage ▸ .message _
  case transportError => exact grows_transportError
  case openTab        => exact stats_openTab ▸ .nothing nofun nofun nofun
  case openChart      => exact stats_openChart ▸ .nothing nofun nofun nofun
  case closeChart     => exact stats_closeChart ▸ .nothing nofun nofun nofun
  case polledSnapshot => exact stats_takePolled ▸ .polledSnapshot
  case polledValue    => exact stats_takePolled ▸ .polledValue
  case pollFailed     => exact .pollFailed
  all_goals exact .nothing nofun nofun nofun

theorem points_transportError {unit : Float} :
    (s.transportError unit).session.stats.points = s.stats.points := by
  unfold transportError
  dsimp only
  split <;> rfl

theorem points_take_range {k : ObjectKey} {r : TimeRange} :
    (s.registry.take k (.range r)).delivery.points = 0 := by
  simp only [Registry.take, Registry.update]
  split
  case h_1   => rfl
  case h_2 h =>
    obtain ⟨t, _, hp⟩ := Option.bind_eq_some_iff.mp h
    obtain rfl := Option.some.inj hp
    rfl

-- The counter of points grows by what an operation appends.
theorem points_step (hk : s.registry.Keyed) :
    (s.step op).session.stats.points = s.stats.points + (s.appends op).length := by
  rw [length_appends hk]
  cases op
  case message => exact points_message hk
  case polledSnapshot k p received =>
    exact points_takePolled (f := .snapshot p.data (p.timestamp?.getD received))
  case polledValue k series p received =>
    exact points_takePolled (f := .value series p.sample (p.timestamp?.getD received))
  case setRange       => exact (congrArg (s.stats.points + ·) points_take_range).symm
  case transportError => exact points_transportError
  case openTab        => exact congrArg Stats.points stats_openTab
  case openChart      => exact congrArg Stats.points stats_openChart
  case closeChart     => exact congrArg Stats.points stats_closeChart
  all_goals rfl

namespace Event

def isMessage (e : Event) : Bool :=
  e.op.isMessage

def isDelivered (e : Event) : Bool :=
  e.answer.isDelivered

def isUnrouted (e : Event) : Bool :=
  e.answer.isUnrouted

def isDropped (e : Event) : Bool :=
  e.answer.isDropped

def isFallback (e : Event) : Bool :=
  e.answer.isFallback

def isPollFailure (e : Event) : Bool :=
  e.op.isPollFailure

-- The points that an event appends to charts.
def appends (e : Event) : List Point :=
  e.session.appends e.op

end Event

theorem countP_concat {p : Event → Bool} {e : Event} :
    (es ++ [e]).countP p = es.countP p + (p e).toNat := by
  cases h : p e <;> simp [h]

-- What the counters owe to the events.
structure Tallied (es : List Event) (s : Session) : Prop where
  sound        : s.registry.Sound
  received     : s.stats.received = es.countP Event.isMessage
  handled      : es.countP Event.isMessage = es.countP Event.acknowledges +
    es.countP Event.isDelivered + es.countP Event.isUnrouted + es.countP Event.isDropped
  unrouted     : s.stats.unrouted = es.countP Event.isUnrouted
  dropped      : s.stats.dropped = es.countP Event.isDropped
  points       : s.stats.points = (es.flatMap Event.appends).length
  retries      : s.stats.retries = retries es
  fallbacks    : s.stats.fallbacks = es.countP Event.isFallback
  pollFailures : s.stats.pollFailures = es.countP Event.isPollFailure

namespace Tallied

theorem init {c : Config} : Tallied [] (.new c) :=
  ⟨.new, rfl, rfl, rfl, rfl, rfl, rfl, rfl, rfl⟩

theorem step (h : Tallied es s) : Tallied (es ++ [⟨s, op⟩]) (s.step op).session := by
  have g : s.stats.Grows op (Event.answer ⟨s, op⟩) (s.step op).session.stats := grows op
  constructor
  case sound        => exact (course h.sound.keyed op).sound h.sound
  case received     => rw [g.received_eq, h.received, countP_concat]; rfl
  case unrouted     => rw [g.unrouted_eq, h.unrouted, countP_concat]; rfl
  case dropped      => rw [g.dropped_eq, h.dropped, countP_concat]; rfl
  case retries      => rw [g.retries_eq, h.retries]; exact countP_concat.symm
  case fallbacks    => rw [g.fallbacks_eq, h.fallbacks, countP_concat]; rfl
  case pollFailures => rw [g.pollFailures_eq, h.pollFailures, countP_concat]; rfl
  case points       => rw [points_step h.sound.keyed, h.points]; simp [Event.appends]
  case handled =>
    have hm := g.isMessage_eq
    have hs := h.handled
    simp only [countP_concat, Event.isMessage, Event.acknowledges, Event.isDelivered,
      Event.isUnrouted, Event.isDropped] at *
    omega

end Tallied

theorem tallied (c : Config) (ops : List Operation) :
    Tallied ((new c).events ops) ((new c).run ops) :=
  run_induction .init (fun _ _ _ h => h.step) ops

-- A chart that stays open gets just the points that are for it.
theorem history?_of_open {k : ObjectKey} {series : SeriesKey} {h h' : History}
    (hs : s.registry.Sound) (hh : s.registry.history? k series = some h)
    (hh' : (s.step op).session.registry.history? k series = some h') :
    h' = h.appendAll (s.pointsFor k series op) := by
  have ha := (course hs.keyed op).arrives hs hh'
  unfold Arrives at ha
  split at ha
  case isTrue ho =>
    obtain ⟨options, surface, rfl, he⟩ := Operation.opens_iff.mp ho
    obtain ⟨t, ht, hc⟩ := Option.bind_eq_some_iff.mp hh
    replace ht : s.tab? k = some t := ht
    have hc : t.hasChart series := by rw [← Tab.isSome_history?, hc]; rfl
    simp [step, openChart, ht, Tab.openChart?, hc, Step.map] at he
  case isFalse =>
    obtain ⟨h₀, h₁, rfl⟩ := ha
    rw [← Option.some.inj (hh.symm.trans h₁)]

-- Every message is counted when it comes in, and as one of the four things that may become of it.
-- Every point is counted that a chart gets, whether it is pushed or polled, and even if the chart
-- is closed or the point gives way to others later. The rest are the numbers of reconnections that
-- were scheduled, of fallbacks to polling and of polls that failed.
theorem counters_are_tallies (c : Config) (ops : List Operation) :
    (((new c).run ops).stats.received = ((new c).events ops).countP Event.isMessage ∧
      ((new c).run ops).stats.received = ((new c).events ops).countP Event.acknowledges +
        ((new c).events ops).countP Event.isDelivered +
        ((new c).run ops).stats.unrouted + ((new c).run ops).stats.dropped ∧
      ((new c).run ops).stats.unrouted = ((new c).events ops).countP Event.isUnrouted ∧
      ((new c).run ops).stats.dropped = ((new c).events ops).countP Event.isDropped) ∧
    (((new c).run ops).stats.points = (((new c).events ops).flatMap Event.appends).length ∧
      ∀ e ∈ (new c).events ops, ∀ k series h h', e.session.registry.history? k series = some h →
        e.step.session.registry.history? k series = some h' →
        h' = h.appendAll (e.points k series)) ∧
    ((new c).run ops).stats.retries = retries ((new c).events ops) ∧
    ((new c).run ops).stats.fallbacks = ((new c).events ops).countP Event.isFallback ∧
    ((new c).run ops).stats.pollFailures = ((new c).events ops).countP Event.isPollFailure := by
  have h := tallied c ops
  refine ⟨⟨h.received, ?handled, h.unrouted, h.dropped⟩, ⟨h.points, ?points⟩, h.retries,
    h.fallbacks, h.pollFailures⟩
  case handled => rw [h.unrouted, h.dropped, h.received, h.handled]
  case points =>
    intro e he k series h₀ h₁
    obtain ⟨ops₁, ho⟩ := exists_run_of_mem he
    exact history?_of_open (ho ▸ sound c ops₁)

-- A chart with room for one point gets two of them and is closed then.
theorem points_counted_beyond_closing : ∃ c ops e h h',
    ((new c).run ops).registry.history? ⟨"a", "b"⟩ ⟨"x"⟩ = none ∧
    ((new c).run ops).stats.points = 2 ∧ (((new c).events ops).flatMap Event.appends).length = 2 ∧
    e ∈ (new c).events ops ∧ e.session.registry.history? ⟨"a", "b"⟩ ⟨"x"⟩ = some h ∧
    e.step.session.registry.history? ⟨"a", "b"⟩ ⟨"x"⟩ = some h' ∧
    h.toList = [⟨10, some 1⟩] ∧ h'.toList = [⟨20, some 2⟩] ∧
    h' = h.appendAll (e.points ⟨"a", "b"⟩ ⟨"x"⟩) := by
  have he : ⟨(new { Config.default with seriesCapacity := 1 }).run [
      .openTab ⟨"a", "b"⟩ none ⟨true, []⟩,
      .activateFallback,
      .openChart ⟨"a", "b"⟩ ⟨"x"⟩ ⟨none, none, false, false⟩ ⟨true⟩,
      .polledValue ⟨"a", "b"⟩ ⟨"x"⟩ ⟨some 1, none⟩ 10],
      .polledValue ⟨"a", "b"⟩ ⟨"x"⟩ ⟨some 2, none⟩ 20⟩ ∈
      (new { Config.default with seriesCapacity := 1 }).events [
        .openTab ⟨"a", "b"⟩ none ⟨true, []⟩,
        .activateFallback,
        .openChart ⟨"a", "b"⟩ ⟨"x"⟩ ⟨none, none, false, false⟩ ⟨true⟩,
        .polledValue ⟨"a", "b"⟩ ⟨"x"⟩ ⟨some 1, none⟩ 10,
        .polledValue ⟨"a", "b"⟩ ⟨"x"⟩ ⟨some 2, none⟩ 20,
        .closeChart ⟨"a", "b"⟩ ⟨"x"⟩] :=
    .tail _ <| .tail _ <| .tail _ <| .tail _ <| .head _
  have h₁ : (((new { Config.default with seriesCapacity := 1 }).run [
      .openTab ⟨"a", "b"⟩ none ⟨true, []⟩,
      .activateFallback,
      .openChart ⟨"a", "b"⟩ ⟨"x"⟩ ⟨none, none, false, false⟩ ⟨true⟩,
      .polledValue ⟨"a", "b"⟩ ⟨"x"⟩ ⟨some 1, none⟩ 10]).registry.history? ⟨"a", "b"⟩ ⟨"x"⟩).map
      History.toList = some [⟨10, some 1⟩] := rfl
  have h₂ : (((new { Config.default with seriesCapacity := 1 }).run [
      .openTab ⟨"a", "b"⟩ none ⟨true, []⟩,
      .activateFallback,
      .openChart ⟨"a", "b"⟩ ⟨"x"⟩ ⟨none, none, false, false⟩ ⟨true⟩,
      .polledValue ⟨"a", "b"⟩ ⟨"x"⟩ ⟨some 1, none⟩ 10,
      .polledValue ⟨"a", "b"⟩ ⟨"x"⟩ ⟨some 2, none⟩ 20]).registry.history? ⟨"a", "b"⟩ ⟨"x"⟩).map
      History.toList = some [⟨20, some 2⟩] := rfl
  obtain ⟨h, hh, hl⟩ := Option.map_eq_some_iff.mp h₁
  obtain ⟨h', hh', hl'⟩ := Option.map_eq_some_iff.mp h₂
  obtain ⟨hp, hc⟩ := (counters_are_tallies { Config.default with seriesCapacity := 1 } [
      .openTab ⟨"a", "b"⟩ none ⟨true, []⟩,
      .activateFallback,
      .openChart ⟨"a", "b"⟩ ⟨"x"⟩ ⟨none, none, false, false⟩ ⟨true⟩,
      .polledValue ⟨"a", "b"⟩ ⟨"x"⟩ ⟨some 1, none⟩ 10,
      .polledValue ⟨"a", "b"⟩ ⟨"x"⟩ ⟨some 2, none⟩ 20,
      .closeChart ⟨"a", "b"⟩ ⟨"x"⟩]).right.left
  exact ⟨_, _, _, h, h', rfl, by decide +kernel, hp.symm.trans (by decide +kernel), he, hh, hh', hl,
    hl', hc _ he _ _ h h' hh hh'⟩

end Session
end FleetMonitor
