import FleetMonitor.Proofs.Declines

namespace FleetMonitor

-- A chart of a series that has room for `n` points, at least for one, and got the points `ps`.
structure Chart.Consistent (c : Chart) (s : SeriesKey) (n : Nat) (ps : List Point) : Prop where
  key      : c.key = s
  capacity : c.history.capacity = max 1 n
  points   : c.history.toList <:+ ps
  legend   : c.legend = c.history.last?.bind Point.value

namespace Chart.Consistent

variable {c : Chart} {s : SeriesKey} {n : Nat} {p : Point} {ps qs : List Point} {w? : Option Window}

theorem new {options : DisplayOptions} {surface : Surface} :
    (Chart.new s n options surface).Consistent s n ps :=
  ⟨rfl, rfl, List.nil_suffix, rfl⟩

theorem length_le (h : c.Consistent s n ps) : c.history.toList.length ≤ max 1 n := by
  have hb := c.history.bounded
  rw [h.capacity] at hb
  simpa [History.toList] using hb

theorem append (h : c.Consistent s n ps) : (c.append p).Consistent s n (ps ++ [p]) where
  key      := h.key
  capacity := h.capacity
  points := by
    obtain ⟨qs, rfl⟩ := h.points
    have ha : (c.append p).history.toList = _ := History.toList_append
    rw [ha, List.append_assoc]
    exact (List.drop_suffix ..).trans (List.suffix_append ..)
  legend := by
    have hl : (c.append p).history.last? = some p := History.last?_append
    rw [hl]
    rfl

theorem appendAll (h : c.Consistent s n ps) : (c.appendAll qs).Consistent s n (ps ++ qs) := by
  induction qs generalizing c ps with
  | nil => exact (List.append_nil ps).symm ▸ h
  | cons q qs hi =>
    rw [List.append_cons]
    exact hi h.append

theorem alignTo (h : c.Consistent s n ps) : (c.alignTo w?).Consistent s n ps where
  key      := frame_alignTo.key.trans h.key
  capacity := by rw [history_alignTo, h.capacity]
  points   := by rw [history_alignTo]; exact h.points
  legend   := by rw [legend_alignTo, history_alignTo, h.legend]

theorem updated (h : c.Consistent s n ps) : (c.updated qs w?).repaint.Consistent s n (ps ++ qs) :=
  have hu : (c.updated qs w?).Consistent s n (ps ++ qs) := h.appendAll.alignTo
  ⟨hu.key, hu.capacity, hu.points, hu.legend⟩

end Chart.Consistent

namespace Tab

-- The mark of the last touch, if there is one, is on an open chart whose newest point is the last one
-- of `log`.
def Marks (t : Tab) (log : List (SeriesKey × Point)) : Prop :=
  ∀ s, t.touched? = some s →
    ∃ h p, t.history? s = some h ∧ h.last? = some p ∧ log.getLast? = some (s, p)

-- A tab to whose charts the points of `log` were appended since it was opened.
structure Consistent (t : Tab) (log : List (SeriesKey × Point)) : Prop where
  charts : ∀ s c, t.chart? s = some c → c.Consistent s t.capacity (pointsOf s log)
  marks  : t.Marks log

variable {t t' : Tab} {s : SeriesKey} {p : Point} {f : Feed} {log points : List (SeriesKey × Point)}

theorem marks_append (h : t.hasChart s) : (t.append s p).Marks (log ++ [(s, p)]) := by
  intro s' hs
  rw [append, if_pos h] at hs
  obtain rfl : s = s' := Option.some.inj hs
  rw [← isSome_history?, Option.isSome_iff_exists] at h
  obtain ⟨h₀, hh⟩ := h
  exact ⟨h₀.append p, p, by simp [history?_append, hh], by simp, List.getLast?_concat⟩

-- After one point for an open chart, whatever was marked before does not matter.
theorem marks_appendAll (h : t.Marks log) (hc : ∀ sp ∈ points, t.hasChart sp.1) :
    (t.appendAll points).Marks (log ++ points) := by
  induction points generalizing t log with
  | nil => exact (List.append_nil log).symm ▸ h
  | cons sp points hi =>
    obtain ⟨hs, hc⟩ := List.forall_mem_cons.mp hc
    rw [List.append_cons]
    exact hi (marks_append hs) fun sp hm => frame_append.hasChart.trans (hc sp hm)

theorem touched?_feed : (t.feed f).touched? = (t.appendAll (t.appended f)).touched? := by
  rcases take?_eq (t := t) (f := f) with ⟨ht, ha⟩ | ⟨_, _, ht⟩
  case inl => rw [feed, ht, ha]; rfl
  case inr => rw [feed, ht]; cases f <;> rfl

theorem history?_feed_eq_appendAll : (t.feed f).history? s = (t.appendAll (t.appended f)).history? s := by
  rw [history?_feed, history?_appendAll]
  cases hh : t.history? s with
  | none   => rfl
  | some h =>
    have hc : t.hasChart s := by rw [← isSome_history?, hh]; rfl
    rw [pointsOf_appended hc]

theorem marks_feed (h : t.Marks log) : (t.feed f).Marks (log ++ t.appended f) := by
  intro s hs
  rw [touched?_feed] at hs
  rw [history?_feed_eq_appendAll]
  exact marks_appendAll h (fun _ => hasChart_of_mem_appended) s hs

namespace Consistent

variable {options : DisplayOptions} {surface : Surface}

theorem new {k : ObjectKey} {name : String} {renderer : Renderer} {capacity : Nat} {range : TimeRange} :
    (Tab.new k name renderer capacity range).Consistent log :=
  ⟨nofun, nofun⟩

theorem withTimers {o? : Option Timer} {ss : SortedMap SeriesKey Timer} (h : t.Consistent log) :
    (t.withTimers o? ss).Consistent log :=
  ⟨h.charts, h.marks⟩

theorem feed (h : t.Consistent log) : (t.feed f).Consistent (log ++ t.appended f) where
  charts s c' hc' := by
    obtain ⟨c, hc, hp⟩ := chart?_feed hc'
    have hs : t.hasChart s := by rw [hasChart_eq_isSome, hc]; rfl
    rw [frame_feed.capacity, pointsOf_append, pointsOf_appended hs]
    rcases hp with ⟨rfl, hn⟩ | ⟨w?, rfl⟩
    case inl => rw [hn, List.append_nil]; exact h.charts s c' hc
    case inr => exact (h.charts s c hc).updated
  marks := marks_feed h.marks

theorem openChart? (h : t.Consistent log) (ho : t.openChart? s options surface = some t') :
    t'.Consistent log := by
  have ⟨_, _, _, hc, _⟩ := openChart?_eq ho
  have ⟨_, hs⟩ := chart?_openChart? ho
  constructor
  case charts =>
    intro s' c h'
    rw [hs] at h'
    rw [hc]
    split at h'
    case isTrue e => exact Option.some.inj h' ▸ e ▸ .new
    case isFalse  => exact h.charts s' c h'
  case marks =>
    intro s' h'
    rw [touched?_openChart? ho] at h'
    obtain ⟨h₀, p, hh, hp⟩ := h.marks s' h'
    exact ⟨h₀, p, history?_openChart?_of_some ho hh, hp⟩

theorem closeChart (h : t.Consistent log) : (t.closeChart s).Consistent log where
  charts s' c hc := by
    rw [chart?_closeChart] at hc
    split at hc
    · contradiction
    · exact h.charts s' c hc
  marks s' hs := by
    obtain ⟨hn, ht⟩ := touched?_closeChart hs
    obtain ⟨h₀, p, hh, hp⟩ := h.marks s' ht
    exact ⟨h₀, p, by rw [history?_closeChart, if_neg hn, hh], hp⟩

end Consistent

end Tab

namespace Registry

-- Where a series is polled, its object is polled too.
def Escorted (r : Registry) : Prop :=
  ∀ k s, r.timer? (.object k) = none → r.timer? (.series k s) = none

variable {r r' : Registry} {k : ObjectKey} {s : SeriesKey} {timers : List Timer}

theorem owns_object_of_owns_series (h : r.owns (.series k s)) : r.owns (.object k) := by
  obtain ⟨t, ht, _⟩ := (Option.any_eq_true _ _).mp h
  exact (Option.any_eq_true _ _).mpr ⟨t, ht, rfl⟩

namespace Escorted

theorem new {capacity : Nat} {range : TimeRange} : (new capacity range).Escorted :=
  fun _ _ _ => rfl

theorem of_timer?_eq (h : r.Escorted) (ht : ∀ x, r'.timer? x = r.timer? x) : r'.Escorted := by
  intro k s ho
  rw [ht] at ho ⊢
  exact h k s ho

-- Timers that come for a series come along with one for its object, unless that has one.
theorem keepTimers (h : r.Escorted) (hm : ∀ k s, .series k s ∈ timers.map Timer.target →
    r.owns (.object k) ∧ (r.timer? (.object k) = none → .object k ∈ timers.map Timer.target)) :
    (r.keepTimers timers).Escorted := by
  intro k s ho
  obtain ⟨ho, hn⟩ := timer?_keepTimers_eq_none_iff.mp ho
  refine timer?_keepTimers_eq_none_iff.mpr ⟨h k s ho, fun _ hs => ?_⟩
  obtain ⟨hw, hs⟩ := hm k s hs
  exact hn hw (hs ho)

theorem closeTab (h : r.Escorted) : (r.closeTab k).Escorted := by
  intro k' s ho
  rw [timer?_closeTab] at ho ⊢
  by_cases hk : k' = k
  case pos => exact if_pos hk
  case neg => exact (if_neg hk).trans (h k' s ((if_neg hk).symm.trans ho))

theorem closeChart {t : Tab} (h : r.Escorted) (ht : r.tab? k = some t) :
    (r.set k (t.closeChart s)).Escorted := by
  intro k' s' ho
  rw [timer?_closeChart ht, if_neg nofun] at ho
  rw [timer?_closeChart ht]
  split
  · rfl
  · exact h k' s' ho

theorem isSome_objectTimer? {t : Tab} {timer : Timer} (h : r.Escorted) (ht : r.tab? k = some t)
    (hx : t.seriesTimers.find? s = some timer) : t.objectTimer?.isSome := by
  have hs : r.timer? (.series k s) = some timer := by
    simp [timer?, PollTarget.key, ht, Tab.timer?, hx]
  by_contra hn
  have ho : r.timer? (.object k) = none := by
    simpa [timer?, PollTarget.key, ht, Tab.timer?] using hn
  rw [h k s ho] at hs
  contradiction

end Escorted

end Registry

namespace Session

variable {s : Session} {op : Operation} {a : Answer} {st : Step Answer} {k : ObjectKey} {t t' : Tab}
  {es : List Event}

-- The points that an operation appends to the charts of a tab, each with its series.
def appendedFor (s : Session) (k : ObjectKey) (op : Operation) : List (SeriesKey × Point) :=
  match s.registry.tab? k, s.feedOf? k op with
  | some t, some f => t.appended f
  | _,      _      => []

theorem appendedFor_of_unfed (h : s.feedOf? k op = none) : s.appendedFor k op = [] := by
  rw [appendedFor, h]
  cases s.registry.tab? k <;> rfl

namespace Event

def appended (k : ObjectKey) (e : Event) : List (SeriesKey × Point) :=
  e.session.appendedFor k e.op

-- Whether a tab is not open when the operation comes.
def lacks (k : ObjectKey) (e : Event) : Bool :=
  (e.session.tab? k).isNone

end Event

-- The points that were appended to the charts of a tab since it was opened, each with its series.
def arrivals (k : ObjectKey) (es : List Event) : List (SeriesKey × Point) :=
  (since (Event.lacks k) es).flatMap (Event.appended k)

theorem arrivals_concat (h : s.registry.tab? k = some t) :
    arrivals k (es ++ [⟨s, op⟩]) = arrivals k es ++ s.appendedFor k op := by
  have hl : ¬Event.lacks k ⟨s, op⟩ := by simp [Event.lacks, tab?, h]
  rw [arrivals, since_concat, if_neg hl, List.flatMap_append, List.flatMap_singleton]
  rfl

theorem Alters.consistent (h : s.Alters k op a t')
    (hs : ∀ t, s.registry.tab? k = some t → t.Consistent (arrivals k es)) :
    t'.Consistent (arrivals k (es ++ [⟨s, op⟩])) := by
  cases h with
  | @feeds t f ht hf =>
    have ha : s.appendedFor k op = t.appended f := by rw [appendedFor, ht, hf]
    rw [arrivals_concat ht, ha]
    exact (hs _ ht).feed
  | keeps ht hf =>
    rw [arrivals_concat ht, appendedFor_of_unfed hf, List.append_nil]
    exact (hs _ ht).withTimers
  | opensTab => exact .withTimers .new
  | opensChart ht ho _ h =>
    rw [arrivals_concat ht, appendedFor_of_unfed (ho ▸ rfl), List.append_nil]
    exact ((hs _ ht).openChart? h).withTimers
  | closesChart ht ho =>
    rw [arrivals_concat ht, appendedFor_of_unfed (ho ▸ rfl), List.append_nil]
    exact (hs _ ht).closeChart

theorem escorted_backfill (hk : s.registry.Keyed) (h : s.registry.Escorted) :
    (s.backfill k).session.registry.Escorted := by
  unfold backfill
  split
  case isFalse => exact h
  case isTrue =>
    refine h.keepTimers fun k' series hm => ?_
    rw [Timer.map_target_startAll, Registry.mem_missingTargetsOf_iff hk] at hm ⊢
    have ho := Registry.owns_object_of_owns_series hm.right.left
    exact ⟨ho, fun hn => ⟨hm.left, ho, hn⟩⟩

-- Whatever starts timers starts all those that a tab lacks, and the object's own is never stopped
-- without the others.
theorem Course.escorted (c : s.Course op st) (hs : s.registry.Sound) (h : s.registry.Escorted) :
    st.session.registry.Escorted := by
  cases c with
  | feeds hf          => exact h.of_timer?_eq fun _ => hf.registry ▸ timer?_take
  | refuses           => exact h
  | stops _ _ _ hr    => exact fun _ _ _ => hr ▸ Registry.timer?_clearTimers
  | starts _ _ timers e _ hr =>
    rw [hr]
    refine h.keepTimers fun k series hm => ?_
    rw [e, Timer.map_target_startAll, Registry.mem_missingTargets_iff hs.keyed] at hm ⊢
    have ho := Registry.owns_object_of_owns_series hm.left
    exact ⟨ho, fun hn => ⟨ho, hn⟩⟩
  | openTab ho =>
    exact escorted_backfill (s := s.withRegistry _) (hs.openTab? ho).keyed <|
      h.of_timer?_eq fun _ => Registry.timer?_openTab? ho
  | closeTab => exact h.closeTab
  | openChart ho =>
    exact escorted_backfill (s := s.withRegistry _) (hs.openChart ho).keyed <|
      h.of_timer?_eq fun _ => Registry.timer?_openChart ho
  | closeChart ht => exact h.closeChart ht

-- What a session owes to its events about the parts of its tabs.
structure Coheres (es : List Event) (s : Session) : Prop where
  sound    : s.registry.Sound
  tabs     : ∀ k t, s.registry.tab? k = some t → t.Consistent (arrivals k es)
  escorted : s.registry.Escorted

theorem Coheres.init {c : Config} : Coheres [] (.new c) :=
  ⟨.new, fun _ _ ht => by contradiction, .new⟩

theorem Coheres.step (h : Coheres es s) : Coheres (es ++ [⟨s, op⟩]) (s.step op).session :=
  have hc : s.Course op (s.step op) := course h.sound.keyed op
  ⟨hc.sound h.sound, fun k _ ht => (hc.alters ht).consistent (h.tabs k), hc.escorted h.sound h.escorted⟩

theorem coheres (c : Config) (ops : List Operation) : Coheres ((new c).events ops) ((new c).run ops) :=
  run_induction .init (fun _ _ _ h => h.step) ops

-- Whatever happens, and whenever polling is started, every chart is kept under its own series and has
-- the last of the points that came for it, no more than there is room for, with the newest one's value
-- next to its legend. A chart that is marked as touched last is open and has the point that came last
-- of all to the tab. Every series that is polled has a chart, and its object is polled too.
theorem tabs_are_consistent {c : Config} {ops : List Operation}
    (ht : ((new c).run ops).tab? k = some t) :
    (∀ series chart, t.chart? series = some chart → chart.key = series ∧
      chart.history.capacity = max 1 c.seriesCapacity.toNat ∧
      chart.history.toList.length ≤ max 1 c.seriesCapacity.toNat ∧
      chart.history.toList <:+ Tab.pointsOf series (arrivals k ((new c).events ops)) ∧
      chart.legend = chart.history.last?.bind Point.value) ∧
    (∀ series, t.touched? = some series → ∃ chart p, t.chart? series = some chart ∧
      chart.history.last? = some p ∧
      (arrivals k ((new c).events ops)).getLast? = some (series, p)) ∧
    ∀ series timer, t.seriesTimers.find? series = some timer →
      t.hasChart series ∧ t.objectTimer?.isSome := by
  have ha := coheres c ops
  have h := ha.tabs k t ht
  refine ⟨fun series chart hc => ?charts, fun series hs => ?mark, fun series timer hx => ?timers⟩
  case charts =>
    have hn : t.capacity = c.seriesCapacity.toNat :=
      (ha.sound.tabs k t ht).right.trans (charted c ops).capacity
    have hc := hn ▸ h.charts series chart hc
    exact ⟨hc.key, hc.capacity, hc.length_le, hc.points, hc.legend⟩
  case mark =>
    obtain ⟨h₀, p, hh, hp⟩ := h.marks series hs
    obtain ⟨chart, hc, rfl⟩ := Option.map_eq_some_iff.mp hh
    exact ⟨chart, p, hc, hp⟩
  case timers =>
    refine ⟨?_, ha.escorted.isSome_objectTimer? ht hx⟩
    by_contra hn
    rw [← Registry.owns_series ht] at hn
    rw [Registry.seriesTimer_eq_none ha.sound ht hn] at hx
    contradiction

-- Two charts are polled on demand. The one that has room for two points gets its third one, and then
-- the other one is closed.
theorem consistent_after_eviction : ∃ c ops k t chart p,
    ((new c).run ops).tab? k = some t ∧ t.touched? = some ⟨"x"⟩ ∧
    t.seriesTimers.keys = [⟨"x"⟩] ∧ t.objectTimer?.isSome ∧
    t.chart? ⟨"x"⟩ = some chart ∧ chart.history.toList.map Point.time = [30, 40] ∧
    chart.history.last? = some p ∧ chart.legend = p.value ∧
    (arrivals k ((new c).events ops)).getLast? = some (⟨"x"⟩, p) := by
  let c : Config := { Config.default with seriesCapacity := 2 }
  let k : ObjectKey := ⟨"a", "b"⟩
  let options : DisplayOptions := ⟨none, none, false, false⟩
  let ops : List Operation := [
    .openTab k none ⟨true, []⟩,
    .openChart k ⟨"x"⟩ options ⟨true⟩,
    .openChart k ⟨"y"⟩ options ⟨true⟩,
    .activateFallback,
    .polledValue k ⟨"x"⟩ ⟨some 1, none⟩ 10,
    .polledValue k ⟨"y"⟩ ⟨some 2, none⟩ 20,
    .polledValue k ⟨"x"⟩ ⟨some 3, none⟩ 30,
    .polledValue k ⟨"x"⟩ ⟨none, none⟩ 40,
    .closeChart k ⟨"y"⟩]
  have hr : (((new c).run ops).tab? k).map (fun t => (t.touched?, t.seriesTimers.keys,
      (t.chart? ⟨"x"⟩).map (·.history.toList.map Point.time))) =
      some (some ⟨"x"⟩, [⟨"x"⟩], some [30, 40]) := by
    decide +kernel
  obtain ⟨t, ht, hr⟩ := Option.map_eq_some_iff.mp hr
  simp only [Prod.mk.injEq] at hr
  obtain ⟨hs, hk, hp⟩ := hr
  have ⟨hc, hm, hx⟩ := tabs_are_consistent ht
  obtain ⟨chart, p, h', hl, ha⟩ := hm ⟨"x"⟩ hs
  have ⟨_, _, _, _, hv⟩ := hc ⟨"x"⟩ chart h'
  have ho : t.seriesTimers.contains ⟨"x"⟩ := SortedMap.mem_keys_iff.mp (by simp [hk])
  obtain ⟨timer, ho⟩ := Option.isSome_iff_exists.mp ho
  rw [h', Option.map_some] at hp
  rw [hl, Option.bind_some] at hv
  exact ⟨c, ops, k, t, chart, p, ht, hs, hk, (hx ⟨"x"⟩ timer ho).right, h', Option.some.inj hp, hl,
    hv, ha⟩

end Session
end FleetMonitor
