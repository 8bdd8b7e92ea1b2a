import FleetMonitor.Proofs.Spans
import FleetMonitor.Proofs.Windows

namespace FleetMonitor

namespace Window

-- The window ends with an instant and begins a span before it, or with the first instant there is.
structure Trails (w : Window) (span newest : Millis) : Prop where
  last  : w.last = newest
  first : w.first.toInt = max (newest.toInt - span.toInt) Int64.minValue.toInt

variable {w : Window} {a b span newest time : Millis}

theorem toInt_pos (h : 0 < span) : 0 < span.toInt :=
  Int64.lt_iff_toInt_lt.mp h

theorem toInt_saturatingSub :
    (saturatingSub a b).toInt = IntRange.int64.saturate (a.toInt - b.toInt) := by
  refine Int64.toInt_ofInt_of_le ?_ ?_ <;> simp only [IntRange.saturate, IntRange.int64] <;> omega

-- The difference can be too small for an instant but not too large.
theorem toInt_saturatingSub_of_pos (h : 0 < b) :
    (saturatingSub a b).toInt = max (a.toInt - b.toInt) Int64.minValue.toInt := by
  have hb := toInt_pos h
  have ha := a.toInt_lt
  rw [toInt_saturatingSub, Int64.toInt_minValue]
  simp only [IntRange.saturate, IntRange.int64]
  omega

theorem trails_ending (h : 0 < span) : (ending span newest).Trails span newest := by
  have hf := toInt_saturatingSub_of_pos (a := newest) h
  have hl : saturatingSub newest span ≤ newest := by
    have hs := toInt_pos h
    have hn := newest.le_toInt
    rw [Int64.le_iff_toInt_le, hf, Int64.toInt_minValue]
    omega
  rw [ending, between, if_pos hl]
  exact ⟨rfl, hf⟩

namespace Trails

theorem first_le_last (h : w.Trails span newest) (hs : 0 < span) : w.first ≤ w.last := by
  have hs := toInt_pos hs
  have hn := newest.le_toInt
  rw [Int64.le_iff_toInt_le, h.first, h.last, Int64.toInt_minValue]
  omega

theorem width_le (h : w.Trails span newest) : w.last.toInt - w.first.toInt ≤ span.toInt := by
  rw [h.first, h.last]
  omega

-- The width is computed without overflow, since it does not exceed the span.
theorem map_toInt_span? (h : w.Trails span newest) (hs : 0 < span) :
    w.span?.map Int64.toInt = some (w.last.toInt - w.first.toInt) := by
  refine Window.map_toInt_span? (h.first_le_last hs) fun ho => ?_
  have hw : w.width ≤ span.toInt := h.width_le
  have hm := span.toInt_lt
  rw [Overflows, Int64.toInt_maxValue] at ho
  omega

theorem contains (h : w.Trails span newest) (hs : 0 < span) : w.contains newest := by
  have hl := h.first_le_last hs
  rw [h.last] at hl
  simp [Window.contains, h.last, hl]

end Trails

end Window

namespace Feed

-- The time of the points that a feed has.
def time? : Feed → Option Millis
  | snapshot _ time => some time
  | batch _ _ time  => some time
  | value _ _ time  => some time
  | range _         => none

variable {f : Feed} {s : SeriesKey} {p : Point}

theorem time?_of_mem_points (h : p ∈ f.points s) : f.time? = some p.time := by
  cases f with
  | snapshot data time =>
    obtain ⟨_, _, rfl⟩ := Option.map_eq_some_iff.mp (Option.mem_toList.mp h)
    rfl
  | batch d entries time =>
    obtain ⟨e, _, he⟩ := List.mem_filterMap.mp h
    split at he
    case isTrue =>
      obtain ⟨_, _, rfl⟩ := Option.map_eq_some_iff.mp he
      rfl
    case isFalse => contradiction
  | value s' y time =>
    by_cases e : s' = s
    case pos => rw [points, if_pos e] at h; exact List.mem_singleton.mp h ▸ rfl
    case neg => rw [points, if_neg e] at h; contradiction
  | range r => contradiction

end Feed

namespace Tab

-- All charts have the given window.
def Shows (t : Tab) (w : Window) : Prop :=
  ∀ s c, t.chart? s = some c → c.window? = some w

-- The newest point of the chart that was touched last.
def newest? (t : Tab) : Option Point :=
  (t.touched?.bind t.history?).bind History.last?

variable {t : Tab} {s : SeriesKey} {p : Point} {points : List (SeriesKey × Point)} {f : Feed}
  {q : Pass} {w : Window} {time : Millis}

theorem canonical?_eq_newest? : t.canonical? =
    match t.range with
    | .fixed w     => some w
    | .follow span => t.newest?.map fun p => .ending span p.time := by
  rw [canonical?_eq]
  cases t.range with
  | fixed w     => rfl
  | follow span => exact Option.map_bind.symm

theorem range_append : (t.append s p).range = t.range := by
  unfold append
  split <;> rfl

theorem range_appendAll : (t.appendAll points).range = t.range := by
  induction points generalizing t with
  | nil               => rfl
  | cons sp points hi => exact hi.trans range_append

theorem newest?_append : (t.append s p).newest? = if t.hasChart s then some p else t.newest? := by
  by_cases hc : t.hasChart s
  case neg => rw [append, if_neg hc, if_neg hc]
  case pos =>
    obtain ⟨h, hh⟩ := Option.isSome_iff_exists.mp (isSome_history?.trans hc)
    have ht : (t.append s p).touched? = some s := by rw [append, if_pos hc]
    rw [newest?, ht, Option.bind_some, history?_append, hh, if_pos hc]
    simp

-- If the points for the charts of the tab have one time, then so has the newest point after them,
-- whatever charts there are points for and in whatever order.
theorem time_newest?_appendAll (hs : t.hasChart s) (hp : pointsOf s points ≠ [])
    (ht : ∀ s p, t.hasChart s → p ∈ pointsOf s points → p.time = time) :
    (t.appendAll points).newest?.map Point.time = some time := by
  induction points using List.reverseRec with
  | nil => contradiction
  | append_singleton points sp hi =>
    have ⟨s', p⟩ := sp
    have ha : t.appendAll (points ++ [(s', p)]) = (t.appendAll points).append s' p := by
      rw [appendAll, List.foldl_append]
      rfl
    have hm : ∀ s, pointsOf s (points ++ [(s', p)]) =
        pointsOf s points ++ if s' = s then [p] else [] := by
      intro s
      rw [pointsOf_append]
      by_cases e : s' = s <;> simp [pointsOf, e]
    rw [ha, newest?_append, frame_appendAll.hasChart]
    by_cases hc : t.hasChart s'
    case pos =>
      rw [if_pos hc, Option.map_some, ht s' p hc (by simp [hm])]
    case neg =>
      have hn : s' ≠ s := fun e => hc (e ▸ hs)
      rw [if_neg hc]
      refine hi (by simpa [hm, hn] using hp) fun s p hs hp => ht s p hs ?_
      rw [hm]
      exact List.mem_append_left _ hp

-- A point of a feed for one of the charts settles the shared window.
theorem canonical?_take (hq : t.take? f = some q) (hs : t.hasChart s) (hp : p ∈ f.points s) :
    q.tab.canonical? =
      match t.range with
      | .fixed w     => some w
      | .follow span => some (.ending span p.time) := by
  have ht : t.Takes f (some q) := hq ▸ takes
  cases ht with
  | pass calls n points _ _ he =>
    have hr : t.ranged f = t := by
      cases f <;> first | rfl | contradiction
    rw [hr, canonical?_pass, canonical?_eq_newest?, range_appendAll]
    cases t.range with
    | fixed w     => rfl
    | follow span =>
      have hn : pointsOf s points ≠ [] := by
        rw [he s hs]
        exact List.ne_nil_of_mem hp
      have hm := time_newest?_appendAll hs hn fun s' p' hs' hp' => by
        rw [he s' hs'] at hp'
        exact Option.some.inj ((Feed.time?_of_mem_points hp').symm.trans (Feed.time?_of_mem_points hp))
      obtain ⟨p', hp', ht⟩ := Option.map_eq_some_iff.mp hm
      simp only [hp', Option.map_some, ht]

theorem shows_take (hq : t.take? f = some q) (hw : q.tab.canonical? = some w) : q.tab.Shows w := by
  have ht : t.Takes f (some q) := hq ▸ takes
  cases ht with
  | pass =>
    intro s c hc
    obtain ⟨_, _, e⟩ := window?_pass hc
    rw [e, hw, Option.some_or]

-- A tab that has a point for one of its charts makes a pass over them.
theorem isSome_take? (hs : t.hasChart s) (hp : p ∈ f.points s) : ∃ q, t.take? f = some q := by
  cases hq : t.take? f with
  | some q => exact ⟨q, rfl⟩
  | none =>
    have ht : t.Takes f none := hq ▸ takes
    cases ht with
    | nothing h =>
      rw [h s hs] at hp
      contradiction

end Tab

namespace Session

variable {k : ObjectKey} {series : SeriesKey} {op : Operation} {t : Tab} {p : Point}

-- Once an operation has a point for a chart of a tab, all charts of the tab have the window that the
-- range fixes, or the one that trails the point by the span: it begins no later than it ends, it is
-- no wider than the span, and it contains all points that the operation had for the tab.
theorem windows_follow_points {c : Config} {ops : List Operation}
    (ht : ((new c).run ops).tab? k = some t) (hs : t.hasChart series)
    (hp : p ∈ ((new c).run ops).pointsFor k series op) :
    ∃ t', ((new c).run (ops ++ [op])).tab? k = some t' ∧
      (∀ s, t'.history? s = (t.history? s).map (·.appendAll (((new c).run ops).pointsFor k s op))) ∧
      (∀ s, ∀ p' ∈ ((new c).run ops).pointsFor k s op, p'.time = p.time) ∧
      match t.range with
      | .fixed w     => t'.Shows w
      | .follow span => 0 < span → ∃ w, t'.Shows w ∧ w.Trails span p.time ∧ w.first ≤ w.last ∧
        w.last.toInt - w.first.toInt ≤ span.toInt ∧
        w.span?.map Int64.toInt = some (w.last.toInt - w.first.toInt) ∧ w.contains p.time := by
  have hf : ∃ f, ((new c).run ops).feedOf? k op = some f := by
    rw [pointsFor_eq] at hp
    cases hf : ((new c).run ops).feedOf? k op with
    | some f => exact ⟨f, rfl⟩
    | none   => simp [hf] at hp
  obtain ⟨f, hf⟩ := hf
  have he : ∀ s, ((new c).run ops).pointsFor k s op = f.points s := by simp [pointsFor_eq, hf]
  simp only [he] at hp ⊢
  obtain ⟨q, hq⟩ := Tab.isSome_take? hs hp
  have hd : t.feed f = q.tab := by rw [Tab.feed, hq, Option.map_some, Option.getD_some]
  have hw := Tab.canonical?_take hq hs hp
  refine ⟨q.tab, ?after, fun s => hd ▸ Tab.history?_feed, fun s p' hp' => ?time, ?window⟩
  case after =>
    rw [run_concat]
    refine tab?_of_pass? (sound c ops).keyed ?_
    rw [pass?, hf, Option.bind_some, ht, Option.bind_some, hq]
  case time =>
    exact Option.some.inj ((Feed.time?_of_mem_points hp').symm.trans (Feed.time?_of_mem_points hp))
  case window =>
    cases hr : t.range with
    | fixed w =>
      rw [hr] at hw
      exact Tab.shows_take hq hw
    | follow span =>
      rw [hr] at hw
      intro hs
      have h : (Window.ending span p.time).Trails span p.time := Window.trails_ending hs
      exact ⟨_, Tab.shows_take hq hw, h, h.first_le_last hs, h.width_le, h.map_toInt_span? hs,
        h.contains hs⟩

-- At the lower end of the instants the window is cut short, in a chart that keeps one point.
theorem windows_follow_earliest : ∃ c ops k series op t t' p w,
    ((new c).run ops).tab? k = some t ∧ t.hasChart series ∧
    p ∈ ((new c).run ops).pointsFor k series op ∧ t.range = .follow 900000 ∧
    ((new c).run (ops ++ [op])).tab? k = some t' ∧ t'.Shows w ∧
    w = ⟨Int64.minValue, Int64.minValue + 5⟩ ∧ w.contains p.time := by
  let c := { Config.default with seriesCapacity := 1 }
  let k : ObjectKey := ⟨"a", "b"⟩
  let options : DisplayOptions := ⟨none, none, false, false⟩
  let ops : List Operation := [
    .openTab k none ⟨true, []⟩,
    .activateFallback,
    .openChart k ⟨"x"⟩ options ⟨true⟩]
  let op : Operation := .polledValue k ⟨"x"⟩ ⟨some 1, none⟩ (Int64.minValue + 5)
  have hr : (((new c).run ops).tab? k).map (fun t => (t.hasChart ⟨"x"⟩, t.range)) =
      some (true, .follow 900000) := by decide +kernel
  have ⟨t, ht, hr⟩ := Option.map_eq_some_iff.mp hr
  have ⟨hs, hr⟩ := Prod.mk.inj hr
  have hp : (((new c).run ops).pointsFor k ⟨"x"⟩ op).map Point.time = [Int64.minValue + 5] := by
    decide +kernel
  have ⟨p, hp, hm⟩ := List.map_eq_singleton_iff.mp hp
  replace hp : p ∈ ((new c).run ops).pointsFor k ⟨"x"⟩ op := hp ▸ List.mem_singleton.mpr rfl
  have ⟨t', ht', _, _, h⟩ := windows_follow_points ht hs hp
  rw [hr] at h
  have ⟨w, hw, h, _, _, _, hc⟩ := h (by decide)
  have hf : w.first = Int64.minValue := Int64.toInt_inj.mp (by rw [h.first, hm]; decide)
  refine ⟨c, ops, k, ⟨"x"⟩, op, t, t', p, w, ht, hs, hp, hr, ht', hw, ?_, hc⟩
  rw [← hm, ← h.last, ← hf]

end Session
end FleetMonitor
