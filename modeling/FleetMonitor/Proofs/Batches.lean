import FleetMonitor.Proofs.Deliveries

namespace FleetMonitor

namespace Chart

-- A chart at the end of a pass.
theorem repaint_alignTo {c : Chart} {w? : Option Window} :
    (c.alignTo w?).repaint = { c with window? := w?.or c.window?, dirty := false } := by
  cases w? with
  | none   => rfl
  | some w =>
    change (c.setWindow (some w)).repaint = _
    unfold setWindow
    split
    case isTrue h  => rw [Option.some_or, ← h]; rfl
    case isFalse h => rfl

end Chart

-- The window that a tab with this range has once a point with the given time came last.
def TimeRange.windowAt (r : TimeRange) (time : Millis) : Window :=
  match r with
  | .fixed w     => w
  | .follow span => .ending span time

namespace Tab

-- What ends a pass.
def finish (t : Tab) : Tab :=
  t.align.repaint

variable {t t' : Tab} {s : SeriesKey} {p : Point} {points points' : List (SeriesKey × Point)}
  {calls calls' : List TabCall} {n n' : Nat}

theorem chart?_finish :
    t.finish.chart? s = (t.chart? s).map fun c => (c.alignTo t.canonical?).repaint := by
  rw [finish, chart?_repaint, chart?_align, Option.map_map]
  rfl

theorem hasChart_finish : t.finish.hasChart s = t.hasChart s := by
  rw [hasChart_eq_isSome, hasChart_eq_isSome, chart?_finish, Option.isSome_map]

theorem canonical?_finish : t.finish.canonical? = t.canonical? := by
  have hh : t.finish.history? = t.history? :=
    funext fun _ => history?_repaint.trans history?_align
  rw [canonical?_eq, canonical?_eq, hh]
  rfl

theorem finish_finish : t.finish.finish = t.finish := by
  refine eq_of_chart? rfl fun s => ?_
  rw [chart?_finish, canonical?_finish, chart?_finish, Option.map_map]
  congr 1
  funext c
  simp only [Function.comp_apply, Chart.repaint_alignTo]
  cases t.canonical? <;> rfl

theorem append_of_hasChart (h : t.hasChart s) : t.append s p =
    { t with charts := t.charts.modify s (·.append p), touched? := some s } :=
  if_pos h

theorem append_of_not_hasChart (h : ¬t.hasChart s) : t.append s p = t :=
  if_neg h

-- Once a chart was touched there is a window to share, whatever was before.
theorem canonical?_append (h : t.hasChart s) :
    (t.append s p).canonical? = some (t.range.windowAt p.time) := by
  have hh : ∃ h₀, (t.append s p).history? s = some h₀ ∧ h₀.last? = some p := by
    rw [← isSome_history?] at h
    obtain ⟨h₀, hh⟩ := Option.isSome_iff_exists.mp h
    exact ⟨h₀.append p, by simp [history?_append, hh], History.last?_append⟩
  obtain ⟨h₀, hh, hl⟩ := hh
  have ht : (t.append s p).touched? = some s := by rw [append_of_hasChart h]
  have hr : (t.append s p).range = t.range := by rw [append_of_hasChart h]
  rw [canonical?_eq, hr, ht, Option.bind_some, hh]
  cases t.range with
  | fixed w     => rfl
  | follow span => simp only [Option.bind_some, hl, Option.map_some, TimeRange.windowAt]

-- One more point makes up for the end of a pass before it.
theorem finish_append_finish : (t.finish.append s p).finish = (t.append s p).finish := by
  by_cases h : t.hasChart s
  case neg =>
    have hf : ¬t.finish.hasChart s := by rwa [hasChart_finish]
    rw [append_of_not_hasChart h, append_of_not_hasChart hf, finish_finish]
  case pos =>
    have hf : t.finish.hasChart s := by rwa [hasChart_finish]
    refine eq_of_chart? ?_ fun s' => ?_
    · rw [append_of_hasChart h, append_of_hasChart hf]
      rfl
    · rw [chart?_finish, chart?_finish, canonical?_append h, canonical?_append hf, chart?_append,
        chart?_append, chart?_finish, Option.map_map, Option.map_map, Option.map_map]
      congr 1
      funext c
      simp only [Function.comp_apply, Chart.repaint_alignTo, Option.some_or]
      split <;> rfl

-- By induction on the points. If a pass ended right after the next point, nobody could tell later on;
-- and that point makes up for the end before it.
theorem finish_appendAll_finish : (t.finish.appendAll points).finish = (t.appendAll points).finish := by
  induction points generalizing t with
  | nil => exact finish_finish
  | cons sp points hi =>
    calc (t.finish.appendAll (sp :: points)).finish
      _ = ((t.finish.append sp.1 sp.2).appendAll points).finish := rfl
      _ = ((t.finish.append sp.1 sp.2).finish.appendAll points).finish := hi.symm
      _ = ((t.append sp.1 sp.2).finish.appendAll points).finish := by rw [finish_append_finish]
      _ = ((t.append sp.1 sp.2).appendAll points).finish := hi

-- Two passes leave a tab as one pass with the points of both.
theorem pass_pass : ((t.pass calls n points).tab.pass calls' n' points').tab =
    (t.pass calls'' n'' (points ++ points')).tab := by
  have ha : t.appendAll (points ++ points') = (t.appendAll points).appendAll points' :=
    List.foldl_append
  calc ((t.pass calls n points).tab.pass calls' n' points').tab
    _ = ((t.appendAll points).finish.appendAll points').finish := rfl
    _ = ((t.appendAll points).appendAll points').finish := finish_appendAll_finish
    _ = (t.pass calls'' n'' (points ++ points')).tab := by rw [← ha]; rfl

-- Redraws.

-- Every chart drawn once, as it is.
def drawings (t : Tab) : List TabCall :=
  t.charts.values.map fun c => .surface c.key c.surface (.redraw c.history c.window?)

theorem repaintCalls_sublist : t.repaintCalls.Sublist t.drawings := by
  unfold repaintCalls drawings
  induction t.charts.values with
  | nil => exact .slnil
  | cons c cs hi =>
    rw [List.flatMap_cons, List.map_cons, Chart.repaintCalls]
    split
    · exact hi.cons_cons _
    · exact hi.cons _

theorem drawings_repaint : t.repaint.drawings = t.drawings := by
  change ((t.charts.map Chart.repaint).values).map _ = _
  rw [SortedMap.values_map, List.map_map]
  rfl

-- What a pass draws are some of the charts, each of them once and as it is when the pass is over.
theorem redraws_pass (hr : ∀ call ∈ calls, ¬call.isRedraw) :
    ((t.pass calls n points).calls.filter TabCall.isRedraw).Sublist (t.pass calls n points).tab.drawings := by
  have hc : (t.pass calls n points).calls = calls ++ (t.appendAll points).align.repaintCalls := rfl
  have hn : calls.filter TabCall.isRedraw = [] := List.filter_eq_nil_iff.mpr hr
  rw [hc, List.filter_append, hn, List.nil_append]
  refine List.filter_sublist.trans ?_
  exact drawings_repaint.symm ▸ repaintCalls_sublist

-- Batches.

variable {d : Domain} {es fs : List BatchEntry} {time : Millis}

theorem Frame.batchPoints (f : Frame t t') : t'.batchPoints d es time = t.batchPoints d es time := by
  simp only [Tab.batchPoints, f.hasChart]

theorem batchPoints_append :
    t.batchPoints d (es ++ fs) time = t.batchPoints d es time ++ t.batchPoints d fs time :=
  List.filterMap_append

theorem takeBatch_takeBatch (t : Tab) (d : Domain) (es fs : List BatchEntry) (time : Millis) :
    ((t.takeBatch d es time).tab.takeBatch d fs time).tab = (t.takeBatch d (es ++ fs) time).tab ∧
    (t.takeBatch d (es ++ fs) time).delivery.points = (t.takeBatch d es time).delivery.points +
      ((t.takeBatch d es time).tab.takeBatch d fs time).delivery.points := by
  have hf : (t.takeBatch d es time).tab.batchPoints d fs time = t.batchPoints d fs time :=
    frame_pass.batchPoints
  constructor
  · change (((t.takeBatch d es time).tab).pass _ _ _).tab = (t.pass _ _ _).tab
    rw [hf, batchPoints_append]
    exact pass_pass
  · change (t.batchPoints d (es ++ fs) time).length = (t.batchPoints d es time).length + _
    rw [batchPoints_append, List.length_append, ← hf]
    rfl

end Tab

namespace Registry

variable {r : Registry} {k k' : ObjectKey} {t t' : Tab} {d : Domain} {es fs : List BatchEntry}
  {time : Millis}

theorem set_set : (r.set k t).set k t' = r.set k t' := by
  refine eq_of_tab? rfl fun k' => ?_
  rw [tab?_set, tab?_set, tab?_set]
  by_cases hk : k' = k <;> simp [hk, Function.comp_def]

theorem takeBatch_of_none (h : r.tab? k = none) : r.takeBatch k d es time = r.unreached := by
  rw [takeBatch, update, h]
  rfl

theorem takeBatch_of_some (h : r.tab? k = some t) : r.takeBatch k d es time =
    ⟨r.set k (t.takeBatch d es time).tab, (t.takeBatch d es time).calls.map (.call k),
      (t.takeBatch d es time).delivery⟩ := by
  rw [takeBatch, update, h]
  rfl

theorem takeBatch_takeBatch (r : Registry) (k : ObjectKey) (d : Domain) (es fs : List BatchEntry)
    (time : Millis) :
    ((r.takeBatch k d es time).registry.takeBatch k d fs time).registry =
      (r.takeBatch k d (es ++ fs) time).registry ∧
    (r.takeBatch k d (es ++ fs) time).delivery.points = (r.takeBatch k d es time).delivery.points +
      ((r.takeBatch k d es time).registry.takeBatch k d fs time).delivery.points := by
  cases ht : r.tab? k with
  | none =>
    have hr {es : List BatchEntry} : r.takeBatch k d es time = r.unreached := takeBatch_of_none ht
    have hu : r.unreached.registry.takeBatch k d fs time = r.unreached := hr
    rw [hr, hr, hu]
    exact ⟨rfl, rfl⟩
  | some t =>
    have ht' : (r.set k (t.takeBatch d es time).tab).tab? k = some (t.takeBatch d es time).tab :=
      (tab?_set_of_some ht).trans (if_pos rfl)
    obtain ⟨hb, hp⟩ := t.takeBatch_takeBatch d es fs time
    rw [takeBatch_of_some ht, takeBatch_of_some ht, takeBatch_of_some ht']
    exact ⟨set_set.trans (congrArg (r.set k) hb), hp⟩

theorem tab?_takeBatch : (r.takeBatch k d es time).registry.tab? k' =
    (r.tab? k').map fun t => if k' = k then (t.takeBatch d es time).tab else t :=
  tab?_update

theorem clean_takeBatch {s : SeriesKey} {c : Chart}
    (ht : (r.takeBatch k d es time).registry.tab? k = some t) (hc : t.chart? s = some c) :
    c.dirty = false := by
  rw [tab?_takeBatch] at ht
  obtain ⟨t₀, _, rfl⟩ := Option.map_eq_some_iff.mp ht
  rw [if_pos rfl, Tab.takeBatch, Tab.chart?_pass] at hc
  obtain ⟨_, _, rfl⟩ := Option.map_eq_some_iff.mp hc
  rfl

theorem tab?_takeBatch_of_ne (hk : k' ≠ k) :
    (r.takeBatch k d es time).registry.tab? k' = r.tab? k' := by
  simp only [tab?_takeBatch, if_neg hk, Option.map_id']

theorem Settled.takeBatch (h : r.Settled) : (r.takeBatch k d es time).registry.Settled := by
  intro k' t ht
  rw [tab?_takeBatch] at ht
  obtain ⟨t₀, h₀, rfl⟩ := Option.map_eq_some_iff.mp ht
  split
  · exact (h k' t₀ h₀).pass
  · exact h k' t₀ h₀

-- Every chart of a tab drawn once.
def drawings (r : Registry) (k : ObjectKey) : List Effect :=
  (((r.tab? k).map Tab.drawings).getD []).map (.call k)

theorem redraws_takeBatch : ((r.takeBatch k d es time).effects.filter Effect.isRedraw).Sublist
    ((r.takeBatch k d es time).registry.drawings k) := by
  cases ht : r.tab? k with
  | none =>
    rw [takeBatch_of_none ht]
    exact List.nil_sublist _
  | some t =>
    have hr : ∀ call ∈ (if d ∈ t.renderer.sinks then [TabCall.batch t.renderer d es] else []),
        ¬call.isRedraw := by split <;> simp [TabCall.isRedraw]
    have ht' : (r.set k (t.takeBatch d es time).tab).tab? k = some (t.takeBatch d es time).tab :=
      (tab?_set_of_some ht).trans (if_pos rfl)
    rw [takeBatch_of_some ht, drawings, ht', List.filter_map]
    exact (Tab.redraws_pass hr).map _

-- A batch that is taken at once leaves just the tabs that its two parts leave one after the other at
-- the same time, with the same histories, windows, legends and timers, and the same chart as the one
-- that was touched last. It appends as many points as they do together, leaves no chart of its tab
-- marked and the other tabs as they are, so that no chart at all is marked if none was before. And it
-- draws every chart once at most, as it is in the end.
theorem batch_in_parts (r : Registry) (k : ObjectKey) (d : Domain) (es fs : List BatchEntry)
    (time : Millis) :
    let one    := r.takeBatch k d (es ++ fs) time
    let first  := r.takeBatch k d es time
    let second := first.registry.takeBatch k d fs time
    second.registry = one.registry ∧
    one.delivery.points = first.delivery.points + second.delivery.points ∧
    (∀ t s c, one.registry.tab? k = some t → t.chart? s = some c → c.dirty = false) ∧
    (∀ k', k' ≠ k → one.registry.tab? k' = r.tab? k') ∧ (r.Settled → one.registry.Settled) ∧
    (one.effects.filter Effect.isRedraw).Sublist (one.registry.drawings k) := by
  intro one first second
  obtain ⟨hr, hp⟩ := r.takeBatch_takeBatch k d es fs time
  exact ⟨hr, hp, fun t s c ht hc => clean_takeBatch ht hc, fun k' hk => tab?_takeBatch_of_ne hk,
    fun h => h.takeBatch, redraws_takeBatch⟩

-- Either part has a point for both charts, which are drawn twice then. The whole batch draws them once.
-- A row for a series without a chart and a value that stands for no sample make no difference.
theorem batch_in_parts_saves_redraws : ∃ r k d es fs, ∃ time : Millis,
    let one    := Registry.takeBatch r k d (es ++ fs) time
    let first  := Registry.takeBatch r k d es time
    let second := first.registry.takeBatch k d fs time
    r.Settled ∧ first.delivery = ⟨2, 2, 2⟩ ∧ second.delivery = ⟨2, 2, 2⟩ ∧
    one.delivery = ⟨4, 4, 2⟩ ∧ second.registry = one.registry ∧ one.registry.Settled := by
  let k : ObjectKey := ⟨"a", "b"⟩
  let options : DisplayOptions := ⟨none, none, false, false⟩
  let c := Config.default
  let ops : List Operation := [
    .openTab k none ⟨true, []⟩,
    .openChart k ⟨"ionc:x"⟩ options ⟨true⟩,
    .openChart k ⟨"ionc:y"⟩ options ⟨true⟩]
  let r := ((Session.new c).run ops).registry
  let es : List BatchEntry := [⟨"y", .null, []⟩, ⟨"z", .bool true, []⟩, ⟨"x", .bool true, []⟩]
  let fs : List BatchEntry := [⟨"x", .array [], []⟩, ⟨"x", .bool false, []⟩, ⟨"y", .bool true, []⟩]
  have hs : r.Settled := Session.settled c ops
  obtain ⟨hr, _, _, _, hc, _⟩ := batch_in_parts r k .ionc es fs 10
  exact ⟨r, k, .ionc, es, fs, 10, hs, by decide +kernel, by decide +kernel, by decide +kernel, hr, hc hs⟩

end Registry
end FleetMonitor
