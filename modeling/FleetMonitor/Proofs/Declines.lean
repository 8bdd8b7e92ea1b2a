import FleetMonitor.Proofs.Teardown
import FleetMonitor.Proofs.Transports
import FleetMonitor.Proofs.Unrouted

namespace FleetMonitor

-- The answers to operations that are declined.
def Answer.declines : Answer → Bool
  | flag b     => !b
  | delivery d => d = .empty
  | _          => false

theorem Delivery.ne_empty_of_routed {d : Delivery} (h : d.isUnrouted = false) : d ≠ .empty := by
  rintro rfl
  contradiction

theorem SortedMap.erase_eq_self {κ : Type u} {α : Type v} [Ord κ] [Std.TransOrd κ]
    [Std.LawfulEqOrd κ] {m : SortedMap κ α} {k : κ} (h : m.find? k = none) : m.erase k = m := by
  apply ext_find?
  intro k'
  rw [find?_erase]
  split
  case isTrue hk => rw [Std.LawfulEqOrd.eq_of_compare hk, h]
  case isFalse   => rfl

-- A chart's timer and the mark of the last touch are removed before anything is known of the chart.
-- Without the chart neither of them is there.
theorem Tab.closeChart_eq_self {t : Tab} {s : SeriesKey} (hc : ¬t.hasChart s)
    (hm : t.touched? ≠ some s) (hx : t.seriesTimers.find? s = none) : t.closeChart s = t := by
  have hn : t.charts.find? s = none := by
    simpa [Tab.hasChart_eq_isSome, Tab.chart?] using hc
  rw [closeChart, SortedMap.erase_eq_self hn, SortedMap.erase_eq_self hx, if_neg hm]

namespace Registry

variable {r : Registry} {k : ObjectKey} {s : SeriesKey} {t : Tab}

theorem owns_object : r.owns (.object k) = r.contains k := by
  rw [contains_eq_isSome, owns, PollTarget.key]
  cases r.tab? k <;> rfl

theorem owns_series (h : r.tab? k = some t) : r.owns (.series k s) = t.hasChart s := by
  rw [owns, PollTarget.key, h]
  rfl

theorem isUnrouted_takeValue {value : Sample} {time : Millis} (h : r.owns (.series k s)) :
    (r.takeValue k s value time).delivery.isUnrouted = false := by
  obtain ⟨t, ht, hc⟩ := (Option.any_eq_true _ _).mp h
  replace ht : r.tab? k = some t := ht
  obtain ⟨c, hc⟩ := Option.isSome_iff_exists.mp hc
  replace hc : t.chart? s = some c := hc
  simp [takeValue, update, ht, Tab.takeValue?, hc, Tab.pass, Delivery.isUnrouted]

theorem seriesTimer_eq_none (hs : r.Sound) (ht : r.tab? k = some t) (h : ¬r.owns (.series k s)) :
    t.seriesTimers.find? s = none := by
  have hx : r.timer? (.series k s) = none := timer?_eq_none_of_not_owns hs h
  rwa [timer?, PollTarget.key, ht] at hx

theorem closeTab_eq_self (h : ¬r.owns (.object k)) : r.closeTab k = r := by
  have hn : r.tabs.find? k = none := tab?_of_not_owns h
  rw [closeTab, SortedMap.erase_eq_self hn]

theorem closeChart_eq_self (hs : r.Sound) (hd : r.Settled) (ht : r.tab? k = some t)
    (h : ¬r.owns (.series k s)) : r.set k (t.closeChart s) = r := by
  have hx : t.seriesTimers.find? s = none := seriesTimer_eq_none hs ht h
  rw [owns_series ht] at h
  have hm : t.touched? ≠ some s := Tab.touched?_ne_of_not_hasChart (hd k t ht).touched h
  rw [Tab.closeChart_eq_self h hm hx, set_self ht]

end Registry

namespace Session

-- Whether a session can do what it is asked for. What is opened must not be open yet, and what is
-- closed must be. Polled data must be for something that is open on a tab that is polled.
def accepts (s : Session) : Operation → Bool
  | .openTab k _ _             => !s.registry.owns (.object k)
  | .closeTab k                => s.registry.owns (.object k)
  | .openChart k series _ _    => s.registry.owns (.object k) && !s.registry.owns (.series k series)
  | .closeChart k series       => s.registry.owns (.series k series)
  | .setRange k _              => s.registry.owns (.object k)
  | .polledSnapshot k _ _      => s.acceptsPolled k
  | .polledValue k series _ _  => s.acceptsPolled k && s.registry.owns (.series k series)
  | _                          => true

-- An operation that is declined just if it is not accepted, and then does nothing at all.
structure Declines (s : Session) (op : Operation) (st : Step Answer) : Prop where
  iff  : st.answer.declines ↔ ¬s.accepts op
  same : st.answer.declines → st.session = s ∧ st.effects = []

variable {s : Session} {op : Operation} {st : Step Answer} {k : ObjectKey} {series : SeriesKey}
  {received : Millis}

namespace Declines

theorem of_accepted (h : s.accepts op) (ha : st.answer.declines = false) : s.Declines op st where
  iff    := by simp [h, ha]
  same d := by simp [ha] at d

theorem of_declined {a : Answer} (h : ¬s.accepts op) (ha : a.declines) : s.Declines op ⟨s, a, []⟩ where
  iff  := by simp [h, ha]
  same := fun _ => ⟨rfl, rfl⟩

theorem openTab {name? : Option String} {renderer : Renderer} :
    s.Declines (.openTab k name? renderer) ((s.openTab k name? renderer).map .flag) := by
  unfold Session.openTab Registry.openTab?
  by_cases h : s.registry.contains k
  case pos =>
    rw [if_pos h]
    exact .of_declined (by simp [accepts, Registry.owns_object, h]) rfl
  case neg =>
    rw [if_neg h]
    exact .of_accepted (by simp [accepts, Registry.owns_object, h]) rfl

theorem closeTab : s.Declines (.closeTab k) ((s.closeTab k).map .flag) := by
  by_cases h : s.registry.owns (.object k)
  case pos =>
    refine .of_accepted h ?_
    rw [Registry.owns_object] at h
    simp [Session.closeTab, Step.map, Answer.declines, h]
  case neg =>
    have ht : s.registry.tab? k = none := Registry.tab?_of_not_owns h
    unfold Session.closeTab
    rw [Registry.closeTab_eq_self h, Registry.timersOf, Registry.contains_eq_isSome, ht]
    exact .of_declined h rfl

theorem openChart {options : DisplayOptions} {surface : Surface} :
    s.Declines (.openChart k series options surface)
      ((s.openChart k series options surface).map .flag) := by
  unfold Session.openChart tab?
  have ho : s.registry.owns (.object k) = (s.registry.tab? k).isSome := Registry.owns_object
  cases ht : s.registry.tab? k with
  | none => exact .of_declined (by simp [accepts, ho, ht]) rfl
  | some t =>
    have hs : s.registry.owns (.series k series) = t.hasChart series := Registry.owns_series ht
    by_cases hc : t.hasChart series
    case pos =>
      have hn : t.openChart? series options surface = none := if_pos hc
      rw [Option.bind_some, hn]
      exact .of_declined (by simp [accepts, hs, hc]) rfl
    case neg =>
      obtain ⟨t', h⟩ : ∃ t', t.openChart? series options surface = some t' := Tab.exists_openChart? hc
      rw [Option.bind_some, h]
      exact .of_accepted (by simp [accepts, ho, ht, hs, hc]) rfl

theorem closeChart (hs : s.registry.Sound) (hd : s.registry.Settled) :
    s.Declines (.closeChart k series) ((s.closeChart k series).map .flag) := by
  unfold Session.closeChart tab?
  cases ht : s.registry.tab? k with
  | none => exact .of_declined (by simp [accepts, Registry.owns, PollTarget.key, ht]) rfl
  | some t =>
    have ho : s.registry.owns (.series k series) = t.hasChart series := Registry.owns_series ht
    by_cases hc : t.hasChart series
    case pos => exact .of_accepted (by simp [accepts, ho, hc]) (by simp [Step.map, Answer.declines, hc])
    case neg =>
      have hn : ¬s.registry.owns (.series k series) := ho ▸ hc
      have hx : t.seriesTimers.find? series = none := Registry.seriesTimer_eq_none hs ht hn
      dsimp only
      rw [Registry.closeChart_eq_self hs hd ht hn, hx, Bool.eq_false_iff.mpr hc]
      exact .of_declined hn rfl

theorem setRange {range : TimeRange} (hk : s.registry.Keyed) :
    s.Declines (.setRange k range) ((s.setRange k range).map .flag) := by
  by_cases h : s.registry.owns (.object k)
  case pos =>
    refine .of_accepted h ?_
    rw [Registry.owns_object] at h
    simp [Session.setRange, Step.map, Answer.declines, h]
  case neg =>
    rw [(ignores hk h).ranges k range (by simp [PollTarget.includes, PollTarget.key])]
    exact .of_declined h rfl

theorem polledSnapshot {p : PolledSnapshot} :
    s.Declines (.polledSnapshot k p received) ((s.polledSnapshot k p received).map .delivery) := by
  unfold Session.polledSnapshot
  by_cases h : s.acceptsPolled k
  case pos =>
    refine .of_accepted h ?_
    rw [takePolled, if_pos h]
    exact decide_eq_false (Delivery.ne_empty_of_routed (isUnrouted_takeSnapshot h))
  case neg =>
    rw [takePolled_of_not_acceptsPolled h]
    exact .of_declined h rfl

theorem polledValue {p : PolledValue} (hk : s.registry.Keyed) :
    s.Declines (.polledValue k series p received) ((s.polledValue k series p received).map .delivery) := by
  by_cases hc : s.registry.owns (.series k series)
  case neg =>
    rw [(ignores hk hc).values k series p received (by simp [PollTarget.includes])]
    exact .of_declined (by simp [accepts, hc]) rfl
  case pos =>
    unfold Session.polledValue
    by_cases h : s.acceptsPolled k
    case pos =>
      refine .of_accepted (by simp [accepts, h, hc]) ?_
      rw [takePolled, if_pos h]
      exact decide_eq_false (Delivery.ne_empty_of_routed (Registry.isUnrouted_takeValue hc))
    case neg =>
      rw [takePolled_of_not_acceptsPolled h]
      exact .of_declined (by simp [accepts, h]) rfl

end Declines

theorem declines (hs : s.registry.Sound) (hd : s.registry.Settled) (op : Operation) :
    s.Declines op (s.step op) := by
  cases op
  case openTab        => exact .openTab
  case closeTab       => exact .closeTab
  case openChart      => exact .openChart
  case closeChart     => exact .closeChart hs hd
  case setRange       => exact .setRange hs.keyed
  case polledSnapshot => exact .polledSnapshot
  case polledValue    => exact .polledValue hs.keyed
  all_goals exact .of_accepted rfl rfl

-- An operation is declined exactly if what it is for is open already or not open, or is not polled
-- when polled data comes for it. Then the session stays the same in every respect, and no renderer, no
-- surface and no timer is asked for anything.
theorem declined_changes_nothing (c : Config) (ops : List Operation) (op : Operation) :
    let s := (new c).run ops
    ((s.step op).answer.declines ↔ ¬s.accepts op) ∧
    ((s.step op).answer.declines → (s.step op).session = s ∧ (s.step op).effects = []) := by
  intro s
  have h : s.Declines op (s.step op) := declines (sound c ops) (settled c ops) op
  exact ⟨h.iff, h.same⟩

-- One chart of a polled tab is open and was touched. What is asked for another one is declined, and so
-- is to open the one chart or the tab again.
theorem declined_beside_touched_chart : ∃ c ops k,
    let s := (new c).run ops
    s.registry.timers.length = 2 ∧ (s.tab? k).bind Tab.touched? = some ⟨"x"⟩ ∧
    ∀ op ∈ [.closeChart k ⟨"y"⟩, .polledValue k ⟨"y"⟩ ⟨some 1, none⟩ 20, .openTab k none ⟨true, []⟩,
        .openChart k ⟨"x"⟩ ⟨none, none, false, false⟩ ⟨true⟩],
      (s.step op).answer.declines ∧ (s.step op).session = s ∧ (s.step op).effects = [] := by
  let c : Config := { Config.default with maxReconnectAttempts := 1 }
  let k : ObjectKey := ⟨"a", "b"⟩
  let ops : List Operation := [
    .openTab k none ⟨true, []⟩,
    .openChart k ⟨"x"⟩ ⟨none, none, false, false⟩ ⟨true⟩,
    .connect,
    .transportError 0.5,
    .polledValue k ⟨"x"⟩ ⟨some 1, none⟩ 10]
  refine ⟨c, ops, k, by decide +kernel, by decide +kernel, fun op hm => ?_⟩
  have hd : (((new c).run ops).step op).answer.declines := by
    revert op
    decide +kernel
  exact ⟨hd, (declined_changes_nothing c ops op).right hd⟩

end Session
end FleetMonitor
