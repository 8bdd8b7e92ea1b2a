import FleetMonitor.Proofs.Deliveries
import FleetMonitor.Proofs.Windows

namespace FleetMonitor

namespace Tab

-- How many charts do not have the window that the charts of the tab are to share.
def stragglers (t : Tab) : Nat :=
  t.charts.misaligned t.range t.touched?

variable {t : Tab} {f : Feed} {p : Pass}

theorem stragglers_eq_zero_iff : t.stragglers = 0 ↔
    ∀ s c, t.chart? s = some c → t.canonical?.or c.window? = c.window? := by
  unfold stragglers Charts.misaligned canonical?
  cases t.charts.canonical? t.range t.touched? with
  | none   => simp
  | some w =>
    have hw (w? : Option Window) : decide (w? ≠ some w) = true ↔ ¬some w = w? := by
      rw [decide_eq_true_iff, ne_comm]
    simp only [List.countP_eq_zero, SortedMap.mem_values_iff, hw, not_not, Option.some_or]
    constructor
    case mp  => exact fun h s c hc => h c ⟨s, hc⟩
    case mpr => exact fun h c ⟨s, hc⟩ => h s c hc

theorem length_repaintCalls : t.repaintCalls.length = t.charts.dirtyCount := by
  have hr : ∀ call ∈ t.repaintCalls, call.isRedraw := by
    intro call hm
    obtain ⟨c, _, hm⟩ := List.mem_flatMap.mp hm
    obtain ⟨call, hm, rfl⟩ := List.mem_map.mp hm
    unfold Chart.repaintCalls at hm
    split at hm
    case isTrue  => rw [List.mem_singleton.mp hm]; rfl
    case isFalse => contradiction
  rw [← countP_repaintCalls, List.countP_eq_length.mpr hr]

namespace Settled

-- A pass without points draws just the charts that it moves.
theorem dirtyCount_align (h : t.Settled) : t.align.charts.dirtyCount = t.stragglers := by
  have hc : ∀ c ∈ t.charts.values, c.dirty = false := by
    intro c hm
    obtain ⟨s, hs⟩ := SortedMap.mem_values_iff.mp hm
    exact h.clean s c hs
  change (t.charts.align t.range t.touched?).dirtyCount = _
  unfold stragglers Charts.misaligned Charts.align Charts.dirtyCount
  cases t.charts.canonical? t.range t.touched? with
  | none   => exact List.countP_eq_zero.mpr fun c hm => by simp [hc c hm]
  | some w =>
    rw [SortedMap.values_map, List.countP_map]
    refine List.countP_congr fun c hm => ?_
    rw [Function.comp_apply, Chart.dirty_setWindow, hc c hm, Bool.false_or, decide_eq_true_iff,
      decide_eq_true_iff, ne_comm]

theorem repaint_align (h : t.Settled) (hn : t.stragglers = 0) : t.align.repaint = t := by
  refine eq_of_chart? rfl fun s => ?_
  rw [chart?_repaint, chart?_align, Option.map_map]
  cases hc : t.chart? s with
  | none   => rfl
  | some c =>
    have hw := stragglers_eq_zero_iff.mp hn s c hc
    have hd := h.clean s c hc
    simp [Chart.alignTo_eq_self hw, Chart.repaint_eq_self hd]

end Settled

-- Of all feeds but a new range only a batch makes a pass that nobody takes anything from.
theorem take?_of_unconsumed (hp : t.take? f = some p) (hf : ∀ r, f ≠ .range r)
    (hn : p.delivery.consumers = 0) : (∃ d es time, f = .batch d es time) ∧
      p = ⟨t.align.repaint, t.align.repaintCalls, ⟨0, 0, t.align.charts.dirtyCount⟩⟩ := by
  have hb : ∃ d es time, f = .batch d es time := by
    cases f with
    | batch d es time => exact ⟨d, es, time, rfl⟩
    | range r         => exact absurd rfl (hf r)
    | snapshot        => obtain rfl := Option.some.inj hp; simp [takeSnapshot, pass] at hn
    | value =>
      obtain ⟨c, _, rfl⟩ := Option.map_eq_some_iff.mp hp
      simp [pass] at hn
  refine ⟨hb, ?_⟩
  obtain ⟨d, es, time, rfl⟩ := hb
  have ht : t.Takes (.batch d es time) (some p) := hp ▸ takes
  cases ht with
  | pass calls n points _ hc =>
    have ⟨h₀, hl⟩ : n = 0 ∧ points.length = 0 := Nat.add_eq_zero_iff.mp hn
    obtain rfl := List.eq_nil_of_length_eq_zero hl
    obtain rfl := hc h₀ rfl
    rw [h₀]
    rfl

end Tab

theorem Registry.set_self {r : Registry} {k : ObjectKey} {t : Tab} (h : r.tab? k = some t) :
    r.set k t = r := by
  refine eq_of_tab? rfl fun k' => ?_
  rw [tab?_set]
  by_cases hk : k' = k
  case pos => rw [hk, h]; simp
  case neg => simp [hk]

namespace Session

variable {s : Session} {f? : Option (ObjectKey × Feed)} {k : ObjectKey} {t : Tab}
  {event? : Option String} {raw : String} {received : Millis}

-- The open tab that a batch is for, if it has charts that are to be moved to the shared window.
def straggling? (s : Session) : Option (ObjectKey × Feed) → Option (ObjectKey × Tab)
  | some (k, .batch ..) => ((s.tab? k).filter (·.stragglers ≠ 0)).map (k, ·)
  | _                   => none

-- How many charts are moved by what nobody takes.
def moved (s : Session) (f? : Option (ObjectKey × Feed)) : Nat :=
  ((s.straggling? f?).map (·.2.stragglers)).getD 0

theorem tab?_of_straggling? (h : s.straggling? f? = some (k, t)) : s.registry.tab? k = some t := by
  unfold straggling? at h
  split at h
  case h_1 =>
    obtain ⟨t', ht, he⟩ := Option.map_eq_some_iff.mp h
    obtain ⟨rfl, rfl⟩ := Prod.mk.inj he
    exact (Option.filter_eq_some_iff.mp ht).left
  case h_2 => contradiction

theorem straggling?_of_ne_batch {f : Feed} (h : ∀ d es time, f ≠ .batch d es time) :
    s.straggling? (some (k, f)) = none := by
  cases f with
  | batch d es time => exact absurd rfl (h d es time)
  | _ => rfl

-- What is fed in vain does no more than to move the charts that do not have the shared window.
theorem take_of_unconsumed (hs : s.registry.Settled) (hr : ∀ k r, f? ≠ some (k, .range r))
    (hn : (s.take f?).delivery.consumers = 0) : s.take f? =
      match s.straggling? f? with
      | none        => s.registry.unreached
      | some (k, t) => ⟨s.registry.set k t.align.repaint, t.align.repaintCalls.map (.call k),
        ⟨0, 0, t.stragglers⟩⟩ := by
  rcases f? with _ | ⟨k, f⟩
  case none => rfl
  case some =>
    simp only [take, Registry.take, Registry.update] at hn ⊢
    cases ht : s.registry.tab? k with
    | none =>
      have hg : s.straggling? (some (k, f)) = none := by
        cases f <;> simp [straggling?, tab?, ht]
      rw [hg]
      rfl
    | some t =>
      rw [ht, Option.bind_some] at hn
      rw [Option.bind_some]
      cases hp : t.take? f with
      | none =>
        have hg : s.straggling? (some (k, f)) = none :=
          straggling?_of_ne_batch fun d es time hf => by simp [hf, Tab.take?] at hp
        rw [hg]
      | some p =>
        rw [hp] at hn
        obtain ⟨⟨d, es, time, rfl⟩, rfl⟩ :=
          Tab.take?_of_unconsumed hp (fun r hf => hr k r (hf ▸ rfl)) hn
        have hd := (hs k t ht).dirtyCount_align
        by_cases hc : t.stragglers = 0
        case pos =>
          have hg : s.straggling? (some (k, .batch d es time)) = none := by
            simp [straggling?, tab?, ht, hc]
          have he : t.align.repaintCalls = [] :=
            List.eq_nil_of_length_eq_zero (Tab.length_repaintCalls.trans (hd.trans hc))
          simp only [hg, hd, hc, he, (hs k t ht).repaint_align hc, Registry.set_self ht]
          rfl
        case neg =>
          have hg : s.straggling? (some (k, .batch d es time)) = some (k, t) := by
            simp [straggling?, tab?, ht, hc]
          simp only [hg, hd]

theorem delivery_of_unconsumed (hs : s.registry.Settled) (hr : ∀ k r, f? ≠ some (k, .range r))
    (hn : (s.take f?).delivery.consumers = 0) : (s.take f?).delivery = ⟨0, 0, s.moved f?⟩ := by
  rw [take_of_unconsumed hs hr hn, moved]
  cases s.straggling? f? <;> rfl

theorem messageFeed?_ne_range {e : Envelope} {kind : Kind} {r : TimeRange} :
    s.messageFeed? e received kind ≠ some (k, .range r) := by
  cases kind <;> simp [messageFeed?, Option.bind_eq_some_iff]

theorem feed?_message_ne_range {r : TimeRange} :
    s.feed? (.message event? raw received) ≠ some (k, .range r) := by
  intro h
  obtain ⟨e, _, h⟩ := Option.bind_eq_some_iff.mp h
  obtain ⟨kind, _, h⟩ := Option.bind_eq_some_iff.mp h
  exact messageFeed?_ne_range h

theorem deliver_of_unrouted {u : Board.Update}
    (h : (s.countReceived.deliver u).answer = .unrouted) : u.delivery.consumers = 0 ∧
      s.countReceived.deliver u =
        ⟨{ s with board := u.board, stats := s.stats.after .unrouted }, .unrouted, u.effects⟩ := by
  unfold deliver at h ⊢
  split at h
  case isTrue hu  => exact ⟨by simpa [Delivery.isUnrouted] using hu, if_pos hu⟩
  case isFalse hu => contradiction

-- A message that nobody takes changes nothing but the counters and asks for nothing, unless it is a
-- batch for an open tab where some charts do not have the shared window. Then these get it and are
-- drawn, and nothing else happens. Likewise the delivery of what nobody takes is empty but for the
-- charts that are moved.
theorem unrouted_moves_windows_at_most (c : Config) (ops : List Operation) :
    let s := (new c).run ops
    (∀ event? raw received, (s.handleMessage event? raw received).answer = .unrouted →
      let st := s.handleMessage event? raw received
      let f? := s.feed? (.message event? raw received)
      (s.straggling? f? = none →
        st.session = { s with stats := s.stats.after .unrouted } ∧ st.effects = []) ∧
      ∀ k t, s.straggling? f? = some (k, t) →
        st.session = { s.withRegistry (s.registry.set k t.align.repaint) with
          stats := s.stats.after .unrouted } ∧
        st.effects = t.align.repaintCalls.map (.call k) ∧ st.effects.length = t.stragglers) ∧
    (∀ kind e received u, s.board.route kind e received = .ok u → u.delivery.consumers = 0 →
      u.delivery = ⟨0, 0, s.moved (s.messageFeed? e received kind)⟩) ∧
    ∀ k f, (∀ r, f ≠ .range r) → (s.registry.take k f).delivery.consumers = 0 →
      (s.registry.take k f).delivery = ⟨0, 0, s.moved (some (k, f))⟩ := by
  intro s
  have hk : s.registry.Keyed := (sound c ops).keyed
  have hs : s.registry.Settled := settled c ops
  refine ⟨fun event? raw received h => ?message, fun kind e received u hu hn => ?route,
    fun k f hf hn => ?feed⟩
  case message =>
    generalize hm : s.handleMessage event? raw received = st at h
    have hv : s.Receives (.message event? raw received) st := hm ▸ receives hk
    cases hv with
    | acknowledges ack hp =>
      rw [acknowledge_eq hp] at h
      contradiction
    | directs => contradiction
    | refuses hf o =>
      obtain rfl : o = .unrouted := h
      rw [hf]
      exact ⟨fun _ => ⟨rfl, rfl⟩, by simp [straggling?]⟩
    | feeds =>
      obtain ⟨hn, he⟩ := deliver_of_unrouted h
      have ht := take_of_unconsumed hs (fun _ _ => feed?_message_ne_range) hn
      rw [he, ht]
      refine ⟨fun hg => ?none, fun k t hg => ?some⟩
      case none =>
        rw [hg]
        exact ⟨rfl, rfl⟩
      case some =>
        rw [hg]
        have hd := (hs k t (tab?_of_straggling? hg)).dirtyCount_align
        exact ⟨rfl, rfl, (List.length_map _).trans (Tab.length_repaintCalls.trans hd)⟩
  case route =>
    have hv : s.Routed (s.messageFeed? e received kind) (.ok u) := hu ▸ routed kind hk
    cases hv with
    | fed      => exact delivery_of_unconsumed hs (fun _ _ => messageFeed?_ne_range) hn
    | directed => contradiction
  case feed =>
    have hr : ∀ k' r, some (k, f) ≠ some (k', Feed.range r) := fun k' r he =>
      hf r (Prod.mk.inj (Option.some.inj he)).right
    exact delivery_of_unconsumed hs hr hn

-- A batch for a closed tab changes nothing, although a chart of another tab lacks the shared window.
theorem unrouted_batch_for_closed_tab : ∃ c ops raw,
    let s := (new c).run ops
    (s.handleMessage none raw 10).answer = .unrouted ∧
    (s.handleMessage none raw 10).session = { s with stats := s.stats.after .unrouted } ∧
    (s.handleMessage none raw 10).effects = [] := by
  let c := Config.default
  let k : ObjectKey := ⟨"a", "b"⟩
  let options : DisplayOptions := ⟨none, none, false, false⟩
  let ops : List Operation := [
    .openTab k none ⟨true, []⟩,
    .setRange k (.fixed ⟨0, 20⟩),
    .openChart k ⟨"x"⟩ options ⟨true⟩]
  let raw := "\x7b\"type\":\"ionc_sensor_batch\",\"serverId\":\"a\",\"objectName\":\"c\",\"data\":[" ++
    "\x7b\"name\":\"y\",\"value\":1\x7d]\x7d"
  have hu : (((new c).run ops).handleMessage none raw 10).answer = .unrouted := by decide +kernel
  have h := (unrouted_moves_windows_at_most c ops).left none raw 10 hu
  have hg : (((new c).run ops).straggling?
      (((new c).run ops).feed? (.message none raw 10))).isNone := by decide +kernel
  exact ⟨c, ops, raw, hu, h.left (Option.isNone_iff_eq_none.mp hg)⟩

-- The same batch for the open tab is not taken either, but a chart is moved and drawn.
theorem unrouted_batch_moves_window : ∃ c ops raw k series,
    let s := (new c).run ops
    let st := s.handleMessage none raw 10
    st.answer = .unrouted ∧ st.effects.length = 1 ∧
    (s.tab? k).map (·.windowOf? series) = some (some none) ∧
    (st.session.tab? k).map (·.windowOf? series) = some (some (some ⟨0, 20⟩)) := by
  let k : ObjectKey := ⟨"a", "b"⟩
  let options : DisplayOptions := ⟨none, none, false, false⟩
  let ops : List Operation := [
    .openTab k none ⟨true, []⟩,
    .setRange k (.fixed ⟨0, 20⟩),
    .openChart k ⟨"x"⟩ options ⟨true⟩]
  let raw := "\x7b\"type\":\"ionc_sensor_batch\",\"serverId\":\"a\",\"objectName\":\"b\",\"data\":[" ++
    "\x7b\"name\":\"y\",\"value\":1\x7d]\x7d"
  exact ⟨Config.default, ops, raw, k, ⟨"x"⟩, by decide +kernel⟩

end Session
end FleetMonitor
