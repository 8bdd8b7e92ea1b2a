import FleetMonitor.Proofs.Course

namespace FleetMonitor

namespace Operation

-- Whether a chart for a series is opened on a tab, given the operation's answer.
def opens (k : ObjectKey) (series : SeriesKey) : Operation → Answer → Bool
  | openChart k' series' _ _, .flag b => k' = k ∧ series' = series ∧ b
  | _,                        _       => false

variable {op : Operation} {a : Answer} {k : ObjectKey} {series : SeriesKey}

theorem opens_iff : op.opens k series a ↔
    ∃ options surface, op = openChart k series options surface ∧ a = .flag true := by
  unfold opens
  split
  case h_1 => simp; grind
  case h_2 h =>
    simp only [Bool.false_eq_true, false_iff, not_exists, not_and]
    rintro options surface rfl rfl
    exact h _ _ _ _ _ rfl rfl

theorem isControl_of_opens (h : op.opens k series a) : op.isControl := by
  obtain ⟨_, _, rfl, _⟩ := opens_iff.mp h
  rfl

end Operation

namespace Session

variable {s : Session} {op : Operation} {st : Step Answer} {k : ObjectKey} {series : SeriesKey}
  {a : Answer} {h : History} {es : List Event}

-- The points that an operation has for a series on a tab.
def pointsFor (s : Session) (k : ObjectKey) (series : SeriesKey) (op : Operation) : List Point :=
  match s.feed? op with
  | some (k', f) => if k' = k then f.points series else []
  | none         => []

theorem pointsFor_of_none (h : s.feed? op = none) : s.pointsFor k series op = [] := by
  rw [pointsFor, h]

theorem history?_take : (s.take (s.feed? op)).registry.history? k series =
    (s.registry.history? k series).map (·.appendAll (s.pointsFor k series op)) := by
  rcases hf : s.feed? op with _ | ⟨k', f⟩
  case none => simp [take, pointsFor_of_none hf, Registry.unreached]
  case some => simp [take, pointsFor, hf, Registry.history?_take, eq_comm (a := k)]

-- An open chart is either new or has got what the operation has for it.
def Arrives (s : Session) (k : ObjectKey) (series : SeriesKey) (op : Operation) (a : Answer)
    (h : History) : Prop :=
  if op.opens k series a then h = .new s.registry.capacity
  else ∃ h₀, s.registry.history? k series = some h₀ ∧ h = h₀.appendAll (s.pointsFor k series op)

theorem arrives_of_none (hn : ¬op.opens k series a) (hf : s.feed? op = none)
    (hr : s.registry.history? k series = some h) : s.Arrives k series op a h := by
  rw [Arrives, if_neg hn, pointsFor_of_none hf]
  exact ⟨h, hr, rfl⟩

theorem Course.arrives (c : s.Course op st) (hs : s.registry.Sound)
    (h' : st.session.registry.history? k series = some h) : s.Arrives k series op st.answer h := by
  cases c with
  | feeds hf ho =>
    have hn : ¬op.opens k series st.answer := fun h => by
      rw [Operation.isControl_of_opens h] at ho
      contradiction
    rw [hf.registry, history?_take] at h'
    rw [Arrives, if_neg hn]
    obtain ⟨h₀, he, rfl⟩ := Option.map_eq_some_iff.mp h'
    exact ⟨h₀, he, rfl⟩
  | refuses ho =>
    have hf := feed?_of_isSubscription (s := s) ho
    exact arrives_of_none (fun h => by simp [Operation.opens_iff] at h) hf h'
  | stops ho hf _ hr =>
    rw [hr, Registry.history?_clearTimers] at h'
    refine arrives_of_none (fun h => ?_) hf h'
    obtain ⟨_, _, rfl, ha⟩ := Operation.opens_iff.mp h
    simp [ha, Answer.acknowledges] at ho
  | starts ho hf _ _ _ hr =>
    rw [hr, Registry.history?_keepTimers] at h'
    refine arrives_of_none (fun h => ?_) hf h'
    obtain ⟨_, _, rfl, ha⟩ := Operation.opens_iff.mp h
    simp [ha] at ho
  | openTab ho =>
    replace h' := history?_backfill.symm.trans h'
    exact arrives_of_none Bool.false_ne_true rfl (Registry.history?_openTab? ho ▸ h')
  | closeTab =>
    replace h' := Registry.history?_closeTab.symm.trans h'
    split at h'
    · contradiction
    · exact arrives_of_none Bool.false_ne_true rfl h'
  | openChart ho =>
    replace h' := history?_backfill.symm.trans h'
    replace h' := (Registry.history?_openChart ho).symm.trans h'
    split at h'
    case isTrue e =>
      obtain ⟨rfl, rfl⟩ := e
      have ⟨t₀, ht, ho⟩ := Option.bind_eq_some_iff.mp ho
      have ⟨_, _, _, hc, _⟩ := Tab.openChart?_eq ho
      rw [Arrives, if_pos (by simp [Operation.opens, Step.map])]
      rw [← Option.some.inj h', hc, (hs.tabs _ _ ht).right]
    case isFalse e =>
      refine arrives_of_none (fun h => e ?_) rfl h'
      have ⟨_, _, ho, _⟩ := Operation.opens_iff.mp h
      simp_all
  | closeChart ht =>
    replace h' := (Registry.history?_closeChart ht).symm.trans h'
    split at h'
    · contradiction
    · exact arrives_of_none Bool.false_ne_true rfl h'

namespace Event

def opens (k : ObjectKey) (series : SeriesKey) (e : Event) : Bool :=
  e.op.opens k series e.answer

def points (k : ObjectKey) (series : SeriesKey) (e : Event) : List Point :=
  e.session.pointsFor k series e.op

end Event

-- What a session owes to its events: every open chart was opened by one of them, and has the points
-- of the later ones.
structure Charted (c : Config) (es : List Event) (s : Session) : Prop where
  sound    : s.registry.Sound
  capacity : s.registry.capacity = c.seriesCapacity.toNat
  arrived  : ∀ k series h, s.registry.history? k series = some h → ∃ es₁ e es₂,
    es = es₁ ++ e :: es₂ ∧ e.opens k series ∧ (∀ e ∈ es₂, ¬e.opens k series) ∧
    h = (History.new c.seriesCapacity.toNat).appendAll (es₂.flatMap (Event.points k series))

namespace Charted

variable {c : Config}

theorem init : Charted c [] (.new c) :=
  ⟨.new, rfl, nofun⟩

theorem step (h : Charted c es s) : Charted c (es ++ [⟨s, op⟩]) (s.step op).session where
  sound    := (course h.sound.keyed op).sound h.sound
  capacity := (course h.sound.keyed op).capacity_eq.trans h.capacity
  arrived k series hist hh := by
    have ha := (course h.sound.keyed op).arrives h.sound hh
    unfold Arrives at ha
    split at ha
    case isTrue ho => exact ⟨es, ⟨s, op⟩, [], rfl, ho, by simp, by rw [ha, h.capacity]; rfl⟩
    case isFalse ho =>
      obtain ⟨h₀, hs, rfl⟩ := ha
      obtain ⟨es₁, e, es₂, rfl, he, hn, rfl⟩ := h.arrived k series h₀ hs
      refine ⟨es₁, e, es₂ ++ [⟨s, op⟩], by simp, he, ?closed, ?history⟩
      case closed =>
        intro e' hm
        cases List.mem_append.mp hm
        case inl hm => exact hn e' hm
        case inr hm => exact List.mem_singleton.mp hm ▸ ho
      case history =>
        rw [List.flatMap_append, History.appendAll_append, List.flatMap_singleton]
        rfl

end Charted

theorem charted (c : Config) (ops : List Operation) :
    Charted c ((new c).events ops) ((new c).run ops) :=
  run_induction .init (fun _ _ _ h => h.step) ops

-- Every open chart was opened by some operation, and its history is the last of the points that the
-- operations since then had for it, as many as fit.
theorem history_is_arrivals {c : Config} {ops : List Operation} {k : ObjectKey} {t : Tab}
    {series : SeriesKey} {chart : Chart} (ht : ((new c).run ops).tab? k = some t)
    (hc : t.chart? series = some chart) :
    ∃ es₁ e es₂, (new c).events ops = es₁ ++ e :: es₂ ∧ e.opens k series ∧
      (∀ e ∈ es₂, ¬e.opens k series) ∧ chart.history.toList =
        (es₂.flatMap (Event.points k series)).rtake (max 1 c.seriesCapacity.toNat) := by
  have hh : ((new c).run ops).registry.history? k series = some chart.history := by
    replace ht : ((new c).run ops).registry.tab? k = some t := ht
    simp [Registry.history?, Tab.history?, ht, hc]
  obtain ⟨es₁, e, es₂, he, ho, hn, h⟩ := (charted c ops).arrived k series _ hh
  refine ⟨es₁, e, es₂, he, ho, hn, ?_⟩
  rw [h, History.toList_appendAll]
  rfl

-- Of three values for a chart that has room for two the last ones are left; the value for the other
-- series is not among them.
theorem last_two_of_three : ∃ c ops k t series chart,
    ((new c).run ops).tab? k = some t ∧ t.chart? series = some chart ∧
    chart.history.toList = [⟨20, none⟩, ⟨30, some 3⟩] ∧
    ∃ es₁ e es₂, (new c).events ops = es₁ ++ e :: es₂ ∧ e.opens k series ∧
      (∀ e ∈ es₂, ¬e.opens k series) ∧ chart.history.toList =
        (es₂.flatMap (Event.points k series)).rtake (max 1 c.seriesCapacity.toNat) := by
  have hh : (((new { Config.default with seriesCapacity := 2 }).run [
      .openTab ⟨"a", "b"⟩ none ⟨true, []⟩,
      .activateFallback,
      .openChart ⟨"a", "b"⟩ ⟨"x"⟩ ⟨none, none, false, false⟩ ⟨true⟩,
      .polledValue ⟨"a", "b"⟩ ⟨"x"⟩ ⟨some 1, none⟩ 10,
      .polledValue ⟨"a", "b"⟩ ⟨"x"⟩ ⟨none, some 20⟩ 25,
      .polledValue ⟨"a", "b"⟩ ⟨"y"⟩ ⟨some 5, none⟩ 25,
      .polledValue ⟨"a", "b"⟩ ⟨"x"⟩ ⟨some 3, none⟩ 30]).registry.history? ⟨"a", "b"⟩ ⟨"x"⟩).map
      History.toList = some [⟨20, none⟩, ⟨30, some 3⟩] := rfl
  have ⟨_, hh, hl⟩ := Option.map_eq_some_iff.mp hh
  have ⟨t, ht, hh⟩ := Option.bind_eq_some_iff.mp hh
  obtain ⟨chart, hc, rfl⟩ := Option.map_eq_some_iff.mp hh
  exact ⟨_, _, _, t, _, chart, ht, hc, hl, history_is_arrivals ht hc⟩

end Session
end FleetMonitor
