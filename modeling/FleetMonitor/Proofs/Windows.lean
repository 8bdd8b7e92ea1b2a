import FleetMonitor.Proofs.Changes

namespace FleetMonitor

namespace Tab

-- All charts have one and the same window, or none has any.
def Aligned (t : Tab) : Prop :=
  ∃ w?, ∀ s c, t.chart? s = some c → c.window? = w?

variable {t : Tab} {s s' : SeriesKey} {w? w?' : Option Window} {calls : List TabCall} {n : Nat}
  {points : List (SeriesKey × Point)} {f : Feed} {c : Chart} {p : Pass}

-- The window of the chart for a series, if there is such a chart.
def windowOf? (t : Tab) (s : SeriesKey) : Option (Option Window) :=
  (t.chart? s).map Chart.window?

theorem not_aligned (h : t.windowOf? s = some w?) (h' : t.windowOf? s' = some w?') (hn : w? ≠ w?') :
    ¬t.Aligned := by
  intro ⟨_, ha⟩
  obtain ⟨c, hc, rfl⟩ := Option.map_eq_some_iff.mp h
  obtain ⟨c', hc', rfl⟩ := Option.map_eq_some_iff.mp h'
  exact hn ((ha s c hc).trans (ha s' c' hc').symm)

-- There is a window to share if the range is fixed or a chart was touched.
theorem isSome_canonical?_iff (h : t.TouchesPoint) :
    t.canonical?.isSome ↔ (∃ w, t.range = .fixed w) ∨ t.touched?.isSome := by
  rw [canonical?_eq]
  cases t.range with
  | fixed w     => simp
  | follow span =>
    cases ht : t.touched? with
    | none   => simp
    | some s =>
      have ⟨h₀, hh, hl⟩ := h s ht
      simp [hh, Option.isSome_iff_ne_none, hl]

theorem window?_pass (hc : (t.pass calls n points).tab.chart? s = some c) : ∃ c₀,
    t.chart? s = some c₀ ∧ c.window? = (t.pass calls n points).tab.canonical?.or c₀.window? := by
  rw [chart?_pass] at hc
  obtain ⟨c₀, h₀, rfl⟩ := Option.map_eq_some_iff.mp hc
  exact ⟨c₀, h₀, Chart.window?_updated⟩

theorem aligned_pass_iff : (t.pass calls n points).tab.Aligned ↔
    (t.pass calls n points).tab.canonical?.isSome ∨ t.Aligned := by
  cases hw : (t.pass calls n points).tab.canonical? with
  | some w =>
    have ha : (t.pass calls n points).tab.Aligned := by
      refine ⟨some w, fun s c hc => ?_⟩
      obtain ⟨c₀, _, e⟩ := window?_pass hc
      rw [e, hw, Option.some_or]
    simp [ha]
  | none =>
    simp only [Option.isSome_none, Bool.false_eq_true, false_or]
    constructor
    case mp =>
      intro ⟨w?, h⟩
      refine ⟨w?, fun s c hc => ?_⟩
      have hc' : (t.pass calls n points).tab.chart? s =
          some (c.updated (pointsOf s points) none).repaint := by
        rw [chart?_pass, hc, hw, Option.map_some]
      have hn : (c.updated (pointsOf s points) none).repaint.window? = c.window? :=
        Chart.window?_updated
      exact hn.symm.trans (h s _ hc')
    case mpr =>
      intro ⟨w?, h⟩
      refine ⟨w?, fun s c hc => ?_⟩
      obtain ⟨c₀, h₀, e⟩ := window?_pass hc
      rw [e, hw, Option.none_or]
      exact h s c₀ h₀

theorem isSome_touched?_appendAll (h : t.touched?.isSome) :
    (t.appendAll points).touched?.isSome := by
  induction points generalizing t with
  | nil => exact h
  | cons sp points hi =>
    apply hi
    change (t.append sp.1 sp.2).touched?.isSome
    unfold append
    split
    · rfl
    · exact h

theorem isSome_touched?_of_points (hs : t.hasChart s) (hp : pointsOf s points ≠ []) :
    (t.appendAll points).touched?.isSome := by
  induction points generalizing t with
  | nil => contradiction
  | cons sp points hi =>
    have ⟨s', p⟩ := sp
    change ((t.append s' p).appendAll points).touched?.isSome
    by_cases e : s' = s
    case pos =>
      subst e
      apply isSome_touched?_appendAll
      rw [append, if_pos hs]
      rfl
    case neg =>
      apply hi
      · rwa [frame_append.hasChart]
      · simpa [pointsOf, e] using hp

-- Windows are the same after a pass if there is something to go by, or if they were before.
theorem aligned_take_iff (h : t.Settled) (hp : t.take? f = some p) :
    p.tab.Aligned ↔ (∃ w, p.tab.range = .fixed w) ∨ p.tab.touched?.isSome ∨ t.Aligned := by
  have ht : t.Takes f (some p) := hp ▸ takes
  cases ht with
  | pass calls n points =>
    have hr : (t.ranged f).Aligned ↔ t.Aligned := by simp only [Aligned, chart?_ranged]
    rw [aligned_pass_iff, hr, isSome_canonical?_iff (touchesPoint_pass h.ranged.touched), or_assoc]

theorem isSome_touched?_take (hp : t.take? f = some p) (hs : t.hasChart s) (hn : f.points s ≠ []) :
    p.tab.touched?.isSome := by
  have ht : t.Takes f (some p) := hp ▸ takes
  cases ht with
  | pass calls n points _ _ he =>
    rw [← he s hs] at hn
    exact isSome_touched?_of_points (frame_ranged.hasChart.trans hs) hn

end Tab

namespace Session

variable {s : Session} {k : ObjectKey} {op : Operation} {t : Tab} {p : Tab.Pass}

-- The pass that an operation makes over a tab.
def pass? (s : Session) (k : ObjectKey) (op : Operation) : Option Tab.Pass :=
  (s.feedOf? k op).bind fun f => (s.tab? k).bind (·.take? f)

theorem tab?_of_pass? (hk : s.registry.Keyed) (hp : s.pass? k op = some p) :
    (s.step op).session.tab? k = some p.tab := by
  have ⟨f, hf, hp⟩ := Option.bind_eq_some_iff.mp hp
  have ⟨t, ht, hp⟩ := Option.bind_eq_some_iff.mp hp
  have h := (course hk op).tab?_of_feedOf? hf
  rw [tab?] at ht ⊢
  rw [h, ht, Option.map_some, Tab.feed, hp, Option.map_some, Option.getD_some]

-- Once an operation has made a pass over a tab, its charts have one and the same window if and only
-- if the range is fixed, a chart was touched that is still open, or they had the same window before.
-- In particular they have it whenever one of them got a point.
theorem windows_shared_iff {c : Config} {ops : List Operation}
    (ht : ((new c).run ops).tab? k = some t) (hp : ((new c).run ops).pass? k op = some p) :
    ((new c).run (ops ++ [op])).tab? k = some p.tab ∧
    (p.tab.Aligned ↔ (∃ w, p.tab.range = .fixed w) ∨ p.tab.touched?.isSome ∨ t.Aligned) ∧
    ∀ series, t.hasChart series → ((new c).run ops).pointsFor k series op ≠ [] → p.tab.Aligned := by
  have ⟨f, hf, he⟩ := Option.bind_eq_some_iff.mp hp
  rw [ht, Option.bind_some] at he
  have ha := Tab.aligned_take_iff (settled c ops k t ht) he
  refine ⟨?after, ha, fun series hs hn => ?point⟩
  case after =>
    rw [run_concat]
    exact tab?_of_pass? (sound c ops).keyed hp
  case point =>
    rw [pointsFor_eq, hf] at hn
    exact ha.mpr (.inr (.inl (Tab.isSome_touched?_take he hs hn)))

-- A value brings two charts together of which one was opened after the range had been fixed.
theorem windows_shared_after_value : ∃ c ops k op t p,
    ((new c).run ops).tab? k = some t ∧ ((new c).run ops).pass? k op = some p ∧
    ¬t.Aligned ∧ p.tab.Aligned := by
  let c := Config.default
  let k : ObjectKey := ⟨"a", "b"⟩
  let options : DisplayOptions := ⟨none, none, false, false⟩
  let ops : List Operation := [
    .openTab k none ⟨true, []⟩,
    .activateFallback,
    .openChart k ⟨"x"⟩ options ⟨true⟩,
    .setRange k (.fixed ⟨0, 20⟩),
    .setRange k (.follow 900000),
    .openChart k ⟨"y"⟩ options ⟨true⟩]
  let op : Operation := .polledValue k ⟨"x"⟩ ⟨some 1, none⟩ 1000000
  have hw : (((new c).run ops).tab? k).map (fun t => (t.windowOf? ⟨"x"⟩, t.windowOf? ⟨"y"⟩)) =
      some (some (some ⟨0, 20⟩), some none) := by decide +kernel
  have hp : (((new c).run ops).pass? k op).isSome := by decide +kernel
  have ⟨t, ht, hw⟩ := Option.map_eq_some_iff.mp hw
  have ⟨p, hp⟩ := Option.isSome_iff_exists.mp hp
  have ⟨hx, hy⟩ := Prod.mk.inj hw
  have ⟨_, _, ha⟩ := windows_shared_iff ht hp
  have hs : t.hasChart ⟨"x"⟩ := by
    have ⟨x, hc, _⟩ := Option.map_eq_some_iff.mp hx
    rw [Tab.hasChart_eq_isSome, hc, Option.isSome_some]
  have hn : ((new c).run ops).pointsFor k ⟨"x"⟩ op ≠ [] := by decide +kernel
  exact ⟨c, ops, k, op, t, p, ht, hp, Tab.not_aligned hx hy (by simp), ha ⟨"x"⟩ hs hn⟩

-- The span that a tab follows does not bring them together as long as there is no point.
theorem windows_differ_after_range : ∃ c ops k range p,
    ((new c).run ops).pass? k (.setRange k range) = some p ∧
    ((new c).run (ops ++ [.setRange k range])).tab? k = some p.tab ∧ ¬p.tab.Aligned := by
  let c := Config.default
  let k : ObjectKey := ⟨"a", "b"⟩
  let options : DisplayOptions := ⟨none, none, false, false⟩
  let ops : List Operation := [
    .openTab k none ⟨true, []⟩,
    .openChart k ⟨"x"⟩ options ⟨true⟩,
    .setRange k (.fixed ⟨0, 20⟩),
    .openChart k ⟨"y"⟩ options ⟨true⟩]
  have hw : (((new c).run ops).pass? k (.setRange k (.follow 900000))).map (fun p =>
      (p.tab.windowOf? ⟨"x"⟩, p.tab.windowOf? ⟨"y"⟩)) = some (some (some ⟨0, 20⟩), some none) := by
    decide +kernel
  have ⟨p, hp, hw⟩ := Option.map_eq_some_iff.mp hw
  have ⟨hx, hy⟩ := Prod.mk.inj hw
  have ht := tab?_of_pass? (sound c ops).keyed hp
  rw [← run_concat] at ht
  exact ⟨c, ops, k, .follow 900000, p, hp, ht, Tab.not_aligned hx hy (by simp)⟩

end Session
end FleetMonitor
