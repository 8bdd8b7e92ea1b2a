import FleetMonitor.Proofs.Deliveries

namespace FleetMonitor

open Chart (Picture)

namespace Chart

-- A chart of which there is nothing to be drawn.
structure Blank (c : Chart) : Prop where
  clean   : c.dirty = false
  history : c.history.toList = []
  window? : c.window? = none

-- Whether the last redraw of a surface, if there was one, is still up to date.
def IsShown (c : Chart) (ds : List Picture) : Prop :=
  match ds.getLast? with
  | some d => d = c.picture
  | none   => c.history.toList = [] ∧ c.window? = none

variable {c c' : Chart} {ps : List Point} {ds ds' : List Picture}

theorem Blank.isShown (h : c.Blank) : c.IsShown [] :=
  ⟨h.history, h.window?⟩

theorem Shows.isShown (h : c.Shows ps c' ds') (hc : c.IsShown ds) : c'.IsShown (ds ++ ds') := by
  by_cases hd : ps ≠ [] ∨ c'.window? ≠ c.window?
  case pos =>
    have hl : (ds ++ ds').getLast? = some c'.picture := by
      rw [h.drawn, if_pos hd, List.getLast?_concat]
    rw [IsShown, hl]
  case neg =>
    have ⟨hp, hw⟩ : ps = [] ∧ c'.window? = c.window? := by simpa using hd
    have hh : c'.history = c.history := by rw [h.history, hp, History.appendAll_nil]
    have he : c'.picture = c.picture := by rw [picture, picture, h.frame.surface, hh, hw]
    rw [h.drawn, if_neg hd, List.append_nil, IsShown, he, hh, hw]
    exact hc

end Chart

namespace Session

def chart? (s : Session) (k : ObjectKey) (series : SeriesKey) : Option Chart :=
  (s.tab? k).bind (·.chart? series)

variable {s : Session} {k : ObjectKey} {series : SeriesKey} {t : Tab}

theorem chart?_of_tab? (h : s.registry.tab? k = some t) : s.chart? k series = t.chart? series := by
  rw [chart?, tab?, h, Option.bind_some]

theorem chart?_of_no_tab (h : s.registry.tab? k = none) : s.chart? k series = none := by
  rw [chart?, tab?, h, Option.bind_none]

namespace Event

-- What an operation draws on the surface of one chart.
def pictures (k : ObjectKey) (series : SeriesKey) (e : Event) : List Picture :=
  TabCall.pictures series (Effect.calls k e.step.effects)

-- What may become of a chart by an operation, and what is drawn of it.
inductive Shows (e : Event) (k : ObjectKey) (series : SeriesKey) :
    Option Chart → Option Chart → Prop
  | stays (ho : ¬e.opens k series) (h : c.Shows (e.points k series) c' (e.pictures k series)) :
    Shows e k series (some c) (some c')
  | opens (ho : e.op = .openChart k series options c.surface) (ha : e.answer = .flag true)
      (hb : c.Blank) (hd : e.pictures k series = []) :
    Shows e k series none (some c)
  | gone (hd : e.pictures k series = []) : Shows e k series c? none

variable {e : Event} {c? : Option Chart}

theorem pictures_eq (hk : e.session.registry.Keyed) :
    e.pictures k series = TabCall.pictures series (e.session.callsFor k e.op) :=
  congrArg _ (course hk e.op).calls

theorem pictures_of_unfed (hk : e.session.registry.Keyed) (hf : e.session.feedOf? k e.op = none) :
    e.pictures k series = [] := by
  rw [pictures_eq hk, callsFor, hf]
  cases e.session.registry.tab? k <;> rfl

-- A chart that an operation leaves alone is not drawn.
theorem Shows.same (hk : e.session.registry.Keyed) (hf : e.session.feedOf? k e.op = none)
    (ho : ¬e.opens k series) (hc : ∀ c, c? = some c → c.dirty = false) : e.Shows k series c? c? := by
  have hd : e.pictures k series = [] := pictures_of_unfed hk hf
  have hp : e.points k series = [] := by rw [points, pointsFor_eq, hf]; rfl
  cases c? with
  | none   => exact .gone hd
  | some c =>
    refine .stays ho ?_
    rw [hp, hd]
    exact .refl (hc c rfl)

theorem shows_feed {f : Feed} (hk : e.session.registry.Keyed) (hs : t.Settled)
    (ht : e.session.registry.tab? k = some t) (hf : e.session.feedOf? k e.op = some f)
    (ho : ¬e.opens k series) : e.Shows k series (t.chart? series) ((t.feed f).chart? series) := by
  have hd : e.pictures k series = TabCall.pictures series (t.feedCalls f) := by
    rw [pictures_eq hk, callsFor, ht, hf]
  have hp : e.points k series = f.points series := by rw [points, pointsFor_eq, hf]; rfl
  cases hc : t.chart? series with
  | none =>
    have ⟨hn, hd'⟩ := hs.unshown_feed (f := f) hc
    rw [hn]
    exact .gone (hd.trans hd')
  | some c =>
    have ⟨c', hc', h⟩ := hs.shows_feed (f := f) hc
    rw [hc']
    refine .stays ho ?_
    rw [hp, hd]
    exact h

-- Every chart and its surface go together in every operation.
theorem shows (hk : e.session.registry.Keyed) (hs : e.session.registry.Settled) :
    e.Shows k series (e.session.chart? k series) (e.step.session.chart? k series) := by
  have course := course hk e.op
  have clean {t : Tab} (ht : e.session.registry.tab? k = some t) :
      ∀ c, t.chart? series = some c → c.dirty = false := (hs k t ht).clean series
  cases ht' : e.step.session.registry.tab? k with
  | none =>
    rw [chart?_of_no_tab ht']
    refine .gone ?_
    cases hf : e.session.feedOf? k e.op with
    | none   => exact pictures_of_unfed hk hf
    | some f =>
      -- A tab that is fed stays open, so there was none to feed.
      have ht : e.session.registry.tab? k = none :=
        Option.map_eq_none_iff.mp ((course.tab?_of_feedOf? hf).symm.trans ht')
      rw [pictures_eq hk, callsFor, ht]
      rfl
  | some t' =>
    have h : e.session.Alters k e.op e.answer t' := course.alters ht'
    rw [chart?_of_tab? ht']
    cases h with
    | feeds ht hf ho =>
      rw [chart?_of_tab? ht]
      exact shows_feed hk (hs k _ ht) ht hf (ho series)
    | keeps ht hf ho =>
      rw [chart?_of_tab? ht]
      exact .same hk hf (ho series) (clean ht)
    | opensTab ht ho =>
      have hf : e.session.feedOf? k e.op = none := feedOf?_of_isSubscription (ho ▸ rfl)
      exact .gone (pictures_of_unfed hk hf)
    | @opensChart t series' options surface t' _ _ ht ho ha h =>
      have hf : e.session.feedOf? k e.op = none := feedOf?_of_isSubscription (ho ▸ rfl)
      have ⟨hn, _⟩ := Tab.openChart?_eq h
      have ⟨o, hc⟩ := Tab.chart?_openChart? h
      change e.Shows k series _ (t'.chart? series)
      rw [chart?_of_tab? ht, hc]
      split
      case isTrue e' =>
        subst e'
        rw [hn]
        exact .opens ho ha ⟨rfl, rfl, rfl⟩ (pictures_of_unfed hk hf)
      case isFalse e' =>
        refine .same hk hf (fun hs => e' ?_) (clean ht)
        have ⟨_, _, ho', _⟩ := Operation.opens_iff.mp hs
        exact (Operation.openChart.inj (ho'.symm.trans ho)).right.left
    | @closesChart t series' ht ho =>
      have hf : e.session.feedOf? k e.op = none := feedOf?_of_isSubscription (ho ▸ rfl)
      rw [chart?_of_tab? ht, Tab.chart?_closeChart]
      split
      case isTrue => exact .gone (pictures_of_unfed hk hf)
      case isFalse =>
        refine .same hk hf (fun hs => ?_) (clean ht)
        have ⟨_, _, ho', _⟩ := Operation.opens_iff.mp hs
        exact Operation.noConfusion (ho'.symm.trans ho)

end Event

-- Every open chart was opened by one of the events, and what was drawn of it since is up to date.
def Screened (es : List Event) (s : Session) : Prop :=
  ∀ k series chart, s.chart? k series = some chart → ∃ es₁ e es₂ options,
    es = es₁ ++ e :: es₂ ∧ e.op = .openChart k series options chart.surface ∧
    e.answer = .flag true ∧ (∀ e ∈ es₂, ¬e.opens k series) ∧
    chart.IsShown (es₂.flatMap (Event.pictures k series))

theorem Screened.init {c : Config} : Screened [] (new c) := by
  intro k series chart h
  have hn : (new c).chart? k series = none := rfl
  rw [hn] at h
  contradiction

theorem Screened.step {es : List Event} {e : Event} (h : Screened es e.session)
    (hk : e.session.registry.Keyed) (hs : e.session.registry.Settled) :
    Screened (es ++ [e]) e.step.session := by
  intro k series chart hc
  have hv : e.Shows k series (e.session.chart? k series) (some chart) := hc ▸ Event.shows hk hs
  generalize hb : e.session.chart? k series = before? at hv
  cases hv with
  | opens ho ha hb => exact ⟨es, e, [], _, rfl, ho, ha, by simp, hb.isShown⟩
  | @stays c _ ho hv =>
    obtain ⟨es₁, e₁, es₂, options, rfl, he, ha, hn, hl⟩ := h k series c hb
    rw [← hv.frame.surface] at he
    refine ⟨es₁, e₁, es₂ ++ [e], options, by simp, he, ha, ?closed, ?shown⟩
    case closed =>
      intro e' hm
      cases List.mem_append.mp hm
      case inl hm => exact hn e' hm
      case inr hm => exact List.mem_singleton.mp hm ▸ ho
    case shown =>
      rw [List.flatMap_append, List.flatMap_singleton]
      exact hv.isShown hl

theorem screened (c : Config) (ops : List Operation) :
    Screened ((new c).events ops) ((new c).run ops) := by
  induction ops using List.reverseRec with
  | nil => exact .init
  | append_singleton ops op hi =>
    rw [events_concat, run_concat]
    have h : Screened ((new c).events ops) (Event.mk ((new c).run ops) op).session := hi
    exact h.step (sound c ops).keyed (settled c ops)

-- No screen is stale and none is drawn in vain. After every operation no open chart is marked, and
-- the operation has drawn its surface once, as the chart then is, if it got a point or another
-- window, and not at all otherwise. So what was drawn last of a chart is what it holds, and a
-- delivery tells how many charts were drawn.
theorem screens_are_current (c : Config) (ops : List Operation) :
    (∀ e ∈ (new c).events ops,
      (∀ k series, e.Shows k series (e.session.chart? k series) (e.step.session.chart? k series)) ∧
      (∀ k series chart, e.step.session.chart? k series = some chart → chart.dirty = false) ∧
      ∀ d, e.answer.delivery? = some d → d.redrawn = e.step.effects.countP Effect.isRedraw) ∧
    ∀ k series chart, ((new c).run ops).chart? k series = some chart → ∃ es₁ e es₂ options,
      (new c).events ops = es₁ ++ e :: es₂ ∧ e.op = .openChart k series options chart.surface ∧
      e.answer = .flag true ∧ (∀ e ∈ es₂, ¬e.opens k series) ∧
      chart.IsShown (es₂.flatMap (Event.pictures k series)) := by
  refine ⟨fun e he => ?_, screened c ops⟩
  obtain ⟨ops₁, hr⟩ := exists_run_of_mem he
  have hk : e.session.registry.Keyed := hr ▸ (sound c ops₁).keyed
  have hs : e.session.registry.Settled := hr ▸ settled c ops₁
  refine ⟨fun k series => Event.shows hk hs, fun k series chart hc => ?clean, fun d hd => ?redrawn⟩
  case clean =>
    have h : e.Shows k series (e.session.chart? k series) (some chart) := hc ▸ Event.shows hk hs
    generalize e.session.chart? k series = before? at h
    cases h with
    | stays _ h      => exact h.clean
    | opens _ _ hb _ => exact hb.clean
  case redrawn => exact redrawn_eq_countP hk hd

-- A value is drawn once, and so is a new window; a window that is there already is not drawn again.
theorem drawn_by_value_and_window : ∃ c ops k series chart,
    ((new c).run ops).chart? k series = some chart ∧
    ((new c).events ops).map (fun e => (e.pictures k series).length) = [0, 0, 0, 1, 1, 0] ∧
    (∃ e ∈ (new c).events ops, e.answer.delivery? = some ⟨1, 1, 1⟩ ∧
      e.step.effects.countP Effect.isRedraw = 1) ∧
    ∃ es₁ e es₂ options, (new c).events ops = es₁ ++ e :: es₂ ∧
      e.op = .openChart k series options chart.surface ∧ e.answer = .flag true ∧
      (∀ e ∈ es₂, ¬e.opens k series) ∧ chart.IsShown (es₂.flatMap (Event.pictures k series)) := by
  let c := Config.default
  let k : ObjectKey := ⟨"a", "b"⟩
  let value : Operation := .polledValue k ⟨"x"⟩ ⟨some 1, none⟩ 10
  let before : List Operation := [
    .openTab k none ⟨true, []⟩,
    .activateFallback,
    .openChart k ⟨"x"⟩ ⟨none, none, false, false⟩ ⟨true⟩]
  let after : List Operation := [
    .setRange k (.fixed ⟨0, 20⟩),
    .setRange k (.fixed ⟨0, 20⟩)]
  let e : Event := ⟨(new c).run before, value⟩
  have ho : (((new c).run (before ++ value :: after)).chart? k ⟨"x"⟩).isSome := by decide +kernel
  obtain ⟨chart, hc⟩ := Option.isSome_iff_exists.mp ho
  have he : e ∈ (new c).events (before ++ value :: after) := by
    rw [events_append]
    exact List.mem_append_right _ (List.mem_cons_self ..)
  have hd : e.answer.delivery? = some ⟨1, 1, 1⟩ := by decide +kernel
  obtain ⟨hs, hl⟩ := screens_are_current c (before ++ value :: after)
  have hr := (hs e he).right.right _ hd
  exact ⟨c, _, k, ⟨"x"⟩, chart, hc, by decide +kernel, ⟨e, he, hd, hr.symm⟩, hl k ⟨"x"⟩ chart hc⟩

end Session
end FleetMonitor
