import FleetMonitor.Proofs.Feeds

namespace FleetMonitor

namespace Tab

-- Whether a target of the tab's object is open.
def owns (t : Tab) : PollTarget → Bool
  | .object _   => true
  | .series _ s => t.hasChart s

def timer? (t : Tab) : PollTarget → Option Timer
  | .object _   => t.objectTimer?
  | .series _ s => t.seriesTimers.find? s

variable {t t' : Tab} {s s' : SeriesKey} {x : PollTarget} {timer : Timer} {options : DisplayOptions}
  {surface : Surface}

theorem Frame.owns (f : Frame t t') : t'.owns x = t.owns x := by
  cases x
  case object => rfl
  case series => exact f.hasChart

theorem Frame.timer? (f : Frame t t') : t'.timer? x = t.timer? x := by
  cases x
  case object => exact f.objectTimer?
  case series _ s => exact congrArg (SortedMap.find? · s) f.seriesTimers

-- What opening a chart leaves alone, apart from the one chart.
theorem openChart?_eq (h : t.openChart? s options surface = some t') :
    t.chart? s = none ∧ (∃ o, t'.charts = t.charts.insert s (.new s t.capacity o surface)) ∧
    t'.key = t.key ∧ t'.capacity = t.capacity ∧ t'.objectTimer? = t.objectTimer? ∧
    t'.seriesTimers = t.seriesTimers := by
  unfold openChart? at h
  split at h
  case isTrue => contradiction
  case isFalse hc =>
    have hn : t.chart? s = none := by simpa [hasChart, SortedMap.contains, chart?] using hc
    split at h <;> obtain rfl := Option.some.inj h <;> exact ⟨hn, ⟨_, rfl⟩, rfl, rfl, rfl, rfl⟩

theorem chart?_openChart? (h : t.openChart? s options surface = some t') :
    ∃ o, ∀ s', t'.chart? s' = if s' = s then some (.new s t.capacity o surface) else t.chart? s' := by
  have ⟨_, ⟨o, e⟩, _⟩ := openChart?_eq h
  refine ⟨o, fun s' => ?_⟩
  simp only [chart?, e, SortedMap.find?_insert, Std.compare_eq_iff_eq]

theorem history?_openChart? (h : t.openChart? s options surface = some t') :
    t'.history? s' = if s' = s then some (.new t.capacity) else t.history? s' := by
  have ⟨_, hc⟩ := chart?_openChart? h
  rw [history?, hc]
  split <;> rfl

-- The charts that are open already keep their histories.
theorem history?_openChart?_of_some {h₀ : History} (h : t.openChart? s options surface = some t')
    (hh : t.history? s' = some h₀) : t'.history? s' = some h₀ := by
  obtain ⟨hn, _⟩ := openChart?_eq h
  have hs : s' ≠ s := by
    rintro rfl
    simp [history?, hn] at hh
  rw [history?_openChart? h, if_neg hs, hh]

theorem owns_openChart? (h : t.openChart? s options surface = some t') :
    t'.owns x = (t.owns x || x = .series x.key s) := by
  have ⟨_, hc⟩ := chart?_openChart? h
  cases x
  case object => rfl
  case series k s' =>
    simp only [owns, hasChart_eq_isSome, hc, PollTarget.key]
    by_cases hs : s' = s <;> simp [hs]

theorem timer?_openChart? (h : t.openChart? s options surface = some t') :
    t'.timer? x = t.timer? x := by
  have ⟨_, _, _, _, ho, hs⟩ := openChart?_eq h
  cases x
  case object => exact ho
  case series _ s => exact congrArg (SortedMap.find? · s) hs

theorem chart?_closeChart :
    (t.closeChart s).chart? s' = if s' = s then none else t.chart? s' := by
  simp only [chart?, closeChart, SortedMap.find?_erase, Std.compare_eq_iff_eq]

theorem history?_closeChart :
    (t.closeChart s).history? s' = if s' = s then none else t.history? s' := by
  rw [history?, chart?_closeChart]
  split <;> rfl

theorem owns_closeChart : (t.closeChart s).owns x = (t.owns x && x ≠ .series x.key s) := by
  cases x
  case object => rfl
  case series k s' =>
    simp only [owns, hasChart_eq_isSome, chart?_closeChart, PollTarget.key]
    by_cases hs : s' = s <;> simp [hs]

theorem timer?_closeChart :
    (t.closeChart s).timer? x = if x = .series x.key s then none else t.timer? x := by
  cases x
  case object => rfl
  case series k s' =>
    simp only [timer?, closeChart, SortedMap.find?_erase, Std.compare_eq_iff_eq, PollTarget.key]
    by_cases hs : s' = s <;> simp [hs]

theorem owns_keepTimer : (t.keepTimer timer).owns x = t.owns x := by
  cases x
  case object => rfl
  case series k s =>
    unfold keepTimer keepTimer?
    cases timer.target <;> dsimp only <;> split <;> rfl

theorem history?_keepTimer : (t.keepTimer timer).history? s = t.history? s := by
  unfold keepTimer keepTimer?
  cases timer.target <;> dsimp only <;> split <;> rfl

-- A timer is kept if its target is open and has none.
theorem timer?_keepTimer (hx : x.key = timer.target.key) : (t.keepTimer timer).timer? x =
    if x = timer.target ∧ t.owns x ∧ t.timer? x = none then some timer else t.timer? x := by
  unfold keepTimer keepTimer?
  cases ht : timer.target with
  | object k =>
    rw [ht] at hx
    cases x
    case object k' =>
      obtain rfl : k' = k := hx
      cases h : t.objectTimer? <;> simp [timer?, owns, h]
    case series => dsimp only; split <;> simp [timer?]
  | series k s =>
    rw [ht] at hx
    cases x
    case object => dsimp only; split <;> simp [timer?]
    case series k' s' =>
      obtain rfl : k' = k := hx
      have hn : t.seriesTimers.find? s = none ↔ ¬t.seriesTimers.contains s := by
        simp [SortedMap.contains]
      dsimp only
      split
      case isTrue h =>
        by_cases hs : s' = s <;> simp [timer?, owns, SortedMap.find?_insert, hs, hn, h]
      case isFalse h =>
        rw [if_neg]
        · rfl
        · rintro ⟨e, ho, hm⟩
          obtain rfl : s' = s := (PollTarget.series.inj e).right
          exact h ⟨ho, hn.mp hm⟩

theorem timer?_clearTimers : t.clearTimers.timer? x = none := by
  cases x <;> rfl

theorem history?_clearTimers : t.clearTimers.history? s = t.history? s :=
  rfl

theorem owns_clearTimers : t.clearTimers.owns x = t.owns x := by
  cases x <;> rfl

end Tab

namespace Registry

def owns (r : Registry) (x : PollTarget) : Bool :=
  (r.tab? x.key).any (·.owns x)

def timer? (r : Registry) (x : PollTarget) : Option Timer :=
  (r.tab? x.key).bind (·.timer? x)

variable {r r' : Registry} {k k' : ObjectKey} {s s' : SeriesKey} {x : PollTarget} {t : Tab} {f : Feed}
  {timer : Timer} {timers : List Timer} {name? : Option String} {renderer : Renderer}
  {options : DisplayOptions} {surface : Surface}

theorem owns_take : (r.take k f).registry.owns x = r.owns x := by
  simp only [owns, tab?_take]
  cases r.tab? x.key with
  | none => rfl
  | some t =>
    simp only [Option.map_some, Option.any_some]
    split
    · exact Tab.frame_feed.owns
    · rfl

theorem timer?_take : (r.take k f).registry.timer? x = r.timer? x := by
  simp only [timer?, tab?_take]
  cases r.tab? x.key with
  | none => rfl
  | some t =>
    simp only [Option.map_some, Option.bind_some]
    split
    · exact Tab.frame_feed.timer?
    · rfl

theorem history?_clearTimers : r.clearTimers.history? k s = r.history? k s := by
  simp only [history?, tab?_clearTimers]
  cases r.tab? k <;> rfl

theorem owns_clearTimers : r.clearTimers.owns x = r.owns x := by
  simp only [owns, tab?_clearTimers]
  cases r.tab? x.key with
  | none   => rfl
  | some t => exact Tab.owns_clearTimers

theorem timer?_clearTimers : r.clearTimers.timer? x = none := by
  simp only [timer?, tab?_clearTimers]
  cases r.tab? x.key with
  | none   => rfl
  | some t => exact Tab.timer?_clearTimers

theorem history?_keepTimer : (r.keepTimer timer).history? k s = r.history? k s := by
  simp only [history?, tab?_keepTimer]
  cases r.tab? k with
  | none => rfl
  | some t =>
    simp only [Option.map_some, Option.bind_some]
    split
    · exact Tab.history?_keepTimer
    · rfl

theorem owns_keepTimer : (r.keepTimer timer).owns x = r.owns x := by
  simp only [owns, tab?_keepTimer]
  cases r.tab? x.key with
  | none => rfl
  | some t =>
    simp only [Option.map_some, Option.any_some]
    split
    · exact Tab.owns_keepTimer
    · rfl

theorem timer?_keepTimer : (r.keepTimer timer).timer? x =
    if x = timer.target ∧ r.owns x ∧ r.timer? x = none then some timer else r.timer? x := by
  cases ht : r.tab? x.key with
  | none => simp [timer?, owns, tab?_keepTimer, ht]
  | some t =>
    simp only [timer?, owns, tab?_keepTimer, ht, Option.map_some, Option.bind_some, Option.any_some]
    split
    case isTrue h  => exact Tab.timer?_keepTimer h
    case isFalse h => rw [if_neg fun ⟨e, _⟩ => h (congrArg _ e)]

theorem history?_keepTimers : (r.keepTimers timers).history? k s = r.history? k s := by
  induction timers generalizing r with
  | nil => rfl
  | cons _ _ hi => exact hi.trans history?_keepTimer

theorem owns_keepTimers : (r.keepTimers timers).owns x = r.owns x := by
  induction timers generalizing r with
  | nil => rfl
  | cons _ _ hi => exact hi.trans owns_keepTimer

theorem history?_openTab? (h : r.openTab? k name? renderer = some r') :
    r'.history? k' s = r.history? k' s := by
  have ⟨hn, he⟩ := tab?_openTab? h k'
  simp only [history?, he]
  split
  case isTrue e => simp only [e, hn]; rfl
  case isFalse  => rfl

theorem owns_openTab? (h : r.openTab? k name? renderer = some r') :
    r'.owns x = (r.owns x || x = .object k) := by
  have ⟨hn, he⟩ := tab?_openTab? h x.key
  simp only [owns, he]
  cases x
  case object k' => by_cases e : k' = k <;> simp [PollTarget.key, e, Tab.owns, hn]
  case series k' s =>
    by_cases e : k' = k
    case pos => simp only [PollTarget.key, e, hn]; rfl
    case neg => simp [PollTarget.key, e]

theorem timer?_openTab? (h : r.openTab? k name? renderer = some r') : r'.timer? x = r.timer? x := by
  have ⟨hn, he⟩ := tab?_openTab? h x.key
  simp only [timer?, he]
  split
  case isTrue e => simp only [e, hn]; cases x <;> rfl
  case isFalse  => rfl

theorem history?_closeTab :
    (r.closeTab k).history? k' s = if k' = k then none else r.history? k' s := by
  simp only [history?, tab?_closeTab]
  split <;> rfl

theorem owns_closeTab : (r.closeTab k).owns x = (r.owns x && x.key ≠ k) := by
  simp only [owns, tab?_closeTab]
  by_cases h : x.key = k <;> simp [h]

theorem timer?_closeTab : (r.closeTab k).timer? x = if x.key = k then none else r.timer? x := by
  simp only [timer?, tab?_closeTab]
  split <;> rfl

theorem capacity_take : (r.take k f).registry.capacity = r.capacity := by
  unfold take update
  split <;> rfl

theorem capacity_keepTimers : (r.keepTimers timers).capacity = r.capacity := by
  induction timers generalizing r with
  | nil => rfl
  | cons _ _ hi => exact hi

theorem capacity_openTab? (h : r.openTab? k name? renderer = some r') : r'.capacity = r.capacity := by
  unfold openTab? at h
  split at h
  · contradiction
  · exact Option.some.inj h ▸ rfl

theorem tab?_set_of_some {t₀ : Tab} (h : r.tab? k = some t₀) :
    (r.set k t).tab? k' = if k' = k then some t else r.tab? k' := by
  rw [tab?_set]
  by_cases e : k' = k <;> simp [e, h]

-- Registries that differ by no more than their tabs, and not by these.
theorem eq_of_tab? (h : r' = { r with tabs := r'.tabs }) (ht : ∀ k, r'.tab? k = r.tab? k) :
    r' = r := by
  rw [h, SortedMap.ext_find? ht]

theorem history?_openChart (h : (r.tab? k).bind (·.openChart? s options surface) = some t) :
    (r.set k t).history? k' s' =
      if k' = k ∧ s' = s then some (.new t.capacity) else r.history? k' s' := by
  have ⟨t₀, ht, h⟩ := Option.bind_eq_some_iff.mp h
  have ⟨_, _, _, hc, _⟩ := Tab.openChart?_eq h
  by_cases e : k' = k <;>
    simp [history?, tab?_set_of_some ht, e, ht, hc, Tab.history?_openChart? h]

theorem owns_openChart (h : (r.tab? k).bind (·.openChart? s options surface) = some t) :
    (r.set k t).owns x = (r.owns x || x = .series k s) := by
  have ⟨t₀, ht, h⟩ := Option.bind_eq_some_iff.mp h
  by_cases e : x.key = k
  case pos => simp [owns, tab?_set_of_some ht, e, ht, Tab.owns_openChart? h]
  case neg =>
    have : x ≠ .series k s := by rintro rfl; exact e rfl
    simp [owns, tab?_set_of_some ht, e, this]

theorem timer?_openChart (h : (r.tab? k).bind (·.openChart? s options surface) = some t) :
    (r.set k t).timer? x = r.timer? x := by
  have ⟨t₀, ht, h⟩ := Option.bind_eq_some_iff.mp h
  by_cases e : x.key = k <;>
    simp [timer?, tab?_set_of_some ht, e, ht, Tab.timer?_openChart? h]

theorem history?_closeChart (h : r.tab? k = some t) :
    (r.set k (t.closeChart s)).history? k' s' =
      if k' = k ∧ s' = s then none else r.history? k' s' := by
  by_cases e : k' = k <;> simp [history?, tab?_set_of_some h, e, h, Tab.history?_closeChart]

theorem owns_closeChart (h : r.tab? k = some t) :
    (r.set k (t.closeChart s)).owns x = (r.owns x && x ≠ .series k s) := by
  by_cases e : x.key = k
  case pos => simp [owns, tab?_set_of_some h, e, h, Tab.owns_closeChart]
  case neg =>
    have : x ≠ .series k s := by rintro rfl; exact e rfl
    simp [owns, tab?_set_of_some h, e, this]

theorem timer?_closeChart (h : r.tab? k = some t) :
    (r.set k (t.closeChart s)).timer? x = if x = .series k s then none else r.timer? x := by
  by_cases e : x.key = k
  case pos => simp [timer?, tab?_set_of_some h, e, h, Tab.timer?_closeChart]
  case neg =>
    have : x ≠ .series k s := by rintro rfl; exact e rfl
    simp [timer?, tab?_set_of_some h, e, this]

-- Every tab is kept under its own key and has the capacity of the registry, and every timer polls
-- the open target that it is kept for.
structure Sound (r : Registry) : Prop where
  tabs   : ∀ k t, r.tab? k = some t → t.key = k ∧ t.capacity = r.capacity
  timers : ∀ x timer, r.timer? x = some timer → timer.target = x ∧ r.owns x

namespace Sound

theorem keyed (h : r.Sound) : r.Keyed :=
  fun k t ht => (h.tabs k t ht).left

theorem new {capacity : Nat} {range : TimeRange} : (new capacity range).Sound :=
  ⟨nofun, nofun⟩

-- What changes the tabs one by one, and neither their keys nor their capacities.
theorem of_map {g : ObjectKey → Tab → Tab} (h : r.Sound) (hc : r'.capacity = r.capacity)
    (ht : ∀ k, r'.tab? k = (r.tab? k).map (g k))
    (hg : ∀ k t, r.tab? k = some t → (g k t).key = t.key ∧ (g k t).capacity = t.capacity)
    (hx : ∀ x timer, r'.timer? x = some timer → timer.target = x ∧ r'.owns x) : r'.Sound where
  tabs k t' he := by
    rw [ht] at he
    obtain ⟨t, hm, rfl⟩ := Option.map_eq_some_iff.mp he
    rw [(hg k t hm).left, (hg k t hm).right, hc]
    exact h.tabs k t hm
  timers := hx

theorem take (h : r.Sound) : (r.take k f).registry.Sound := by
  refine h.of_map capacity_take (fun _ => tab?_take) (fun k' t _ => ?tab) (fun x timer hx => ?timer)
  case tab =>
    split
    · exact ⟨Tab.frame_feed.key, Tab.frame_feed.capacity⟩
    · exact ⟨rfl, rfl⟩
  case timer =>
    rw [timer?_take] at hx
    rw [owns_take]
    exact h.timers x timer hx

theorem clearTimers (h : r.Sound) : r.clearTimers.Sound := by
  refine h.of_map rfl (fun _ => tab?_clearTimers) (fun _ _ _ => ⟨rfl, rfl⟩) (fun x timer hx => ?_)
  rw [timer?_clearTimers] at hx
  contradiction

theorem keepTimer (h : r.Sound) : (r.keepTimer timer).Sound := by
  refine h.of_map rfl (fun _ => tab?_keepTimer) (fun k t _ => ?tab) (fun x timer' hx => ?timer)
  case tab =>
    split
    · unfold Tab.keepTimer Tab.keepTimer?
      cases timer.target <;> dsimp only <;> split <;> exact ⟨rfl, rfl⟩
    · exact ⟨rfl, rfl⟩
  case timer =>
    rw [timer?_keepTimer] at hx
    rw [owns_keepTimer]
    split at hx
    case isTrue hk =>
      obtain rfl := Option.some.inj hx
      exact ⟨hk.left.symm, hk.right.left⟩
    case isFalse => exact h.timers x timer' hx

theorem keepTimers (h : r.Sound) : (r.keepTimers timers).Sound := by
  induction timers generalizing r with
  | nil => exact h
  | cons _ _ hi => exact hi h.keepTimer

theorem openTab? (h : r.Sound) (ho : r.openTab? k name? renderer = some r') : r'.Sound where
  tabs k' t ht := by
    have hc := capacity_openTab? ho
    rw [(tab?_openTab? ho k').right] at ht
    split at ht
    case isTrue e => obtain rfl := Option.some.inj ht; exact ⟨e.symm, hc.symm⟩
    case isFalse  => exact hc ▸ h.tabs k' t ht
  timers x timer hx := by
    rw [timer?_openTab? ho] at hx
    have ⟨ht, hw⟩ := h.timers x timer hx
    exact ⟨ht, by simp [owns_openTab? ho, hw]⟩

theorem closeTab (h : r.Sound) : (r.closeTab k).Sound where
  tabs k' t ht := by
    rw [tab?_closeTab] at ht
    split at ht
    · contradiction
    · exact h.tabs k' t ht
  timers x timer hx := by
    rw [timer?_closeTab] at hx
    split at hx
    case isTrue => contradiction
    case isFalse hk =>
      have ⟨ht, hw⟩ := h.timers x timer hx
      exact ⟨ht, by simp [owns_closeTab, hw, hk]⟩

theorem openChart (h : r.Sound) (ho : (r.tab? k).bind (·.openChart? s options surface) = some t) :
    (r.set k t).Sound := by
  have ⟨t₀, ht, hs⟩ := Option.bind_eq_some_iff.mp ho
  have ⟨_, _, hk, hc, _⟩ := Tab.openChart?_eq hs
  refine h.of_map rfl (fun _ => tab?_set) (fun k' t' ht' => ?tab) (fun x timer hx => ?timer)
  case tab =>
    split
    case isTrue e =>
      obtain rfl := Option.some.inj (ht.symm.trans (e ▸ ht'))
      exact ⟨hk, hc⟩
    case isFalse => exact ⟨rfl, rfl⟩
  case timer =>
    rw [timer?_openChart ho] at hx
    have ⟨ht, hw⟩ := h.timers x timer hx
    exact ⟨ht, by simp [owns_openChart ho, hw]⟩

theorem closeChart (h : r.Sound) (ht : r.tab? k = some t) : (r.set k (t.closeChart s)).Sound := by
  refine h.of_map rfl (fun _ => tab?_set) (fun k' t' ht' => ?tab) (fun x timer hx => ?timer)
  case tab =>
    split
    case isTrue e =>
      obtain rfl := Option.some.inj (ht.symm.trans (e ▸ ht'))
      exact ⟨rfl, rfl⟩
    case isFalse => exact ⟨rfl, rfl⟩
  case timer =>
    rw [timer?_closeChart ht] at hx
    split at hx
    case isTrue => contradiction
    case isFalse hn =>
      have ⟨ht', hw⟩ := h.timers x timer hx
      exact ⟨ht', by simp [owns_closeChart ht, hw, hn]⟩

end Sound

end Registry

namespace Session

variable {s : Session} {k k' : ObjectKey} {series : SeriesKey} {x : PollTarget}
  {f? : Option (ObjectKey × Feed)}

-- A feed changes nothing but the histories.

theorem owns_take : (s.take f?).registry.owns x = s.registry.owns x := by
  unfold take
  split
  · exact Registry.owns_take
  · rfl

theorem timer?_take : (s.take f?).registry.timer? x = s.registry.timer? x := by
  unfold take
  split
  · exact Registry.timer?_take
  · rfl

theorem capacity_take : (s.take f?).registry.capacity = s.registry.capacity := by
  unfold take
  split
  · exact Registry.capacity_take
  · rfl

theorem sound_take (h : s.registry.Sound) : (s.take f?).registry.Sound := by
  unfold take
  split
  · exact h.take
  · exact h

-- A backfill changes nothing but the timers.

theorem registry_backfill :
    ∃ timers, (s.backfill k).session.registry = s.registry.keepTimers timers := by
  unfold backfill
  split
  · exact ⟨_, rfl⟩
  · exact ⟨[], rfl⟩

theorem history?_backfill :
    (s.backfill k).session.registry.history? k' series = s.registry.history? k' series := by
  have ⟨_, h⟩ := registry_backfill (s := s) (k := k)
  exact h ▸ Registry.history?_keepTimers

theorem owns_backfill : (s.backfill k).session.registry.owns x = s.registry.owns x := by
  have ⟨_, h⟩ := registry_backfill (s := s) (k := k)
  exact h ▸ Registry.owns_keepTimers

theorem capacity_backfill : (s.backfill k).session.registry.capacity = s.registry.capacity := by
  have ⟨_, h⟩ := registry_backfill (s := s) (k := k)
  exact h ▸ Registry.capacity_keepTimers

theorem sound_backfill (h : s.registry.Sound) : (s.backfill k).session.registry.Sound := by
  have ⟨_, e⟩ := registry_backfill (s := s) (k := k)
  exact e ▸ h.keepTimers

theorem backfill_of_ne_polling (h : s.connection.phase ≠ .polling) : s.backfill k = ⟨s, 0, []⟩ :=
  if_neg h

end Session
end FleetMonitor
