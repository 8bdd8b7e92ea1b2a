import FleetMonitor.Proofs.Registry

namespace FleetMonitor

namespace Tab.Frame

variable {t t' : Tab} {s : SeriesKey} {timer : Timer} {options : DisplayOptions} {surface : Surface}

theorem symm (f : Frame t t') : Frame t' t :=
  ⟨f.key.symm, f.displayName.symm, f.capacity.symm, f.objectTimer?.symm, f.seriesTimers.symm,
    f.keys.symm⟩

theorem missingTargets (f : Frame t t') : t'.missingTargets = t.missingTargets := by
  simp [Tab.missingTargets, seriesWithoutTimer, f.key, f.objectTimer?, f.seriesTimers, f.keys]

theorem clearTimers (f : Frame t t') : Frame t.clearTimers t'.clearTimers :=
  ⟨f.key, f.displayName, f.capacity, rfl, rfl, f.keys⟩

theorem keepTimer (f : Frame t t') : Frame (t.keepTimer timer) (t'.keepTimer timer) := by
  unfold Tab.keepTimer keepTimer?
  cases timer.target
  case object =>
    simp only [f.objectTimer?]
    split
    · exact f
    · exact ⟨f.key, f.displayName, f.capacity, rfl, f.seriesTimers, f.keys⟩
  case series =>
    simp only [f.hasChart, f.seriesTimers]
    split
    · exact ⟨f.key, f.displayName, f.capacity, f.objectTimer?, rfl, f.keys⟩
    · exact f

theorem openChart? (f : Frame t t') :
    Option.Rel Frame (t.openChart? s options surface) (t'.openChart? s options surface) := by
  have hk {c c' : Chart} : (t'.charts.insert s c').keys = (t.charts.insert s c).keys := by
    refine SortedMap.keys_eq_iff.mpr fun s' => ?_
    have hs : t'.charts.contains s' = t.charts.contains s' := f.hasChart
    simp only [SortedMap.contains, SortedMap.find?_insert] at hs ⊢
    split
    · rfl
    · exact hs
  unfold Tab.openChart?
  rw [f.hasChart]
  split
  · exact .none
  · split <;> exact .some ⟨f.key, f.displayName, f.capacity, f.objectTimer?, f.seriesTimers, hk⟩

theorem closeChart (f : Frame t t') : Frame (t.closeChart s) (t'.closeChart s) where
  key          := f.key
  displayName  := f.displayName
  capacity     := f.capacity
  objectTimer? := f.objectTimer?
  seriesTimers := congrArg (SortedMap.erase · s) f.seriesTimers
  keys         := SortedMap.keys_eq_iff.mpr fun s' => by
    have hs : t'.charts.contains s' = t.charts.contains s' := f.hasChart
    simp only [SortedMap.contains, Tab.closeChart, SortedMap.find?_erase] at hs ⊢
    split
    · rfl
    · exact hs

end Tab.Frame

namespace Registry

variable {r r' r'' : Registry} {k : ObjectKey} {t? t?' : Option Tab} {f : Feed} {timer : Timer}

def Framed (r r' : Registry) : Prop :=
  ∀ k, Option.Rel Tab.Frame (r.tab? k) (r'.tab? k)

namespace Framed

-- What happens to both tabs, if there are tabs.
theorem map {g g' : Tab → Tab} (h : Option.Rel Tab.Frame t? t?')
    (hg : ∀ t t', Tab.Frame t t' → Tab.Frame (g t) (g' t')) :
    Option.Rel Tab.Frame (t?.map g) (t?'.map g') := by
  cases h with
  | none   => exact .none
  | some f => exact .some (hg _ _ f)

theorem tab? (h : r.Framed r') (k : ObjectKey) : (r.tab? k = none ∧ r'.tab? k = none) ∨
    ∃ t t', r.tab? k = some t ∧ r'.tab? k = some t' ∧ Tab.Frame t t' := by
  have hk := h k
  cases ht : r.tab? k <;> cases ht' : r'.tab? k <;> rw [ht, ht'] at hk <;> cases hk
  case none.none        => exact .inl ⟨rfl, rfl⟩
  case some.some.some f => exact .inr ⟨_, _, rfl, rfl, f⟩

theorem refl : r.Framed r := by
  intro k
  cases r.tab? k with
  | none   => exact .none
  | some _ => exact .some .refl

theorem symm (h : r.Framed r') : r'.Framed r := by
  intro k
  rcases h.tab? k with ⟨ht, ht'⟩ | ⟨t, t', ht, ht', f⟩ <;> rw [ht, ht']
  · exact .none
  · exact .some f.symm

theorem trans (h : r.Framed r') (h' : r'.Framed r'') : r.Framed r'' := by
  intro k
  rcases h.tab? k with ⟨ht, ht'⟩ | ⟨t, t', ht, ht', f⟩
  case inl =>
    have hk := h' k
    rw [ht'] at hk
    exact ht ▸ hk
  case inr =>
    rcases h'.tab? k with ⟨e, _⟩ | ⟨_, t'', e, ht'', f'⟩
    · simp [ht'] at e
    · obtain rfl := Option.some.inj (ht'.symm.trans e)
      rw [ht, ht'']
      exact .some (f.trans f')

theorem take : r.Framed (r.take k f).registry := by
  intro k'
  rw [tab?_take]
  cases r.tab? k' with
  | none => exact .none
  | some t =>
    apply Option.Rel.some
    split
    · exact Tab.frame_feed
    · exact .refl

-- What is the same for both.

theorem contains (h : r.Framed r') : r'.contains k = r.contains k := by
  rw [contains_eq_isSome, contains_eq_isSome]
  rcases h.tab? k with ⟨ht, ht'⟩ | ⟨t, t', ht, ht', f⟩
  · rw [ht, ht']
  · rw [ht, ht']; rfl

-- Whatever is read off a tab's frame.
theorem map_tab? {g : Tab → β} (h : r.Framed r') (hg : ∀ t t', Tab.Frame t t' → g t' = g t)
    (k : ObjectKey) : (r'.tab? k).map g = (r.tab? k).map g := by
  rcases h.tab? k with ⟨ht, ht'⟩ | ⟨t, t', ht, ht', f⟩
  · rw [ht, ht']
  · rw [ht, ht', Option.map_some, Option.map_some, hg t t' f]

theorem map_tabs {g : Tab → β} (h : r.Framed r') (hg : ∀ t t', Tab.Frame t t' → g t' = g t) :
    r'.tabs.map g = r.tabs.map g := by
  apply SortedMap.ext_find?
  intro k
  rw [SortedMap.find?_map, SortedMap.find?_map]
  exact h.map_tab? hg k

theorem flatMap_values {g : Tab → List β} (h : r.Framed r')
    (hg : ∀ t t', Tab.Frame t t' → g t' = g t) :
    r'.tabs.values.flatMap g = r.tabs.values.flatMap g := by
  rw [List.flatMap_def, List.flatMap_def, ← SortedMap.values_map, ← SortedMap.values_map, h.map_tabs hg]

theorem timers (h : r.Framed r') : r'.timers = r.timers :=
  h.flatMap_values fun _ _ => Tab.Frame.timers

theorem timersOf (h : r.Framed r') : r'.timersOf k = r.timersOf k :=
  congrArg (Option.getD · []) (h.map_tab? (fun _ _ => Tab.Frame.timers) k)

theorem missingTargets (h : r.Framed r') : r'.missingTargets = r.missingTargets :=
  h.flatMap_values fun _ _ => Tab.Frame.missingTargets

theorem missingTargetsOf (h : r.Framed r') : r'.missingTargetsOf k = r.missingTargetsOf k :=
  congrArg (Option.getD · []) (h.map_tab? (fun _ _ => Tab.Frame.missingTargets) k)

theorem shownAs {name : String} (h : r.Framed r') : r'.shownAs name = r.shownAs name := by
  have hs (r : Registry) : r.shownAs name =
      ((r.tabs.map Tab.displayName).entries.filter (·.2 = name)).map (·.1) := by
    simp [Registry.shownAs, SortedMap.map, SortedMap.mapWithKey, List.filter_map, Function.comp_def]
  rw [hs, hs, h.map_tabs fun _ _ => Tab.Frame.displayName]

-- What is done to both.

theorem clearTimers (h : r.Framed r') : r.clearTimers.Framed r'.clearTimers := by
  intro k
  rw [tab?_clearTimers, tab?_clearTimers]
  exact map (h k) fun _ _ => Tab.Frame.clearTimers

theorem keepTimer (h : r.Framed r') : (r.keepTimer timer).Framed (r'.keepTimer timer) := by
  intro k
  rw [tab?_keepTimer, tab?_keepTimer]
  refine map (h k) fun t t' f => ?_
  split
  · exact f.keepTimer
  · exact f

theorem closeTab (h : r.Framed r') : (r.closeTab k).Framed (r'.closeTab k) := by
  intro k'
  rw [tab?_closeTab, tab?_closeTab]
  split
  · exact .none
  · exact h k'

theorem set {t t' : Tab} (h : r.Framed r') (f : Tab.Frame t t') : (r.set k t).Framed (r'.set k t') := by
  intro k'
  rw [tab?_set, tab?_set]
  refine map (h k') fun _ _ f' => ?_
  split
  · exact f
  · exact f'

end Framed

end Registry

theorem Session.Feeds.framed {s : Session} {op : Operation} {st : Session.Step α}
    (h : s.Feeds op st) : s.registry.Framed st.session.registry := by
  rw [h.registry]
  rcases s.feed? op with _ | ⟨k, f⟩
  · exact .refl
  · exact .take

end FleetMonitor
