import FleetMonitor.Proofs.Arrivals
import FleetMonitor.Proofs.Passes

namespace FleetMonitor

namespace Effect

-- The calls for one tab among some effects.
def calls (k : ObjectKey) (es : List Effect) : List TabCall :=
  es.filterMap fun
    | call k' c => if k' = k then some c else none
    | _         => none

variable {k k' : ObjectKey} {cs : List TabCall} {ts : List Timer}

theorem calls_map_call : calls k (cs.map (.call k')) = if k' = k then cs else [] := by
  unfold calls
  by_cases h : k' = k <;> simp [h]

theorem calls_map_start : calls k (ts.map .start) = [] := by
  simp [calls]

theorem calls_map_stop : calls k (ts.map .stop) = [] := by
  simp [calls]

end Effect

namespace Tab

-- The tab with other timers.
def withTimers (t : Tab) (o? : Option Timer) (ss : SortedMap SeriesKey Timer) : Tab :=
  { t with objectTimer? := o?, seriesTimers := ss }

variable {t t' : Tab} {s s' : SeriesKey} {timer : Timer} {options : DisplayOptions} {surface : Surface}

theorem keepTimer_eq_withTimers : ∃ o? ss, t.keepTimer timer = t.withTimers o? ss := by
  unfold keepTimer keepTimer?
  cases timer.target <;> dsimp only <;> split <;> exact ⟨_, _, rfl⟩

theorem touched?_openChart? (h : t.openChart? s options surface = some t') :
    t'.touched? = t.touched? := by
  unfold openChart? at h
  split at h
  · contradiction
  · split at h <;> exact Option.some.inj h ▸ rfl

theorem touched?_closeChart (h : (t.closeChart s).touched? = some s') :
    s' ≠ s ∧ t.touched? = some s' := by
  unfold closeChart at h
  dsimp only at h
  split at h
  case isTrue     => contradiction
  case isFalse hn => exact ⟨fun e => hn (e ▸ h), h⟩

namespace Settled

theorem new {k : ObjectKey} {name : String} {renderer : Renderer} {capacity : Nat} {range : TimeRange} :
    (Tab.new k name renderer capacity range).Settled := by
  have hn (s : SeriesKey) : (Tab.new k name renderer capacity range).chart? s = none := rfl
  refine ⟨fun s c hc => ?key, fun s c hc => ?clean, nofun⟩
  case key   => rw [hn] at hc; contradiction
  case clean => rw [hn] at hc; contradiction

theorem withTimers {o? : Option Timer} {ss : SortedMap SeriesKey Timer} (h : t.Settled) :
    (t.withTimers o? ss).Settled :=
  ⟨h.key, h.clean, h.touched⟩

theorem openChart? (h : t.Settled) (ho : t.openChart? s options surface = some t') : t'.Settled := by
  have ⟨o, hc⟩ := chart?_openChart? ho
  constructor
  case key =>
    intro s' c hs
    rw [hc] at hs
    split at hs
    case isTrue e => obtain rfl := Option.some.inj hs; exact e.symm
    case isFalse  => exact h.key s' c hs
  case clean =>
    intro s' c hs
    rw [hc] at hs
    split at hs
    case isTrue  => obtain rfl := Option.some.inj hs; rfl
    case isFalse => exact h.clean s' c hs
  case touched =>
    intro s' hs
    rw [touched?_openChart? ho] at hs
    obtain ⟨h₀, hh, hl⟩ := h.touched s' hs
    exact ⟨h₀, history?_openChart?_of_some ho hh, hl⟩

theorem closeChart (h : t.Settled) : (t.closeChart s).Settled where
  key s' c hs := by
    rw [chart?_closeChart] at hs
    split at hs
    · contradiction
    · exact h.key s' c hs
  clean s' c hs := by
    rw [chart?_closeChart] at hs
    split at hs
    · contradiction
    · exact h.clean s' c hs
  touched s' hs := by
    obtain ⟨hn, ht⟩ := touched?_closeChart hs
    obtain ⟨h₀, hh, hl⟩ := h.touched s' ht
    exact ⟨h₀, by rw [history?_closeChart, if_neg hn, hh], hl⟩

end Settled

end Tab

namespace Registry

variable {r : Registry} {k : ObjectKey} {t' : Tab} {timers : List Timer} {f : Feed}

def Settled (r : Registry) : Prop :=
  ∀ k t, r.tab? k = some t → t.Settled

theorem Settled.new {capacity : Nat} {range : TimeRange} : (Registry.new capacity range).Settled := by
  intro k t ht
  rw [tab?_new] at ht
  contradiction

theorem effects_take : (r.take k f).effects =
    (((r.tab? k).map (·.feedCalls f)).getD []).map (.call k) := by
  cases ht : r.tab? k with
  | none => simp [take, update, unreached, ht]
  | some t => cases hp : t.take? f <;> simp [take, update, unreached, ht, hp, Tab.feedCalls]

-- Timers that are kept leave everything else in the tabs alone.
theorem tab?_keepTimers (h : (r.keepTimers timers).tab? k = some t') :
    ∃ t o? ss, r.tab? k = some t ∧ t' = t.withTimers o? ss := by
  induction timers generalizing r with
  | nil => exact ⟨t', _, _, h, rfl⟩
  | cons timer timers hi =>
    obtain ⟨t₁, _, _, h₁, rfl⟩ := hi h
    rw [tab?_keepTimer] at h₁
    obtain ⟨t, ht, rfl⟩ := Option.map_eq_some_iff.mp h₁
    split
    case isTrue =>
      obtain ⟨_, _, e⟩ : ∃ o? ss, t.keepTimer timer = t.withTimers o? ss :=
        Tab.keepTimer_eq_withTimers
      rw [e]
      exact ⟨t, _, _, ht, rfl⟩
    case isFalse => exact ⟨t, _, _, ht, rfl⟩

end Registry

namespace Session

-- What an operation feeds to one tab.
def feedOf? (s : Session) (k : ObjectKey) (op : Operation) : Option Feed :=
  match s.feed? op with
  | some (k', f) => if k' = k then some f else none
  | none         => none

-- The calls that an operation makes for one tab.
def callsFor (s : Session) (k : ObjectKey) (op : Operation) : List TabCall :=
  match s.registry.tab? k, s.feedOf? k op with
  | some t, some f => t.feedCalls f
  | _,      _      => []

-- How a tab that is open after an operation comes from the one that was open before.
inductive Alters (s : Session) (k : ObjectKey) (op : Operation) (a : Answer) : Tab → Prop
  | feeds (ht : s.registry.tab? k = some t) (hf : s.feedOf? k op = some f)
      (ho : ∀ series, ¬op.opens k series a) :
    Alters s k op a (t.feed f)
  | keeps (ht : s.registry.tab? k = some t) (hf : s.feedOf? k op = none)
      (ho : ∀ series, ¬op.opens k series a) :
    Alters s k op a (t.withTimers o? ss)
  | opensTab (ht : s.registry.tab? k = none) (ho : op = .openTab k name? renderer) :
    Alters s k op a ((Tab.new k (name?.getD k.object) renderer s.registry.capacity
      s.registry.defaultRange).withTimers o? ss)
  | opensChart (ht : s.registry.tab? k = some t) (ho : op = .openChart k series options surface)
      (ha : a = .flag true) (h : t.openChart? series options surface = some t') :
    Alters s k op a (t'.withTimers o? ss)
  | closesChart (ht : s.registry.tab? k = some t) (ho : op = .closeChart k series) :
    Alters s k op a (t.closeChart series)

variable {s : Session} {op : Operation} {a : Answer} {st : Step Answer} {k k' : ObjectKey}
  {series : SeriesKey} {t t' : Tab}

theorem pointsFor_eq : s.pointsFor k series op =
    ((s.feedOf? k op).map (·.points series)).getD [] := by
  unfold pointsFor feedOf?
  cases s.feed? op with
  | none => rfl
  | some kf => by_cases h : kf.1 = k <;> simp [h]

theorem feedOf?_eq_some_iff {f : Feed} : s.feedOf? k op = some f ↔ s.feed? op = some (k, f) := by
  unfold feedOf?
  rcases s.feed? op with _ | ⟨k', f'⟩
  · simp
  · by_cases hk : k' = k <;> simp [hk]

theorem feedOf?_of_none (h : s.feed? op = none) : s.feedOf? k op = none := by
  rw [feedOf?, h]

theorem feedOf?_of_isSubscription (h : op.isSubscription) : s.feedOf? k op = none :=
  feedOf?_of_none (feed?_of_isSubscription h)

theorem Alters.same (ht : s.registry.tab? k = some t) (hf : s.feedOf? k op = none)
    (ho : ∀ series, ¬op.opens k series a) : s.Alters k op a t := by
  have h : s.Alters k op a (t.withTimers t.objectTimer? t.seriesTimers) := .keeps ht hf ho
  exact h

theorem tab?_backfill (h : (s.backfill k').session.registry.tab? k = some t') :
    ∃ t o? ss, s.registry.tab? k = some t ∧ t' = t.withTimers o? ss := by
  have ⟨_, e⟩ := registry_backfill (s := s) (k := k')
  exact Registry.tab?_keepTimers (e ▸ h)

theorem alters_take (h : (s.take (s.feed? op)).registry.tab? k = some t')
    (ho : ∀ series, ¬op.opens k series a) : s.Alters k op a t' := by
  rcases hf : s.feed? op with _ | ⟨k', f⟩
  case none =>
    rw [hf] at h
    exact .same h (feedOf?_of_none hf) ho
  case some =>
    have hk : s.feedOf? k op = if k' = k then some f else none := by rw [feedOf?, hf]
    rw [hf, take, Registry.tab?_take] at h
    obtain ⟨t, ht, rfl⟩ := Option.map_eq_some_iff.mp h
    split
    case isTrue e  => exact .feeds ht (hk.trans (if_pos e.symm)) ho
    case isFalse e => exact .same ht (hk.trans (if_neg (Ne.symm e))) ho

theorem Course.alters (c : s.Course op st) (h : st.session.registry.tab? k = some t') :
    s.Alters k op st.answer t' := by
  cases c with
  | feeds hf ho =>
    refine alters_take (hf.registry ▸ h) fun series hs => ?_
    rw [Operation.isControl_of_opens hs] at ho
    contradiction
  | refuses ho => exact .same h (feedOf?_of_isSubscription ho) (by simp [Operation.opens_iff])
  | stops ho hf _ hr =>
    rw [hr, Registry.tab?_clearTimers] at h
    obtain ⟨t, ht, rfl⟩ := Option.map_eq_some_iff.mp h
    refine .keeps ht (feedOf?_of_none hf) fun series hs => ?_
    obtain ⟨_, _, rfl, ha⟩ := Operation.opens_iff.mp hs
    simp [ha, Answer.acknowledges] at ho
  | starts ho hf _ _ _ hr =>
    obtain ⟨t, o?, ss, ht, rfl⟩ := Registry.tab?_keepTimers (hr ▸ h)
    refine .keeps ht (feedOf?_of_none hf) fun series hs => ?_
    obtain ⟨_, _, rfl, ha⟩ := Operation.opens_iff.mp hs
    simp [ha] at ho
  | openTab ho =>
    obtain ⟨t, o?, ss, ht, rfl⟩ := tab?_backfill h
    obtain ⟨hn, he⟩ := Registry.tab?_openTab? ho k
    replace ht := he.symm.trans ht
    split at ht
    case isTrue e =>
      subst e
      obtain rfl := Option.some.inj ht
      exact .opensTab hn rfl
    case isFalse => exact .keeps ht rfl fun _ => Bool.false_ne_true
  | closeTab =>
    replace h := Registry.tab?_closeTab.symm.trans h
    split at h
    case isTrue  => contradiction
    case isFalse => exact .same h rfl fun _ => Bool.false_ne_true
  | openChart ho =>
    obtain ⟨t, o?, ss, ht, rfl⟩ := tab?_backfill h
    obtain ⟨t₀, h₀, hs⟩ := Option.bind_eq_some_iff.mp ho
    replace ht := (Registry.tab?_set_of_some h₀).symm.trans ht
    split at ht
    case isTrue e =>
      subst e
      obtain rfl := Option.some.inj ht
      exact .opensChart h₀ rfl rfl hs
    case isFalse e =>
      refine .keeps ht rfl fun series hs => e ?_
      obtain ⟨_, _, ho, _⟩ := Operation.opens_iff.mp hs
      exact (Operation.openChart.inj ho).left.symm
  | closeChart h₀ =>
    replace h := (Registry.tab?_set_of_some h₀).symm.trans h
    split at h
    case isTrue e =>
      subst e
      obtain rfl := Option.some.inj h
      exact .closesChart h₀ rfl
    case isFalse => exact .same h rfl fun _ => Bool.false_ne_true

theorem calls_backfill : Effect.calls k (s.backfill k').effects = [] := by
  unfold backfill
  split
  · exact Effect.calls_map_start
  · rfl

theorem calls_take : Effect.calls k (s.take (s.feed? op)).effects = s.callsFor k op := by
  unfold callsFor feedOf?
  rcases s.feed? op with _ | ⟨k', f⟩
  case none => cases s.registry.tab? k <;> rfl
  case some =>
    simp only [take, Registry.effects_take, Effect.calls_map_call]
    by_cases hk : k' = k
    case pos => subst hk; cases ht : s.registry.tab? k' <;> simp
    case neg => cases s.registry.tab? k <;> simp [hk]

theorem callsFor_of_none (h : s.feed? op = none) : s.callsFor k op = [] := by
  unfold callsFor
  rw [feedOf?_of_none h]
  cases s.registry.tab? k <;> rfl

-- An operation asks for what its feed asks for and nothing else.
theorem Course.calls (c : s.Course op st) : Effect.calls k st.effects = s.callsFor k op := by
  cases c with
  | feeds hf => rw [hf.effects, calls_take]
  | refuses ho =>
    have hf := feed?_of_isSubscription (s := s) ho
    exact (callsFor_of_none hf).symm
  | stops _ hf _ _ he    => rw [he, callsFor_of_none hf, Effect.calls_map_stop]
  | starts _ hf _ _ _ _ he => rw [he, callsFor_of_none hf, Effect.calls_map_start]
  | openTab    => exact calls_backfill.trans (callsFor_of_none rfl).symm
  | closeTab   => exact Effect.calls_map_stop.trans (callsFor_of_none rfl).symm
  | openChart  => exact calls_backfill.trans (callsFor_of_none rfl).symm
  | closeChart => exact Effect.calls_map_stop.trans (callsFor_of_none rfl).symm

-- What is fed to a tab that is open reaches it, and the tab stays open.
theorem Course.tab?_of_feedOf? {f : Feed} (c : s.Course op st) (hf : s.feedOf? k op = some f) :
    st.session.registry.tab? k = (s.registry.tab? k).map (·.feed f) := by
  have hs : s.feed? op = some (k, f) := feedOf?_eq_some_iff.mp hf
  have hn : s.feed? op ≠ none := by simp [hs]
  cases c with
  | feeds h =>
    rw [h.registry, hs, take, Registry.tab?_take]
    simp
  | refuses ho           => exact absurd (feed?_of_isSubscription ho) hn
  | stops _ h            => exact absurd h hn
  | starts _ h           => exact absurd h hn
  | openTab              => exact absurd rfl hn
  | closeTab             => exact absurd rfl hn
  | openChart            => exact absurd rfl hn
  | closeChart           => exact absurd rfl hn

theorem Alters.settled (h : s.Alters k op a t') (hs : s.registry.Settled) : t'.Settled := by
  cases h with
  | feeds ht          => exact (hs k _ ht).feed
  | keeps ht          => exact (hs k _ ht).withTimers
  | opensTab          => exact .withTimers .new
  | opensChart ht _ _ ho => exact ((hs k _ ht).openChart? ho).withTimers
  | closesChart ht    => exact (hs k _ ht).closeChart

theorem settled (c : Config) (ops : List Operation) : ((new c).run ops).registry.Settled := by
  induction ops using List.reverseRec with
  | nil => exact .new
  | append_singleton ops op hi =>
    rw [run_concat]
    intro k t ht
    exact ((course (sound c ops).keyed op).alters ht).settled hi

end Session
end FleetMonitor
