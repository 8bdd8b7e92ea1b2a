import FleetMonitor.Proofs.Cadence
import FleetMonitor.Proofs.Twins

namespace FleetMonitor

namespace PollTarget

-- Whether the one is closed with the other: a tab is closed together with its charts.
def includes : PollTarget → PollTarget → Bool
  | object k,   y => y.key = k
  | series k s, y => y = series k s

-- The operation that closes a tab or a chart.
def closing : PollTarget → Operation
  | object k   => .closeTab k
  | series k s => .closeChart k s

end PollTarget

-- Whose renderer or surface is called.
def TabCall.target (k : ObjectKey) : TabCall → PollTarget
  | snapshot .. | batch .. => .object k
  | surface s _ _          => .series k s

def Effect.target : Effect → PollTarget
  | call k c         => c.target k
  | start t | stop t => t.target

-- For which tab or chart a feed is meant.
def Feed.target (k : ObjectKey) : Feed → PollTarget
  | value s _ _ => .series k s
  | _           => .object k

-- Whether a tab or a chart is opened, given the operation's answer.
def Operation.subscribes (x : PollTarget) : Operation → Answer → Bool
  | openTab k _ _,     .flag b => x = .object k ∧ b
  | openChart k s _ _, .flag b => x = .series k s ∧ b
  | _,                 _       => false

namespace Tab

variable {t : Tab} {k : ObjectKey} {s : SeriesKey} {call : TabCall} {f : Feed}

-- A colour is taken from the palette only if none is given.
theorem chart?_self_of_openChart? {t' : Tab} {options : DisplayOptions} {surface : Surface}
    (h : t.openChart? s options surface = some t') : t'.chart? s = some (.new s t.capacity
      { options with color? := some (options.color?.getD (paletteColour t.coloursGiven)) } surface) := by
  unfold openChart? at h
  split at h
  case isTrue  => contradiction
  case isFalse =>
    obtain ⟨color?, label?, stepped, fill⟩ := options
    cases color? <;> obtain rfl := Option.some.inj h <;> simp [chart?, SortedMap.find?_insert]

theorem exists_openChart? {options : DisplayOptions} {surface : Surface} (h : ¬t.hasChart s) :
    ∃ t', t.openChart? s options surface = some t' := by
  unfold openChart?
  rw [if_neg h]
  cases options.color? <;> exact ⟨_, rfl⟩

theorem touched?_ne_of_not_hasChart (ht : t.TouchesPoint) (h : ¬t.hasChart s) :
    t.touched? ≠ some s := by
  intro hs
  obtain ⟨_, hh, _⟩ := ht s hs
  rw [← isSome_history?, hh] at h
  exact h rfl

theorem Asks.owns (h : t.Asks f call) (hk : ∀ s c, t.chart? s = some c → c.key = s) :
    t.owns (call.target k) := by
  have hc {s : SeriesKey} {c : Chart} (hs : t.chart? s = some c) : t.hasChart c.key := by
    rw [hk s c hs, hasChart_eq_isSome, hs]
    rfl
  cases h with
  | snapshot  => rfl
  | batch     => rfl
  | legend _ hs => exact hc hs
  | redraw hs   => exact hc hs

end Tab

namespace Registry

variable {r : Registry} {k : ObjectKey} {x y : PollTarget} {f : Feed} {timer : Timer}
  {timers : List Timer}

theorem tab?_of_not_owns (h : ¬r.owns (.object k)) : r.tab? k = none := by
  cases ht : r.tab? k with
  | none   => rfl
  | some t => simp [owns, PollTarget.key, ht, Tab.owns] at h

-- What is closed with something that is not open is not open either.
theorem not_owns_of_includes (h : ¬r.owns x) (hi : x.includes y) : ¬r.owns y := by
  cases x with
  | series k s => exact of_decide_eq_true hi ▸ h
  | object k   =>
    obtain rfl : y.key = k := of_decide_eq_true hi
    simp [owns, tab?_of_not_owns h]

-- A feed that is meant for nobody reaches nobody.
theorem take_of_not_owns (h : ¬r.owns (f.target k)) : r.take k f = r.unreached := by
  unfold take update
  cases ht : r.tab? k with
  | none => rfl
  | some t =>
    cases f with
    | value s y time =>
      have hc : t.chart? s = none := by
        simpa [owns, Feed.target, PollTarget.key, ht, Tab.owns, Tab.hasChart_eq_isSome] using h
      simp [Tab.take?, Tab.takeValue?, hc]
    | _ =>
      rw [tab?_of_not_owns h] at ht
      contradiction

theorem timer?_eq_none_of_not_owns (hs : r.Sound) (h : ¬r.owns x) : r.timer? x = none := by
  cases ht : r.timer? x with
  | none       => rfl
  | some timer => exact absurd (hs.timers x timer ht).right h

theorem Sound.owns_target (h : r.Sound) (ht : r.timer? x = some timer) : r.owns timer.target := by
  obtain ⟨he, ho⟩ := h.timers x timer ht
  exact he ▸ ho

theorem Sound.seriesTimers_eq_empty {t : Tab} (h : r.Sound) (ht : r.tab? k = some t)
    (hc : ∀ s, ¬t.hasChart s) : t.seriesTimers = ∅ :=
  SortedMap.ext_find? fun s => by
    have ho : ¬r.owns (.series k s) := by simp [owns, PollTarget.key, ht, Tab.owns, hc s]
    have hn := timer?_eq_none_of_not_owns h ho
    rw [timer?, PollTarget.key, ht] at hn
    exact hn

theorem defaultRange_keepTimers : (r.keepTimers timers).defaultRange = r.defaultRange := by
  induction timers generalizing r with
  | nil => rfl
  | cons _ _ hi => exact hi

theorem defaultRange_openTab? {r' : Registry} {name? : Option String} {renderer : Renderer}
    (h : r.openTab? k name? renderer = some r') : r'.defaultRange = r.defaultRange := by
  unfold openTab? at h
  split at h
  · contradiction
  · exact Option.some.inj h ▸ rfl

-- A timer was kept before or is among the new ones.
theorem mem_of_timer?_keepTimers (h : (r.keepTimers timers).timer? x = some timer) :
    r.timer? x = some timer ∨ timer ∈ timers := by
  induction timers generalizing r with
  | nil => exact .inl h
  | cons t timers hi =>
    cases hi h with
    | inr hm => exact .inr (List.mem_cons_of_mem _ hm)
    | inl hk =>
      rw [timer?_keepTimer] at hk
      split at hk
      · exact .inr (Option.some.inj hk ▸ List.mem_cons_self ..)
      · exact .inl hk

end Registry

namespace Session

variable {s : Session} {op : Operation} {ops : List Operation} {st : Step Answer} {k : ObjectKey}
  {x : PollTarget} {e : Effect}

def Event.subscribes (x : PollTarget) (e : Event) : Bool :=
  e.op.subscribes x e.answer

theorem Course.owns_or_subscribes (c : s.Course op st) (h : st.session.registry.owns x) :
    s.registry.owns x ∨ op.subscribes x st.answer := by
  cases c with
  | feeds hf            => exact .inl (by rwa [hf.registry, owns_take] at h)
  | refuses             => exact .inl h
  | stops _ _ _ hr      => exact .inl (by rwa [hr, Registry.owns_clearTimers] at h)
  | starts _ _ _ _ _ hr => exact .inl (by rwa [hr, Registry.owns_keepTimers] at h)
  | openTab ho =>
    replace h := owns_backfill.symm.trans h
    rw [withRegistry, registry, Registry.owns_openTab? ho] at h
    simpa [Operation.subscribes, Step.map] using h
  | closeTab =>
    replace h := Registry.owns_closeTab.symm.trans h
    exact .inl (by simp_all)
  | openChart ho =>
    replace h := owns_backfill.symm.trans h
    rw [withRegistry, registry, Registry.owns_openChart ho] at h
    simpa [Operation.subscribes, Step.map] using h
  | closeChart ht =>
    replace h := (Registry.owns_closeChart ht).symm.trans h
    exact .inl (by simp_all)

theorem owns_of_mem_take {f? : Option (ObjectKey × Feed)} (hs : s.registry.Settled)
    (h : e ∈ (s.take f?).effects) : s.registry.owns e.target := by
  rcases f? with _ | ⟨k, f⟩
  case none => contradiction
  case some =>
    rw [take, Registry.effects_take] at h
    obtain ⟨call, hm, rfl⟩ := List.mem_map.mp h
    cases ht : s.registry.tab? k with
    | none   => simp [ht] at hm
    | some t =>
      rw [ht] at hm
      have ho : t.owns (call.target k) := (Tab.asks_of_mem_feedCalls hm).owns (hs k t ht).key
      have hk : (call.target k).key = k := by cases call <;> rfl
      simpa [Registry.owns, Effect.target, hk, ht] using ho

theorem owns_of_mem_backfill (hk : s.registry.Keyed) (h : e ∈ (s.backfill k).effects) :
    s.registry.owns e.target := by
  unfold backfill at h
  split at h
  case isFalse => contradiction
  case isTrue =>
    obtain ⟨t, hm, rfl⟩ := List.mem_map.mp h
    have hx := (Registry.mem_missingTargetsOf_iff hk).mp (Timer.target_of_mem_startAll hm)
    exact hx.right.left

-- Everything that an operation asks for is for what is open before or after it.
theorem Course.owns_of_mem_effects (c : s.Course op st) (hs : s.registry.Sound)
    (ht : s.registry.Settled) (h : e ∈ st.effects) :
    s.registry.owns e.target ∨ st.session.registry.owns e.target := by
  cases c with
  | feeds hf => exact .inl (owns_of_mem_take ht (hf.effects ▸ h))
  | refuses  => contradiction
  | stops _ _ _ _ he =>
    rw [he] at h
    obtain ⟨t, hm, rfl⟩ := List.mem_map.mp h
    obtain ⟨x, hx⟩ := (Registry.mem_timers_iff hs.keyed).mp hm
    exact .inl (hs.owns_target hx)
  | starts _ _ timers e _ _ he =>
    rw [he] at h
    obtain ⟨t, hm, rfl⟩ := List.mem_map.mp h
    have hx := (Registry.mem_missingTargets_iff hs.keyed).mp (Timer.target_of_mem_startAll (e ▸ hm))
    exact .inl hx.left
  | openTab ho =>
    exact .inr (owns_backfill.trans (owns_of_mem_backfill (hs.openTab? ho).keyed h))
  | @closeTab k =>
    obtain ⟨t, hm, rfl⟩ := List.mem_map.mp h
    obtain ⟨x, _, hx⟩ := (Registry.mem_timersOf_iff hs.keyed).mp hm
    exact .inl (hs.owns_target hx)
  | openChart ho =>
    exact .inr (owns_backfill.trans (owns_of_mem_backfill (hs.openChart ho).keyed h))
  | @closeChart k t series hk =>
    obtain ⟨timer, hm, rfl⟩ := List.mem_map.mp h
    replace hk : s.registry.tab? k = some t := hk
    refine .inl (hs.owns_target (x := .series k series) ?_)
    simpa [Registry.timer?, PollTarget.key, hk, Tab.timer?] using hm

theorem not_owns_closing : ¬(s.step x.closing).session.registry.owns x := by
  cases x with
  | object k =>
    have h : (s.registry.closeTab k).owns (.object k) = _ := Registry.owns_closeTab
    change ¬(s.registry.closeTab k).owns (.object k)
    simp [h, PollTarget.key]
  | series k series =>
    change ¬(s.closeChart k series).session.registry.owns (.series k series)
    unfold closeChart
    split
    case h_1 hn =>
      replace hn : s.registry.tab? k = none := hn
      simp [Registry.owns, PollTarget.key, hn]
    case h_2 t ht =>
      have h : (s.registry.set k (t.closeChart series)).owns (.series k series) = _ :=
        Registry.owns_closeChart ht
      change ¬(s.registry.set k (t.closeChart series)).owns (.series k series)
      simp [h]

-- What is closed stays so as long as it is not opened again.
theorem not_owns_run (hs : s.registry.Sound) (h : ¬s.registry.owns x)
    (ho : ∀ e ∈ s.events ops, ¬e.subscribes x) : ¬(s.run ops).registry.owns x ∧
      ∀ e ∈ s.events ops, ¬e.session.registry.owns x ∧ ¬e.step.session.registry.owns x := by
  induction ops generalizing s with
  | nil => exact ⟨h, by simp [events]⟩
  | cons op ops hi =>
    simp only [events, List.forall_mem_cons] at ho ⊢
    have c : s.Course op (s.step op) := course hs.keyed op
    have hn : ¬(s.step op).session.registry.owns x := fun hx =>
      (c.owns_or_subscribes hx).elim h ho.left
    obtain ⟨hr, he⟩ := hi (c.sound hs) hn ho.right
    exact ⟨hr, ⟨h, hn⟩, he⟩

-- A session in which a tab or a chart is not open. What is meant for it changes nothing, apart from
-- the counters of messages, and no message is refused for it.
structure Ignores (s : Session) (x : PollTarget) : Prop where
  messages  : ∀ event? raw received k f, s.feed? (.message event? raw received) = some (k, f) →
    x.includes (f.target k) → s.handleMessage event? raw received =
      ⟨{ s with stats := s.stats.after .unrouted }, .unrouted, []⟩
  refusals  : ∀ event? raw received,
    (s.handleMessage event? raw received).answer = .dropped ↔ isMalformed event? raw
  snapshots : ∀ k p received, x.includes (.object k) → s.polledSnapshot k p received = ⟨s, .empty, []⟩
  values    : ∀ k series p received, x.includes (.series k series) →
    s.polledValue k series p received = ⟨s, .empty, []⟩
  ranges    : ∀ k r, x.includes (.object k) → s.setRange k r = ⟨s, false, []⟩

theorem handleMessage_of_not_owns {event? : Option String} {raw : String} {received : Millis} {f : Feed}
    (hk : s.registry.Keyed) (hf : s.feed? (.message event? raw received) = some (k, f))
    (h : ¬s.registry.owns (f.target k)) : s.handleMessage event? raw received =
      ⟨{ s with stats := s.stats.after .unrouted }, .unrouted, []⟩ := by
  generalize hm : s.handleMessage event? raw received = st
  have hh : s.Handles event? raw received st := hm ▸ handles
  cases hh with
  | acknowledges he hn =>
    rw [feed?_message he hn] at hf
    contradiction
  | refuses o _ hr =>
    rw [feed?_refused hk hr] at hf
    contradiction
  | @delivers e kind u he hn hr =>
    have h' : s.Routed (s.messageFeed? e received kind) (s.board.route kind e received) :=
      routed kind hk
    rw [hr, ← feed?_message he hn, hf] at h'
    generalize hu : Except.ok u = u', hf' : some (k, f) = f? at h'
    cases h' with
    | refused        => contradiction
    | directed hn    => rw [hn] at hf'; contradiction
    | fed =>
      obtain rfl := Except.ok.inj hu
      rw [← hf', take, Registry.take_of_not_owns h]
      rfl

theorem ignores (hk : s.registry.Keyed) (h : ¬s.registry.owns x) : s.Ignores x where
  messages event? raw received k f hf hi :=
    handleMessage_of_not_owns hk hf (Registry.not_owns_of_includes h hi)
  refusals event? raw received := dropped_iff_isMalformed
  snapshots k p received hi := by
    have hn : s.registry.tab? k = none :=
      Registry.tab?_of_not_owns (Registry.not_owns_of_includes h hi)
    replace hn : s.tab? k = none := hn
    simp [polledSnapshot, takePolled, acceptsPolled, hn]
  values k series p received hi := by
    have hu : s.registry.takeValue k series p.sample (p.timestamp?.getD received) = s.registry.unreached :=
      Registry.take_of_not_owns (f := .value series p.sample (p.timestamp?.getD received))
        (Registry.not_owns_of_includes h hi)
    rw [polledValue, hu, takePolled]
    split <;> rfl
  ranges k r hi := by
    have hn : ¬s.registry.owns (.object k) := Registry.not_owns_of_includes h hi
    have hu : s.registry.setRange k r = s.registry.unreached :=
      Registry.take_of_not_owns (f := .range r) hn
    have hc : s.registry.contains k = false := by
      rw [Registry.contains_eq_isSome, Registry.tab?_of_not_owns hn]
      rfl
    rw [setRange, hu, hc]
    rfl

-- Opening again.

-- The timer that something gets when it is opened: one at once while polling, and otherwise none.
def GivesTimer (s : Session) (x : PollTarget) (timer? : Option Timer) : Prop :=
  if s.connection.phase = .polling then ∃ id, timer? = some ⟨id, x, s.connection.pollInterval⟩
  else timer? = none

-- A tab that is opened is a new one, and so is a chart that is opened on a tab. They have nothing from
-- any time before, and they get a timer while polling.
def OpensAfresh (c : Config) (s : Session) : PollTarget → Prop
  | .object k => ∀ name? renderer, (s.openTab k name? renderer).answer = true ∧
    ∃ timer?, s.GivesTimer (.object k) timer? ∧ (s.openTab k name? renderer).session.tab? k =
      some { Tab.new k (name?.getD k.object) renderer c.seriesCapacity.toNat (.follow c.windowSpan) with
        objectTimer? := timer? }
  | .series k series => ∀ t options surface, s.tab? k = some t →
    (s.openChart k series options surface).answer = true ∧
    ∃ t', (s.openChart k series options surface).session.tab? k = some t' ∧
      t'.chart? series = some (.new series c.seriesCapacity.toNat
        { options with color? := some (options.color?.getD (Tab.paletteColour t.coloursGiven)) }
        surface) ∧
      t'.touched? ≠ some series ∧ s.GivesTimer (.series k series) (t'.seriesTimers.find? series)

theorem givesTimer_backfill {r : Registry} (hs : r.Sound) (hx : x.key = k) (ho : r.owns x)
    (hn : r.timer? x = none) :
    s.GivesTimer x (((s.withRegistry r).backfill k).session.registry.timer? x) := by
  unfold GivesTimer
  split
  case isFalse hp => rw [backfill_of_ne_polling (s := s.withRegistry r) hp]; exact hn
  case isTrue hp =>
    have hk : ((s.withRegistry r).backfill k).session.registry.timer? x ≠ none :=
      timer?_backfill_ne_none (s := s.withRegistry r) hs.keyed hp ho hx
    obtain ⟨timer, ht⟩ := Option.ne_none_iff_exists'.mp hk
    obtain ⟨rfl, _⟩ := (sound_backfill (s := s.withRegistry r) hs).timers x timer ht
    rw [ht]
    rw [backfill, if_pos (show (s.withRegistry r).connection.phase = .polling from hp)] at ht
    cases Registry.mem_of_timer?_keepTimers ht with
    | inl ht => rw [show r.timer? timer.target = some timer from ht] at hn; contradiction
    | inr hm =>
      have he : timer.every = s.connection.pollInterval := Timer.every_of_mem_startAll hm
      exact ⟨timer.id, he ▸ rfl⟩

theorem exists_tab?_backfill {k' : ObjectKey} {t : Tab} (h : s.registry.tab? k' = some t) :
    ∃ o? ss, (s.backfill k).session.registry.tab? k' = some (t.withTimers o? ss) := by
  cases ht : (s.backfill k).session.registry.tab? k' with
  | none =>
    have ho : _ = s.registry.owns (.object k') := owns_backfill (k := k)
    simp [Registry.owns, PollTarget.key, ht, h, Tab.owns] at ho
  | some t' =>
    obtain ⟨t₀, o?, ss, h₀, rfl⟩ := tab?_backfill ht
    obtain rfl := Option.some.inj (h.symm.trans h₀)
    exact ⟨o?, ss, rfl⟩

theorem openTab_afresh {name? : Option String} {renderer : Renderer} (hs : s.registry.Sound)
    (h : ¬s.registry.owns (.object k)) : (s.openTab k name? renderer).answer = true ∧
    ∃ timer?, s.GivesTimer (.object k) timer? ∧ (s.openTab k name? renderer).session.tab? k =
      some { Tab.new k (name?.getD k.object) renderer s.registry.capacity s.registry.defaultRange with
        objectTimer? := timer? } := by
  have hc : ¬s.registry.contains k := by
    simp [Registry.contains_eq_isSome, Registry.tab?_of_not_owns h]
  obtain ⟨r, hr⟩ : ∃ r, s.registry.openTab? k name? renderer = some r := ⟨_, if_neg hc⟩
  have ho : r.owns (.object k) := by simp [Registry.owns_openTab? hr]
  have hn : r.timer? (.object k) = none :=
    (Registry.timer?_openTab? hr).trans (Registry.timer?_eq_none_of_not_owns hs h)
  have ht := ((Registry.tab?_openTab? hr k).right).trans (if_pos rfl)
  have hr' := hs.openTab? hr
  obtain ⟨o?, ss, hb⟩ := exists_tab?_backfill (s := s.withRegistry r) (k := k) ht
  simp only [openTab, hr, Step.map]
  refine ⟨trivial, o?, ?timer, ?tab⟩
  case timer =>
    have hg := givesTimer_backfill (s := s) hr' rfl ho hn
    rw [Registry.timer?, PollTarget.key, hb] at hg
    exact hg
  case tab =>
    have he : ss = ∅ := (sound_backfill (s := s.withRegistry r) hr').seriesTimers_eq_empty hb
      fun _ => Bool.false_ne_true
    rw [tab?, hb, he]
    rfl

theorem openChart_afresh {t : Tab} {series : SeriesKey} {options : DisplayOptions}
    {surface : Surface} (hs : s.registry.Sound) (hd : t.Settled)
    (h : ¬s.registry.owns (.series k series)) (ht : s.tab? k = some t) :
    (s.openChart k series options surface).answer = true ∧
    ∃ t', (s.openChart k series options surface).session.tab? k = some t' ∧
      t'.chart? series = some (.new series s.registry.capacity
        { options with color? := some (options.color?.getD (Tab.paletteColour t.coloursGiven)) }
        surface) ∧
      t'.touched? ≠ some series ∧ s.GivesTimer (.series k series) (t'.seriesTimers.find? series) := by
  replace ht : s.registry.tab? k = some t := ht
  have hc : ¬t.hasChart series := by
    simpa [Registry.owns, PollTarget.key, ht, Tab.owns] using h
  obtain ⟨t₁, h₁⟩ : ∃ t₁, t.openChart? series options surface = some t₁ := Tab.exists_openChart? hc
  have hb : (s.tab? k).bind (·.openChart? series options surface) = some t₁ := by
    rw [tab?, ht]
    exact h₁
  have hr := hs.openChart hb
  have ho : (s.registry.set k t₁).owns (.series k series) := by simp [Registry.owns_openChart hb]
  have hn : (s.registry.set k t₁).timer? (.series k series) = none :=
    (Registry.timer?_openChart hb).trans (Registry.timer?_eq_none_of_not_owns hs h)
  have hk : (s.registry.set k t₁).tab? k = some t₁ :=
    (Registry.tab?_set_of_some ht).trans (if_pos rfl)
  obtain ⟨o?, ss, hf⟩ :=
    exists_tab?_backfill (s := s.withRegistry (s.registry.set k t₁)) (k := k) hk
  simp only [openChart, hb, Step.map]
  refine ⟨trivial, t₁.withTimers o? ss, hf, ?chart, ?touched, ?timer⟩
  case chart =>
    rw [← (hs.tabs k t ht).right]
    change t₁.chart? series = _
    exact Tab.chart?_self_of_openChart? h₁
  case touched =>
    change t₁.touched? ≠ some series
    rw [Tab.touched?_openChart? h₁]
    exact Tab.touched?_ne_of_not_hasChart hd.touched hc
  case timer =>
    have hg := givesTimer_backfill (s := s) hr rfl ho hn
    rw [Registry.timer?, PollTarget.key, hf] at hg
    exact hg

theorem defaultRange_backfill :
    (s.backfill k).session.registry.defaultRange = s.registry.defaultRange := by
  obtain ⟨_, h⟩ := registry_backfill (s := s) (k := k)
  rw [h, Registry.defaultRange_keepTimers]

theorem Course.defaultRange_eq (c : s.Course op st) :
    st.session.registry.defaultRange = s.registry.defaultRange := by
  cases c with
  | feeds hf =>
    rw [hf.registry]
    unfold take
    split
    · exact Registry.defaultRange_take
    · rfl
  | refuses             => rfl
  | stops _ _ _ hr      => rw [hr]; rfl
  | starts _ _ _ _ _ hr => rw [hr, Registry.defaultRange_keepTimers]
  | openTab ho          => exact defaultRange_backfill.trans (Registry.defaultRange_openTab? ho)
  | closeTab            => rfl
  | openChart           => exact defaultRange_backfill
  | closeChart          => rfl

theorem defaultRange_eq (c : Config) (ops : List Operation) :
    ((new c).run ops).registry.defaultRange = .follow c.windowSpan := by
  have h := run_induction (s := new c) (P := fun _ s => s.registry.Sound ∧
    s.registry.defaultRange = .follow c.windowSpan) ⟨.new, rfl⟩ ?step ops
  case step =>
    rintro _ s op ⟨hs, hr⟩
    have hc : s.Course op (s.step op) := course hs.keyed op
    exact ⟨hc.sound hs, hc.defaultRange_eq.trans hr⟩
  exact h.right

theorem opensAfresh {c : Config} {ops : List Operation} (h : ¬((new c).run ops).registry.owns x) :
    OpensAfresh c ((new c).run ops) x := by
  have hs := sound c ops
  have hc := (charted c ops).capacity
  cases x with
  | object k =>
    intro name? renderer
    rw [← hc, ← defaultRange_eq c ops]
    exact openTab_afresh hs h
  | series k series =>
    intro t options surface ht
    rw [← hc]
    exact openChart_afresh hs (settled c ops k t ht) h ht

-- A tab that is closed takes its charts along, and nothing polls any of them from then on. Until it is
-- opened again no operation calls its renderer or its surfaces or starts a timer for it, and what is
-- meant for it is passed over. If it is opened again, it is as it was when it was opened first. The
-- same is true of a single chart.
theorem closed_for_good {c : Config} {ops₁ ops₂ : List Operation} {x : PollTarget}
    (h : ∀ e ∈ ((new c).run (ops₁ ++ [x.closing])).events ops₂, ¬e.subscribes x) :
    let s := (new c).run (ops₁ ++ x.closing :: ops₂)
    ((∀ t ∈ liveTimers ((new c).events (ops₁ ++ x.closing :: ops₂)), ¬x.includes t.target) ∧
      ∀ t ∈ s.registry.timers, ¬x.includes t.target) ∧
    (∀ e ∈ ((new c).run (ops₁ ++ [x.closing])).events ops₂, ∀ effect ∈ e.step.effects,
      ¬x.includes effect.target) ∧
    s.Ignores x ∧ OpensAfresh c s x := by
  intro s
  have hc : ¬((new c).run (ops₁ ++ [x.closing])).registry.owns x := run_concat ▸ not_owns_closing
  obtain ⟨hn, he⟩ := not_owns_run (sound c _) hc h
  rw [← run_append, List.append_assoc] at hn
  replace hn : ¬s.registry.owns x := hn
  have hk := (paced c (ops₁ ++ x.closing :: ops₂)).keeps
  have ht : ∀ timer, s.registry.timer? timer.target = some timer → ¬x.includes timer.target := by
    intro timer ht hi
    exact Registry.not_owns_of_includes hn hi (hk.sound.timers _ timer ht).right
  refine ⟨⟨fun t hm => ht t ((hk.kept t).mp hm), fun t hm => ht t (hk.mem_timers_iff.mp hm)⟩,
    fun e hm effect hf hi => ?effects, ignores hk.sound.keyed hn, opensAfresh hn⟩
  case effects =>
    obtain ⟨ops, hr⟩ := exists_run_of_mem hm
    rw [← run_append] at hr
    have hs : e.session.registry.Sound := hr ▸ sound c _
    have ho := (course hs.keyed e.op).owns_of_mem_effects hs (hr ▸ settled c _) hf
    obtain ⟨h₁, h₂⟩ := he e hm
    exact ho.elim (Registry.not_owns_of_includes h₁ hi) (Registry.not_owns_of_includes h₂ hi)

-- The tab and its chart are polled until the tab is closed. Later polling starts once more, and a poll
-- that comes late, a message and a new range for the tab are passed over.
theorem closed_tab_is_not_polled : ∃ c ops₁ ops₂ k,
    (liveTimers ((new c).events ops₁)).map Timer.target = [.object k, .series k ⟨"x"⟩] ∧
    (∀ e ∈ ((new c).run (ops₁ ++ [.closeTab k])).events ops₂, ¬e.subscribes (.object k)) ∧
    ((new c).run (ops₁ ++ .closeTab k :: ops₂)).connection.phase = .polling ∧
    (∀ t ∈ liveTimers ((new c).events (ops₁ ++ .closeTab k :: ops₂)), t.target.key ≠ k) ∧
    ((new c).run (ops₁ ++ .closeTab k :: ops₂)).Ignores (.object k) ∧
    OpensAfresh c ((new c).run (ops₁ ++ .closeTab k :: ops₂)) (.object k) := by
  let c : Config := { Config.default with maxReconnectAttempts := 1 }
  let k : ObjectKey := ⟨"a", "b"⟩
  let ops₁ : List Operation := [
    .openTab k none ⟨true, []⟩,
    .openChart k ⟨"x"⟩ ⟨none, none, false, false⟩ ⟨true⟩,
    .connect,
    .transportError 0.5,
    .polledValue k ⟨"x"⟩ ⟨some 1, none⟩ 10]
  let ops₂ : List Operation := [
    .polledValue k ⟨"x"⟩ ⟨some 2, none⟩ 20,
    .message none "\x7b\"type\":\"object_data\",\"serverId\":\"a\",\"objectName\":\"b\"\x7d" 30,
    .setRange k (.fixed ⟨0, 20⟩),
    .connect,
    .transportError 0.5]
  have hl : (liveTimers ((new c).events ops₁)).map Timer.target = [.object k, .series k ⟨"x"⟩] := by
    decide +kernel
  have hs : ∀ e ∈ ((new c).run (ops₁ ++ [.closeTab k])).events ops₂, ¬e.subscribes (.object k) := by
    simp [ops₂, events, Event.subscribes, Operation.subscribes]
  obtain ⟨⟨ht, _⟩, _, hi, ho⟩ := closed_for_good (c := c) (x := .object k) hs
  have hn : ∀ t ∈ liveTimers ((new c).events (ops₁ ++ .closeTab k :: ops₂)), t.target.key ≠ k :=
    fun t hm => by simpa [PollTarget.includes] using ht t hm
  exact ⟨c, ops₁, ops₂, k, hl, hs, by decide +kernel, hn, hi, ho⟩

end Session
end FleetMonitor
