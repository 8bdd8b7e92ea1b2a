import FleetMonitor.Proofs.Course
import Mathlib.Data.List.Nodup

namespace FleetMonitor

namespace Effect

-- What runs after an effect if the given timers ran before.
def after (ts : List Timer) : Effect → List Timer
  | call _ _ => ts
  | start t  => ts ++ [t]
  | stop t   => ts.filter (·.id ≠ t.id)

-- What runs after some effects in a row.
def live (ts : List Timer) (es : List Effect) : List Timer :=
  es.foldl after ts

variable {ts us : List Timer} {es es' : List Effect}

@[simp]
theorem live_nil : live ts [] = ts :=
  rfl

theorem live_append : live ts (es ++ es') = live (live ts es) es' :=
  List.foldl_append

theorem live_calls {k : ObjectKey} {cs : List TabCall} : live ts (cs.map (.call k)) = ts := by
  induction cs with
  | nil => rfl
  | cons _ _ hi => exact hi

theorem live_stops :
    live ts (us.map .stop) = ts.filter fun t => t.id ∉ us.map Timer.id := by
  induction us generalizing ts with
  | nil => simp
  | cons u us hi =>
    change live (ts.filter (·.id ≠ u.id)) (us.map .stop) = _
    rw [hi, List.filter_filter]
    congr 1
    funext t
    by_cases h : t.id = u.id <;> simp [h]

theorem live_of_not_start (h : ∀ t, .start t ∉ es) : live [] es = [] := by
  induction es with
  | nil => rfl
  | cons e es hi =>
    have hi : live [] es = [] := hi fun t ht => h t (List.mem_cons_of_mem _ ht)
    cases e with
    | start t => exact absurd (List.mem_cons_self ..) (h t)
    | _       => exact hi

end Effect

namespace Tab

variable {t : Tab} {x : PollTarget} {timer : Timer}

theorem mem_timers_iff : timer ∈ t.timers ↔ ∃ x, x.key = t.key ∧ t.timer? x = some timer := by
  simp only [timers, List.mem_append, Option.mem_toList, SortedMap.mem_values_iff]
  constructor
  case mp =>
    rintro (h | ⟨s, h⟩)
    · exact ⟨.object t.key, rfl, h⟩
    · exact ⟨.series t.key s, rfl, h⟩
  case mpr =>
    rintro ⟨x, _, h⟩
    cases x with
    | object     => exact .inl h
    | series _ s => exact .inr ⟨s, h⟩

theorem mem_missingTargets_iff :
    x ∈ t.missingTargets ↔ x.key = t.key ∧ t.owns x ∧ t.timer? x = none := by
  cases x
  case object k =>
    cases h : t.objectTimer? <;>
      simp [missingTargets, owns, timer?, PollTarget.key, h]
  case series k s =>
    have hm : s ∈ t.seriesWithoutTimer ↔ t.hasChart s ∧ t.seriesTimers.find? s = none := by
      simp [seriesWithoutTimer, SortedMap.mem_keys_iff, hasChart, SortedMap.contains]
    have ho : .series k s ∉ (if t.objectTimer?.isNone then [PollTarget.object t.key] else []) := by
      split <;> simp
    simp only [missingTargets, List.mem_append, ho, false_or, List.mem_map, PollTarget.series.injEq]
    constructor
    case mp  => rintro ⟨_, h, rfl, rfl⟩; exact ⟨rfl, hm.mp h⟩
    case mpr => rintro ⟨rfl, h⟩; exact ⟨s, hm.mpr h, rfl, rfl⟩

theorem nodup_missingTargets : t.missingTargets.Nodup := by
  have hs : (t.seriesWithoutTimer.map (PollTarget.series t.key)).Nodup :=
    List.Nodup.map (fun _ _ h => (PollTarget.series.inj h).right) (SortedMap.nodup_keys.filter _)
  unfold missingTargets
  split
  · exact List.nodup_cons.mpr ⟨by simp, hs⟩
  · exact hs

-- If every timer polls the target that it is kept for, no target is polled twice.
theorem nodup_targets (h : ∀ x timer, x.key = t.key → t.timer? x = some timer → timer.target = x) :
    (t.timers.map Timer.target).Nodup := by
  have hs : (t.seriesTimers.values.map Timer.target) =
      t.seriesTimers.keys.map (PollTarget.series t.key) := by
    simp only [SortedMap.values, SortedMap.keys, List.map_map]
    refine List.map_congr_left fun e he => ?_
    exact h (.series t.key e.1) e.2 rfl (SortedMap.find?_eq_some_iff.mpr he)
  have hn : (t.seriesTimers.values.map Timer.target).Nodup :=
    hs ▸ List.Nodup.map (fun _ _ h => (PollTarget.series.inj h).right) SortedMap.nodup_keys
  rw [timers, List.map_append]
  cases ho : t.objectTimer? with
  | none => exact hn
  | some timer =>
    have ht : timer.target = .object t.key := h (.object t.key) timer rfl ho
    exact List.nodup_cons.mpr ⟨by simp [hs, ht], hn⟩

end Tab

namespace Registry

variable {r r' : Registry} {k : ObjectKey} {x : PollTarget} {timer : Timer} {timers : List Timer}

theorem mem_timersOf_iff (hk : r.Keyed) :
    timer ∈ r.timersOf k ↔ ∃ x, x.key = k ∧ r.timer? x = some timer := by
  unfold timersOf
  cases ht : r.tab? k with
  | none =>
    simp only [Option.map_none, Option.getD_none, List.not_mem_nil, false_iff, not_exists, not_and]
    rintro x rfl
    simp [timer?, ht]
  | some t =>
    simp only [Option.map_some, Option.getD_some, Tab.mem_timers_iff, hk k t ht]
    refine exists_congr fun x => and_congr_right ?_
    rintro rfl
    simp [timer?, ht]

theorem mem_timers_iff (hk : r.Keyed) : timer ∈ r.timers ↔ ∃ x, r.timer? x = some timer := by
  simp only [timers, List.mem_flatMap, SortedMap.mem_values_iff]
  constructor
  case mp =>
    rintro ⟨t, ⟨k, ht⟩, hm⟩
    have hm : timer ∈ r.timersOf k := by simpa [timersOf, tab?, ht] using hm
    obtain ⟨x, _, hx⟩ := (mem_timersOf_iff hk).mp hm
    exact ⟨x, hx⟩
  case mpr =>
    rintro ⟨x, hx⟩
    obtain ⟨t, ht, hm⟩ := Option.bind_eq_some_iff.mp hx
    exact ⟨t, ⟨_, ht⟩, Tab.mem_timers_iff.mpr ⟨x, (hk _ _ ht).symm, hm⟩⟩

theorem mem_missingTargetsOf_iff (hk : r.Keyed) :
    x ∈ r.missingTargetsOf k ↔ x.key = k ∧ r.owns x ∧ r.timer? x = none := by
  unfold missingTargetsOf
  cases ht : r.tab? k with
  | none =>
    simp only [Option.map_none, Option.getD_none, List.not_mem_nil, false_iff, not_and]
    rintro rfl
    simp [owns, ht]
  | some t =>
    simp only [Option.map_some, Option.getD_some, Tab.mem_missingTargets_iff, hk k t ht]
    refine and_congr_right ?_
    rintro rfl
    simp [owns, timer?, ht]

theorem mem_missingTargets_iff (hk : r.Keyed) :
    x ∈ r.missingTargets ↔ r.owns x ∧ r.timer? x = none := by
  simp only [missingTargets, List.mem_flatMap, SortedMap.mem_values_iff]
  constructor
  case mp =>
    rintro ⟨t, ⟨k, ht⟩, hm⟩
    have hm : x ∈ r.missingTargetsOf k := by simpa [missingTargetsOf, tab?, ht] using hm
    exact ((mem_missingTargetsOf_iff hk).mp hm).right
  case mpr =>
    intro h
    obtain ⟨t, ht, ho⟩ := (Option.any_eq_true _ _).mp h.left
    have hn : t.timer? x = none := by simpa [timer?, ht] using h.right
    exact ⟨t, ⟨_, ht⟩, Tab.mem_missingTargets_iff.mpr ⟨(hk _ _ ht).symm, ho, hn⟩⟩

theorem nodup_missingTargetsOf : (r.missingTargetsOf k).Nodup := by
  unfold missingTargetsOf
  cases r.tab? k with
  | none   => exact .nil
  | some t => exact Tab.nodup_missingTargets

theorem nodup_missingTargets (hk : r.Keyed) : r.missingTargets.Nodup := by
  refine SortedMap.nodup_flatMap_values PollTarget.key fun k t ht => ?_
  refine ⟨Tab.nodup_missingTargets, fun x hx => ?_⟩
  exact (Tab.mem_missingTargets_iff.mp hx).left.trans (hk k t ht)

theorem nodup_targets (h : r.Sound) : (r.timers.map Timer.target).Nodup := by
  have ht : ∀ k t, r.tab? k = some t → ∀ x timer, x.key = t.key → t.timer? x = some timer →
      timer.target = x := by
    intro k t ht x timer hx he
    obtain rfl := hx.trans (h.keyed k t ht)
    exact (h.timers x timer (by simp [timer?, ht, he])).left
  rw [timers, List.map_flatMap]
  refine SortedMap.nodup_flatMap_values PollTarget.key fun k t hf => ?_
  refine ⟨Tab.nodup_targets (ht k t hf), fun x hx => ?_⟩
  obtain ⟨timer, hm, rfl⟩ := List.mem_map.mp hx
  obtain ⟨x, hx, he⟩ := Tab.mem_timers_iff.mp hm
  rw [ht k t hf x timer hx he, hx, h.keyed k t hf]

-- A timer that is kept is started for a target that is open and has none.
theorem timer?_keepTimers_eq_none_iff : (r.keepTimers timers).timer? x = none ↔
    r.timer? x = none ∧ (r.owns x → x ∉ timers.map Timer.target) := by
  induction timers generalizing r with
  | nil => simp [keepTimers]
  | cons timer timers hi =>
    change ((r.keepTimer timer).keepTimers timers).timer? x = none ↔ _
    rw [hi, timer?_keepTimer, owns_keepTimer, List.map_cons, List.mem_cons]
    split <;> grind

theorem live_take {ts : List Timer} {f : Feed} : Effect.live ts (r.take k f).effects = ts := by
  unfold take update
  split
  · rfl
  · exact Effect.live_calls

-- A registry that keeps the given running timers, when `n` is the number of the next one.
structure Keeps (r : Registry) (n : Nat) (ts : List Timer) : Prop where
  sound : r.Sound
  kept  : ∀ t, t ∈ ts ↔ r.timer? t.target = some t
  ids   : (ts.map Timer.id).Nodup
  below : ∀ t ∈ ts, t.id < n

namespace Keeps

variable {n : Nat} {every : UInt64} {ts us : List Timer} {tab : Tab} {series : SeriesKey}

theorem new {capacity : Nat} {range : TimeRange} : (new capacity range).Keeps 0 [] :=
  ⟨.new, fun _ => by simp [timer?], .nil, nofun⟩

-- A registry with the same timers.
theorem of_timer?_eq (h : r.Keeps n ts) (hs : r'.Sound) (ht : ∀ x, r'.timer? x = r.timer? x) :
    r'.Keeps n ts where
  sound  := hs
  kept t := by rw [ht]; exact h.kept t
  ids    := h.ids
  below  := h.below

theorem start (h : r.Keeps n ts) (hi : timer.id = n) (ho : r.owns timer.target)
    (hn : r.timer? timer.target = none) : (r.keepTimer timer).Keeps (n + 1) (ts ++ [timer]) where
  sound  := h.sound.keepTimer
  kept t := by
    rw [List.mem_append, List.mem_singleton, timer?_keepTimer, h.kept]
    by_cases ht : t.target = timer.target
    case pos => simp [ht, ho, hn, eq_comm]
    case neg =>
      have : t ≠ timer := by rintro rfl; exact ht rfl
      simp [ht, this]
  ids := by
    rw [List.map_append, List.nodup_append]
    refine ⟨h.ids, by simp, fun i hm j hj e => ?_⟩
    obtain ⟨t, ht, rfl⟩ := List.mem_map.mp hm
    have := h.below t ht
    simp [hi] at hj
    omega
  below t hm := by
    cases List.mem_append.mp hm
    case inl hm => exact Nat.lt_succ_of_lt (h.below t hm)
    case inr hm => rw [List.mem_singleton.mp hm, hi]; exact Nat.lt_succ_self n

theorem startAll {targets : List PollTarget} (h : r.Keeps n ts) (hn : targets.Nodup)
    (ht : ∀ x ∈ targets, r.owns x ∧ r.timer? x = none) :
    (r.keepTimers (Timer.startAll n every targets)).Keeps
      (n + (Timer.startAll n every targets).length)
      (Effect.live ts ((Timer.startAll n every targets).map .start)) := by
  induction targets generalizing r n ts with
  | nil => exact h
  | cons x targets hi =>
    have ⟨hx, hn⟩ := List.nodup_cons.mp hn
    have ⟨ho, hf⟩ := ht x (by simp)
    have hs : (r.keepTimer ⟨n, x, every⟩).Keeps (n + 1) (ts ++ [⟨n, x, every⟩]) := h.start rfl ho hf
    have := hi hs hn fun y hy => ?rest
    case rest =>
      have : y ≠ x := by rintro rfl; exact hx hy
      rw [owns_keepTimer, timer?_keepTimer, if_neg (this ·.left)]
      exact ht y (List.mem_cons_of_mem _ hy)
    simp only [Timer.startAll, List.length_cons, Timer.length_startAll] at this ⊢
    rw [Nat.add_right_comm] at this
    exact this

-- The timers `us` stop, and a registry follows that is without them.
theorem stop (h : r.Keeps n ts) (hs : r'.Sound)
    (hu : ∀ t, t ∈ us ↔ r.timer? t.target = some t ∧ r'.timer? t.target ≠ some t)
    (hr : ∀ x t, r'.timer? x = some t → r.timer? x = some t) :
    r'.Keeps n (Effect.live ts (us.map .stop)) := by
  have hm : ∀ t ∈ ts, t.id ∈ us.map Timer.id ↔ t ∈ us := by
    intro t ht
    refine ⟨fun hi => ?_, List.mem_map_of_mem⟩
    have ⟨u, hu', e⟩ := List.mem_map.mp hi
    exact List.inj_on_of_nodup_map h.ids ((h.kept u).mpr ((hu u).mp hu').left) ht e ▸ hu'
  rw [Effect.live_stops]
  refine ⟨hs, fun t => ?kept, ?ids, fun t ht => h.below t (List.mem_of_mem_filter ht)⟩
  case kept =>
    rw [List.mem_filter, decide_eq_true_iff]
    constructor
    case mp =>
      rintro ⟨ht, hn⟩
      rw [hm t ht, hu, ← h.kept] at hn
      simpa [ht] using hn
    case mpr =>
      intro ht
      have hts := (h.kept t).mpr (hr _ _ ht)
      refine ⟨hts, ?_⟩
      rw [hm t hts, hu]
      exact fun hn => hn.right ht
  case ids => exact h.ids.sublist (List.filter_sublist.map _)

theorem perm (h : r.Keeps n ts) : ts.Perm r.timers := by
  refine (List.perm_ext_iff_of_nodup h.ids.of_map (.of_map _ (nodup_targets h.sound))).mpr fun t => ?_
  rw [h.kept, mem_timers_iff h.sound.keyed]
  refine ⟨fun ht => ⟨_, ht⟩, ?_⟩
  rintro ⟨x, hx⟩
  exact (h.sound.timers x t hx).left ▸ hx

theorem eq_nil_iff (h : r.Keeps n ts) : ts = [] ↔ ∀ x, r.timer? x = none := by
  constructor
  case mp =>
    rintro rfl x
    cases ht : r.timer? x with
    | none   => rfl
    | some t => exact absurd ((h.kept t).mpr ((h.sound.timers x t ht).left ▸ ht)) (by simp)
  case mpr =>
    intro hn
    refine List.eq_nil_iff_forall_not_mem.mpr fun t ht => ?_
    rw [h.kept, hn] at ht
    contradiction

theorem mem_timers_iff (h : r.Keeps n ts) : timer ∈ r.timers ↔ r.timer? timer.target = some timer := by
  rw [← h.kept, h.perm.mem_iff]

theorem clearTimers (h : r.Keeps n ts) :
    r.clearTimers.Keeps n (Effect.live ts (r.timers.map .stop)) := by
  refine h.stop h.sound.clearTimers (fun t => ?_) (fun x t hx => ?_)
  · simp [h.mem_timers_iff, timer?_clearTimers]
  · simp [timer?_clearTimers] at hx

theorem closeTab (h : r.Keeps n ts) :
    (r.closeTab k).Keeps n (Effect.live ts ((r.timersOf k).map .stop)) := by
  refine h.stop h.sound.closeTab (fun t => ?_) (fun x t hx => ?_)
  · rw [mem_timersOf_iff h.sound.keyed, timer?_closeTab]
    constructor
    case mp =>
      rintro ⟨x, hk, hx⟩
      obtain rfl := (h.sound.timers x t hx).left
      exact ⟨hx, by simp [hk]⟩
    case mpr =>
      rintro ⟨ht, hn⟩
      split at hn
      case isTrue hk => exact ⟨_, hk, ht⟩
      case isFalse   => exact absurd ht hn
  · rw [timer?_closeTab] at hx
    split at hx
    · contradiction
    · exact hx

theorem closeChart (h : r.Keeps n ts) (ht : r.tab? k = some tab) :
    (r.set k (tab.closeChart series)).Keeps n
      (Effect.live ts ((tab.seriesTimers.find? series).toList.map .stop)) := by
  have hs : r.timer? (.series k series) = tab.seriesTimers.find? series := by
    simp [timer?, PollTarget.key, ht, Tab.timer?]
  refine h.stop (h.sound.closeChart ht) (fun t => ?_) (fun x t hx => ?_)
  · rw [Option.mem_toList, ← hs, timer?_closeChart ht]
    constructor
    case mp =>
      intro hx
      have hx' := (h.sound.timers _ t hx).left
      exact ⟨hx' ▸ hx, by simp [hx']⟩
    case mpr =>
      rintro ⟨ht, hn⟩
      split at hn
      case isTrue e => exact e ▸ ht
      case isFalse  => exact absurd ht hn
  · rw [timer?_closeChart ht] at hx
    split at hx
    · contradiction
    · exact hx

end Keeps

end Registry

namespace Session

variable {s : Session} {op : Operation} {st : Step Answer} {k : ObjectKey} {ts : List Timer}
  {f? : Option (ObjectKey × Feed)}

theorem live_take : Effect.live ts (s.take f?).effects = ts := by
  unfold take
  split
  · exact Registry.live_take
  · rfl

theorem keeps_backfill (h : s.registry.Keeps s.nextTimer ts) :
    (s.backfill k).session.registry.Keeps (s.backfill k).session.nextTimer
      (Effect.live ts (s.backfill k).effects) := by
  unfold backfill
  split
  case isTrue =>
    refine h.startAll Registry.nodup_missingTargetsOf fun x hx => ?_
    exact ((Registry.mem_missingTargetsOf_iff h.sound.keyed).mp hx).right
  case isFalse => exact h

-- Whatever an operation starts or stops, the tabs keep the timers that are live.
theorem Course.keeps (c : s.Course op st) (h : s.registry.Keeps s.nextTimer ts) :
    st.session.registry.Keeps st.session.nextTimer (Effect.live ts st.effects) := by
  cases c with
  | feeds hf =>
    rw [hf.registry, hf.nextTimer, hf.effects, live_take]
    exact h.of_timer?_eq (sound_take h.sound) fun _ => timer?_take
  | refuses => exact h
  | stops _ _ ht hr he => rw [ht, hr, he]; exact h.clearTimers
  | starts _ _ timers e ht hr he =>
    rw [ht, hr, he, e]
    refine h.startAll (Registry.nodup_missingTargets h.sound.keyed) fun x hx => ?_
    exact (Registry.mem_missingTargets_iff h.sound.keyed).mp hx
  | openTab ho =>
    exact keeps_backfill (s := s.withRegistry _) <|
      h.of_timer?_eq (h.sound.openTab? ho) fun _ => Registry.timer?_openTab? ho
  | closeTab => exact h.closeTab
  | openChart ho =>
    exact keeps_backfill (s := s.withRegistry _) <|
      h.of_timer?_eq (h.sound.openChart ho) fun _ => Registry.timer?_openChart ho
  | closeChart ht => exact h.closeChart ht

end Session
end FleetMonitor
