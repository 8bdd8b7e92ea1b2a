import FleetMonitor.Proofs.Changes

namespace FleetMonitor

namespace Binary64

open Float.Model (UnpackedFloat)
open Float.Model.UnpackedFloat (unpackExponent)

variable {x : Float}

theorem isFinite_unpack_iff {b : BitVec (Float.Model.Format.numBits .binary64)} :
    (UnpackedFloat.unpack .binary64 b).isFinite ↔ unpackExponent b ≠ -1#_ := by
  unfold UnpackedFloat.unpack
  by_cases h : unpackExponent b = -1#_
  case pos =>
    rw [if_pos h]
    split <;> exact iff_of_false Bool.false_ne_true (not_not_intro h)
  case neg =>
    rw [if_neg h]
    refine iff_of_true ?_ h
    by_cases hz : unpackExponent b = 0#_
    case neg => rw [if_neg hz]; rfl
    case pos =>
      rw [if_pos hz]
      by_cases hm : UnpackedFloat.unpackMantissa b = 0#_
      · rw [dif_pos hm]; rfl
      · rw [dif_neg hm]; rfl

theorem toNat_unpackExponent : (@unpackExponent .binary64 x.toModel.toBits.toBitVec).toNat =
    x.toBits.toNat / 0x10000000000000 % 0x800 := by
  change (x.toBits.toBitVec >>> 52).toNat % 2 ^ 11 = x.toBits.toBitVec.toNat / _ % _
  rw [BitVec.toNat_ushiftRight, Nat.shiftRight_eq_div_pow]

theorem isFinite_iff_exponent :
    isFinite x ↔ x.toBits.toNat / 0x10000000000000 % 0x800 ≠ 0x7FF := by
  unfold isFinite ofFloat?
  dsimp only
  split
  case isTrue  => simp [*]
  case isFalse => split <;> simp [*]

-- The exponent of a double tells whether it is finite.
theorem isFinite_eq : isFinite x = x.isFinite := by
  have hf : x.isFinite ↔ @unpackExponent .binary64 x.toModel.toBits.toBitVec ≠ -1#_ :=
    isFinite_unpack_iff
  rw [Bool.eq_iff_iff, isFinite_iff_exponent, hf, Ne, Ne, ← BitVec.toNat_inj, toNat_unpackExponent]
  rfl

theorem not_isNaN_isInf (h : x.isFinite) : ¬x.isNaN ∧ ¬x.isInf := by
  change x.toModel.unpack.isFinite at h
  change ¬x.toModel.unpack.isNaN ∧ ¬x.toModel.unpack.isInf
  cases hu : x.toModel.unpack with
  | zero | finite => exact ⟨Bool.false_ne_true, Bool.false_ne_true⟩
  | notANumber | infinity =>
    rw [hu] at h
    contradiction

end Binary64

namespace Sample

-- A gap, or a number that is neither infinite nor something that is not a number.
def Plottable (y : Sample) : Prop :=
  ∀ x, y = some x → x.isFinite ∧ ¬x.isNaN ∧ ¬x.isInf

variable {x : Float} {y : Sample} {j : Json}

theorem plottable_none : Plottable none :=
  nofun

theorem plottable_some (h : Binary64.isFinite x) : Plottable (some x) := by
  intro x' hx
  obtain rfl := Option.some.inj hx
  rw [Binary64.isFinite_eq] at h
  exact ⟨h, Binary64.not_isNaN_isInf h⟩

theorem plottable_of_ofFloat? (h : ofFloat? x = some y) : y.Plottable := by
  unfold ofFloat? at h
  split at h
  case isTrue hx => exact Option.some.inj h ▸ plottable_some hx
  case isFalse   => contradiction

theorem plottable_of_ofPlain? (h : ofPlain? j = some y) : y.Plottable := by
  cases j with
  | null     => exact Option.some.inj h ▸ plottable_none
  | number n => exact plottable_of_ofFloat? h
  | array    => contradiction
  | object   => contradiction
  | bool b   =>
    obtain rfl := Option.some.inj h
    cases b <;> exact plottable_some (by decide +kernel)
  | text s   =>
    obtain ⟨d, _, h⟩ := Option.bind_eq_some_iff.mp h
    exact plottable_of_ofFloat? h

-- Every way from a value to a sample ends in the same test.
theorem plottable_of_ofJson? (h : ofJson? j = some y) : y.Plottable := by
  unfold ofJson? at h
  split at h
  case h_1 =>
    obtain ⟨v, _, h⟩ := Option.bind_eq_some_iff.mp h
    exact plottable_of_ofPlain? h
  case h_2 => exact plottable_of_ofPlain? h

end Sample

theorem PolledValue.plottable_of_ofBody {body : Json} {p : PolledValue} (h : ofBody body = .ok p) :
    p.sample.Plottable := by
  unfold ofBody at h
  split at h
  case h_1 hs => exact Except.ok.inj h ▸ Sample.plottable_of_ofJson? hs
  case h_2    => contradiction

-- The values that are passed to a surface.
def SurfaceCall.samples : SurfaceCall → List Sample
  | redraw h _ => h.toList.map Point.value
  | legend y   => [y]

-- A feed that brings nothing but gaps and numbers.
def Feed.Plottable (f : Feed) : Prop :=
  ∀ s, ∀ p ∈ f.points s, p.value.Plottable

-- A chart that has nothing but gaps and numbers.
structure Chart.Plottable (c : Chart) : Prop where
  legend : c.legend.Plottable
  points : ∀ p ∈ c.history.toList, p.value.Plottable

theorem History.mem_of_mem_appendAll {h : History} {ps : List Point} {p : Point}
    (hm : p ∈ (h.appendAll ps).toList) : p ∈ h.toList ∨ p ∈ ps := by
  rw [toList_appendAll] at hm
  exact List.mem_append.mp (List.mem_of_mem_drop hm)

namespace Chart.Plottable

variable {c : Chart} {ps : List Point} {w? : Option Window}

theorem new {s : SeriesKey} {capacity : Nat} {options : DisplayOptions} {surface : Surface} :
    (Chart.new s capacity options surface).Plottable :=
  ⟨Sample.plottable_none, nofun⟩

theorem appendAll (h : c.Plottable) (hp : ∀ p ∈ ps, p.value.Plottable) : (c.appendAll ps).Plottable where
  legend := by
    have hl := h.legend
    clear h
    induction ps generalizing c with
    | nil => exact hl
    | cons p ps hi =>
      rw [List.forall_mem_cons] at hp
      exact hi hp.right hp.left
  points p hm := by
    rw [history_appendAll] at hm
    exact (History.mem_of_mem_appendAll hm).elim (h.points p) (hp p)

theorem alignTo (h : c.Plottable) : (c.alignTo w?).Plottable where
  legend := by rw [legend_alignTo]; exact h.legend
  points := by rw [history_alignTo]; exact h.points

theorem updated (h : c.Plottable) (hp : ∀ p ∈ ps, p.value.Plottable) :
    (c.updated ps w?).repaint.Plottable :=
  have hu : (c.updated ps w?).Plottable := (h.appendAll hp).alignTo
  ⟨hu.legend, hu.points⟩

end Chart.Plottable

namespace Feed

variable {data : Json} {d : Domain} {entries : List BatchEntry} {time : Millis}

-- What a message or a poll brings along for charts is read from JSON values.
theorem plottable_snapshot : (snapshot data time).Plottable := by
  intro s p hm
  obtain ⟨y, hy, rfl⟩ := Option.map_eq_some_iff.mp (Option.mem_toList.mp hm)
  obtain ⟨v, _, hy⟩ := Option.bind_eq_some_iff.mp hy
  exact Sample.plottable_of_ofJson? hy

theorem plottable_batch : (batch d entries time).Plottable := by
  intro s p hm
  obtain ⟨e, _, he⟩ := List.mem_filterMap.mp hm
  split at he
  case isFalse => contradiction
  case isTrue  =>
    obtain ⟨y, hy, rfl⟩ := Option.map_eq_some_iff.mp he
    exact Sample.plottable_of_ofJson? hy

theorem plottable_value {s : SeriesKey} {y : Sample} (h : y.Plottable) :
    (value s y time).Plottable := by
  intro s' p hm
  replace hm : p ∈ if s = s' then [⟨time, y⟩] else [] := hm
  split at hm
  · exact List.mem_singleton.mp hm ▸ h
  · contradiction

theorem plottable_range {r : TimeRange} : (range r).Plottable :=
  nofun

end Feed

namespace Tab

-- A tab whose charts have nothing but gaps and numbers.
def Plottable (t : Tab) : Prop :=
  ∀ s c, t.chart? s = some c → c.Plottable

namespace Plottable

variable {t t' : Tab} {f : Feed} {s : SeriesKey} {surface : Surface}

theorem new {k : ObjectKey} {name : String} {renderer : Renderer} {capacity : Nat} {range : TimeRange} :
    (Tab.new k name renderer capacity range).Plottable :=
  nofun

theorem withTimers {o? : Option Timer} {ss : SortedMap SeriesKey Timer} (h : t.Plottable) :
    (t.withTimers o? ss).Plottable :=
  h

theorem feed (h : t.Plottable) (hf : f.Plottable) : (t.feed f).Plottable := by
  intro s c' hc'
  obtain ⟨c, hc, ⟨rfl, _⟩ | ⟨w?, rfl⟩⟩ := chart?_feed hc'
  · exact h s c' hc
  · exact (h s c hc).updated (hf s)

theorem openChart? {options : DisplayOptions} (h : t.Plottable)
    (ho : t.openChart? s options surface = some t') : t'.Plottable := by
  obtain ⟨o, hc⟩ := chart?_openChart? ho
  intro s' c hs
  rw [hc] at hs
  split at hs
  · exact Option.some.inj hs ▸ .new
  · exact h s' c hs

theorem closeChart (h : t.Plottable) : (t.closeChart s).Plottable := by
  intro s' c hs
  rw [chart?_closeChart] at hs
  split at hs
  · contradiction
  · exact h s' c hs

-- What a surface is asked to show is among the points of its chart or comes with the feed.
theorem of_asks {call : SurfaceCall} (h : t.Plottable) (hf : f.Plottable)
    (ha : t.Asks f (.surface s surface call)) : ∀ y ∈ call.samples, y.Plottable := by
  cases ha with
  | @legend series y time c he hc =>
    have hp : (⟨time, y⟩ : Point) ∈ f.points series := by simp [he, Feed.points]
    intro y' hy
    exact List.mem_singleton.mp hy ▸ hf series _ hp
  | @redraw series c w? hc =>
    intro y hy
    obtain ⟨p, hp, rfl⟩ := List.mem_map.mp hy
    exact (History.mem_of_mem_appendAll hp).elim ((h series c hc).points p) (hf series p)

end Plottable

end Tab

-- An operation whose polled value, if it has one, is a gap or a number.
def Operation.Plottable : Operation → Prop
  | polledValue _ _ p _ => p.sample.Plottable
  | _                   => True

namespace Session

variable {s : Session} {op : Operation} {ops : List Operation} {st : Step Answer} {k : ObjectKey}
  {t' : Tab} {f : Feed}

theorem plottable_of_messageFeed? {e : Envelope} {received : Millis} {kind : Kind}
    (h : s.messageFeed? e received kind = some (k, f)) : f.Plottable := by
  cases kind with
  | objectSnapshot =>
    obtain ⟨_, _, h⟩ := Option.bind_eq_some_iff.mp h
    obtain ⟨rfl, rfl⟩ := Prod.mk.inj (Option.some.inj h)
    exact Feed.plottable_snapshot
  | sensorUpdate =>
    obtain ⟨u, _, h⟩ := Option.bind_eq_some_iff.mp h
    obtain ⟨y, hy, h⟩ := Option.bind_eq_some_iff.mp h
    obtain ⟨_, _, h⟩ := Option.bind_eq_some_iff.mp h
    obtain ⟨rfl, rfl⟩ := Prod.mk.inj (Option.some.inj h)
    exact Feed.plottable_value (Sample.plottable_of_ofJson? hy)
  | batch d =>
    obtain ⟨_, _, h⟩ := Option.bind_eq_some_iff.mp h
    obtain ⟨_, _, h⟩ := Option.bind_eq_some_iff.mp h
    obtain ⟨rfl, rfl⟩ := Prod.mk.inj (Option.some.inj h)
    exact Feed.plottable_batch
  | _ => contradiction

theorem plottable_of_feed? (ho : op.Plottable) (h : s.feed? op = some (k, f)) : f.Plottable := by
  cases op with
  | message =>
    obtain ⟨_, _, h⟩ := Option.bind_eq_some_iff.mp h
    obtain ⟨_, _, h⟩ := Option.bind_eq_some_iff.mp h
    exact plottable_of_messageFeed? h
  | polledSnapshot =>
    simp only [feed?, Option.ite_none_right_eq_some, Option.some.injEq, Prod.mk.injEq] at h
    obtain ⟨_, rfl, rfl⟩ := h
    exact Feed.plottable_snapshot
  | polledValue =>
    simp only [feed?, Option.ite_none_right_eq_some, Option.some.injEq, Prod.mk.injEq] at h
    obtain ⟨_, rfl, rfl⟩ := h
    exact Feed.plottable_value ho
  | setRange =>
    obtain ⟨rfl, rfl⟩ := Prod.mk.inj (Option.some.inj h)
    exact Feed.plottable_range
  | _ => contradiction

-- A session whose charts have nothing but gaps and numbers.
def Plottable (s : Session) : Prop :=
  ∀ k t, s.registry.tab? k = some t → t.Plottable

theorem Alters.plottable {a : Answer} (h : s.Alters k op a t') (hs : s.Plottable)
    (ho : op.Plottable) : t'.Plottable := by
  cases h with
  | feeds ht hf =>
    have hf := plottable_of_feed? ho (feedOf?_eq_some_iff.mp hf)
    exact (hs k _ ht).feed hf
  | keeps ht            => exact (hs k _ ht).withTimers
  | opensTab            => exact .withTimers .new
  | opensChart ht _ _ h => exact ((hs k _ ht).openChart? h).withTimers
  | closesChart ht      => exact (hs k _ ht).closeChart

theorem Course.plottable (c : s.Course op st) (hs : s.Plottable) (ho : op.Plottable) :
    st.session.Plottable :=
  fun _ _ ht => (c.alters ht).plottable hs ho

theorem Course.plottable_of_mem_effects {series : SeriesKey} {surface : Surface} {call : SurfaceCall}
    (c : s.Course op st) (hs : s.Plottable) (ho : op.Plottable)
    (hm : .call k (.surface series surface call) ∈ st.effects) : ∀ y ∈ call.samples, y.Plottable := by
  have hc : .surface series surface call ∈ Effect.calls k st.effects :=
    List.mem_filterMap.mpr ⟨_, hm, if_pos rfl⟩
  rw [c.calls, callsFor] at hc
  split at hc
  case h_1 t f ht hf =>
    have hf := plottable_of_feed? ho (feedOf?_eq_some_iff.mp hf)
    exact (hs k t ht).of_asks hf (Tab.asks_of_mem_feedCalls hc)
  case h_2 => contradiction

-- What a run keeps in its charts and what it passed to surfaces.
structure Plots (es : List Event) (s : Session) : Prop where
  sound  : s.registry.Sound
  charts : s.Plottable
  calls  : ∀ e ∈ es, ∀ k series surface call, .call k (.surface series surface call) ∈ e.step.effects →
    ∀ y ∈ call.samples, y.Plottable

theorem plots (c : Config) (ho : ∀ op ∈ ops, op.Plottable) :
    Plots ((new c).events ops) ((new c).run ops) := by
  induction ops using List.reverseRec with
  | nil => exact ⟨.new, fun _ _ ht => by contradiction, by simp [events]⟩
  | append_singleton ops op hi =>
    simp only [List.forall_mem_append, List.forall_mem_singleton] at ho
    obtain ⟨ho, hp⟩ := ho
    have hs := hi ho
    have hc := course hs.sound.keyed op
    rw [events_concat, run_concat]
    refine ⟨hc.sound hs.sound, hc.plottable hs.charts hp, ?_⟩
    simp only [List.forall_mem_append, List.forall_mem_singleton]
    exact ⟨hs.calls, fun _ _ _ _ => hc.plottable_of_mem_effects hs.charts hp⟩

-- Whatever messages come in, and as long as polled values are read from JSON bodies, every point of
-- every chart, every value next to a legend and every value that a surface is asked to show is a gap
-- or a finite number.
theorem charts_are_plottable {c : Config} {ops : List Operation}
    (h : ∀ k series p received, .polledValue k series p received ∈ ops →
      ∃ body, PolledValue.ofBody body = .ok p) :
    (∀ k t series chart, ((new c).run ops).tab? k = some t → t.chart? series = some chart →
      chart.legend.Plottable ∧ ∀ p ∈ chart.history.toList, p.value.Plottable) ∧
    ∀ e ∈ (new c).events ops, ∀ k series surface call,
      .call k (.surface series surface call) ∈ e.step.effects → ∀ y ∈ call.samples, y.Plottable := by
  have ho : ∀ op ∈ ops, op.Plottable := by
    intro op hm
    cases op with
    | polledValue k series p received =>
      obtain ⟨body, hb⟩ := h k series p received hm
      exact PolledValue.plottable_of_ofBody hb
    | _ => trivial
  have hp := plots c ho
  refine ⟨fun k t series chart ht hc => ?_, hp.calls⟩
  have hc := hp.charts k t ht series chart hc
  exact ⟨hc.legend, hc.points⟩

-- A text that spells a number too large for a double is passed over, by the stream and by a poll. What
-- is left are a number, a gap and a truth value.
theorem plotted_without_overflow : ∃ c ops k t series chart,
    (∀ k series p received, .polledValue k series p received ∈ ops →
      ∃ body, PolledValue.ofBody body = .ok p) ∧
    PolledValue.ofBody (.text "1e999") = .error (.malformed (.notNumeric (.text "1e999"))) ∧
    ((new c).run ops).tab? k = some t ∧ t.chart? series = some chart ∧
    chart.history.toList.map Point.time = [10, 20, 40] ∧ chart.legend.Plottable ∧
    ∀ p ∈ chart.history.toList, p.value.Plottable := by
  let c := Config.default
  let k : ObjectKey := ⟨"a", "b"⟩
  let message (value : String) (time : Millis) : Operation :=
    .message none ("\x7b\"type\":\"ionc_sensor_batch\",\"serverId\":\"a\",\"objectName\":\"b\",\"data\":[" ++
      "\x7b\"name\":\"x\",\"value\":" ++ value ++ "\x7d]\x7d") time
  let ops : List Operation := [
    .openTab k none ⟨true, []⟩,
    .activateFallback,
    .openChart k ⟨"ionc:x"⟩ ⟨none, none, false, false⟩ ⟨true⟩,
    message "\" 1.5 \"" 10,
    .polledValue k ⟨"ionc:x"⟩ ⟨none, none⟩ 20,
    message "\"1e999\"" 30,
    message "true" 40]
  have hb : ∀ k series p received, .polledValue k series p received ∈ ops →
      ∃ body, PolledValue.ofBody body = .ok p := by
    intro _ _ _ _ hm
    obtain ⟨_, _, rfl, _⟩ := by simpa [ops, message] using hm
    exact ⟨.null, rfl⟩
  have hl : ((((new c).run ops).tab? k).bind (·.chart? ⟨"ionc:x"⟩)).map
      (·.history.toList.map Point.time) = some [10, 20, 40] := by
    decide +kernel
  obtain ⟨chart, hc, hl⟩ := Option.map_eq_some_iff.mp hl
  obtain ⟨t, ht, hc⟩ := Option.bind_eq_some_iff.mp hc
  obtain ⟨hy, hp⟩ := (charts_are_plottable hb).left k t ⟨"ionc:x"⟩ chart ht hc
  have ho : Sample.ofJson? (.text "1e999") = none := by decide +kernel
  exact ⟨c, ops, k, t, ⟨"ionc:x"⟩, chart, hb, by simp [PolledValue.ofBody, ho], ht, hc, hl, hy, hp⟩

end Session

end FleetMonitor
