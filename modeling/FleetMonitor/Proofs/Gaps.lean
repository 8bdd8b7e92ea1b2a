import FleetMonitor.Proofs.Refusals

namespace FleetMonitor

-- Whether a value says that there is a gap: it is null itself, or an object that has null as its value.
def Json.isGap : Json → Bool
  | null           => true
  | object members => (members.lookup "value").any isNull
  | _              => false

namespace Sample

variable {x : Float} {j : Json}

theorem ofFloat?_ne_gap : ofFloat? x ≠ some none := by
  unfold ofFloat?
  split <;> simp

theorem ofPlain?_eq_gap_iff : ofPlain? j = some none ↔ j.isNull := by
  cases j with
  | null     => simp [ofPlain?, Json.isNull]
  | number n => simp [ofPlain?, Json.isNull, ofFloat?_ne_gap]
  | text s   => simp [ofPlain?, Json.isNull, Option.bind_eq_some_iff, ofFloat?_ne_gap]
  | _        => simp [ofPlain?, Json.isNull]

theorem ofJson?_eq_gap_iff : ofJson? j = some none ↔ j.isGap := by
  cases j with
  | object members =>
    simp [ofJson?, Json.isGap, Option.bind_eq_some_iff, Option.any_eq_true, ofPlain?_eq_gap_iff]
  | null => exact iff_of_true rfl rfl
  | _    => simp [ofJson?, Json.isGap, ofPlain?_eq_gap_iff, Json.isNull]

end Sample

-- What a sensor update or a row of a batch says: a name, and a value if it does not leave that out.
structure Reading where
  name   : String
  value? : Option Json

namespace Reading

-- The value that is read, with null for one that is left out.
def value (r : Reading) : Json :=
  r.value?.getD .null

-- What the reading has for a series, if it is one of that series.
def valueFor? (mark : String) (series : SeriesKey) (r : Reading) : Option (Option Json) :=
  if .tagged mark r.name = series then some r.value? else none

end Reading

namespace SensorUpdate

def reading? (j : Json) : Option Reading :=
  match Source.fields? fieldNames j with
  | some [some name, value?] => name.text?.map fun name => ⟨name, value?⟩
  | _                        => none

theorem reading?_of_read? {j : Json} {u : SensorUpdate} (h : read? j = some u) :
    ∃ r, reading? j = some r ∧ u = ⟨r.name, r.value⟩ := by
  unfold read? at h
  unfold reading?
  generalize Source.fields? fieldNames j = fields? at h
  split at h
  case h_2 => contradiction
  case h_1 name value? =>
    obtain ⟨n, hn, h⟩ := Option.bind_eq_some_iff.mp h
    replace hn : name.text? = some n := hn
    refine ⟨⟨n, value?⟩, by simp only [hn, Option.map_some], ?_⟩
    cases value? <;> exact (Option.some.inj h).symm

end SensorUpdate

namespace BatchEntry

def reading? (row : Json) : Option Reading :=
  ((row.member? "name").bind Json.text?).map fun name => ⟨name, row.member? "value"⟩

theorem reading?_of_read? {row : Json} {e : BatchEntry} (h : read? row = some e) :
    ∃ r, reading? row = some r ∧ r.name = e.name ∧ r.value = e.value := by
  cases row
  case object members =>
    obtain ⟨name, hn, h⟩ := Option.bind_eq_some_iff.mp h
    replace hn : ((Json.object members).member? "name").bind Json.text? = some name := hn
    obtain rfl := Option.some.inj h
    exact ⟨⟨name, (Json.object members).member? "value"⟩, by rw [reading?, hn]; rfl, rfl, rfl⟩
  all_goals contradiction

end BatchEntry

namespace Envelope

-- What a message has for a series, in order. There is `none` for every update and every row that
-- leaves its value out.
def valuesFor (e : Envelope) (series : SeriesKey) : Kind → List (Option Json)
  | .objectSnapshot => (e.data.lookup? series.text).toList.map some
  | .sensorUpdate   =>
    (SensorUpdate.reading? e.data).toList.filterMap (·.valueFor? SeriesKey.externalMark series)
  | .batch d        =>
    match e.data with
    | .array rows => (rows.filterMap BatchEntry.reading?).filterMap (·.valueFor? d.mark series)
    | _           => []
  | _               => []

end Envelope

namespace Point

-- The point that comes of a value, or of one that is left out.
def ofValue? (time : Millis) (value? : Option Json) : Option Point :=
  (Sample.ofJson? (value?.getD .null)).map (⟨time, ·⟩)

def isGap (p : Point) : Bool :=
  p.value.isNone

variable {time : Millis} {value? : Option Json} {values : List (Option Json)} {p : Point}

theorem isGap_ofValue? (time : Millis) (value? : Option Json) :
    (ofValue? time value?).any isGap = (value?.isNone || value?.any Json.isGap) := by
  have hg : (value?.isNone || value?.any Json.isGap) = (value?.getD .null).isGap := by
    cases value? <;> simp [Json.isGap]
  rw [hg, Bool.eq_iff_iff, ← Sample.ofJson?_eq_gap_iff, ofValue?]
  cases Sample.ofJson? (value?.getD .null) with
  | none   => simp
  | some y => cases y <;> simp [isGap]

theorem isGap_iff (h : ofValue? time value? = some p) :
    p.isGap ↔ value? = none ∨ value?.any Json.isGap := by
  have hg : p.isGap = (value?.isNone || value?.any Json.isGap) := by
    rw [← isGap_ofValue? time value?, h]
    rfl
  rw [hg, Bool.or_eq_true, Option.isNone_iff_eq_none]

-- There are as many gaps as there are values that are left out and values that say so.
theorem countP_isGap : (values.filterMap (ofValue? time)).countP isGap =
    values.countP Option.isNone + values.countP (Option.any Json.isGap) := by
  rw [List.countP_filterMap]
  induction values with
  | nil => rfl
  | cons value? values hi =>
    have ha : ((ofValue? time value?).map isGap).getD false = (ofValue? time value?).any isGap := by
      cases ofValue? time value? <;> rfl
    rw [List.countP_cons, List.countP_cons, List.countP_cons, hi, ha, isGap_ofValue?]
    cases value? <;> simp <;> omega

end Point

namespace Feed

variable {time : Millis} {series : SeriesKey} {values : List (Option Json)}

theorem points_snapshot {data : Json} : (Feed.snapshot data time).points series =
    ((data.lookup? series.text).toList.map some).filterMap (Point.ofValue? time) := by
  cases h : data.lookup? series.text with
  | none   => simp [points, h]
  | some j => cases hy : Sample.ofJson? j <;> simp [points, h, hy, Point.ofValue?]

theorem points_value {r : Reading} {y : Sample} (hy : Sample.ofJson? r.value = some y) :
    (Feed.value (.external r.name) y time).points series =
      ([r].filterMap (·.valueFor? SeriesKey.externalMark series)).filterMap (Point.ofValue? time) := by
  have hp : Point.ofValue? time r.value? = some ⟨time, y⟩ := congrArg (Option.map _) hy
  change (if SeriesKey.tagged SeriesKey.externalMark r.name = series then _ else _) = _
  by_cases hs : SeriesKey.tagged SeriesKey.externalMark r.name = series <;>
    simp [Reading.valueFor?, hs, hp]

theorem points_batch {d : Domain} {rows : List Json} {entries : List BatchEntry}
    (h : rows.mapM BatchEntry.read? = some entries) : (Feed.batch d entries time).points series =
      ((rows.filterMap BatchEntry.reading?).filterMap (·.valueFor? d.mark series)).filterMap
        (Point.ofValue? time) := by
  induction rows generalizing entries with
  | nil =>
    obtain rfl := Option.some.inj h
    rfl
  | cons row rows hi =>
    rw [List.mapM_cons] at h
    obtain ⟨e, he, h⟩ := Option.bind_eq_some_iff.mp h
    obtain ⟨es, hes, h⟩ := Option.bind_eq_some_iff.mp h
    obtain rfl := Option.some.inj h
    obtain ⟨r, hr, hn, hv⟩ := BatchEntry.reading?_of_read? he
    have hp : Point.ofValue? time r.value? = (Sample.ofJson? e.value).map (⟨time, ·⟩) :=
      hv ▸ rfl
    have hc := hi hes
    simp only [points] at hc ⊢
    rw [List.filterMap_cons, List.filterMap_cons, hr, hc, List.filterMap_cons, Reading.valueFor?, hn]
    by_cases hs : SeriesKey.tagged d.mark e.name = series
    case pos => rw [if_pos hs, if_pos hs, List.filterMap_cons, hp]
    case neg => rw [if_neg hs, if_neg hs]

end Feed

namespace Session

variable {s : Session} {k k' : ObjectKey} {series : SeriesKey} {e : Envelope} {kind : Kind}
  {event? : Option String} {raw : String} {received : Millis} {f : Feed}

theorem points_messageFeed? (h : s.messageFeed? e received kind = some (k, f)) :
    f.points series = (e.valuesFor series kind).filterMap (Point.ofValue? (e.time received)) := by
  cases kind
  case objectSnapshot =>
    obtain ⟨k', _, h⟩ := Option.bind_eq_some_iff.mp h
    obtain ⟨_, rfl⟩ := Prod.mk.inj (Option.some.inj h)
    exact Feed.points_snapshot
  case sensorUpdate =>
    obtain ⟨u, hu, h⟩ := Option.bind_eq_some_iff.mp h
    obtain ⟨y, hy, h⟩ := Option.bind_eq_some_iff.mp h
    obtain ⟨k', _, h⟩ := Option.bind_eq_some_iff.mp h
    obtain ⟨_, rfl⟩ := Prod.mk.inj (Option.some.inj h)
    obtain ⟨r, hr, rfl⟩ := SensorUpdate.reading?_of_read? hu
    simp only [Envelope.valuesFor, hr, Option.toList_some]
    exact Feed.points_value hy
  case batch d =>
    obtain ⟨k', _, h⟩ := Option.bind_eq_some_iff.mp h
    obtain ⟨entries, he, h⟩ := Option.bind_eq_some_iff.mp h
    obtain ⟨_, rfl⟩ := Prod.mk.inj (Option.some.inj h)
    unfold BatchEntry.readAll? at he
    split at he
    case h_2 => contradiction
    case h_1 rows hd =>
      simp only [Envelope.valuesFor, hd]
      exact Feed.points_batch he
  all_goals contradiction

-- A message has points for one tab at most, and they come of the values that it has for their series.
theorem pointsFor_message (he : Envelope.parse? raw = some e) (hk : e.kind? event? = some kind) :
    s.pointsFor k series (.message event? raw received) = [] ∨
    s.pointsFor k series (.message event? raw received) =
      (e.valuesFor series kind).filterMap (Point.ofValue? (e.time received)) := by
  rw [pointsFor, feed?_message he hk]
  rcases hf : s.messageFeed? e received kind with _ | ⟨k', f⟩
  case none => exact .inl rfl
  case some =>
    by_cases hk : k' = k
    case pos => exact .inr ((if_pos hk).trans (points_messageFeed? hf))
    case neg => exact .inl (if_neg hk)

theorem exists_kind_of_delivered {d : Delivery}
    (h : (s.handleMessage event? raw received).answer = .delivered d) :
    ∃ e kind, Envelope.parse? raw = some e ∧ e.kind? event? = some kind := by
  generalize hm : s.handleMessage event? raw received = st at h
  have hh : s.Handles event? raw received st := hm ▸ handles
  cases hh with
  | acknowledges he hk => exact ⟨_, _, he, hk⟩
  | delivers he hk     => exact ⟨_, _, he, hk⟩
  | refuses o ho       => rcases ho with rfl | rfl <;> contradiction

theorem history?_delivered {d : Delivery} (hk : s.registry.Keyed)
    (h : (s.handleMessage event? raw received).answer = .delivered d) :
    (s.handleMessage event? raw received).session.registry.history? k series =
      (s.registry.history? k series).map
        (·.appendAll (s.pointsFor k series (.message event? raw received))) := by
  have hf : s.Feeds (.message event? raw received) (s.handleMessage event? raw received) :=
    feeds_message hk fun n hn => by simp [h] at hn
  rw [hf.registry, history?_take]

-- Every chart gets the points that a message which is delivered has for it and no others. Each of them
-- comes of a value of its series, and is a gap just if the value is left out or says that there is
-- a gap. There are as many gaps as there are such values.
theorem gaps_are_nulls_or_left_out {c : Config} {ops : List Operation} {d : Delivery}
    (h : (((new c).run ops).handleMessage event? raw received).answer = .delivered d) :
    let s := (new c).run ops
    let st := s.handleMessage event? raw received
    ∃ e kind, Envelope.parse? raw = some e ∧ e.kind? event? = some kind ∧ ∀ k series,
      let points := s.pointsFor k series (.message event? raw received)
      let values := e.valuesFor series kind
      st.session.registry.history? k series =
        (s.registry.history? k series).map (·.appendAll points) ∧
      (∀ p ∈ points, ∃ value? ∈ values, Point.ofValue? (e.time received) value? = some p ∧
        (p.isGap ↔ value? = none ∨ value?.any Json.isGap)) ∧
      (points ≠ [] → points.countP Point.isGap =
        values.countP Option.isNone + values.countP (Option.any Json.isGap)) := by
  intro s st
  obtain ⟨e, kind, he, hk⟩ := exists_kind_of_delivered h
  refine ⟨e, kind, he, hk, fun k series => ?_⟩
  intro points values
  have hp : points = [] ∨ points = values.filterMap (Point.ofValue? (e.time received)) :=
    pointsFor_message he hk
  refine ⟨history?_delivered (sound c ops).keyed h, fun p hm => ?cause, fun hn => ?count⟩
  case cause =>
    rcases hp with hp | hp <;> rw [hp] at hm
    case inl => contradiction
    case inr =>
      obtain ⟨value?, hv, hp⟩ := List.mem_filterMap.mp hm
      exact ⟨value?, hv, hp, Point.isGap_iff hp⟩
  case count =>
    rw [hp.resolve_left hn]
    exact Point.countP_isGap

-- One row for the chart has null, and the other one has an object with null.
theorem gaps_of_null_rows : ∃ c ops raw d k series,
    (((new c).run ops).handleMessage none raw 10).answer = .delivered d ∧
    (((new c).run ops).pointsFor k series (.message none raw 10)).countP Point.isGap = 2 ∧
    ∃ e kind, Envelope.parse? raw = some e ∧ e.kind? none = some kind ∧
      (e.valuesFor series kind).countP Option.isNone = 0 ∧
      (e.valuesFor series kind).countP (Option.any Json.isGap) = 2 := by
  let c := Config.default
  let k : ObjectKey := ⟨"a", "b"⟩
  let series : SeriesKey := ⟨"ionc:x"⟩
  let ops : List Operation := [
    .openTab k none ⟨true, []⟩,
    .openChart k series ⟨none, none, false, false⟩ ⟨true⟩]
  let raw := "\x7b\"type\":\"ionc_sensor_batch\",\"serverId\":\"a\",\"objectName\":\"b\",\"data\":[" ++
    "\x7b\"name\":\"x\",\"value\":null\x7d,\x7b\"name\":\"x\",\"value\":\x7b\"value\":null\x7d\x7d]\x7d"
  obtain ⟨hd, hn⟩ : (((new c).run ops).handleMessage none raw 10).answer = .delivered ⟨2, 2, 1⟩ ∧
      ((new c).run ops).pointsFor k series (.message none raw 10) ≠ [] := by decide +kernel
  have hv : (Envelope.parse? raw).any fun e => (e.kind? none).any fun kind =>
      (e.valuesFor series kind).countP Option.isNone = 0 ∧
      (e.valuesFor series kind).countP (Option.any Json.isGap) = 2 := by decide +kernel
  obtain ⟨e, kind, he, hk, h⟩ := gaps_are_nulls_or_left_out hd
  obtain ⟨e', he', hv⟩ := (Option.any_eq_true _ _).mp hv
  obtain rfl := Option.some.inj (he.symm.trans he')
  obtain ⟨kind', hk', hv⟩ := (Option.any_eq_true _ _).mp hv
  obtain rfl := Option.some.inj (hk.symm.trans hk')
  obtain ⟨hl, hg⟩ := of_decide_eq_true hv
  have hc := (h k series).right.right hn
  rw [hl, hg] at hc
  exact ⟨c, ops, raw, _, k, series, hd, hc, e, kind, he, hk, hl, hg⟩

-- Neither the update nor the row of the batch has a value, and both make a gap.
theorem gaps_without_null : ∃ c ops update batch k,
    ((Envelope.parse? update).any fun e => e.kind? none = some .sensorUpdate ∧ e.data.isObject ∧
      (e.data.member? "value").isNone) ∧
    ((Envelope.parse? batch).any fun e => e.kind? none = some (.batch .ionc) ∧
      (Source.items? e.data).any fun rows => rows.length = 1 ∧
        rows.all fun row => row.isObject ∧ (row.member? "value").isNone) ∧
    let s := (new c).run ops
    let updated := s.handleMessage none update 10
    let batched := s.handleMessage none batch 10
    updated.answer = .delivered ⟨1, 1, 2⟩ ∧ batched.answer = .delivered ⟨1, 1, 2⟩ ∧
    (updated.session.registry.history? k (.external "x")).map (·.toList.map Point.isGap) =
      some [true] ∧
    (batched.session.registry.history? k (.tagged Domain.ionc.mark "x")).map
      (·.toList.map Point.isGap) = some [true] := by
  let c := Config.default
  let k : ObjectKey := ⟨"a", "b"⟩
  let ops : List Operation := [
    .openTab k none ⟨true, []⟩,
    .openChart k ⟨"ext:x"⟩ ⟨none, none, false, false⟩ ⟨true⟩,
    .openChart k ⟨"ionc:x"⟩ ⟨none, none, false, false⟩ ⟨true⟩]
  let address := "\"serverId\":\"a\",\"objectName\":\"b\",\"data\":"
  let update := "\x7b\"type\":\"sensor_data\"," ++ address ++ "\x7b\"name\":\"x\"\x7d\x7d"
  let batch := "\x7b\"type\":\"ionc_sensor_batch\"," ++ address ++ "[\x7b\"name\":\"x\"\x7d]\x7d"
  exact ⟨c, ops, update, batch, k, by decide +kernel⟩

end Session
end FleetMonitor
