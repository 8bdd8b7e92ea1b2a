import FleetMonitor.Proofs.Counters

namespace FleetMonitor

-- Whether a call hands something to a renderer: a snapshot, or a batch for its sink.
def TabCall.isForRenderer : TabCall → Bool
  | snapshot .. | batch .. => true
  | surface ..             => false

def Effect.isForRenderer : Effect → Bool
  | call _ c => c.isForRenderer
  | _        => false

namespace Tab

-- The charts that get a point by a feed.
def reached (t : Tab) (f : Feed) : List SeriesKey :=
  t.charts.keys.filter fun s => !(f.points s).isEmpty

variable {t : Tab} {f : Feed} {p : Pass} {calls : List TabCall} {n : Nat}
  {points : List (SeriesKey × Point)}

theorem countP_repaintCalls_isForRenderer : t.repaintCalls.countP TabCall.isForRenderer = 0 := by
  refine List.countP_eq_zero.mpr fun call hm => ?_
  obtain ⟨c, _, hm⟩ := List.mem_flatMap.mp hm
  obtain ⟨_, _, rfl⟩ := List.mem_map.mp hm
  exact Bool.false_ne_true

theorem countP_pass_isForRenderer : (t.pass calls n points).calls.countP TabCall.isForRenderer =
    calls.countP TabCall.isForRenderer := by
  change (calls ++ (t.appendAll points).align.repaintCalls).countP _ = _
  rw [List.countP_append, countP_repaintCalls_isForRenderer, Nat.add_zero]

-- A renderer is handed at most one thing in a pass, and counts as a consumer if it is.
theorem consumers_take (hp : t.take? f = some p) :
    p.calls.countP TabCall.isForRenderer ≤ 1 ∧
    p.delivery.consumers = p.calls.countP TabCall.isForRenderer + p.delivery.points := by
  cases f with
  | snapshot data time =>
    obtain rfl := Option.some.inj hp
    rw [takeSnapshot, countP_pass_isForRenderer]
    exact ⟨Nat.le_refl 1, rfl⟩
  | batch d entries time =>
    obtain rfl := Option.some.inj hp
    rw [takeBatch, countP_pass_isForRenderer]
    by_cases hd : d ∈ t.renderer.sinks
    case pos => simp only [if_pos hd]; exact ⟨Nat.le_refl 1, rfl⟩
    case neg => simp only [if_neg hd]; exact ⟨Nat.zero_le 1, rfl⟩
  | value s y time =>
    obtain ⟨c, _, rfl⟩ := Option.map_eq_some_iff.mp hp
    rw [countP_pass_isForRenderer]
    exact ⟨Nat.zero_le 1, rfl⟩
  | range r =>
    obtain rfl := Option.some.inj hp
    rw [setRange, countP_pass_isForRenderer]
    exact ⟨Nat.zero_le 1, rfl⟩

theorem length_filter_le_length_flatMap {ks : List SeriesKey} {ps : SeriesKey → List Point} :
    (ks.filter fun s => !(ps s).isEmpty).length ≤ (ks.flatMap ps).length := by
  induction ks with
  | nil => exact Nat.le_refl 0
  | cons s ks hi =>
    rw [List.flatMap_cons, List.length_append, List.filter_cons]
    cases ps s <;> simp [-List.length_flatMap] <;> omega

-- There are as many points as charts that get any if and only if no chart gets two.
theorem length_flatMap_eq_iff {ks : List SeriesKey} {ps : SeriesKey → List Point} :
    (ks.flatMap ps).length = (ks.filter fun s => !(ps s).isEmpty).length ↔
      ∀ s ∈ ks, (ps s).length ≤ 1 := by
  induction ks with
  | nil => simp
  | cons s ks hi =>
    have hl : (ks.filter fun s => !(ps s).isEmpty).length ≤ (ks.flatMap ps).length :=
      length_filter_le_length_flatMap
    rw [List.forall_mem_cons, ← hi, List.flatMap_cons, List.length_append, List.filter_cons]
    cases ps s with
    | nil      => simp [-List.length_flatMap]
    | cons p _ => simp only [List.length_cons, List.isEmpty_cons, Bool.not_false, if_true]; omega

end Tab

namespace Registry

-- The points that a feed has for the charts of a tab, and the charts that get any.

def pointsOf (r : Registry) (k : ObjectKey) (f : Feed) : List Point :=
  ((r.tab? k).map fun t => t.charts.keys.flatMap f.points).getD []

def reached (r : Registry) (k : ObjectKey) (f : Feed) : List SeriesKey :=
  ((r.tab? k).map (·.reached f)).getD []

-- No chart of the tab gets more than one point.
def Singles (r : Registry) (k : ObjectKey) (f : Feed) : Prop :=
  ∀ t, r.tab? k = some t → ∀ s, t.hasChart s → (f.points s).length ≤ 1

-- What the delivery of an update says of a feed for one tab.
structure Reports (r : Registry) (k : ObjectKey) (f : Feed) (u : Update) : Prop where
  appended  : ∀ k' s, u.registry.history? k' s =
    (r.history? k' s).map (·.appendAll (if k' = k then f.points s else []))
  points    : u.delivery.points = (r.pointsOf k f).length
  rendered  : u.effects.countP Effect.isForRenderer ≤ 1
  consumers : u.delivery.consumers =
    u.effects.countP Effect.isForRenderer + (r.pointsOf k f).length
  exact_iff : u.delivery.consumers =
    u.effects.countP Effect.isForRenderer + (r.reached k f).length ↔ r.Singles k f

variable {r : Registry} {k : ObjectKey} {f : Feed}

theorem points_take : (r.take k f).delivery.points = (r.pointsOf k f).length := by
  unfold take update pointsOf
  cases ht : r.tab? k with
  | none => rfl
  | some t =>
    rw [Option.map_some, Option.getD_some, Tab.length_points_feed, Option.bind_some]
    cases t.take? f <;> rfl

theorem consumers_take : (r.take k f).effects.countP Effect.isForRenderer ≤ 1 ∧
    (r.take k f).delivery.consumers =
      (r.take k f).effects.countP Effect.isForRenderer + (r.take k f).delivery.points := by
  unfold take update
  split
  case h_1 => exact ⟨Nat.zero_le 1, rfl⟩
  case h_2 p h =>
    obtain ⟨t, _, hp⟩ := Option.bind_eq_some_iff.mp h
    rw [List.countP_map]
    exact Tab.consumers_take hp

theorem length_pointsOf_eq_iff :
    (r.pointsOf k f).length = (r.reached k f).length ↔ r.Singles k f := by
  unfold pointsOf reached Singles
  cases ht : r.tab? k with
  | none => simp
  | some t =>
    simp only [Option.map_some, Option.getD_some, Option.some.injEq, forall_eq']
    refine Tab.length_flatMap_eq_iff.trans (forall_congr' fun s => ?_)
    rw [SortedMap.mem_keys_iff]
    rfl

theorem reports : r.Reports k f (r.take k f) := by
  obtain ⟨hr, hc⟩ := consumers_take (r := r) (k := k) (f := f)
  rw [points_take] at hc
  refine ⟨fun _ _ => history?_take, points_take, hr, hc, ?_⟩
  rw [hc, Nat.add_left_cancel_iff]
  exact length_pointsOf_eq_iff

theorem singles_snapshot {data : Json} {time : Millis} : r.Singles k (.snapshot data time) := by
  intro t _ s _
  unfold Feed.points
  cases (data.lookup? s.text).bind Sample.ofJson? <;> simp

theorem singles_value {s : SeriesKey} {y : Sample} {time : Millis} :
    r.Singles k (.value s y time) := by
  intro t _ s' _
  by_cases h : s = s' <;> simp [Feed.points, h]

end Registry

-- Whether messages of a kind are addressed to an object.
def Kind.isForObject : Kind → Bool
  | objectSnapshot | sensorUpdate | batch _ => true
  | _ => false

namespace Board

variable {b : Board}

-- What a message that is routed may come to: it reaches nothing, it is fed to a tab, or it is not for
-- an object and goes to the directory of servers.
inductive Reaches (b : Board) : Kind → Update → Prop
  | nothing : Reaches b kind b.unreached
  | snapshot : Reaches b .objectSnapshot (b.ofRegistry (b.registry.takeSnapshot k data time))
  | value : Reaches b .sensorUpdate (b.ofRegistry (b.registry.takeValue k s y time))
  | batch : Reaches b (.batch d) (b.ofRegistry (b.registry.takeBatch k d entries time))
  | servers (h : kind.isForObject = false) : Reaches b kind (b.ofServers directory)

theorem reaches {kind : Kind} {e : Envelope} {received : Millis} {u : Update}
    (h : b.route kind e received = .ok u) : b.Reaches kind u := by
  cases kind with
  | connected   => exact Except.ok.inj h ▸ .nothing
  | objectsList => exact Except.ok.inj h ▸ .servers rfl
  | serverStatus =>
    simp only [route, takeServerStatus] at h
    split at h
    · contradiction
    · contradiction
    · exact Except.ok.inj h ▸ .servers rfl
  | objectSnapshot =>
    simp only [route] at h
    cases hk : e.requireKey <;> rw [hk] at h
    · contradiction
    · exact Except.ok.inj h ▸ .snapshot
  | sensorUpdate =>
    simp only [route, takeSensorUpdate] at h
    split at h
    · contradiction
    · cases hk : b.sensorTab? e <;> rw [hk] at h
      · contradiction
      · simp only [bind, Except.bind] at h
        split at h
        · exact Except.ok.inj h ▸ .value
        · exact Except.ok.inj h ▸ .nothing
  | batch d =>
    simp only [route] at h
    cases hk : e.requireKey <;> rw [hk] at h
    · contradiction
    · simp only [bind, Except.bind] at h
      split at h
      · contradiction
      · exact Except.ok.inj h ▸ .batch

-- The delivery of a message for an object tells how many points were appended, and counts the
-- renderer, if it was handed something, and every one of these points. That is the number of those
-- who took part if and only if no chart got two points, and a snapshot or a single value never has
-- two points for a chart.
theorem consumers_are_renderers_and_points (b : Board) :
    (∀ k data time, b.registry.Singles k (.snapshot data time) ∧
      b.registry.Reports k (.snapshot data time) (b.registry.takeSnapshot k data time)) ∧
    (∀ k s y time, b.registry.Singles k (.value s y time) ∧
      b.registry.Reports k (.value s y time) (b.registry.takeValue k s y time)) ∧
    (∀ k d entries time,
      b.registry.Reports k (.batch d entries time) (b.registry.takeBatch k d entries time)) ∧
    ∀ kind e received u, b.route kind e received = .ok u → b.Reaches kind u :=
  ⟨fun _ _ _ => ⟨Registry.singles_snapshot, Registry.reports⟩,
    fun _ _ _ _ => ⟨Registry.singles_value, Registry.reports⟩,
    fun _ _ _ _ => Registry.reports,
    fun _ _ _ _ h => reaches h⟩

-- A sink and two charts take a batch of three rows, of which one is for neither chart.
theorem consumers_of_rows_for_two_charts : ∃ (b : Board), ∃ kind e received u k f,
    b.route kind e received = .ok u ∧ b.Reaches kind u ∧ u.delivery = ⟨3, 2, 2⟩ ∧
    u.effects.countP Effect.isForRenderer = 1 ∧ b.registry.reached k f = [⟨"ionc:x"⟩, ⟨"ionc:y"⟩] := by
  let k : ObjectKey := ⟨"a", "b"⟩
  let options : DisplayOptions := ⟨none, none, false, false⟩
  let b := ((Session.new Config.default).run [
    .openTab k none ⟨true, [.ionc]⟩,
    .openChart k ⟨"ionc:x"⟩ options ⟨true⟩,
    .openChart k ⟨"ionc:y"⟩ options ⟨true⟩]).board
  let row (name : String) : Json := .object [("name", .text name), ("value", .bool true)]
  let data := [row "x", row "z", row "y"]
  let e : Envelope := ⟨none, some "a", none, some "b", .array data, none⟩
  let f : Feed := .batch .ionc (data.filterMap BatchEntry.read?) 10
  have hu : ((b.route (.batch .ionc) e 10).toOption.map fun u =>
      (u.delivery, u.effects.countP Effect.isForRenderer)) = some (⟨3, 2, 2⟩, 1) := by decide +kernel
  have hf : b.registry.reached k f = [⟨"ionc:x"⟩, ⟨"ionc:y"⟩] := by decide +kernel
  cases hr : b.route (.batch .ionc) e 10 with
  | error => rw [hr] at hu; exact nomatch hu
  | ok u =>
    rw [hr] at hu
    have ⟨hd, hc⟩ := Prod.mk.inj (Option.some.inj hu)
    have h := (consumers_are_renderers_and_points b).right.right.right _ e 10 u hr
    exact ⟨b, _, e, 10, u, k, f, hr, h, hd, hc, hf⟩

end Board

namespace Session

-- A batch with two rows for one chart is reported for two consumers, although there is no sink for
-- it and no other chart.
theorem consumers_exceed_charts : ∃ c ops raw k f,
    let s := (new c).run ops
    s.feed? (.message none raw 10) = some (k, f) ∧
    (s.handleMessage none raw 10).answer = .delivered ⟨2, 2, 1⟩ ∧
    (s.handleMessage none raw 10).effects.countP Effect.isForRenderer = 0 ∧
    s.registry.reached k f = [⟨"ionc:x"⟩] := by
  let c := Config.default
  let ops : List Operation := [
    .openTab ⟨"a", "b"⟩ none ⟨true, []⟩,
    .openChart ⟨"a", "b"⟩ ⟨"ionc:x"⟩ ⟨none, none, false, false⟩ ⟨true⟩]
  let raw := "\x7b\"type\":\"ionc_sensor_batch\",\"serverId\":\"a\",\"objectName\":\"b\",\"data\":[" ++
    "\x7b\"name\":\"x\",\"value\":1\x7d,\x7b\"name\":\"x\",\"value\":2\x7d]\x7d"
  have hf : (((new c).run ops).feed? (.message none raw 10)).map
      (fun (k, f) => ((new c).run ops).registry.reached k f) = some [⟨"ionc:x"⟩] := by decide +kernel
  have ⟨(k, f), hf, hr⟩ := Option.map_eq_some_iff.mp hf
  exact ⟨c, ops, raw, k, f, hf, by decide +kernel, by decide +kernel, hr⟩

end Session
end FleetMonitor
