import FleetMonitor.Proofs.Moves
import FleetMonitor.Proofs.Tabs

namespace FleetMonitor

-- What may be put into a tab in one pass.
inductive Feed where
  | snapshot (data : Json) (time : Millis)
  | batch    (d : Domain) (entries : List BatchEntry) (time : Millis)
  | value    (s : SeriesKey) (y : Sample) (time : Millis)
  | range    (r : TimeRange)

-- Whether a call asks a surface to draw its chart anew.
def TabCall.isRedraw : TabCall → Bool
  | surface _ _ (.redraw ..) => true
  | _                        => false

namespace Feed

-- The points that a feed has for one series, in order: a snapshot has the value that the series'
-- path leads to, a batch has the values of all rows of that name, and a value is for its own series.
def points (s : SeriesKey) : Feed → List Point
  | snapshot data time    => (((data.lookup? s.text).bind Sample.ofJson?).map (⟨time, ·⟩)).toList
  | batch d entries time  => entries.filterMap fun e =>
    if SeriesKey.tagged d.mark e.name = s then (Sample.ofJson? e.value).map (⟨time, ·⟩) else none
  | value s' y time       => if s' = s then [⟨time, y⟩] else []
  | range _               => []

end Feed

namespace Tab

def take? (t : Tab) : Feed → Option Pass
  | .snapshot data time   => some (t.takeSnapshot data time)
  | .batch d entries time => some (t.takeBatch d entries time)
  | .value s y time       => t.takeValue? s y time
  | .range r              => some (t.setRange r)

-- The tab after a feed. A value for a series without a chart is passed over.
def feed (t : Tab) (f : Feed) : Tab :=
  ((t.take? f).map Pass.tab).getD t

variable {t : Tab} {s : SeriesKey} {f : Feed}

-- A snapshot has at most one point for a chart, since every chart is looked up once.
theorem pointsOf_snapshotPoints {data : Json} {time : Millis} (h : t.hasChart s) :
    pointsOf s (t.snapshotPoints data time) = (Feed.snapshot data time).points s := by
  have hm : s ∈ t.charts.keys := SortedMap.mem_keys_iff.2 h
  have hn : t.charts.keys.Nodup := SortedMap.nodup_keys
  simp only [pointsOf, snapshotPoints, List.filterMap_filterMap, Feed.points]
  generalize t.charts.keys = ks at hm hn
  induction ks with
  | nil => contradiction
  | cons s' ks hi =>
    obtain ⟨hs, hn⟩ := List.nodup_cons.mp hn
    rw [List.filterMap_cons]
    by_cases e : s' = s
    case pos =>
      subst e
      have hr : ks.filterMap (fun s => (((data.lookup? s.text).bind Sample.ofJson?).map
          fun y => (s, (⟨time, y⟩ : Point))).bind fun sp => if sp.1 = s' then some sp.2 else none) =
          [] := by
        refine List.filterMap_eq_nil_iff.2 fun s hm => ?_
        have : s ≠ s' := fun e => hs (e ▸ hm)
        cases (data.lookup? s.text).bind Sample.ofJson? <;> simp [this]
      rw [hr]
      cases (data.lookup? s'.text).bind Sample.ofJson? <;> simp
    case neg =>
      rw [← hi (by simpa [Ne.symm e] using hm) hn]
      cases (data.lookup? s'.text).bind Sample.ofJson? <;> simp [e]

theorem pointsOf_batchPoints {d : Domain} {entries : List BatchEntry} {time : Millis}
    (h : t.hasChart s) :
    pointsOf s (t.batchPoints d entries time) = (Feed.batch d entries time).points s := by
  simp only [pointsOf, batchPoints, List.filterMap_filterMap, Feed.points]
  congr 1
  funext e
  by_cases hs : SeriesKey.tagged d.mark e.name = s
  case pos => cases Sample.ofJson? e.value <;> simp [hs, h]
  case neg =>
    split
    · cases Sample.ofJson? e.value <;> simp [hs]
    · rfl

-- The points that a feed brings to the charts of a tab, in the order in which they are appended.
def appended (t : Tab) : Feed → List (SeriesKey × Point)
  | .snapshot data time   => t.snapshotPoints data time
  | .batch d entries time => t.batchPoints d entries time
  | .value s y time       => if t.hasChart s then [(s, ⟨time, y⟩)] else []
  | .range _              => []

theorem pointsOf_appended (h : t.hasChart s) : pointsOf s (t.appended f) = f.points s := by
  cases f with
  | snapshot => exact pointsOf_snapshotPoints h
  | batch    => exact pointsOf_batchPoints h
  | range    => rfl
  | value s' y time =>
    by_cases e : s' = s
    case pos => simp [appended, pointsOf, Feed.points, e, h]
    case neg => by_cases hc : t.hasChart s' <;> simp [appended, pointsOf, Feed.points, e, hc]

theorem hasChart_of_mem_appended {sp : SeriesKey × Point} (h : sp ∈ t.appended f) :
    t.hasChart sp.1 := by
  cases f with
  | snapshot =>
    obtain ⟨s, hs, he⟩ := List.mem_filterMap.mp h
    obtain ⟨y, _, rfl⟩ := Option.map_eq_some_iff.mp he
    exact SortedMap.mem_keys_iff.mp hs
  | batch =>
    obtain ⟨e, _, he⟩ := List.mem_filterMap.mp h
    dsimp only at he
    split at he
    case isTrue hc =>
      obtain ⟨y, _, rfl⟩ := Option.map_eq_some_iff.mp he
      exact hc
    case isFalse => contradiction
  | range => contradiction
  | value s y time =>
    simp only [appended] at h
    split at h
    case isTrue hc => exact List.mem_singleton.mp h ▸ hc
    case isFalse   => contradiction

-- The tab with the range that a feed brings along.
def ranged (t : Tab) : Feed → Tab
  | .range r => { t with range := r }
  | _        => t

-- What may come of a feed: one pass, which asks for nothing but redraws unless it has something for
-- the renderer or for a chart, or nothing at all if it is a value for a series without a chart.
inductive Takes (t : Tab) (f : Feed) : Option Pass → Prop
  | pass (calls : List TabCall) (n : Nat) (points : List (SeriesKey × Point))
      (hc : ∀ call ∈ calls, ¬call.isRedraw) (hn : n = 0 → points = [] → calls = [])
      (hp : ∀ s, t.hasChart s → pointsOf s points = f.points s) :
    Takes t f (some ((t.ranged f).pass calls n points))
  | nothing (h : ∀ s, t.hasChart s → f.points s = []) : Takes t f none

theorem takes : t.Takes f (t.take? f) := by
  cases f
  case snapshot =>
    refine .pass [.snapshot t.renderer _ _] 1 _ ?_ nofun fun s h => pointsOf_snapshotPoints h
    simp [TabCall.isRedraw]
  case batch d entries time =>
    refine .pass _ _ _ ?calls ?none fun s h => pointsOf_batchPoints h
    case calls => split <;> simp [TabCall.isRedraw]
    case none  => split <;> simp
  case range r => exact .pass [] 0 [] (by simp) (by simp) fun _ _ => rfl
  case value s y time =>
    cases hc : t.chart? s with
    | none =>
      have hn : t.take? (.value s y time) = none := by simp [take?, takeValue?, hc]
      rw [hn]
      refine .nothing fun s' h => if_neg ?_
      rintro rfl
      simp [hasChart_eq_isSome, hc] at h
    | some c =>
      have hs : t.take? (.value s y time) = some (t.pass
          [.surface c.key c.surface (c.append ⟨time, y⟩).legendCall] 0 [(s, ⟨time, y⟩)]) := by
        simp only [take?, takeValue?, hc, Option.map_some]
      rw [hs]
      refine .pass _ _ _ ?_ nofun fun s' _ => ?_
      · simp [TabCall.isRedraw, Chart.legendCall]
      · by_cases h : s = s' <;> simp [pointsOf, Feed.points, h]

-- A pass appends just the points that the feed brings, and without a pass there are none.
theorem take?_eq : t.take? f = none ∧ t.appended f = [] ∨
    ∃ calls n, t.take? f = some ((t.ranged f).pass calls n (t.appended f)) := by
  cases f with
  | snapshot => exact .inr ⟨_, _, rfl⟩
  | batch    => exact .inr ⟨_, _, rfl⟩
  | range    => exact .inr ⟨_, _, rfl⟩
  | value s y time =>
    cases hc : t.chart? s with
    | none   => exact .inl ⟨by simp [take?, takeValue?, hc], by simp [appended, hasChart_eq_isSome, hc]⟩
    | some c =>
      have ha : t.appended (.value s y time) = [(s, ⟨time, y⟩)] := by
        simp [appended, hasChart_eq_isSome, hc]
      rw [ha]
      exact .inr ⟨_, _, by simp only [take?, takeValue?, hc, Option.map_some]; rfl⟩

theorem frame_ranged : Frame t (t.ranged f) := by
  cases f <;> exact ⟨rfl, rfl, rfl, rfl, rfl, rfl⟩

theorem chart?_ranged : (t.ranged f).chart? s = t.chart? s := by
  cases f <;> rfl

theorem frame_feed : Frame t (t.feed f) := by
  unfold feed
  generalize ht : t.take? f = p?
  have h : t.Takes f p? := ht ▸ takes
  cases h with
  | pass    => exact frame_ranged.trans frame_pass
  | nothing => exact .refl

theorem history?_feed : (t.feed f).history? s = (t.history? s).map (·.appendAll (f.points s)) := by
  by_cases hc : t.hasChart s
  case neg =>
    have hf : ¬(t.feed f).hasChart s := by rwa [frame_feed.hasChart]
    rw [← isSome_history?] at hc hf
    simp_all
  case pos =>
    have hr : (t.ranged f).history? s = t.history? s := congrArg (Option.map _) chart?_ranged
    unfold feed
    generalize ht : t.take? f = p?
    have h : t.Takes f p? := ht ▸ takes
    cases h with
    | pass _ _ _ _ _ hp => rw [← hp s hc, ← hr]; exact history?_pass
    | nothing h         => rw [h s hc]; simp

end Tab

namespace Registry

def take (r : Registry) (k : ObjectKey) (f : Feed) : Update :=
  r.update k (·.take? f)

variable {r : Registry} {k k' : ObjectKey} {s : SeriesKey} {f : Feed}

def history? (r : Registry) (k : ObjectKey) (s : SeriesKey) : Option History :=
  (r.tab? k).bind (·.history? s)

theorem tab?_take : (r.take k f).registry.tab? k' =
    (r.tab? k').map fun t => if k' = k then t.feed f else t :=
  tab?_update

theorem history?_take : (r.take k f).registry.history? k' s =
    (r.history? k' s).map (·.appendAll (if k' = k then f.points s else [])) := by
  simp only [history?, tab?_take]
  cases r.tab? k' with
  | none => rfl
  | some t => by_cases h : k' = k <;> simp [h, Tab.history?_feed]

-- The objects of the open tabs that are shown under a name.
def shownAs (r : Registry) (name : String) : List ObjectKey :=
  (r.tabs.entries.filter (·.2.displayName = name)).map (·.1)

-- Every tab is kept under its own key.
def Keyed (r : Registry) : Prop :=
  ∀ k t, r.tab? k = some t → t.key = k

theorem resolve?_eq {name : String} (h : r.Keyed) : r.resolve? name =
    match r.shownAs name with
    | [k] => some k
    | _   => none := by
  have hk : ∀ e ∈ r.tabs.entries.filter (·.2.displayName = name), e.2.key = e.1 := fun e he =>
    h _ _ (SortedMap.find?_eq_some_iff.2 (List.mem_of_mem_filter he))
  simp only [resolve?, shownAs, SortedMap.values, List.filter_map, Function.comp_def]
  generalize r.tabs.entries.filter (·.2.displayName = name) = es at hk
  rcases es with _ | ⟨e, _ | ⟨_, _⟩⟩
  · rfl
  · exact congrArg some (hk e (by simp))
  · rfl

end Registry

namespace Session

variable {s : Session} {op : Operation}

-- The tab that a message about a sensor is for: that of its object, or, if it names no server, the
-- only open one that is shown under its object's name.
def addressee? (s : Session) (e : Envelope) : Option ObjectKey :=
  match e.serverId?, e.objectName? with
  | some server, some object => some ⟨server, object⟩
  | none,        some name   =>
    match s.registry.shownAs name with
    | [k] => some k
    | _   => none
  | _,           none        => none

-- What a message of some kind feeds, and to which tab.
def messageFeed? (s : Session) (e : Envelope) (received : Millis) :
    Kind → Option (ObjectKey × Feed)
  | .objectSnapshot => do some (← e.key?, .snapshot e.data (e.time received))
  | .sensorUpdate   => do
    let u ← SensorUpdate.read? e.data
    let y ← Sample.ofJson? u.value
    some (← s.addressee? e, .value (.external u.name) y (e.time received))
  | .batch d        => do
    some (← e.key?, .batch d (← BatchEntry.readAll? e.data) (e.time received))
  | _               => none

-- What an operation feeds, and to which tab. Polled answers count as long as they are accepted.
def feed? (s : Session) : Operation → Option (ObjectKey × Feed)
  | .message event? raw received => do
    let e ← Envelope.parse? raw
    s.messageFeed? e received (← e.kind? event?)
  | .polledSnapshot k p received =>
    if s.acceptsPolled k then some (k, .snapshot p.data (p.timestamp?.getD received)) else none
  | .polledValue k series p received =>
    if s.acceptsPolled k then some (k, .value series p.sample (p.timestamp?.getD received)) else none
  | .setRange k r => some (k, .range r)
  | _             => none

def take (s : Session) : Option (ObjectKey × Feed) → Registry.Update
  | some (k, f) => s.registry.take k f
  | none        => s.registry.unreached

-- An operation that does no more to the tabs and the timers than its feed.
structure Feeds (s : Session) (op : Operation) (st : Step α) : Prop where
  nextTimer : st.session.nextTimer = s.nextTimer
  registry  : st.session.registry = (s.take (s.feed? op)).registry
  effects   : st.effects = (s.take (s.feed? op)).effects

theorem sensorTab?_eq {e : Envelope} (hk : s.registry.Keyed) : s.board.sensorTab? e =
    if e.objectName? = none then .error (.missingField "objectName") else .ok (s.addressee? e) := by
  unfold Board.sensorTab? addressee? Envelope.key?
  cases e.serverId? <;> cases e.objectName?
  case none.some => exact congrArg Except.ok (Registry.resolve?_eq hk)
  all_goals rfl

-- What may come of routing a message: it is refused, it is fed to a tab, or it is about the servers.
inductive Routed (s : Session) (feed? : Option (ObjectKey × Feed)) :
    Except MonitorError Board.Update → Prop
  | refused (h : feed? = none) : Routed s feed? (.error err)
  | fed : Routed s feed? (.ok (s.board.ofRegistry (s.take feed?)))
  | directed (h : feed? = none) (servers : ServerDirectory) :
    Routed s feed? (.ok (s.board.ofServers servers))

theorem routed {e : Envelope} {received : Millis} (kind : Kind) (hk : s.registry.Keyed) :
    s.Routed (s.messageFeed? e received kind) (s.board.route kind e received) := by
  cases kind
  case connected   => exact .fed
  case objectsList => exact .directed rfl _
  case serverStatus =>
    simp only [Board.route, Board.takeServerStatus]
    split
    · exact .refused rfl
    · exact .refused rfl
    · exact .directed rfl _
  case objectSnapshot =>
    simp only [Board.route, Envelope.requireKey, messageFeed?, Envelope.key?]
    cases e.serverId? <;> cases e.objectName?
    case some.some => exact .fed
    all_goals exact .refused rfl
  case sensorUpdate =>
    simp only [Board.route, Board.takeSensorUpdate, messageFeed?, sensorTab?_eq hk]
    cases SensorUpdate.read? e.data with
    | none   => exact .refused rfl
    | some u =>
      dsimp only [Option.bind_eq_bind, Option.bind_some]
      by_cases ho : e.objectName? = none
      case pos =>
        have ha : s.addressee? e = none := by unfold addressee?; rw [ho]; cases e.serverId? <;> rfl
        simp only [if_pos ho, ha]
        cases Sample.ofJson? u.value <;> exact .refused rfl
      case neg =>
        simp only [if_neg ho]
        cases Sample.ofJson? u.value <;> cases s.addressee? e <;> exact .fed
  case batch d =>
    simp only [Board.route, Envelope.requireKey, messageFeed?, Envelope.key?]
    cases e.serverId? <;> cases e.objectName?
    case some.some =>
      cases BatchEntry.readAll? e.data
      · exact .refused rfl
      · exact .fed
    all_goals exact .refused rfl

-- A routed message comes to no more than a feed, and one that is refused feeds nothing.
def Routes (s : Session) (feed? : Option (ObjectKey × Feed)) : Except MonitorError Board.Update → Prop
  | .error _ => feed? = none
  | .ok u    => u.board.registry = (s.take feed?).registry ∧ u.effects = (s.take feed?).effects

theorem Routed.routes {feed? : Option (ObjectKey × Feed)} {r : Except MonitorError Board.Update}
    (h : s.Routed feed? r) : s.Routes feed? r := by
  cases h with
  | refused h    => exact h
  | fed          => exact ⟨rfl, rfl⟩
  | directed h _ => rw [h]; exact ⟨rfl, rfl⟩

theorem routes {e : Envelope} {received : Millis} (kind : Kind) (hk : s.registry.Keyed) :
    s.Routes (s.messageFeed? e received kind) (s.board.route kind e received) :=
  (routed kind hk).routes

theorem feeds_of_none {st : Step α} (h : s.feed? op = none)
    (ht : st.session.nextTimer = s.nextTimer) (hr : st.session.registry = s.registry)
    (he : st.effects = []) : s.Feeds op st :=
  ⟨ht, by rw [h]; exact hr, by rw [h]; exact he⟩

theorem feeds_deliver {u : Board.Update}
    (h : u.board.registry = (s.take (s.feed? op)).registry ∧ u.effects = (s.take (s.feed? op)).effects) :
    s.Feeds op (s.countReceived.deliver u) := by
  unfold deliver
  split <;> exact ⟨rfl, h.left, h.right⟩

theorem feed?_message {event? : Option String} {raw : String} {received : Millis} {e : Envelope}
    {kind : Kind} (he : Envelope.parse? raw = some e) (hk : e.kind? event? = some kind) :
    s.feed? (.message event? raw received) = s.messageFeed? e received kind := by
  simp [feed?, he, hk]

theorem feeds_delivered {event? : Option String} {raw : String} {received : Millis} {e : Envelope}
    {kind : Kind} {u : Board.Update} (hs : s.registry.Keyed) (he : Envelope.parse? raw = some e)
    (hk : e.kind? event? = some kind) (hr : s.board.route kind e received = .ok u) :
    s.Feeds (.message event? raw received) (s.countReceived.deliver u) := by
  have h : s.Routes (s.messageFeed? e received kind) (s.board.route kind e received) := routes kind hs
  rw [hr, ← feed?_message he hk] at h
  exact feeds_deliver h

theorem feed?_refused {event? : Option String} {raw : String} {received : Millis}
    (hs : s.registry.Keyed)
    (h : ∀ e, Envelope.parse? raw = some e → ∀ kind, e.kind? event? = some kind →
      kind = .connected ∨ ∃ err, s.board.route kind e received = .error err) :
    s.feed? (.message event? raw received) = none := by
  cases he : Envelope.parse? raw with
  | none => simp [feed?, he]
  | some e =>
    cases hk : e.kind? event? with
    | none => simp [feed?, he, hk]
    | some kind =>
      rw [feed?_message he hk]
      rcases h e he kind hk with rfl | ⟨err, hr⟩
      · rfl
      · have h : s.Routes (s.messageFeed? e received kind) (s.board.route kind e received) :=
          routes kind hs
        rw [hr] at h
        exact h

theorem feeds_takePolled {k : ObjectKey} {f : Feed}
    (h : s.feed? op = if s.acceptsPolled k then some (k, f) else none) :
    s.Feeds op (s.takePolled k (s.registry.take k f)) := by
  unfold takePolled
  split
  case isTrue ha  => rw [if_pos ha] at h; exact ⟨rfl, by rw [h]; rfl, by rw [h]; rfl⟩
  case isFalse ha => rw [if_neg ha] at h; exact feeds_of_none h rfl rfl rfl

theorem Feeds.map {st : Step α} (h : s.Feeds op st) (f : α → β) : s.Feeds op (st.map f) :=
  ⟨h.nextTimer, h.registry, h.effects⟩

end Session
end FleetMonitor
