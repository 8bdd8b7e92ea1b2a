import FleetMonitor.Config
import FleetMonitor.Tab

namespace FleetMonitor

-- What an operation asks of the world outside: calls to renderers and surfaces, and timers that
-- start or stop.
inductive Effect where
  | call  (tab : ObjectKey) (c : TabCall)
  | start (t : Timer)
  | stop  (t : Timer)

structure Registry where
  tabs         : SortedMap ObjectKey Tab
  -- What new tabs and their charts start with.
  capacity     : Nat
  defaultRange : TimeRange

namespace Registry

def new (capacity : Nat) (defaultRange : TimeRange) : Registry where
  tabs         := ∅
  capacity     := capacity
  defaultRange := defaultRange

def default : Registry :=
  new Config.defaultCapacity.toNat (.follow Config.defaultWindowSpan)

def tab? (r : Registry) (k : ObjectKey) : Option Tab :=
  r.tabs.find? k

def contains (r : Registry) (k : ObjectKey) : Bool :=
  r.tabs.contains k

def set (r : Registry) (k : ObjectKey) (t : Tab) : Registry :=
  { r with tabs := r.tabs.modify k fun _ => t }

-- Opens a tab for an object that has none. It is shown under the object's name if no other is
-- given.
def openTab? (r : Registry) (k : ObjectKey) (displayName? : Option String) (renderer : Renderer) :
    Option Registry :=
  if r.contains k then none
  else
    let t := Tab.new k (displayName?.getD k.object) renderer r.capacity r.defaultRange
    some { r with tabs := r.tabs.insert k t }

-- Closes a tab together with its timers.
def closeTab (r : Registry) (k : ObjectKey) : Registry :=
  { r with tabs := r.tabs.erase k }

-- The only tab that is shown under a name, if there is one and no other.
def resolve? (r : Registry) (name : String) : Option ObjectKey :=
  match r.tabs.values.filter (·.displayName = name) with
  | [t] => some t.key
  | _   => none

def timers (r : Registry) : List Timer :=
  r.tabs.values.flatMap Tab.timers

def timersOf (r : Registry) (k : ObjectKey) : List Timer :=
  ((r.tab? k).map Tab.timers).getD []

def missingTargets (r : Registry) : List PollTarget :=
  r.tabs.values.flatMap Tab.missingTargets

def missingTargetsOf (r : Registry) (k : ObjectKey) : List PollTarget :=
  ((r.tab? k).map Tab.missingTargets).getD []

def keepTimer (r : Registry) (timer : Timer) : Registry :=
  { r with tabs := r.tabs.modify timer.target.key (·.keepTimer timer) }

def keepTimers (r : Registry) (timers : List Timer) : Registry :=
  timers.foldl keepTimer r

def clearTimers (r : Registry) : Registry :=
  { r with tabs := r.tabs.map Tab.clearTimers }

-- Updates.

-- A registry after an update, what was asked of renderers and surfaces, and what was reached.
structure Update where
  registry : Registry
  effects  : List Effect
  delivery : Delivery

def unreached (r : Registry) : Update where
  registry := r
  effects  := []
  delivery := .empty

def update (r : Registry) (k : ObjectKey) (pass? : Tab → Option Tab.Pass) : Update :=
  match (r.tab? k).bind pass? with
  | none   => r.unreached
  | some p => ⟨r.set k p.tab, p.calls.map (.call k), p.delivery⟩

def takeSnapshot (r : Registry) (k : ObjectKey) (data : Json) (time : Millis) : Update :=
  r.update k fun t => some (t.takeSnapshot data time)

def takeBatch (r : Registry) (k : ObjectKey) (d : Domain) (entries : List BatchEntry)
    (time : Millis) : Update :=
  r.update k fun t => some (t.takeBatch d entries time)

def takeValue (r : Registry) (k : ObjectKey) (s : SeriesKey) (value : Sample) (time : Millis) : Update :=
  r.update k fun t => t.takeValue? s value time

def setRange (r : Registry) (k : ObjectKey) (range : TimeRange) : Update :=
  r.update k fun t => some (t.setRange range)

-- The tabs after each operation.

variable {r r' : Registry} {k k' : ObjectKey} {t : Tab}

@[simp]
theorem tab?_new {capacity : Nat} {range : TimeRange} : (new capacity range).tab? k = none :=
  rfl

theorem contains_eq_isSome : r.contains k = (r.tab? k).isSome :=
  rfl

theorem tab?_set : (r.set k t).tab? k' = (r.tab? k').map fun t' => if k' = k then t else t' := by
  simp only [set, tab?, SortedMap.find?_modify, Std.compare_eq_iff_eq]
  split <;> simp_all

theorem tab?_openTab? {name? : Option String} {renderer : Renderer}
    (h : r.openTab? k name? renderer = some r') (k' : ObjectKey) : r.tab? k = none ∧ r'.tab? k' =
      if k' = k then some (.new k (name?.getD k.object) renderer r.capacity r.defaultRange)
      else r.tab? k' := by
  unfold openTab? at h
  split at h
  case isTrue => contradiction
  case isFalse hc =>
    obtain rfl := Option.some.inj h
    exact ⟨by simpa [contains_eq_isSome] using hc, by simp [tab?, SortedMap.find?_insert]⟩

theorem tab?_closeTab : (r.closeTab k).tab? k' = if k' = k then none else r.tab? k' := by
  simp [closeTab, tab?, SortedMap.find?_erase]

theorem tab?_keepTimer {timer : Timer} : (r.keepTimer timer).tab? k =
    (r.tab? k).map fun t => if k = timer.target.key then t.keepTimer timer else t := by
  simp only [keepTimer, tab?, SortedMap.find?_modify, Std.compare_eq_iff_eq]
  split <;> simp_all

theorem tab?_clearTimers : r.clearTimers.tab? k = (r.tab? k).map Tab.clearTimers := by
  simp [clearTimers, tab?, SortedMap.find?_map]

theorem tab?_update {pass? : Tab → Option Tab.Pass} : (r.update k pass?).registry.tab? k' =
    (r.tab? k').map fun t => if k' = k then ((pass? t).map Tab.Pass.tab).getD t else t := by
  unfold update
  cases ht : r.tab? k with
  | none =>
    by_cases h : k' = k <;> simp [unreached, h, ht]
  | some t =>
    cases hp : pass? t with
    | none =>
      by_cases h : k' = k <;> simp [unreached, h, ht, hp]
    | some p =>
      by_cases h : k' = k <;> simp [tab?_set, h, ht, hp]

end Registry
end FleetMonitor
