import FleetMonitor.Text.Basic

namespace FleetMonitor

-- One monitored object: the server that hosts it and its name there.
structure ObjectKey where
  server : String
  object : String
  deriving DecidableEq, Inhabited

namespace ObjectKey

def display (k : ObjectKey) : String :=
  k.server ++ "/" ++ k.object

def order : ObjectKey → ObjectKey → Ordering :=
  compareLex (compareOn server) (compareOn object)

instance : Ord ObjectKey := ⟨order⟩

instance : Std.TransOrd ObjectKey :=
  inferInstanceAs (Std.TransCmp (compareLex (compareOn server) (compareOn object)))

instance : Std.LawfulEqOrd ObjectKey where
  compare_self := Std.ReflCmp.compare_self
  eq_of_compare {a b} h := by
    have ⟨hs, ho⟩ : compare a.server b.server = .eq ∧ compare a.object b.object = .eq := by
      simpa [compare, order, compareLex, compareOn, Ordering.then_eq_eq] using h
    cases a; cases b
    simp_all

end ObjectKey

-- One chart series of an object. A series read from snapshots is named by its path, one fed by
-- pushed values by `domain:name`.
structure SeriesKey where
  text : String
  deriving DecidableEq, Inhabited

namespace SeriesKey

instance : Ord SeriesKey := ⟨compareOn text⟩

instance : Std.TransOrd SeriesKey :=
  inferInstanceAs (Std.TransCmp (compareOn text))

instance : Std.LawfulEqOrd SeriesKey where
  compare_self := Std.ReflCmp.compare_self
  eq_of_compare {a b} h := by
    have ht : compare a.text b.text = .eq := h
    cases a; cases b
    simp_all

def ofPath (path : String) : SeriesKey :=
  ⟨path⟩

-- The series `name` in the domain marked `mark`.
def tagged (mark name : String) : SeriesKey :=
  ⟨mark ++ ":" ++ name⟩

-- The mark of series fed by single external sensors.
def externalMark : String :=
  "ext"

def external (name : String) : SeriesKey :=
  tagged externalMark name

-- What stands before the first colon, if there is one.
def mark? (k : SeriesKey) : Option String :=
  (Text.cut? ':' k.text.toList).map (String.ofList ·.1)

-- What stands after the first colon, or the whole key.
def name (k : SeriesKey) : String :=
  ((Text.cut? ':' k.text.toList).map (String.ofList ·.2)).getD k.text

end SeriesKey
end FleetMonitor
