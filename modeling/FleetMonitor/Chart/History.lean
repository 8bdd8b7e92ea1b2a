import FleetMonitor.Message.Sample
import FleetMonitor.Time.Timestamp

namespace FleetMonitor

structure Point where
  time  : Millis
  value : Sample

-- The last points, newest first, and how many are kept at most.
structure History where
  recent   : List Point
  capacity : Nat
  pos      : 0 < capacity
  bounded  : recent.length ≤ capacity

namespace History

-- An empty history. At least one point is kept.
def new (capacity : Nat) : History where
  recent   := []
  capacity := max 1 capacity
  pos      := by omega
  bounded  := by simp

-- Appends a point; the oldest one goes if there is no room.
def append (h : History) (p : Point) : History where
  recent   := (p :: h.recent).take h.capacity
  capacity := h.capacity
  pos      := h.pos
  bounded  := List.length_take_le ..

def clear (h : History) : History where
  recent   := []
  capacity := h.capacity
  pos      := h.pos
  bounded  := by simp

-- The points, oldest first.
def toList (h : History) : List Point :=
  h.recent.reverse

def size (h : History) : Nat :=
  h.recent.length

def isEmpty (h : History) : Bool :=
  h.recent.isEmpty

def last? (h : History) : Option Point :=
  h.recent.head?

def first? (h : History) : Option Point :=
  h.recent.getLast?

@[simp]
theorem toList_new {capacity : Nat} : (new capacity).toList = [] :=
  rfl

@[simp]
theorem capacity_append {h : History} {p : Point} : (h.append p).capacity = h.capacity :=
  rfl

@[simp]
theorem last?_append {h : History} {p : Point} : (h.append p).last? = some p := by
  have := h.pos
  obtain ⟨n, hn⟩ : ∃ n, h.capacity = n + 1 := ⟨h.capacity - 1, by omega⟩
  simp [append, last?, hn]

theorem last?_eq_toList_getLast? {h : History} : h.last? = h.toList.getLast? := by
  simp [last?, toList]

theorem first?_eq_toList_head? {h : History} : h.first? = h.toList.head? := by
  simp [first?, toList]

-- The history keeps the last `capacity` points of what it had and the new one.
theorem toList_append {h : History} {p : Point} :
    (h.append p).toList = (h.toList ++ [p]).drop (h.size + 1 - h.capacity) := by
  simp only [toList, append, size]
  rw [List.reverse_take]
  simp

end History
end FleetMonitor
