namespace FleetMonitor

-- A finite map is the list of its entries in strictly ascending key order, so two maps with the
-- same entries are the same list.
structure SortedMap (κ : Type u) (α : Type v) [Ord κ] where
  entries : List (κ × α)
  sorted  : entries.Pairwise fun a b => compare a.1 b.1 = .lt

namespace SortedMap

variable {κ : Type u} {α : Type v} {β : Type w} [Ord κ]

theorem eq_of_entries {m₁ m₂ : SortedMap κ α} (h : m₁.entries = m₂.entries) : m₁ = m₂ := by
  cases m₁; cases m₂; cases h; rfl

def empty : SortedMap κ α where
  entries := []
  sorted  := .nil

instance : EmptyCollection (SortedMap κ α) := ⟨empty⟩

instance : Inhabited (SortedMap κ α) := ⟨empty⟩

instance [DecidableEq κ] [DecidableEq α] : DecidableEq (SortedMap κ α) := fun m₁ m₂ =>
  decidable_of_iff (m₁.entries = m₂.entries) ⟨eq_of_entries, fun h => h ▸ rfl⟩

def findIn? (k : κ) : List (κ × α) → Option α
  | []             => none
  | (k', v) :: es => if compare k k' = .eq then some v else findIn? k es

def insertIn (k : κ) (v : α) : List (κ × α) → List (κ × α)
  | [] => [(k, v)]
  | (k', v') :: es =>
    match compare k k' with
    | .lt => (k, v) :: (k', v') :: es
    | .eq => (k, v) :: es
    | .gt => (k', v') :: insertIn k v es

theorem mem_insertIn {k : κ} {v : α} {es : List (κ × α)} {e : κ × α} :
    e ∈ insertIn k v es → e = (k, v) ∨ e ∈ es := by
  induction es with
  | nil => simp [insertIn]
  | cons hd tl hi =>
    simp only [insertIn]
    split <;> intro h <;> simp only [List.mem_cons] at h ⊢ <;> grind

theorem insertIn_sorted [Std.TransOrd κ] {k : κ} {v : α} {es : List (κ × α)}
    (h : es.Pairwise fun a b => compare a.1 b.1 = .lt) :
    (insertIn k v es).Pairwise fun a b => compare a.1 b.1 = .lt := by
  induction es with
  | nil => simp [insertIn]
  | cons hd tl hi =>
    obtain ⟨k', v'⟩ := hd
    have ⟨hh, ht⟩ := List.pairwise_cons.1 h
    simp only [insertIn]
    split
    case h_1 hc =>
      refine List.pairwise_cons.2 ⟨fun e he => ?_, h⟩
      cases List.mem_cons.1 he with
      | inl e' => subst e'; exact hc
      | inr e' => exact Std.TransCmp.lt_trans hc (hh e e')
    case h_2 hc =>
      exact List.pairwise_cons.2 ⟨fun e he => Std.TransCmp.lt_of_eq_of_lt hc (hh e he), ht⟩
    case h_3 hc =>
      refine List.pairwise_cons.2 ⟨fun e he => ?_, hi ht⟩
      cases mem_insertIn he with
      | inl e' => subst e'; exact Std.OrientedCmp.gt_iff_lt.1 hc
      | inr e' => exact hh e e'

def find? (m : SortedMap κ α) (k : κ) : Option α :=
  findIn? k m.entries

def contains (m : SortedMap κ α) (k : κ) : Bool :=
  (m.find? k).isSome

-- Sets the value at `k`, whether or not there was one.
def insert [Std.TransOrd κ] (m : SortedMap κ α) (k : κ) (v : α) : SortedMap κ α where
  entries := insertIn k v m.entries
  sorted  := insertIn_sorted m.sorted

def erase (m : SortedMap κ α) (k : κ) : SortedMap κ α where
  entries := m.entries.filter fun e => compare k e.1 != .eq
  sorted  := m.sorted.filter _

def mapWithKey (f : κ → α → β) (m : SortedMap κ α) : SortedMap κ β where
  entries := m.entries.map fun e => (e.1, f e.1 e.2)
  sorted  := List.pairwise_map.2 m.sorted

def map (f : α → β) (m : SortedMap κ α) : SortedMap κ β :=
  m.mapWithKey fun _ => f

-- Changes the value at `k`, if there is one.
def modify (m : SortedMap κ α) (k : κ) (f : α → α) : SortedMap κ α :=
  m.mapWithKey fun k' v => if compare k k' = .eq then f v else v

def keys (m : SortedMap κ α) : List κ :=
  m.entries.map (·.1)

def values (m : SortedMap κ α) : List α :=
  m.entries.map (·.2)

def size (m : SortedMap κ α) : Nat :=
  m.entries.length

def isEmpty (m : SortedMap κ α) : Bool :=
  m.entries.isEmpty

@[simp]
theorem find?_empty {k : κ} : (∅ : SortedMap κ α).find? k = none :=
  rfl

@[simp]
theorem keys_map {f : α → β} {m : SortedMap κ α} : (m.map f).keys = m.keys := by
  simp [keys, map, mapWithKey]

@[simp]
theorem values_map {f : α → β} {m : SortedMap κ α} : (m.map f).values = m.values.map f := by
  simp [values, map, mapWithKey]

@[simp]
theorem keys_modify {f : α → α} {m : SortedMap κ α} {k : κ} : (m.modify k f).keys = m.keys := by
  simp [keys, modify, mapWithKey]

theorem find?_map {f : α → β} {m : SortedMap κ α} {k : κ} :
    (m.map f).find? k = (m.find? k).map f := by
  simp only [find?, map, mapWithKey]
  induction m.entries with
  | nil => rfl
  | cons hd tl hi => simp only [List.map_cons, findIn?]; split <;> simp [hi]

theorem findIn?_insertIn [Std.TransOrd κ] {k k' : κ} {v : α} {es : List (κ × α)} :
    findIn? k' (insertIn k v es) =
      if compare k' k = .eq then some v else findIn? k' es := by
  induction es with
  | nil => simp [insertIn, findIn?]
  | cons hd tl hi =>
    simp only [insertIn]
    split
    case h_1 => simp [findIn?]
    case h_2 hc => simp only [findIn?, Std.TransCmp.congr_right hc]; grind
    case h_3 hc =>
      simp only [findIn?, hi]
      split
      case isFalse => rfl
      case isTrue h =>
        have : compare k' k ≠ .eq := by
          rw [Std.TransCmp.congr_left h, Std.OrientedCmp.gt_iff_lt.1 hc]; simp
        simp [this]

theorem find?_insert [Std.TransOrd κ] {m : SortedMap κ α} {k k' : κ} {v : α} :
    (m.insert k v).find? k' = if compare k' k = .eq then some v else m.find? k' :=
  findIn?_insertIn

theorem find?_erase [Std.TransOrd κ] {m : SortedMap κ α} {k k' : κ} :
    (m.erase k).find? k' = if compare k' k = .eq then none else m.find? k' := by
  simp only [find?, erase]
  induction m.entries with
  | nil => simp [findIn?]
  | cons hd tl hi =>
    cases hk : compare k' hd.1 == .eq
    case false =>
      simp only [beq_eq_false_iff_ne, ne_eq] at hk
      simp only [List.filter_cons]
      split <;> simp [findIn?, hi, hk]
    case true =>
      simp only [beq_iff_eq] at hk
      have : compare k hd.1 = .eq ↔ compare k' k = .eq := by
        rw [← Std.TransCmp.congr_right hk, Std.OrientedCmp.eq_comm]
      simp only [List.filter_cons]
      split <;> simp_all [findIn?]

theorem find?_modify [Std.TransOrd κ] {m : SortedMap κ α} {k k' : κ} {f : α → α} :
    (m.modify k f).find? k' = if compare k' k = .eq then (m.find? k').map f else m.find? k' := by
  simp only [find?, modify, mapWithKey]
  induction m.entries with
  | nil => simp [findIn?]
  | cons hd tl hi =>
    simp only [List.map_cons, findIn?, hi]
    split
    case isFalse => rfl
    case isTrue h =>
      have : compare k hd.1 = .eq ↔ compare k' k = .eq := by
        rw [← Std.TransCmp.congr_right h, Std.OrientedCmp.eq_comm]
      grind

theorem findIn?_eq_none [Std.OrientedOrd κ] {k : κ} {es : List (κ × α)}
    (h : ∀ e ∈ es, compare k e.1 = .lt) : findIn? k es = none := by
  induction es with
  | nil => rfl
  | cons hd tl hi => simp_all [findIn?]

-- By induction on both lists. The heads have the same key, since each of them is found in the other
-- list and stands before everything else in its own.
theorem ext_find? [Std.TransOrd κ] [Std.LawfulEqOrd κ] {m₁ m₂ : SortedMap κ α}
    (h : ∀ k, m₁.find? k = m₂.find? k) : m₁ = m₂ := by
  obtain ⟨es₁, h₁⟩ := m₁
  obtain ⟨es₂, h₂⟩ := m₂
  simp only [find?] at h
  simp only [mk.injEq]
  induction es₁ generalizing es₂ with
  | nil =>
    cases es₂ with
    | nil => rfl
    | cons e _ => have := h e.1; simp [findIn?] at this
  | cons e₁ es₁ hi =>
    cases es₂ with
    | nil => have := h e₁.1; simp [findIn?] at this
    | cons e₂ es₂ =>
      obtain ⟨k₁, v₁⟩ := e₁
      obtain ⟨k₂, v₂⟩ := e₂
      have ⟨hl₁, ht₁⟩ := List.pairwise_cons.1 h₁
      have ⟨hl₂, ht₂⟩ := List.pairwise_cons.1 h₂
      have hk : k₁ = k₂ := by
        cases hc : compare k₁ k₂ with
        | eq => exact Std.LawfulEqOrd.eq_of_compare hc
        | lt =>
          have hn : findIn? k₁ ((k₂, v₂) :: es₂) = none := by
            refine findIn?_eq_none fun e he => ?_
            cases List.mem_cons.1 he with
            | inl h' => subst h'; exact hc
            | inr h' => exact Std.TransCmp.lt_trans hc (hl₂ e h')
          have := h k₁
          rw [hn] at this
          simp [findIn?] at this
        | gt =>
          have hc := Std.OrientedCmp.gt_iff_lt.1 hc
          have hn : findIn? k₂ ((k₁, v₁) :: es₁) = none := by
            refine findIn?_eq_none fun e he => ?_
            cases List.mem_cons.1 he with
            | inl h' => subst h'; exact hc
            | inr h' => exact Std.TransCmp.lt_trans hc (hl₁ e h')
          have := h k₂
          rw [hn] at this
          simp [findIn?] at this
      subst hk
      have hv : v₁ = v₂ := by simpa [findIn?] using h k₁
      subst hv
      rw [hi ht₁ es₂ ht₂]
      intro k
      have hk := h k
      simp only [findIn?] at hk
      split at hk
      case isFalse => exact hk
      case isTrue e =>
        have e := Std.LawfulEqOrd.eq_of_compare e
        subst e
        rw [findIn?_eq_none hl₁, findIn?_eq_none hl₂]

-- Membership.

section

variable [Std.LawfulEqOrd κ] {m : SortedMap κ α} {k : κ} {v : α}

theorem findIn?_eq_some_iff {es : List (κ × α)}
    (h : es.Pairwise fun a b => compare a.1 b.1 = .lt) : findIn? k es = some v ↔ (k, v) ∈ es := by
  induction es with
  | nil => simp [findIn?]
  | cons hd tl hi =>
    obtain ⟨k', v'⟩ := hd
    have ⟨hh, ht⟩ := List.pairwise_cons.1 h
    by_cases hk : k = k'
    case pos =>
      subst hk
      have hn : (k, v) ∉ tl := fun hm => by simpa using hh _ hm
      simp [findIn?, hn, eq_comm]
    case neg => simp [findIn?, hk, hi ht]

theorem find?_eq_some_iff : m.find? k = some v ↔ (k, v) ∈ m.entries :=
  findIn?_eq_some_iff m.sorted

theorem mem_values_iff : v ∈ m.values ↔ ∃ k, m.find? k = some v := by
  simp [values, find?_eq_some_iff]

theorem mem_keys_iff : k ∈ m.keys ↔ m.contains k := by
  simp [keys, contains, Option.isSome_iff_exists, find?_eq_some_iff]

-- Maps that contain the same keys have them in the same order.
theorem keys_eq_iff [Std.TransOrd κ] {m₁ : SortedMap κ α} {m₂ : SortedMap κ β} :
    m₁.keys = m₂.keys ↔ ∀ k, m₁.contains k = m₂.contains k := by
  constructor
  case mp =>
    intro h k
    rw [Bool.eq_iff_iff, ← mem_keys_iff, ← mem_keys_iff, h]
  case mpr =>
    intro h
    have he : m₁.map (fun _ => ()) = m₂.map (fun _ => ()) := ext_find? fun k => by
      have hk : (m₁.find? k).isSome = (m₂.find? k).isSome := h k
      rw [find?_map, find?_map]
      cases h₁ : m₁.find? k <;> cases h₂ : m₂.find? k <;> simp_all
    calc m₁.keys
      _ = (m₁.map fun _ => ()).keys := keys_map.symm
      _ = (m₂.map fun _ => ()).keys := by rw [he]
      _ = m₂.keys := keys_map

theorem nodup_keys : m.keys.Nodup := by
  refine List.pairwise_map.2 (m.sorted.imp ?_)
  intro a b h e
  simp [e] at h

-- What is collected from the values is without duplicates if it tells the keys.
theorem nodup_flatMap_values {f : α → List β} (key : β → κ)
    (hf : ∀ k v, m.find? k = some v → (f v).Nodup ∧ ∀ b ∈ f v, key b = k) :
    (m.values.flatMap f).Nodup := by
  refine List.pairwise_flatMap.2 ⟨fun v hv => ?_, List.pairwise_map.2 ?_⟩
  · obtain ⟨k, h⟩ := mem_values_iff.1 hv
    exact (hf k v h).1
  · refine List.Pairwise.imp_of_mem ?_ m.sorted
    intro a b ha hb hl x hx y hy e
    have hk := (hf _ _ (find?_eq_some_iff.2 ha)).2 x hx
    rw [e, (hf _ _ (find?_eq_some_iff.2 hb)).2 y hy] at hk
    simp [hk] at hl

-- What is collected from the values and then picked for one key comes from the value at that key.
theorem filterMap_flatMap_values [Std.TransOrd κ] {f : α → List β} {g : β → Option γ}
    (h : ∀ k' v, m.find? k' = some v → k' ≠ k → (f v).filterMap g = []) :
    (m.values.flatMap f).filterMap g = ((m.find? k).map fun v => (f v).filterMap g).getD [] := by
  have h : ∀ e ∈ m.entries, e.1 ≠ k → (f e.2).filterMap g = [] := fun e he =>
    h e.1 e.2 (find?_eq_some_iff.2 he)
  have hs := m.sorted
  simp only [values, find?]
  generalize m.entries = es at h hs
  induction es with
  | nil => rfl
  | cons hd tl hi =>
    obtain ⟨k', v⟩ := hd
    have ⟨hh, ht⟩ := List.pairwise_cons.1 hs
    have hr : ∀ e ∈ tl, e.1 ≠ k → (f e.2).filterMap g = [] := fun e he =>
      h e (List.mem_cons_of_mem _ he)
    rw [List.map_cons, List.flatMap_cons, List.filterMap_append, hi hr ht]
    by_cases hk : k = k'
    case pos =>
      subst hk
      have hn : findIn? k tl = none := findIn?_eq_none hh
      simp [findIn?, hn]
    case neg =>
      have hv : (f v).filterMap g = [] := h (k', v) List.mem_cons_self (Ne.symm hk)
      simp [findIn?, hk, hv]

end

end SortedMap
end FleetMonitor
