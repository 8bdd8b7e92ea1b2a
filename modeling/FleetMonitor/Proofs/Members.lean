import FleetMonitor.Json.Record
import Mathlib.Data.List.Perm.Basic
import Mathlib.Order.Basic

namespace FleetMonitor

namespace Source

variable {σ : Type} {ms ms' : List (String × σ)} {name : String} {names : List String}

theorem byName?_perm (h : ms.Perm ms') : byName? ms names = byName? ms' names := by
  induction names with
  | nil => rfl
  | cons name names hi =>
    have hn : (named name ms).Perm (named name ms') := h.filterMap _
    rw [byName?, byName?, hi]
    generalize named name ms = ss at hn
    generalize named name ms' = ss' at hn
    -- Of two and more members with one name there is nothing to read, whatever their order is.
    rcases ss with _ | ⟨s, _ | ⟨s₁, ss⟩⟩
    case nil      => rw [List.nil_perm.mp hn]
    case cons.nil => rw [List.singleton_perm.mp hn]
    case cons.cons =>
      have hl := hn.length_eq
      rcases ss' with _ | ⟨s', _ | ⟨s₁', ss'⟩⟩
      case nil       => simp at hl
      case cons.nil  => simp at hl
      case cons.cons => rfl

theorem byName?_congr (h : ∀ name ∈ names, named name ms = named name ms') :
    byName? ms names = byName? ms' names := by
  induction names with
  | nil => rfl
  | cons name names hi =>
    rw [byName?, byName?, h name List.mem_cons_self, hi fun n hn => h n (List.mem_cons_of_mem _ hn)]

theorem byName?_cons_eq_some_iff {f : Option σ} {fs : List (Option σ)} :
    byName? ms (name :: names) = some (f :: fs) ↔
      named name ms = f.toList ∧ byName? ms names = some fs := by
  rw [byName?]
  rcases named name ms with _ | ⟨s, _ | ⟨s₁, ss⟩⟩ <;> cases byName? ms names <;> cases f <;> simp

theorem byName?_nil_eq_some_iff {fs : List (Option σ)} : byName? ms [] = some fs ↔ fs = [] := by
  simp [byName?, eq_comm]

theorem named_eq_nil (h : name ∉ ms.map Prod.fst) : named name ms = [] := by
  refine List.filterMap_eq_nil_iff.mpr fun m hm => ?_
  exact if_neg fun hn => h (List.mem_map.mpr ⟨m, hm, hn⟩)

theorem named_cons {n : String} {s : σ} :
    named name ((n, s) :: ms) = if n = name then s :: named name ms else named name ms := by
  by_cases h : n = name <;> simp [named, h]

theorem named_append : named name (ms ++ ms') = named name ms ++ named name ms' :=
  List.filterMap_append

-- The members that are there.
def present (fields : List (String × Option σ)) : List (String × σ) :=
  fields.filterMap fun (name, s?) => s?.map (name, ·)

variable {fields : List (String × Option σ)}

theorem named_present (h : (fields.map Prod.fst).Nodup) :
    named name (present fields) = (fields.lookup name).join.toList := by
  induction fields with
  | nil => rfl
  | cons f fields hi =>
    obtain ⟨n, s?⟩ := f
    obtain ⟨hn, hf⟩ := List.nodup_cons.mp h
    have hp : named name (present ((n, s?) :: fields)) =
        (if n = name then s?.toList else []) ++ named name (present fields) := by
      cases s? <;> by_cases he : n = name <;> simp [present, named, he]
    rw [hp, hi hf, List.lookup_cons]
    by_cases he : n = name
    case pos =>
      subst he
      have hl : fields.lookup n = none :=
        List.lookup_eq_none_iff.mpr fun f hm => by
          rw [bne_iff_ne]
          rintro rfl
          exact hn (List.mem_map.mpr ⟨f, hm, rfl⟩)
      simp [hl]
    case neg => rw [if_neg he, List.nil_append, beq_eq_false_iff_ne.mpr (Ne.symm he)]

theorem byName?_present (h : (fields.map Prod.fst).Nodup) :
    byName? (present fields) names = some (names.map fun name => (fields.lookup name).join) := by
  induction names with
  | nil => rfl
  | cons name names hi => exact byName?_cons_eq_some_iff.mpr ⟨named_present h, hi⟩

theorem map_present {f : σ → τ} : (present fields).map (Prod.map id f) =
    present (fields.map (Prod.map id (Option.map f))) := by
  rw [present, present, List.map_filterMap, List.filterMap_map]
  congr
  funext ⟨n, s?⟩
  cases s? <;> rfl

end Source

namespace Json

variable {m n name : String} {i j : Json} {js : List (String × Json)}

theorem insertMember_comm (h : m ≠ n) :
    insertMember m i (insertMember n j js) = insertMember n j (insertMember m i js) := by
  induction js with
  | nil          => grind [insertMember]
  | cons k js hi => grind [insertMember]

theorem named_insertMember_of_ne (h : n ≠ name) :
    Source.named name (insertMember n j js) = Source.named name js := by
  induction js with
  | nil => simp [insertMember, Source.named, h]
  | cons k js hi =>
    unfold insertMember
    split
    case isTrue => simp [Source.named, h]
    case isFalse =>
      split
      case isTrue  => rfl
      case isFalse =>
        simp only [Source.named, List.filterMap_cons] at hi ⊢
        rw [hi]

end Json

namespace Document

variable {d : Document} {k l : Nat} {ms ms' : List (Option String × Document)}

mutual

-- How many arrays and objects stand inside each other.
def nesting : Document → Nat
  | array items    => nestingOfItems items + 1
  | object members => nestingOfMembers members + 1
  | _              => 0

def nestingOfItems : List Document → Nat
  | []      => 0
  | d :: ds => max (nesting d) (nestingOfItems ds)

def nestingOfMembers : List (Option String × Document) → Nat
  | []           => 0
  | (_, d) :: ms => max (nesting d) (nestingOfMembers ms)

end

mutual

-- A document has the same value with any limit that it keeps to.
theorem value?_congr (d : Document) {k l : Nat} (hk : d.nesting ≤ k) (hl : d.nesting ≤ l) :
    d.value? k = d.value? l := by
  cases d with
  | null | bool | number | text => simp only [value?]
  | array items =>
    rw [nesting] at hk hl
    obtain ⟨k, rfl⟩ := Nat.exists_eq_add_of_le' (Nat.le_of_add_left_le hk)
    obtain ⟨l, rfl⟩ := Nat.exists_eq_add_of_le' (Nat.le_of_add_left_le hl)
    simp only [value?]
    rw [items?_congr items (Nat.le_of_succ_le_succ hk) (Nat.le_of_succ_le_succ hl)]
  | object ms =>
    rw [nesting] at hk hl
    obtain ⟨k, rfl⟩ := Nat.exists_eq_add_of_le' (Nat.le_of_add_left_le hk)
    obtain ⟨l, rfl⟩ := Nat.exists_eq_add_of_le' (Nat.le_of_add_left_le hl)
    simp only [value?]
    rw [members?_congr ms (Nat.le_of_succ_le_succ hk) (Nat.le_of_succ_le_succ hl)]

theorem items?_congr (ds : List Document) {k l : Nat} (hk : nestingOfItems ds ≤ k)
    (hl : nestingOfItems ds ≤ l) : items? k ds = items? l ds := by
  cases ds with
  | nil => rfl
  | cons d ds =>
    rw [nestingOfItems, Nat.max_le] at hk hl
    simp only [items?, value?_congr d hk.left hl.left, items?_congr ds hk.right hl.right]

theorem members?_congr (ms : List (Option String × Document)) {k l : Nat}
    (hk : nestingOfMembers ms ≤ k) (hl : nestingOfMembers ms ≤ l) : members? k ms = members? l ms := by
  cases ms with
  | nil => rfl
  | cons m ms =>
    obtain ⟨name?, d⟩ := m
    rw [nestingOfMembers, Nat.max_le] at hk hl
    simp only [members?, value?_congr d hk.left hl.left, members?_congr ms hk.right hl.right]

end

theorem members?_perm (h : ms.Perm ms') (hn : (ms.map Prod.fst).Nodup) :
    members? k ms = members? k ms' := by
  induction h with
  | nil => rfl
  | cons m _ hi =>
    obtain ⟨name?, d⟩ := m
    simp only [members?, hi (List.nodup_cons.mp hn).right]
  | swap m m' ms =>
    obtain ⟨name?, d⟩ := m
    obtain ⟨name'?, d'⟩ := m'
    have hne : name'? ≠ name? := by
      rintro rfl
      simp at hn
    simp only [members?]
    cases name? <;> cases name'? <;> cases d.value? k <;> cases d'.value? k <;>
      cases members? k ms <;> simp
    exact Json.insertMember_comm (by simpa using hne)
  | trans h _ hi hi' => exact (hi hn).trans (hi' ((h.map _).nodup_iff.mp hn))

-- How many arrays and objects may stand inside each other in a member of a value.
def memberDepth : Nat :=
  depthLimit - 1

theorem written_object : (Document.object ms).written = ⟨.object ms, memberDepth + 1⟩ :=
  rfl

theorem value?_object :
    (Document.object ms).value? depthLimit = (members? memberDepth ms).map .object := by
  rw [show depthLimit = memberDepth + 1 from rfl, value?]

end Document

namespace Written

variable {ms ms' : List (Option String × α)} {l l' : List (String × α)} {name : String}

theorem readable?_eq_some_iff : readable? ms = some l ↔
    ms = l.map fun (name, a) => (some name, a) := by
  induction ms generalizing l with
  | nil => simp [readable?]
  | cons m ms hi =>
    obtain ⟨_ | name, a⟩ := m
    case none => cases l <;> simp [readable?]
    case some =>
      rw [readable?, Option.map_eq_some_iff]
      constructor
      case mp =>
        rintro ⟨_, h, rfl⟩
        rw [hi.mp h]
        rfl
      case mpr =>
        intro h
        cases l with
        | nil       => contradiction
        | cons m' l =>
          simp only [List.map_cons, List.cons.injEq, Prod.mk.injEq, Option.some.injEq] at h
          obtain ⟨⟨rfl, rfl⟩, h⟩ := h
          exact ⟨l, hi.mpr h, rfl⟩

theorem exists_readable?_of_perm (h : ms.Perm ms') (hr : readable? ms = some l) :
    ∃ l', readable? ms' = some l' ∧ l.Perm l' := by
  induction h generalizing l with
  | nil => exact ⟨l, hr, .refl l⟩
  | cons m _ hi =>
    obtain ⟨_ | name, a⟩ := m
    case none => contradiction
    case some =>
      obtain ⟨l, hl, rfl⟩ := Option.map_eq_some_iff.mp hr
      obtain ⟨l', hl', hp⟩ := hi hl
      exact ⟨(name, a) :: l', by rw [readable?, hl']; rfl, hp.cons _⟩
  | swap m m' ms =>
    rw [readable?_eq_some_iff] at hr
    rcases l with _ | ⟨m₁, _ | ⟨m₂, l⟩⟩ <;> simp only [List.map_cons, List.map_nil, List.cons.injEq,
      reduceCtorEq, and_false] at hr
    obtain ⟨h₁, h₂, hl⟩ := hr
    exact ⟨m₂ :: m₁ :: l, readable?_eq_some_iff.mpr (by simp [h₁, h₂, hl]), .swap _ _ _⟩
  | trans _ _ hi hi' =>
    obtain ⟨l', hl', hp⟩ := hi hr
    obtain ⟨l'', hl'', hp'⟩ := hi' hl'
    exact ⟨l'', hl'', hp.trans hp'⟩

theorem readable?_append : readable? (ms ++ ms') =
    (readable? ms).bind fun l => (readable? ms').map (l ++ ·) := by
  induction ms with
  | nil => simp [readable?]
  | cons m ms hi =>
    obtain ⟨_ | name, a⟩ := m
    case none => rfl
    case some =>
      rw [List.cons_append, readable?, readable?, hi]
      cases readable? ms <;> cases readable? ms' <;> rfl

-- The members of an object, each with one level less to go.
def inside (k : Nat) (ms : List (Option String × Document)) : List (Option String × Written) :=
  ms.map fun (name?, d) => (name?, ⟨d, k⟩)

section Fields

open Source

variable {k : Nat} {ds ds' : List (Option String × Document)} {names : List String}

theorem fields?_object : fields? names (⟨.object ds, k + 1⟩ : Written) =
    (readable? (inside k ds)).bind (byName? · names) := by
  have hm : members? (⟨.object ds, k + 1⟩ : Written) = readable? (inside k ds) := rfl
  rw [fields?, hm]
  cases readable? (inside k ds) <;> rfl

theorem fields?_perm (h : ds.Perm ds') : fields? names (⟨.object ds, k + 1⟩ : Written) =
    fields? names (⟨.object ds', k + 1⟩ : Written) := by
  have hp : (inside k ds).Perm (inside k ds') := h.map _
  rw [fields?_object, fields?_object]
  cases hr : readable? (inside k ds) with
  | some l =>
    obtain ⟨l', hl', hp'⟩ := exists_readable?_of_perm hp hr
    rw [hl']
    exact byName?_perm hp'
  | none =>
    cases hr' : readable? (inside k ds') with
    | none    => rfl
    | some l' =>
      obtain ⟨l, hl, _⟩ := exists_readable?_of_perm hp.symm hr'
      rw [hr] at hl
      contradiction

variable {hs ps : List (Option String × Document)} {l : List (String × Written)}

theorem not_mem_of_readable? {name : String} (hr : readable? (inside k ps) = some l)
    (h : some name ∉ ps.map Prod.fst) : name ∉ l.map Prod.fst := by
  intro hm
  obtain ⟨m, hl, rfl⟩ := List.mem_map.mp hm
  have hi : (some m.1, m.2) ∈ inside k ps := by
    rw [readable?_eq_some_iff.mp hr]
    exact List.mem_map.mpr ⟨m, hl, rfl⟩
  obtain ⟨m', hm', he⟩ := List.mem_map.mp hi
  exact h (List.mem_map.mpr ⟨m', hm', congrArg Prod.fst he⟩)

-- Members that nobody asks for are read over, as long as their names are texts.
theorem fields?_append (hr : readable? (inside k ps) = some l)
    (h : ∀ name ∈ names, some name ∉ ps.map Prod.fst) :
    fields? names (⟨.object (hs ++ ps), k + 1⟩ : Written) =
      fields? names (⟨.object hs, k + 1⟩ : Written) := by
  have ha : inside k (hs ++ ps) = inside k hs ++ inside k ps := List.map_append
  rw [fields?_object, fields?_object, ha, readable?_append, hr]
  cases readable? (inside k hs) with
  | none   => rfl
  | some l₀ =>
    refine byName?_congr fun name hn => ?_
    rw [named_append, named_eq_nil (not_mem_of_readable? hr (h name hn)), List.append_nil]

theorem fields?_append_of_unreadable (hr : readable? (inside k ps) = none) :
    fields? names (⟨.object (hs ++ ps), k + 1⟩ : Written) = none := by
  have ha : inside k (hs ++ ps) = inside k hs ++ inside k ps := List.map_append
  rw [fields?_object, ha, readable?_append, hr]
  cases readable? (inside k hs) <;> rfl

-- Where there is a value, the names are texts.
theorem exists_readable?_of_members? {j : Nat} {js : List (String × Json)}
    (h : Document.members? j ds = some js) : ∃ l, readable? (inside k ds) = some l := by
  induction ds generalizing js with
  | nil => exact ⟨[], rfl⟩
  | cons m ds hi =>
    obtain ⟨name?, d⟩ := m
    simp only [Document.members?] at h
    split at h
    case h_1 hm =>
      obtain ⟨l, hl⟩ := hi hm
      exact ⟨_, congrArg (Option.map _) hl⟩
    case h_2 => contradiction

end Fields

end Written
end FleetMonitor
