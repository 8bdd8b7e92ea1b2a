import FleetMonitor.Message.Sample
import FleetMonitor.Proofs.Texts
import Mathlib.Data.List.Basic

namespace FleetMonitor

namespace Json

open Text

-- What names lead to, from one object to the next.
inductive Leads : Json → List String → Json → Prop
  | here : Leads j [] j
  | member (hm : members.lookup name = some j) (h : Leads j names v) :
    Leads (object members) (name :: names) v

-- The names that a path is made of: one at least, none of them empty or with a dot in it.
structure Names (path : String) (names : List String) : Prop where
  ne_nil : names ≠ []
  name   : ∀ name ∈ names, name ≠ "" ∧ '.' ∉ name.toList
  joined : ".".intercalate names = path

variable {j v : Json} {path : String} {names : List String}

theorem leads_nil_iff : j.Leads [] v ↔ j = v where
  mp  := fun | .here => rfl
  mpr := fun h => h ▸ .here

theorem leads_cons_iff {name : String} :
    j.Leads (name :: names) v ↔ ∃ j', j.member? name = some j' ∧ j'.Leads names v := by
  constructor
  case mp =>
    rintro ⟨⟩
    case member hm h => exact ⟨_, hm, h⟩
  case mpr =>
    rintro ⟨j', hm, h⟩
    cases j with
    | object members => exact .member hm h
    | _              => contradiction

-- Walking finds what names lead to, and stops at an empty name.
theorem walk?_eq_some_iff : j.walk? names = some v ↔ "" ∉ names ∧ j.Leads names v := by
  induction names generalizing j with
  | nil => simp [walk?, leads_nil_iff]
  | cons name names hi =>
    rw [walk?, leads_cons_iff, List.mem_cons, not_or]
    by_cases hn : name = ""
    case pos => simp [hn]
    case neg =>
      simp only [if_neg hn, Option.bind_eq_some_iff, hi, ne_comm.mp hn, not_false_eq_true, true_and]
      tauto

-- Paths and their names.

theorem pathNames_intercalate (hn : names ≠ []) :
    pathNames (".".intercalate names) = names.flatMap pathNames := by
  have hd : ".".toList = ['.'] := by decide
  have hm : names.map String.toList ≠ [] := by simpa using hn
  rw [pathNames, String.toList_intercalate, hd, splitOn_intercalate_eq_flatMap hm, List.flatMap_map,
    List.map_flatMap]
  rfl

theorem intercalate_pathNames : ".".intercalate (pathNames path) = path := by
  have hd : ".".toList = ['.'] := by decide
  rw [← String.toList_inj, String.toList_intercalate, hd, pathNames, List.map_map]
  simp [Function.comp_def, intercalate_splitOn]

theorem pathNames_ne_nil : pathNames path ≠ [] := by
  simp [pathNames, splitOn_ne_nil]

theorem dot_not_mem_of_mem_pathNames {name : String} (h : name ∈ pathNames path) :
    '.' ∉ name.toList := by
  obtain ⟨piece, hp, rfl⟩ := List.mem_map.mp h
  rw [String.toList_ofList]
  exact not_mem_of_mem_splitOn hp

theorem pathNames_of_not_mem {name : String} (h : '.' ∉ name.toList) : pathNames name = [name] := by
  rw [pathNames, splitOn_of_not_mem h, List.map_singleton, String.ofList_toList]

theorem Names.eq_pathNames (h : Names path names) : names = pathNames path := by
  have hn : ∀ name ∈ names, pathNames name = [name] := fun name hm =>
    pathNames_of_not_mem (h.name name hm).2
  calc names
      = names.flatMap ([·])                 := by simp
    _ = names.flatMap pathNames             := List.flatMap_congr fun name hm => (hn name hm).symm
    _ = pathNames (".".intercalate names)   := (pathNames_intercalate h.ne_nil).symm
    _ = pathNames path                      := by rw [h.joined]

theorem Names.empty_not_mem (h : Names path names) : "" ∉ names := fun hm =>
  (h.name "" hm).1 rfl

theorem names_pathNames (h : "" ∉ pathNames path) : Names path (pathNames path) where
  ne_nil := pathNames_ne_nil
  name   := fun _ hm => ⟨fun he => h (he ▸ hm), dot_not_mem_of_mem_pathNames hm⟩
  joined := intercalate_pathNames

-- The walk along a path succeeds just where the path has names that lead somewhere.
theorem walk?_pathNames_eq_some_iff :
    j.walk? (pathNames path) = some v ↔ ∃ names, Names path names ∧ j.Leads names v := by
  rw [walk?_eq_some_iff]
  constructor
  case mp  => exact fun ⟨hn, hl⟩ => ⟨_, names_pathNames hn, hl⟩
  case mpr =>
    rintro ⟨names, hn, hl⟩
    rw [← hn.eq_pathNames]
    exact ⟨hn.empty_not_mem, hl⟩

theorem lookup?_of_names (hn : Names path names) (hl : j.Leads names v) :
    j.lookup? path = some ((j.member? path).getD v) := by
  rw [lookup?, walk?_pathNames_eq_some_iff.mpr ⟨names, hn, hl⟩]
  cases j.member? path <;> rfl

theorem of_lookup? (h : j.lookup? path = some v) :
    j.member? path = some v ∨ ∃! names, Names path names ∧ j.Leads names v := by
  rcases Option.or_eq_some_iff.mp h with hm | ⟨_, hw⟩
  case inl => exact Or.inl hm
  case inr =>
    obtain ⟨names, hn, hl⟩ := walk?_pathNames_eq_some_iff.mp hw
    refine Or.inr ⟨names, ⟨hn, hl⟩, fun names' ⟨hn', _⟩ => ?_⟩
    rw [hn.eq_pathNames, hn'.eq_pathNames]

theorem lookup?_of_empty_mem (hn : "" ∈ names) :
    j.lookup? (".".intercalate names) = j.member? (".".intercalate names) := by
  have hp : "" ∈ pathNames (".".intercalate names) := by
    rw [pathNames_intercalate (List.ne_nil_of_mem hn)]
    exact List.mem_flatMap.mpr ⟨"", hn, by decide⟩
  have hw : j.walk? (pathNames (".".intercalate names)) = none := by
    refine Option.eq_none_iff_forall_ne_some.mpr fun v hv => ?_
    exact (walk?_eq_some_iff.mp hv).1 hp
  rw [lookup?, hw, Option.or_none]

-- A path finds what its names lead to, unless the root has a member with the whole path as its name;
-- then it finds that. Nothing else is found, since the names of a path are its only ones, and if there
-- is an empty one between the dots or at an end, that member is all there is.
theorem lookup_follows_names (j : Json) :
    (∀ path names v, Names path names → j.Leads names v →
      j.lookup? path = some ((j.member? path).getD v)) ∧
    (∀ path v, j.lookup? path = some v →
      j.member? path = some v ∨ ∃! names, Names path names ∧ j.Leads names v) ∧
    ∀ names, "" ∈ names →
      j.lookup? (".".intercalate names) = j.member? (".".intercalate names) :=
  ⟨fun _ _ _ => lookup?_of_names, fun _ _ => of_lookup?, fun _ => lookup?_of_empty_mem⟩

-- Two names that lead to a value, in a root that has a member with the path as its name as well, and
-- what is found in the root when that member is called otherwise.
theorem whole_path_goes_before_names :
    let nested := object [("in", bool true)]
    let both   := object [("io", nested), ("io.in", null)]
    let other  := object [("io", nested), ("io.on", null)]
    Names "io.in" ["io", "in"] ∧ both.Leads ["io", "in"] (bool true) ∧
      both.lookup? "io.in" = some null ∧
    other.Leads ["io", "in"] (bool true) ∧ other.lookup? "io.in" = some (bool true) ∧
      (∃! names, Names "io.in" names ∧ other.Leads names (bool true)) ∧
    "" ∈ ["io", "", "in"] ∧ other.lookup? "io..in" = none := by
  intro nested both other
  have hn : Names "io.in" ["io", "in"] := ⟨by simp, by decide, by decide⟩
  have hb : both.Leads ["io", "in"] (bool true) := .member rfl (.member rfl .here)
  have ho : other.Leads ["io", "in"] (bool true) := .member rfl (.member rfl .here)
  have hm : other.member? "io.in" = none := rfl
  have he : "" ∈ ["io", "", "in"] := by simp
  obtain ⟨hl, _, _⟩ := lookup_follows_names both
  obtain ⟨hl', hf, hz⟩ := lookup_follows_names other
  have hv : other.lookup? "io.in" = some (bool true) := hl' _ _ _ hn ho
  refine ⟨hn, hb, hl _ _ _ hn hb, ho, hv, ?unique, he, hz _ he⟩
  case unique => exact (hf _ _ hv).resolve_left (by simp [hm])

end Json
end FleetMonitor
