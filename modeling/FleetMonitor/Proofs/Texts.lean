import FleetMonitor.Number.Digits
import FleetMonitor.Text.Basic
import Mathlib.Algebra.Group.Nat.Defs
import Mathlib.Data.List.TakeWhile

namespace FleetMonitor

namespace Text

variable {sep c : Char} {n : Nat} {piece cs cs' before after : List Char}
  {pieces : List (List Char)}

-- Pieces.

-- Splitting is that of lists.
theorem splitOn_eq : splitOn sep cs = cs.splitOn sep := by
  induction cs with
  | nil => rfl
  | cons c cs hi =>
    rw [splitOn, List.splitOn_cons_eq_if_modifyHead, ← hi]
    by_cases hc : c = sep
    case pos => simp [hc]
    case neg =>
      have hn : splitOn sep cs ≠ [] := splitOn_ne_nil
      obtain ⟨piece, pieces, hs⟩ := List.exists_cons_of_ne_nil hn
      simp [hc, hs]

theorem splitOn_of_not_mem (h : sep ∉ piece) : splitOn sep piece = [piece] := by
  rw [splitOn_eq, List.splitOn_eq_singleton h]

theorem splitOn_append : splitOn sep (cs ++ sep :: cs') = splitOn sep cs ++ splitOn sep cs' := by
  simp only [splitOn_eq, List.splitOn_append_cons_self]

-- Splitting takes apart what was put together with separators.
theorem splitOn_intercalate (hn : pieces ≠ []) (h : ∀ piece ∈ pieces, sep ∉ piece) :
    splitOn sep ([sep].intercalate pieces) = pieces := by
  rw [splitOn_eq, List.splitOn_intercalate sep h hn]

theorem intercalate_splitOn : [sep].intercalate (splitOn sep cs) = cs := by
  rw [splitOn_eq, List.intercalate_splitOn]

theorem not_mem_of_mem_splitOn (h : piece ∈ splitOn sep cs) : sep ∉ piece := by
  induction cs generalizing piece with
  | nil =>
    rw [List.mem_singleton.mp h]
    exact List.not_mem_nil
  | cons c cs hi =>
    rw [splitOn] at h
    split at h
    case isTrue =>
      rcases List.mem_cons.mp h with rfl | h
      · exact List.not_mem_nil
      · exact hi h
    case isFalse hc =>
      split at h
      case h_1 hs => exact absurd hs splitOn_ne_nil
      case h_2 first rest hs =>
        rw [hs] at hi
        rcases List.mem_cons.mp h with rfl | h
        · exact List.not_mem_cons_of_ne_of_not_mem (Ne.symm hc) (hi List.mem_cons_self)
        · exact hi (List.mem_cons_of_mem _ h)

-- Pieces that have separators themselves are split further.
theorem splitOn_intercalate_eq_flatMap (hn : pieces ≠ []) :
    splitOn sep ([sep].intercalate pieces) = pieces.flatMap (splitOn sep) := by
  induction pieces with
  | nil => contradiction
  | cons piece pieces hi =>
    cases pieces with
    | nil => simp
    | cons piece' pieces =>
      rw [List.intercalate_cons_cons, List.append_assoc, List.singleton_append, splitOn_append,
        hi (List.cons_ne_nil _ _)]
      rfl

theorem cut?_of_not_mem (h : sep ∉ cs) : cut? sep cs = none := by
  cases hc : cut? sep cs with
  | none   => rfl
  | some p => exact absurd (eq_append_of_cut? hc ▸ List.mem_append_cons_self) h

theorem not_mem_of_cut? (h : cut? sep cs = some (before, after)) : sep ∉ before := by
  induction cs generalizing before with
  | nil => contradiction
  | cons c cs hi =>
    rw [cut?] at h
    split at h
    case isTrue =>
      obtain rfl := (Prod.mk.inj (Option.some.inj h)).left
      exact List.not_mem_nil
    case isFalse hc =>
      obtain ⟨⟨before, _⟩, hb, e⟩ := Option.map_eq_some_iff.mp h
      obtain ⟨rfl, rfl⟩ := Prod.mk.inj e
      exact List.not_mem_cons_of_ne_of_not_mem (Ne.symm hc) (hi hb)

theorem cut?_eq_some_iff :
    cut? sep cs = some (before, after) ↔ sep ∉ before ∧ cs = before ++ sep :: after where
  mp  := fun h => ⟨not_mem_of_cut? h, eq_append_of_cut? h⟩
  mpr := fun ⟨h, e⟩ => e ▸ cut?_append h

-- White space.

theorem trimStart_append (h : ∀ c ∈ before, isBlank c) :
    trimStart (before ++ cs) = trimStart cs :=
  List.dropWhile_append_of_pos h

theorem trimEnd_append (h : ∀ c ∈ after, isBlank c) : trimEnd (cs ++ after) = trimEnd cs := by
  have hr : ∀ c ∈ after.reverse, isBlank c := fun c hc => h c (List.mem_reverse.mp hc)
  rw [trimEnd, trimEnd, List.reverse_append, List.dropWhile_append_of_pos hr]

theorem trimEnd_of_getLast? (h : ∀ c ∈ cs.getLast?, isBlank c = false) : trimEnd cs = cs := by
  rw [← List.head?_reverse] at h
  have hd : cs.reverse.dropWhile isBlank = cs.reverse := by
    cases hc : cs.reverse with
    | nil       => rfl
    | cons c cs => simp [h c (by rw [hc]; rfl)]
  rw [trimEnd, hd, List.reverse_reverse]

-- Trimming takes nothing but white space away,
theorem exists_trim (cs : List Char) : ∃ before after, cs = before ++ trim cs ++ after ∧
    (∀ c ∈ before, isBlank c) ∧ ∀ c ∈ after, isBlank c := by
  let rest := trimStart cs
  refine ⟨cs.takeWhile isBlank, (rest.reverse.takeWhile isBlank).reverse, ?_,
    fun c hc => List.mem_takeWhile_imp hc,
    fun c hc => List.mem_takeWhile_imp (List.mem_reverse.mp hc)⟩
  have hr : trim cs ++ (rest.reverse.takeWhile isBlank).reverse = rest := by
    rw [trim, trimEnd, ← List.reverse_append, List.takeWhile_append_dropWhile, List.reverse_reverse]
  rw [List.append_assoc, hr]
  exact List.takeWhile_append_dropWhile.symm

-- and all white space that stands around a text without any.
theorem trim_append (hb : ∀ c ∈ before, isBlank c) (ha : ∀ c ∈ after, isBlank c)
    (h : ∀ c ∈ cs, isBlank c = false) : trim (before ++ cs ++ after) = cs := by
  rw [trim, List.append_assoc, trimStart_append hb]
  cases cs with
  | nil =>
    have hn : trimStart after = [] := List.dropWhile_eq_nil_iff.mpr ha
    rw [List.nil_append, hn]
    rfl
  | cons c cs =>
    have hs : trimStart (c :: cs ++ after) = c :: cs ++ after :=
      List.dropWhile_cons_of_neg (by simp [h c List.mem_cons_self])
    rw [hs, trimEnd_append ha]
    exact trimEnd_of_getLast? fun c hc => h c (List.mem_of_getLast? hc)

theorem trim_eq_nil_iff : trim cs = [] ↔ ∀ c ∈ cs, isBlank c where
  mp h := by
    obtain ⟨before, after, hc, hb, ha⟩ := exists_trim cs
    rw [h, List.append_nil] at hc
    intro c hm
    rw [hc, List.mem_append] at hm
    exact hm.elim (hb c) (ha c)
  mpr h := by
    have ht : trim (cs ++ [] ++ []) = [] := trim_append h (by simp) (by simp)
    simpa using ht

-- Characters at the end.

theorem exists_dropTrailing : ∃ n, cs = dropTrailing c cs ++ List.replicate n c := by
  refine ⟨(cs.reverse.takeWhile (· == c)).length, ?_⟩
  have hr : List.replicate (cs.reverse.takeWhile (· == c)).length c =
      (cs.reverse.takeWhile (· == c)).reverse := by
    refine (List.eq_replicate_iff.mpr ⟨List.length_reverse, fun d hd => ?_⟩).symm
    simpa using List.mem_takeWhile_imp (List.mem_reverse.mp hd)
  rw [hr, dropTrailing, ← List.reverse_append, List.takeWhile_append_dropWhile, List.reverse_reverse]

theorem getLast?_dropTrailing : (dropTrailing c cs).getLast? ≠ some c := by
  intro h
  have hd := List.head?_dropWhile_not (· == c) cs.reverse
  rw [dropTrailing, List.getLast?_reverse] at h
  simp [h] at hd

theorem dropTrailing_append_replicate (h : cs.getLast? ≠ some c) :
    dropTrailing c (cs ++ List.replicate n c) = cs := by
  have hr : ∀ d ∈ List.replicate n c, d == c := fun d hd => by simp [List.eq_of_mem_replicate hd]
  have hd : cs.reverse.dropWhile (· == c) = cs.reverse := by
    rw [← List.head?_reverse] at h
    cases hc : cs.reverse with
    | nil       => rfl
    | cons d cs =>
      rw [hc] at h
      exact List.dropWhile_cons_of_neg (by simpa using h)
  rw [dropTrailing, List.reverse_append, List.reverse_replicate, List.dropWhile_append_of_pos hr, hd,
    List.reverse_reverse]

theorem dropTrailing_dropTrailing : dropTrailing c (dropTrailing c cs) = dropTrailing c cs := by
  have h : dropTrailing c (dropTrailing c cs ++ List.replicate 0 c) = dropTrailing c cs :=
    dropTrailing_append_replicate getLast?_dropTrailing
  rwa [List.replicate_zero, List.append_nil] at h

end Text

namespace Digits

-- A number in decimal, with zeros in front of it up to a width.
def padded (width n : Nat) : List Char :=
  (Nat.toDigits 10 n).leftpad width '0'

variable {w n : Nat} {c : Char} {cs rest : List Char}

theorem isDigit_iff : isDigit c ↔ c.isDigit := by
  have hd : c.isDigit = ('0' ≤ c && c ≤ '9') := rfl
  rw [hd, isDigit]

theorem value_eq : value cs = Nat.ofDigitChars 10 cs 0 :=
  rfl

theorem length_padded (hw : 0 < w) (hn : n < 10 ^ w) : (padded w n).length = w := by
  have hl := (Nat.length_toDigits_le_iff (by decide) hw).mpr hn
  rw [padded, List.length_leftpad, Nat.max_eq_left hl]

theorem isDigit_of_mem_padded (h : c ∈ padded w n) : isDigit c := by
  rw [padded, List.leftpad, List.mem_append, List.mem_replicate] at h
  rcases h with ⟨_, rfl⟩ | h
  · decide
  · exact isDigit_iff.mpr (Nat.isDigit_of_mem_toDigits (by decide) (by decide) h)

theorem value_padded : value (padded w n) = n := by
  rw [value_eq, padded, List.leftpad, Nat.ofDigitChars_append, Nat.ofDigitChars_replicate_zero,
    Nat.mul_zero, Nat.ofDigitChars_toDigits (by decide) (by decide)]

theorem padded_ne_nil : padded w n ≠ [] := by
  rw [padded, List.leftpad]
  exact List.append_ne_nil_of_right_ne_nil _ (Nat.toDigits_ne_nil)

theorem span_append_of_head? (h : ∀ c ∈ cs, isDigit c) (hr : ∀ c ∈ rest.head?, isDigit c = false) :
    span (cs ++ rest) = (cs, rest) := by
  have ht : rest.takeWhile isDigit = [] ∧ rest.dropWhile isDigit = rest := by
    cases rest with
    | nil         => exact ⟨rfl, rfl⟩
    | cons c rest => simp [hr c rfl]
  rw [span, List.takeWhile_append_of_pos h, List.dropWhile_append_of_pos h, ht.1, ht.2,
    List.append_nil]

theorem exists_padded_eq_cons : ∃ c cs, padded w n = c :: cs ∧ isDigit c := by
  have hn : padded w n ≠ [] := padded_ne_nil
  obtain ⟨c, cs, hp⟩ := List.exists_cons_of_ne_nil hn
  exact ⟨c, cs, hp, isDigit_of_mem_padded (hp ▸ List.mem_cons_self)⟩

theorem exists_getLast?_padded : ∃ c, (padded w n).getLast? = some c ∧ isDigit c := by
  have hn : padded w n ≠ [] := padded_ne_nil
  exact ⟨_, List.getLast?_eq_some_getLast hn, isDigit_of_mem_padded (List.getLast_mem hn)⟩

theorem not_isBlank_of_isDigit (h : isDigit c) : Text.isBlank c = false := by
  have hr : '0' ≤ c ∧ c ≤ '9' := by simpa [isDigit] using h
  have hl : 48 ≤ c.toNat := UInt32.le_iff_toNat_le.mp hr.1
  have hg : c.toNat ≤ 57 := UInt32.le_iff_toNat_le.mp hr.2
  simp only [Text.isBlank, Bool.or_eq_false_iff, Bool.and_eq_false_iff, decide_eq_false_iff_not,
    beq_eq_false_iff_ne]
  omega

theorem trimStart_padded : Text.trimStart (padded w n ++ rest) = padded w n ++ rest := by
  obtain ⟨c, cs, hp, hc⟩ : ∃ c cs, padded w n = c :: cs ∧ isDigit c := exists_padded_eq_cons
  rw [hp, List.cons_append, Text.trimStart, List.dropWhile_cons_of_neg]
  simp [not_isBlank_of_isDigit hc]

end Digits

end FleetMonitor
