import FleetMonitor.Proofs.Texts

namespace FleetMonitor

namespace Digits

variable {cs : List Char}

-- At least one digit, and nothing else.
structure Run (cs : List Char) : Prop where
  ne_nil : cs ≠ []
  digits : ∀ c ∈ cs, c.isDigit

theorem magnitude?_eq_some_iff {n : Nat} :
    IntRange.magnitude? cs = some n ↔ Run cs ∧ Nat.ofDigitChars 10 cs 0 = n := by
  have hr : Run cs ↔ cs ≠ [] ∧ cs.all isDigit := by
    simp only [List.all_eq_true, isDigit_iff]
    exact ⟨fun h => ⟨h.ne_nil, h.digits⟩, fun h => ⟨h.left, h.right⟩⟩
  rw [hr, ← value_eq, IntRange.magnitude?]
  split
  case isTrue h  => simp [h]
  case isFalse h => exact iff_of_false (by simp) fun ⟨hc, _⟩ => h hc

theorem Run.ne_sign (h : Run cs) : cs.head? ≠ some '+' ∧ cs.head? ≠ some '-' := by
  constructor <;> intro hc <;> exact absurd (h.digits _ (List.mem_of_head? hc)) (by decide)

theorem Run.not_isBlank (h : Run cs) : ∀ c ∈ cs, Text.isBlank c = false :=
  fun c hc => not_isBlank_of_isDigit (isDigit_iff.mpr (h.digits c hc))

theorem run_toDigits {n : Nat} : Run (Nat.toDigits 10 n) where
  ne_nil := Nat.toDigits_ne_nil
  digits := fun _ => Nat.isDigit_of_mem_toDigits (by decide) (by decide)

-- Only zero begins with a zero.
theorem eq_zero_of_head?_toDigits {n : Nat} (h : (Nat.toDigits 10 n).head? = some '0') : n = 0 := by
  induction n using Nat.strongRecOn with
  | ind n hi =>
    by_cases hn : n < 10
    case pos =>
      have hd : ∀ n < 10, Nat.digitChar n = '0' → n = 0 := by decide
      rw [Nat.toDigits_of_lt_base hn] at h
      exact hd n hn (Option.some.inj h)
    case neg =>
      rw [Nat.toDigits_of_base_le (by decide) (by omega), List.head?_append,
        Option.or_of_isSome (List.isSome_head?.mpr Nat.toDigits_ne_nil)] at h
      have hz := hi (n / 10) (by omega) h
      omega

end Digits

namespace IntRange

open Digits

-- The integers that a numeral may write: a plus may stand in front of the digits, and a minus where
-- the range has negative numbers.
inductive Writes (r : IntRange) : List Char → Int → Prop
  | plain (h : Run ds) : Writes r ds (Nat.ofDigitChars 10 ds 0)
  | plus  (h : Run ds) : Writes r ('+' :: ds) (Nat.ofDigitChars 10 ds 0)
  | minus (hr : r.least < 0) (h : Run ds) : Writes r ('-' :: ds) (-Nat.ofDigitChars 10 ds 0)

-- A text with white space around a numeral, for an integer of the range.
def Holds (r : IntRange) (raw : String) (n : Int) : Prop :=
  r.Contains n ∧ ∃ before numeral after, raw.toList = before ++ numeral ++ after ∧
    (∀ c ∈ before, Text.isBlank c) ∧ (∀ c ∈ after, Text.isBlank c) ∧ r.Writes numeral n

variable {r : IntRange} {cs : List Char} {raw : String} {m n : Int}

theorem Writes.not_isBlank (h : r.Writes cs n) : ∀ c ∈ cs, Text.isBlank c = false := by
  cases h with
  | plain h   => exact h.not_isBlank
  | plus h    => exact List.forall_mem_cons.mpr ⟨by decide, h.not_isBlank⟩
  | minus _ h => exact List.forall_mem_cons.mpr ⟨by decide, h.not_isBlank⟩

theorem map_magnitude?_eq_some_iff {f : Nat → Int} : (magnitude? cs).map f = some n ↔
    Run cs ∧ f (Nat.ofDigitChars 10 cs 0) = n := by
  simp only [Option.map_eq_some_iff, magnitude?_eq_some_iff]
  constructor
  · rintro ⟨_, ⟨hr, rfl⟩, hn⟩
    exact ⟨hr, hn⟩
  · rintro ⟨hr, hn⟩
    exact ⟨_, ⟨hr, rfl⟩, hn⟩

theorem read?_eq_some_iff : r.read? cs = some n ↔ r.Contains n ∧ r.Writes cs n := by
  unfold read?
  rw [Option.filter_eq_some_iff, decide_eq_true_iff, and_comm]
  refine and_congr_right fun _ => ?_
  split
  case h_1 ds =>
    rw [map_magnitude?_eq_some_iff]
    constructor
    case mp => rintro ⟨h, rfl⟩; exact .plus h
    case mpr =>
      intro h
      cases h with
      | plus h  => exact ⟨h, rfl⟩
      | plain h => exact absurd rfl h.ne_sign.left
  case h_2 ds =>
    split
    case isTrue hr =>
      have hn : ((magnitude? ds >>= fun n => pure (n : Int)).map fun n => -n) =
          (magnitude? ds).map fun n : Nat => -(n : Int) := by cases magnitude? ds <;> rfl
      rw [hn, map_magnitude?_eq_some_iff]
      constructor
      case mp => rintro ⟨h, rfl⟩; exact .minus hr h
      case mpr =>
        intro h
        cases h with
        | minus _ h => exact ⟨h, rfl⟩
        | plain h   => exact absurd rfl h.ne_sign.right
    case isFalse hr =>
      refine iff_of_false (by simp) fun h => ?_
      cases h with
      | minus hl _ => exact hr hl
      | plain h    => exact absurd rfl h.ne_sign.right
  case h_3 hp hm =>
    rw [map_magnitude?_eq_some_iff]
    constructor
    case mp => rintro ⟨h, rfl⟩; exact .plain h
    case mpr =>
      intro h
      cases h with
      | plain h => exact ⟨h, rfl⟩
      | plus    => exact absurd rfl (hp _)
      | minus   => exact absurd rfl (hm _)

-- What is read with the white space trimmed away is what the text holds.
theorem read?_trim_eq_some_iff : r.read? (Text.trim raw.toList) = some n ↔ r.Holds raw n := by
  rw [read?_eq_some_iff, Holds]
  refine and_congr_right fun _ => ?_
  constructor
  case mp =>
    intro h
    obtain ⟨before, after, hc, hb, ha⟩ := Text.exists_trim raw.toList
    exact ⟨before, _, after, hc, hb, ha, h⟩
  case mpr =>
    rintro ⟨before, numeral, after, hc, hb, ha, h⟩
    rw [hc, Text.trim_append hb ha h.not_isBlank]
    exact h

-- A text holds one integer at most.
theorem Holds.unique (hm : r.Holds raw m) (hn : r.Holds raw n) : m = n :=
  Option.some.inj ((read?_trim_eq_some_iff.mpr hm).symm.trans (read?_trim_eq_some_iff.mpr hn))

-- Decimal text.

theorem Writes.mono {s : IntRange} (h : r.Writes cs n) (hs : r.least < 0 → s.least < 0) :
    s.Writes cs n := by
  cases h with
  | plain h    => exact .plain h
  | plus h     => exact .plus h
  | minus hr h => exact .minus (hs hr) h

theorem writes_toString (h : n < 0 → r.least < 0) : r.Writes (toString n).toList n := by
  have hv : ∀ k : Nat, Nat.ofDigitChars 10 (Nat.toDigits 10 k) 0 = k := fun k =>
    Nat.ofDigitChars_toDigits (by decide) (by decide)
  cases n with
  | ofNat k =>
    have hw : r.Writes (Nat.toDigits 10 k) _ := .plain run_toDigits
    rw [hv] at hw
    exact Nat.toList_repr ▸ hw
  | negSucc k =>
    have hw : r.Writes ('-' :: Nat.toDigits 10 (k + 1)) _ :=
      .minus (h (Int.negSucc_lt_zero k)) run_toDigits
    have ht : (toString (Int.negSucc k)).toList = '-' :: Nat.toDigits 10 (k + 1) := by
      rw [← Nat.toList_repr]
      exact String.toList_append
    rw [hv] at hw
    exact ht ▸ hw

theorem holds_toString_iff : r.Holds (toString m) n ↔ m = n ∧ r.Contains n := by
  constructor
  case mp =>
    rintro ⟨hc, before, numeral, after, hl, hb, ha, hn⟩
    -- Seen in a range that contains them both, the text holds the one as well as the other.
    let wide : IntRange := ⟨min (-1) (min m n), max m n⟩
    have hw : wide.least < 0 := by grind
    have hi : wide.Contains m ∧ wide.Contains n := by simp only [wide, Contains]; omega
    have hm : wide.Holds (toString m) m :=
      ⟨hi.left, [], _, [], by simp, by simp, by simp, writes_toString fun _ => hw⟩
    have hn : wide.Holds (toString m) n :=
      ⟨hi.right, before, numeral, after, hl, hb, ha, hn.mono fun _ => hw⟩
    exact ⟨hm.unique hn, hc⟩
  case mpr =>
    rintro ⟨rfl, hc⟩
    refine ⟨hc, [], _, [], by simp, by simp, by simp, writes_toString fun hn => ?_⟩
    exact Int.lt_of_le_of_lt hc.left hn

end IntRange

end FleetMonitor
