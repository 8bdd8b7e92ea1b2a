import FleetMonitor.Proofs.Dates
import FleetMonitor.Proofs.Texts
import FleetMonitor.Time.Timestamp

namespace FleetMonitor

namespace Clock

-- The time of day that comes so many milliseconds after midnight.
def ofMillis (n : Nat) : Clock where
  hour   := n / 3600000
  minute := n / 60000 % 60
  second := n / 1000 % 60
  millis := n % 1000

theorem millisOfDay_ofMillis {n : Nat} : (ofMillis n).millisOfDay = n := by
  simp only [millisOfDay, ofMillis]
  omega

end Clock

namespace Timestamp

open Digits

variable {w n : Nat} {rest : List Char}

theorem exactly?_padded (hw : 0 < w) (hn : n < 10 ^ w) :
    exactly? w (padded w n ++ rest) = some (n, rest) := by
  have hl := length_padded hw hn
  have hd : (padded w n).all isDigit := List.all_eq_true.mpr fun _ => isDigit_of_mem_padded
  rw [exactly?, List.take_left' hl, List.drop_left' hl, if_pos ⟨hl, hd⟩, value_padded]

theorem upTo?_padded (hw : 0 < w) (hn : n < 10 ^ w) :
    upTo? w (padded w n ++ rest) = some (n, rest) := by
  have hl := length_padded hw hn
  have hd : (padded w n).takeWhile isDigit = padded w n :=
    List.takeWhile_eq_self_iff.mpr fun _ => isDigit_of_mem_padded
  simp only [upTo?, List.take_left' hl, hd, if_neg padded_ne_nil, List.drop_left, value_padded]

theorem fraction?_padded (hn : n < 10 ^ 3) (hr : ∀ c ∈ rest.head?, isDigit c = false) :
    fraction? ('.' :: (padded 3 n ++ rest)) = some (n, rest) := by
  have hl := length_padded (by decide) hn
  have hs : span (padded 3 n ++ rest) = (padded 3 n, rest) :=
    span_append_of_head? (fun _ => isDigit_of_mem_padded) hr
  simp only [fraction?, hs, if_neg padded_ne_nil, List.take_left' hl, value_padded]

theorem char?_self {c : Char} : char? c (c :: rest) = some rest :=
  if_pos rfl

theorem pair?_padded (hn : n < 10 ^ 2) : pair? (padded 2 n ++ rest) = some (n, rest) := by
  rw [pair?, trimStart_padded, upTo?_padded (by decide) hn]

-- A year without a sign begins with a digit.
theorem year?_padded (hn : n < 10 ^ 4) :
    year? (padded 4 n ++ rest) = some ((n : Int), rest) := by
  have hu : upTo? 4 (padded 4 n ++ rest) = some (n, rest) := upTo?_padded (by decide) hn
  obtain ⟨c, cs, hp, hc⟩ : ∃ c cs, padded 4 n = c :: cs ∧ isDigit c := exists_padded_eq_cons
  rw [hp, List.cons_append] at hu ⊢
  rw [year?, hu]
  · rfl
  · rintro cs' h
    obtain ⟨rfl, _⟩ := List.cons_eq_cons.mp h
    contradiction
  · rintro cs' h
    obtain ⟨rfl, _⟩ := List.cons_eq_cons.mp h
    contradiction

-- What an instant is in UTC.

def date (t : Int) : Date :=
  .ofDayNumber (t / 86400000)

def clock (t : Int) : Clock :=
  .ofMillis (t % 86400000).toNat

-- How it is written.

def writeDate (d : Date) : List Char :=
  padded 4 d.year.toNat ++ '-' :: padded 2 d.month ++ '-' :: padded 2 d.day

def writeClock (c : Clock) : List Char :=
  padded 2 c.hour ++ ':' :: padded 2 c.minute ++ ':' :: padded 2 c.second ++ '.' :: padded 3 c.millis

-- The dates that four digits are enough for.
structure FourDigit (d : Date) : Prop where
  proper   : d.Proper
  nonneg   : 0 ≤ d.year
  year_le  : d.year ≤ 9999

-- Every part of the time of day has the digits that it is written with.
structure Canonical (c : Clock) : Prop where
  hour   : c.hour ≤ 23
  minute : c.minute ≤ 59
  second : c.second ≤ 59
  millis : c.millis ≤ 999

variable {d : Date} {c : Clock} {sep : Char} {between : List Char → Option (List Char)}

theorem FourDigit.exists (h : FourDigit d) : d.Exists :=
  ⟨by have := h.nonneg; simp only [Date.leastYear]; omega,
    by have := h.year_le; simp only [Date.greatestYear]; omega,
    h.proper.month_pos, h.proper.month_le, h.proper.day_pos, h.proper.day_le⟩

theorem Canonical.exists (h : Canonical c) : c.Exists :=
  ⟨h.hour, h.minute, Nat.le_succ_of_le h.second⟩

theorem FourDigit.lt (h : FourDigit d) :
    d.year.toNat < 10 ^ 4 ∧ d.month < 10 ^ 2 ∧ d.day < 10 ^ 2 := by
  obtain ⟨hp, _, hy⟩ := h
  have hm := hp.month_le
  have hd := Nat.le_trans hp.day_le Date.monthLength_le
  omega

theorem Canonical.lt (h : Canonical c) :
    c.hour < 10 ^ 2 ∧ c.minute < 10 ^ 2 ∧ c.second < 10 ^ 2 ∧ c.millis < 10 ^ 3 := by
  obtain ⟨hh, hm, hs, hf⟩ := h
  omega

theorem trimStart_writeClock : Text.trimStart (' ' :: writeClock c) = writeClock c := by
  rw [Text.trimStart, List.dropWhile_cons_of_pos (by decide)]
  simp only [writeClock, List.append_assoc]
  exact trimStart_padded

theorem withOffset?_written (hd : FourDigit d) (hc : Canonical c) (hs : sep = 'T' ∨ sep = ' ')
    (hr : ∀ c ∈ rest.head?, isDigit c = false) :
    withOffset? (writeDate d ++ sep :: (writeClock c ++ rest)) =
      (offset? rest).map fun offset => ofDateTime d c - offset * 60000 := by
  obtain ⟨hy, hm, hk⟩ := hd.lt
  obtain ⟨hh, hi, hx, hf⟩ := hc.lt
  have hb : ∀ cs, (char? 'T' (sep :: cs)).or ((char? 't' (sep :: cs)).or (char? ' ' (sep :: cs))) =
      some cs := by
    intro cs
    rcases hs with rfl | rfl <;> rfl
  simp only [withOffset?, writeDate, writeClock, List.append_assoc, List.cons_append,
    exactly?_padded (by decide) hy, exactly?_padded (by decide) hm, exactly?_padded (by decide) hk,
    exactly?_padded (by decide) hh, exactly?_padded (by decide) hi, exactly?_padded (by decide) hx,
    char?_self, hb, fraction?_padded hf hr, Option.bind_eq_bind, Option.bind_some]
  rw [Int.toNat_of_nonneg hd.nonneg]
  cases offset? rest with
  | none        => rfl
  | some offset => exact if_pos ⟨hd.exists, hc.exists⟩

theorem naive?_written (hd : FourDigit d) (hc : Canonical c)
    (hb : between (sep :: writeClock c) = some (writeClock c)) :
    naive? between (writeDate d ++ sep :: writeClock c) = some (ofDateTime d c) := by
  obtain ⟨hy, hm, hk⟩ := hd.lt
  obtain ⟨hh, hi, hx, hf⟩ := hc.lt
  have hn : fraction? ('.' :: padded 3 c.millis) = some (c.millis, []) := by
    have he : ∀ c ∈ ([] : List Char).head?, isDigit c = false := by simp
    simpa using fraction?_padded hf he
  simp only [writeClock, List.append_assoc, List.cons_append] at hb
  simp only [naive?, writeDate, writeClock, List.append_assoc, List.cons_append, trimStart_padded,
    year?_padded hy, pair?_padded hm, pair?_padded hk, hb, pair?_padded hh, pair?_padded hi,
    pair?_padded hx, char?_self, hn, Option.bind_eq_bind, Option.bind_some]
  rw [Int.toNat_of_nonneg hd.nonneg]
  exact if_pos ⟨trivial, hd.exists, hc.exists⟩

theorem naive?_of_between (hd : FourDigit d) (hb : between rest = none) :
    naive? between (writeDate d ++ rest) = none := by
  obtain ⟨hy, hm, hk⟩ := hd.lt
  simp only [naive?, writeDate, List.append_assoc, List.cons_append, trimStart_padded,
    year?_padded hy, pair?_padded hm, pair?_padded hk, char?_self, hb, Option.bind_eq_bind,
    Option.bind_some, Option.bind_none]

-- How far local time is from UTC.
structure Offset where
  west   : Bool
  hour   : Fin 24
  minute : Fin 60

namespace Offset

variable {o : Offset}

def minutes (o : Offset) : Int :=
  (if o.west then -1 else 1) * (o.hour * 60 + o.minute)

def millis (o : Offset) : Int :=
  o.minutes * 60000

def write (o : Offset) : List Char :=
  (if o.west then '-' else '+') :: (padded 2 o.hour ++ ':' :: padded 2 o.minute)

theorem offset?_write : offset? o.write = some o.minutes := by
  have hh : (o.hour : Nat) < 10 ^ 2 := by omega
  have hm : (o.minute : Nat) < 10 ^ 2 := by omega
  have he : exactly? 2 (padded 2 o.minute ++ []) = some (↑o.minute, []) :=
    exactly?_padded (by decide) hm
  rw [List.append_nil] at he
  have hl : (o.hour : Nat) ≤ 23 ∧ (o.minute : Nat) ≤ 59 := by omega
  obtain ⟨west, hour, minute⟩ := o
  cases west <;>
    simp [write, minutes, offset?, exactly?_padded (by decide) hh, char?_self, he, hl]

-- A sign ends the fraction of a second.
theorem head?_write : ∀ c ∈ o.write.head?, isDigit c = false := by
  obtain ⟨west, _, _⟩ := o
  cases west <;> simp [write, isDigit]

-- Less than a day.
theorem millis_lt : -86400000 < o.millis ∧ o.millis < 86400000 := by
  have hh := o.hour.isLt
  have hm := o.minute.isLt
  unfold millis minutes
  split <;> omega

end Offset

-- The date and the time of day with what stands between them.
def stamp (sep : Char) (t : Int) : List Char :=
  writeDate (date t) ++ sep :: writeClock (clock t)

-- The ways in which an instant is written: in UTC, in local time with its offset, and in UTC without
-- saying so.
inductive Spelling
  | utc
  | offset (o : Offset)
  | naive
  | spaced

def Spelling.write (t : Int) : Spelling → List Char
  | utc      => stamp 'T' t ++ ['Z']
  | offset o => stamp 'T' (t + o.millis) ++ o.write
  | naive    => stamp 'T' t
  | spaced   => stamp ' ' t

variable {t u : Int} {s : Spelling}

-- The parts of an instant.

theorem ofDateTime_date_clock : ofDateTime (date t) (clock t) = t := by
  have hr : 0 ≤ t % 86400000 := Int.emod_nonneg _ (by decide)
  rw [ofDateTime, date, clock, Date.dayNumber_ofDayNumber, Clock.millisOfDay_ofMillis]
  omega

theorem canonical_clock : Canonical (clock t) := by
  have hl : t % 86400000 < 86400000 := Int.emod_lt_of_pos _ (by decide)
  constructor <;> simp only [clock, Clock.ofMillis] <;> omega

-- An instant that is less than a day away is in the same year or in a neighbouring one.
theorem year_date_near (t : Int) (h : -86400000 < u ∧ u < 86400000) :
    (date t).year - 1 ≤ (date (t + u)).year ∧ (date (t + u)).year ≤ (date t).year + 1 := by
  have hd : (t + u) / 86400000 = t / 86400000 ∨ (t + u) / 86400000 = t / 86400000 + 1 ∨
      t / 86400000 = (t + u) / 86400000 + 1 := by omega
  rw [date, date]
  rcases hd with hd | hd | hd
  · rw [hd]
    omega
  · have hy := Date.year_ofDayNumber_add_one (t / 86400000)
    rw [hd]
    omega
  · have hy := Date.year_ofDayNumber_add_one ((t + u) / 86400000)
    rw [← hd] at hy
    omega

theorem fourDigit_date (h : 0 ≤ (date t).year) (h' : (date t).year ≤ 9999) : FourDigit (date t) :=
  ⟨Date.proper_ofDayNumber, h, h'⟩

-- What is read.

theorem withOffset?_stamp (hd : FourDigit (date t)) (hs : sep = 'T' ∨ sep = ' ')
    (hr : ∀ c ∈ rest.head?, isDigit c = false) :
    withOffset? (stamp sep t ++ rest) = (offset? rest).map fun offset => t - offset * 60000 := by
  rw [stamp, List.append_assoc, List.cons_append, withOffset?_written hd canonical_clock hs hr,
    ofDateTime_date_clock]

theorem naive?_stamp (hd : FourDigit (date t))
    (hb : between (sep :: writeClock (clock t)) = some (writeClock (clock t))) :
    naive? between (stamp sep t) = some t := by
  rw [stamp, naive?_written hd canonical_clock hb, ofDateTime_date_clock]

theorem withOffset?_of_none (hd : FourDigit (date t)) (hs : sep = 'T' ∨ sep = ' ') :
    withOffset? (stamp sep t) = none := by
  have he : ∀ c ∈ ([] : List Char).head?, isDigit c = false := by simp
  simpa [offset?] using withOffset?_stamp hd hs he

-- Each spelling is read by one of the three readers, and those before it fail.
theorem ofText?_write (hy : 1 ≤ (date t).year) (hy' : (date t).year ≤ 9998) :
    ofText? (s.write t) = some t := by
  have hd : FourDigit (date t) := fourDigit_date (by omega) (by omega)
  cases s with
  | utc =>
    have hr : ∀ c ∈ ['Z'].head?, isDigit c = false := by simp [isDigit]
    rw [ofText?, Spelling.write, withOffset?_stamp hd (Or.inl rfl) hr]
    simp [offset?]
  | offset o =>
    have hl := year_date_near t o.millis_lt
    have hd' : FourDigit (date (t + o.millis)) := fourDigit_date (by omega) (by omega)
    rw [ofText?, Spelling.write, withOffset?_stamp hd' (Or.inl rfl) o.head?_write,
      Offset.offset?_write]
    simp [Offset.millis]
  | naive =>
    rw [ofText?, Spelling.write, withOffset?_of_none hd (Or.inl rfl), naive?_stamp hd char?_self]
    rfl
  | spaced =>
    have hT : naive? (char? 'T') (stamp ' ' t) = none := naive?_of_between hd rfl
    have hw : naive? (fun cs => some (Text.trimStart cs)) (stamp ' ' t) = some t :=
      naive?_stamp hd (congrArg some trimStart_writeClock)
    rw [ofText?, Spelling.write, withOffset?_of_none hd (Or.inr rfl), hT, hw]
    rfl

-- White space around it.

theorem trimStart_write (after : List Char) :
    Text.trimStart (s.write t ++ after) = s.write t ++ after := by
  cases s <;> simp only [Spelling.write, stamp, writeDate, List.append_assoc] <;>
    exact trimStart_padded

theorem trimEnd_stamp : Text.trimEnd (stamp sep t) = stamp sep t := by
  obtain ⟨c, hc, hd⟩ : ∃ c, (padded 3 (clock t).millis).getLast? = some c ∧ isDigit c :=
    exists_getLast?_padded
  refine Text.trimEnd_of_getLast? ?_
  simp [stamp, writeClock, List.getLast?_cons, hc, not_isBlank_of_isDigit hd]

theorem trimEnd_write : Text.trimEnd (s.write t) = s.write t := by
  cases s with
  | utc =>
    refine Text.trimEnd_of_getLast? ?_
    simp [Spelling.write, Text.isBlank]
  | offset o =>
    obtain ⟨c, hc, hd⟩ : ∃ c, (padded 2 o.minute).getLast? = some c ∧ isDigit c :=
      exists_getLast?_padded
    refine Text.trimEnd_of_getLast? ?_
    simp [Spelling.write, Offset.write, List.getLast?_cons, hc, not_isBlank_of_isDigit hd]
  | naive | spaced => exact trimEnd_stamp

theorem trim_write {before after : List Char} (hb : ∀ c ∈ before, Text.isBlank c)
    (ha : ∀ c ∈ after, Text.isBlank c) :
    Text.trim (before ++ s.write t ++ after) = s.write t := by
  rw [Text.trim, List.append_assoc, Text.trimStart_append hb, trimStart_write,
    Text.trimEnd_append ha, trimEnd_write]

-- Such an instant is far from the ends of the integers that timestamps are kept in.
theorem toInt_ofInt (hd : FourDigit (date t)) : (Int64.ofInt t).toInt = t := by
  have hl := Date.dayNumber_lt hd.proper hd.nonneg hd.year_le
  rw [date, Date.dayNumber_ofDayNumber] at hl
  refine Int64.toInt_ofInt_of_le ?_ ?_ <;> omega

-- However an instant of the years 1 to 9998 is written, and whatever white space is around it, it is
-- read as itself.
theorem spellings_agree (t : Int) (s : Spelling) (before after : List Char)
    (hy : 1 ≤ (date t).year) (hy' : (date t).year ≤ 9998)
    (hb : ∀ c ∈ before, Text.isBlank c) (ha : ∀ c ∈ after, Text.isBlank c) :
    (ofJson? (.text (String.ofList (before ++ s.write t ++ after)))).map Int64.toInt = some t := by
  have hd : FourDigit (date t) := fourDigit_date (by omega) (by omega)
  rw [ofJson?, String.toList_ofList, trim_write hb ha, ofText?_write hy hy', Option.map_some,
    Option.map_some, toInt_ofInt hd]

-- The last millisecond before the epoch, in local time of the next year.
theorem read_before_epoch :
    1 ≤ (date (-1)).year ∧ (date (-1)).year ≤ 9998 ∧
    Text.isBlank '\t' ∧ Text.isBlank '\u3000' ∧
    (ofJson? (.text "\t1970-01-01T01:29:59.999+01:30\u3000")).map Int64.toInt = some (-1) := by
  have hy : 1 ≤ (date (-1)).year ∧ (date (-1)).year ≤ 9998 := by decide
  have hb : ∀ c ∈ ['\t'], Text.isBlank c := List.forall_mem_singleton.mpr (by decide)
  have ha : ∀ c ∈ ['\u3000'], Text.isBlank c := List.forall_mem_singleton.mpr (by decide)
  have ht : "\t1970-01-01T01:29:59.999+01:30\u3000" = String.ofList
      (['\t'] ++ (Spelling.offset ⟨false, 1, 30⟩).write (-1) ++ ['\u3000']) := by decide +kernel
  rw [ht]
  exact ⟨hy.1, hy.2, by decide, by decide, spellings_agree (-1) _ _ _ hy.1 hy.2 hb ha⟩

end Timestamp

end FleetMonitor
