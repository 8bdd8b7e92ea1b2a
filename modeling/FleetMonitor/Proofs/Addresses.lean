import FleetMonitor.Proofs.Texts
import FleetMonitor.Url.Endpoint
import Mathlib.Tactic.IntervalCases

namespace FleetMonitor

namespace Percent

-- The digits of an escape.
def isUpperHex (c : Char) : Bool :=
  c.isDigit || ('A' ≤ c && c ≤ 'F')

-- Text that consists of unreserved characters and escapes.
inductive Encoded : List Char → Prop
  | nil : Encoded []
  | plain (hc : c.isAlphanum ∨ c ∈ ['-', '_', '.', '~']) (h : Encoded cs) : Encoded (c :: cs)
  | escape (ha : isUpperHex a) (hb : isUpperHex b) (h : Encoded cs) : Encoded ('%' :: a :: b :: cs)

variable {c : Char} {cs cs' : List Char} {b : UInt8} {bs : List UInt8} {s s' : String} {n : Nat}

theorem isUnreserved_iff : isUnreserved c ↔ c.isAlphanum ∨ c ∈ ['-', '_', '.', '~'] := by
  have ha : c.isAlphanum = (c.isUpper || c.isLower || c.isDigit) := rfl
  have hu : c.isUpper = decide ('A' ≤ c ∧ c ≤ 'Z') := rfl
  have hl : c.isLower = ('a' ≤ c && c ≤ 'z') := rfl
  have hd : c.isDigit = ('0' ≤ c && c ≤ '9') := rfl
  simp only [isUnreserved, ha, hu, hl, hd, Bool.or_eq_true, Bool.and_eq_true, decide_eq_true_eq,
    List.mem_cons, List.not_mem_nil, or_false]
  grind

theorem isUpperHex_hexDigit (h : n < 16) : isUpperHex (hexDigit n) := by
  interval_cases n <;> decide

theorem hexValue?_hexDigit (h : n < 16) : hexValue? (hexDigit n) = some n := by
  interval_cases n <;> decide

theorem Encoded.append (h : Encoded cs) (h' : Encoded cs') : Encoded (cs ++ cs') := by
  induction h with
  | nil               => exact h'
  | plain hc _ hi     => exact .plain hc hi
  | escape ha hb _ hi => exact .escape ha hb hi

theorem encoded_bytes : Encoded (bs.flatMap encodeByte) := by
  induction bs with
  | nil => exact .nil
  | cons b bs hi =>
    have hh : b.toNat / 16 < 16 := by have := b.toNat_lt; omega
    have hl : b.toNat % 16 < 16 := Nat.mod_lt _ (by decide)
    exact .escape (isUpperHex_hexDigit hh) (isUpperHex_hexDigit hl) hi

theorem encoded_char : Encoded (encodeChar c) := by
  unfold encodeChar
  split
  case isTrue h => exact .plain (isUnreserved_iff.mp h) .nil
  case isFalse  => exact encoded_bytes

theorem encoded_encode : Encoded (encode s).toList := by
  rw [encode, String.toList_ofList]
  induction s.toList with
  | nil          => exact .nil
  | cons c cs hi => exact encoded_char.append hi

theorem isUnreserved_of_isUpperHex (h : isUpperHex c) : isUnreserved c := by
  rw [isUpperHex, Bool.or_eq_true, Bool.and_eq_true, decide_eq_true_eq, decide_eq_true_eq] at h
  rcases h with hd | ⟨hl, hg⟩
  · exact isUnreserved_iff.mpr (Or.inl (by rw [Char.isAlphanum, hd, Bool.or_true]))
  · have hz : c ≤ 'Z' := Char.le_trans hg (by decide)
    simp [isUnreserved, hl, hz]

-- Nothing but the percent sign has to be escaped and yet comes up in what is encoded.
theorem Encoded.not_mem (h : Encoded cs) (hp : c ≠ '%') (hc : isUnreserved c = false) : c ∉ cs := by
  have hx : ∀ c', isUnreserved c' → c ≠ c' := by
    rintro _ h rfl
    simp [h] at hc
  induction h with
  | nil => exact List.not_mem_nil
  | plain hc' _ hi => exact List.not_mem_cons_of_ne_of_not_mem (hx _ (isUnreserved_iff.mpr hc')) hi
  | escape ha hb _ hi =>
    simp only [List.mem_cons, not_or]
    exact ⟨hp, hx _ (isUnreserved_of_isUpperHex ha), hx _ (isUnreserved_of_isUpperHex hb), hi⟩

theorem slash_not_mem_encode : '/' ∉ (encode s).toList :=
  encoded_encode.not_mem (by decide) (by decide)

-- Decoding.

theorem decode_encodeByte : decode (encodeByte b ++ cs) = b :: decode cs := by
  have hh : b.toNat / 16 < 16 := by have := b.toNat_lt; omega
  have hl : b.toNat % 16 < 16 := Nat.mod_lt _ (by decide)
  have hb : UInt8.ofNat (16 * (b.toNat / 16) + b.toNat % 16) = b := by
    rw [Nat.div_add_mod, UInt8.ofNat_toNat]
  simp only [encodeByte, List.cons_append, List.nil_append, decode, hexValue?_hexDigit hh,
    hexValue?_hexDigit hl, hb]

theorem decode_encodeBytes : decode (bs.flatMap encodeByte ++ cs) = bs ++ decode cs := by
  induction bs with
  | nil => rfl
  | cons b bs hi =>
    rw [List.flatMap_cons, List.append_assoc, decode_encodeByte, hi, List.cons_append]

theorem decode_cons (h : c ≠ '%') : decode (c :: cs) = String.utf8EncodeChar c ++ decode cs := by
  rw [decode]
  rintro _ _ _ rfl
  contradiction

theorem decode_encodeChar : decode (encodeChar c ++ cs) = String.utf8EncodeChar c ++ decode cs := by
  unfold encodeChar
  split
  case isFalse  => exact decode_encodeBytes
  case isTrue h =>
    refine decode_cons ?_
    rintro rfl
    contradiction

theorem decode_encode : (decode (encode s).toList).toByteArray = s.toUTF8 := by
  have h : ∀ cs : List Char, decode (cs.flatMap encodeChar) = cs.flatMap String.utf8EncodeChar := by
    intro cs
    induction cs with
    | nil          => rfl
    | cons c cs hi => rw [List.flatMap_cons, decode_encodeChar, hi, List.flatMap_cons]
  rw [encode, String.toList_ofList, h]
  exact String.utf8Encode_toList

theorem encode_inj : encode s = encode s' ↔ s = s' := by
  refine ⟨fun h => ?_, fun h => h ▸ rfl⟩
  rw [← String.toByteArray_inj]
  exact decode_encode.symm.trans (h ▸ decode_encode)

theorem toList_encode_inj : (encode s).toList = (encode s').toList ↔ s = s' :=
  String.toList_inj.trans encode_inj

end Percent

namespace Endpoint

open Percent Text

variable {base : String} {k k' : ObjectKey} {s s' : SeriesKey}

-- The pieces of an address after its base.

def objectPieces (k : ObjectKey) : List (List Char) :=
  [[], "objects".toList, (encode k.server).toList, (encode k.object).toList]

def seriesPieces (k : ObjectKey) (s : SeriesKey) : List (List Char) :=
  objectPieces k ++ ["series".toList, (encode s.text).toList]

theorem toList_object : (object base k).toList =
    dropTrailing '/' base.toList ++ ['/'].intercalate (objectPieces k) := by
  have ho : "/objects/".toList = '/' :: ("objects".toList ++ ['/']) := by decide
  have hs : "/".toList = ['/'] := by decide
  simp only [object, objectPieces, String.toList_append, String.toList_ofList, ho, hs]
  simp [List.intercalate]

theorem toList_series : (series base k s).toList =
    dropTrailing '/' base.toList ++ ['/'].intercalate (seriesPieces k s) := by
  have hs : "/series/".toList = '/' :: ("series".toList ++ ['/']) := by decide
  simp only [series, seriesPieces, String.toList_append, toList_object, hs]
  simp [List.intercalate, objectPieces]

theorem slash_not_mem_objectPieces : ∀ piece ∈ objectPieces k, '/' ∉ piece := by
  simp only [objectPieces, List.forall_mem_cons]
  exact ⟨List.not_mem_nil, by decide, slash_not_mem_encode, slash_not_mem_encode,
    nofun⟩

theorem slash_not_mem_seriesPieces : ∀ piece ∈ seriesPieces k s, '/' ∉ piece := by
  simp only [seriesPieces, List.forall_mem_append, List.forall_mem_cons]
  exact ⟨slash_not_mem_objectPieces, by decide, slash_not_mem_encode, nofun⟩

theorem splitOn_objectPieces : splitOn '/' (['/'].intercalate (objectPieces k)) = objectPieces k :=
  splitOn_intercalate (List.cons_ne_nil _ _) slash_not_mem_objectPieces

theorem splitOn_seriesPieces :
    splitOn '/' (['/'].intercalate (seriesPieces k s)) = seriesPieces k s :=
  splitOn_intercalate (List.cons_ne_nil _ _) slash_not_mem_seriesPieces

-- The pieces tell the target.

theorem objectPieces_inj : objectPieces k = objectPieces k' ↔ k = k' := by
  obtain ⟨server, object⟩ := k
  obtain ⟨server', object'⟩ := k'
  simp [objectPieces, toList_encode_inj]

theorem seriesPieces_inj : seriesPieces k s = seriesPieces k' s' ↔ k = k' ∧ s = s' := by
  refine ⟨fun h => ?_, fun ⟨hk, hs⟩ => by rw [hk, hs]⟩
  have hl : ∀ k, (objectPieces k).length = 4 := fun _ => rfl
  rw [seriesPieces, seriesPieces] at h
  obtain ⟨ho, hs⟩ := List.append_inj h ((hl k).trans (hl k').symm)
  obtain ⟨text⟩ := s
  obtain ⟨text'⟩ := s'
  exact ⟨objectPieces_inj.mp ho, by simpa [toList_encode_inj] using hs⟩

theorem objectPieces_ne_seriesPieces : objectPieces k ≠ seriesPieces k' s := fun h =>
  absurd (congrArg List.length h) (by simp [objectPieces, seriesPieces])

-- The pieces are those between the slashes, so addresses with the same base have the same pieces if
-- they are the same.
theorem pieces_eq_of_intercalate_eq {ps qs : List (List Char)} {cs : List Char}
    (hp : splitOn '/' (['/'].intercalate ps) = ps) (hq : splitOn '/' (['/'].intercalate qs) = qs)
    (h : cs ++ ['/'].intercalate ps = cs ++ ['/'].intercalate qs) : ps = qs := by
  rw [← hp, ← hq, List.append_cancel_left h]

theorem object_inj : object base k = object base k' ↔ k = k' := by
  refine ⟨fun h => ?_, fun h => h ▸ rfl⟩
  rw [← String.toList_inj, toList_object, toList_object] at h
  exact objectPieces_inj.mp (pieces_eq_of_intercalate_eq splitOn_objectPieces splitOn_objectPieces h)

theorem series_inj : series base k s = series base k' s' ↔ k = k' ∧ s = s' := by
  refine ⟨fun h => ?_, fun ⟨hk, hs⟩ => by rw [hk, hs]⟩
  rw [← String.toList_inj, toList_series, toList_series] at h
  exact seriesPieces_inj.mp (pieces_eq_of_intercalate_eq splitOn_seriesPieces splitOn_seriesPieces h)

theorem object_ne_series : object base k ≠ series base k' s := by
  intro h
  rw [← String.toList_inj, toList_object, toList_series] at h
  exact objectPieces_ne_seriesPieces
    (pieces_eq_of_intercalate_eq splitOn_objectPieces splitOn_seriesPieces h)

-- Whatever characters a name has, its encoded form consists of unreserved characters and escapes and
-- stands for the bytes of the name. So an address tells its target: between the slashes after the
-- base it has the encoded names and nothing else that depends on the target, and addresses of two
-- targets differ.
theorem addresses_tell_targets (base : String) :
    (∀ name, Encoded (encode name).toList ∧ (decode (encode name).toList).toByteArray = name.toUTF8) ∧
    (∀ k k', object base k = object base k' ↔ k = k') ∧
    (∀ k k' s s', series base k s = series base k' s' ↔ k = k' ∧ s = s') ∧
    (∀ k k' s, object base k ≠ series base k' s) ∧
    (∀ k, ∃ path, (object base k).toList = dropTrailing '/' base.toList ++ path ∧
      splitOn '/' path =
        [[], "objects".toList, (encode k.server).toList, (encode k.object).toList]) ∧
    ∀ k s, ∃ path, (series base k s).toList = dropTrailing '/' base.toList ++ path ∧
      splitOn '/' path =
        [[], "objects".toList, (encode k.server).toList, (encode k.object).toList,
          "series".toList, (encode s.text).toList] :=
  ⟨fun _ => ⟨encoded_encode, decode_encode⟩, fun _ _ => object_inj, fun _ _ _ _ => series_inj,
    fun _ _ _ => object_ne_series, fun _ => ⟨_, toList_object, splitOn_objectPieces⟩,
    fun _ _ => ⟨_, toList_series, splitOn_seriesPieces⟩⟩

-- A slash and a letter that is not ASCII, in both names.
example : object "/api/" ⟨"a/b", "ä"⟩ = "/api/objects/a%2Fb/%C3%A4" := by decide +kernel

end Endpoint
end FleetMonitor
