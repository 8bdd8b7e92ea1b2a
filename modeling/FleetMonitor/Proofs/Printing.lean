import FleetMonitor.Json.Parser
import FleetMonitor.Json.Printer
import FleetMonitor.Proofs.Numerals

namespace FleetMonitor

namespace Token

-- What the digits of an integer are read as: a double if the integer does not fit 64 bits.
def integer? (n : Int) : Option Number :=
  numberValue? (n < 0) (Nat.toDigits 10 n.natAbs) [] [] 0

variable {c : Char} {m n : Int}

theorem integer?_eq_int_iff :
    integer? n = some (.int m) ↔
      n = m ∧ (IntRange.uint64.Contains n ∨ IntRange.int64.Contains n) := by
  have hv : Digits.value (Nat.toDigits 10 n.natAbs) = n.natAbs := by
    rw [Digits.value_eq, Nat.ofDigitChars_toDigits (by decide) (by decide)]
  have hu : ∀ x? : Option Float, x?.map Number.float ≠ some (.int m) := by
    intro x?
    cases x? <;> simp
  simp only [integer?, numberValue?, hv, true_and, decide_eq_true_eq, IntRange.Contains,
    IntRange.uint64, IntRange.int64]
  split
  case isTrue h =>
    simp only [Option.some.injEq, Number.int.injEq]
    omega
  case isFalse h =>
    split
    case isTrue h' =>
      simp only [Option.some.injEq, Number.int.injEq]
      omega
    case isFalse h' =>
      refine iff_of_false (hu _) ?_
      omega

theorem hexValue?_hexDigit : ∀ k < 16, hexValue? (Json.hexDigit k) = some k := by
  decide

theorem spell?_unit (h : c.toNat < 0x20) (ps : List Piece) :
    spell? (.unit c.toNat :: ps) = (spell? ps).map (c :: ·) := by
  conv => lhs; unfold spell?
  rw [if_pos (by omega), Char.ofNat_toNat]

theorem number?_toDigits {negative : Bool} {k : Nat} : number? negative (Nat.toDigits 10 k) =
    some (number (numberValue? negative (Nat.toDigits 10 k) [] [] 0)) := by
  have hd : ∀ c ∈ Nat.toDigits 10 k, Digits.isDigit c := fun c hc =>
    Digits.isDigit_iff.mpr (Digits.run_toDigits.digits c hc)
  have hs : Digits.span (Nat.toDigits 10 k ++ []) = (Nat.toDigits 10 k, []) :=
    Digits.span_append_of_head? hd (by simp)
  rw [List.append_nil] at hs
  have hz : ¬((Nat.toDigits 10 k).head? = some '0' ∧ Nat.toDigits 10 k ≠ ['0']) := by
    rintro ⟨hz, hk⟩
    rw [Digits.eq_zero_of_head?_toDigits hz] at hk
    exact hk rfl
  have hu : unsignedParts? (Nat.toDigits 10 k) = some (Nat.toDigits 10 k, [], []) := by
    simp [unsignedParts?, hs, hz, Nat.toDigits_ne_nil]
  rw [number?, hu]
  rfl

theorem ofWord?_toDigits {k : Nat} :
    ofWord? (Nat.toDigits 10 k) = number? false (Nat.toDigits 10 k) := by
  obtain ⟨d, ds, hd⟩ := List.exists_cons_of_ne_nil (Nat.toDigits_ne_nil (n := k) (b := 10))
  have hc : d.isDigit := Digits.run_toDigits.digits d (hd ▸ List.mem_cons_self)
  have hn : d ≠ 'n' := by rintro rfl; contradiction
  have ht : d ≠ 't' := by rintro rfl; contradiction
  have hf : d ≠ 'f' := by rintro rfl; contradiction
  have hm : d ≠ '-' := by rintro rfl; contradiction
  rw [hd]
  simp [ofWord?, hn, ht, hf, hm]

theorem ofWord?_renderNumber : ofWord? (Json.renderNumber (.int n)) = some (number (integer? n)) := by
  rw [Json.renderNumber, integer?]
  split
  case isTrue h =>
    rw [decide_eq_true h, ← number?_toDigits]
    rfl
  case isFalse h => rw [decide_eq_false h, ofWord?_toDigits, number?_toDigits]

theorem renderNumber_ne_nil : Json.renderNumber (.int n) ≠ [] := by
  rw [Json.renderNumber]
  split
  case isTrue  => exact List.cons_ne_nil _ _
  case isFalse => exact Nat.toDigits_ne_nil

theorem isWordChar_of_mem_renderNumber (h : c ∈ Json.renderNumber (.int n)) : isWordChar c := by
  have hd : ∀ c ∈ Nat.toDigits 10 n.natAbs, isWordChar c := fun c hc => by
    simp [isWordChar, Digits.isDigit_iff.mpr (Digits.run_toDigits.digits c hc)]
  rw [Json.renderNumber] at h
  split at h
  case isTrue =>
    rcases List.mem_cons.mp h with rfl | h
    · rfl
    · exact hd c h
  case isFalse => exact hd c h

end Token

namespace Scanner

open Token

-- What comes of the text `cs` after the tokens `ts`, which stand in reverse.
def reads? (ts : List Token) (cs : List Char) : Option (List Token) :=
  (run? ⟨.between, ts⟩ cs).bind finish?

-- No word goes on with `cs`.
def Stops (cs : List Char) : Prop :=
  ∀ c ∈ cs.head?, isWordChar c = false

variable {c : Char} {cs rest word : List Char} {t : Token} {ts : List Token} {ps : List Piece}

theorem run?_word (h : ∀ c ∈ word, isWordChar c) :
    run? ⟨.word cs, ts⟩ (word ++ rest) = run? ⟨.word (word.reverse ++ cs), ts⟩ rest := by
  induction word generalizing cs with
  | nil => rfl
  | cons c word hi =>
    obtain ⟨hc, hw⟩ := List.forall_mem_cons.mp h
    simp only [List.cons_append, run?, step?, if_pos hc, Option.bind_some, hi hw]
    simp

theorem begin?_of_isWordChar (h : isWordChar c) : begin? ts c = some ⟨.word [c], ts⟩ := by
  have hs : isSpace c = false := by
    refine Bool.eq_false_iff.mpr fun hs => ?_
    simp only [isSpace, Bool.or_eq_true, decide_eq_true_eq] at hs
    rcases hs with ((rfl | rfl) | rfl) | rfl <;> contradiction
  have hq : c ≠ '"' := by
    rintro rfl
    contradiction
  rw [begin?, if_neg (by simp [hs]), if_neg hq, if_pos h]

theorem reads?_word (hn : word ≠ []) (hw : ∀ c ∈ word, isWordChar c) (ht : ofWord? word = some t)
    (hr : Stops rest) : reads? ts (word ++ rest) = reads? (t :: ts) rest := by
  cases word with
  | nil => contradiction
  | cons c word =>
    obtain ⟨hc, hw⟩ := List.forall_mem_cons.mp hw
    have he : endWord? (word.reverse ++ [c]) ts = some (t :: ts) := by
      rw [endWord?, ← List.reverse_cons, List.reverse_reverse, ht, Option.map_some]
    have hb : run? ⟨.between, ts⟩ (c :: word ++ rest) =
        run? ⟨.word (word.reverse ++ [c]), ts⟩ rest := by
      rw [List.cons_append, run?, step?, begin?_of_isWordChar hc, Option.bind_some, run?_word hw]
    rw [reads?, reads?, hb]
    cases rest with
    | nil => exact congrArg (Option.map _) he
    | cons c' rest =>
      have hc' : isWordChar c' = false := hr c' rfl
      simp only [run?, step?, hc', Bool.false_eq_true, if_false, he, Option.bind_some]

theorem not_isWordChar_of_mark? (h : mark? c = some t) : isWordChar c = false := by
  unfold mark? at h
  split at h <;> first | contradiction | rfl

theorem stops_mark (h : mark? c = some t) : Stops (c :: cs) := by
  intro c' hc
  exact Option.some.inj hc ▸ not_isWordChar_of_mark? h

theorem reads?_mark (h : mark? c = some t) : reads? ts (c :: cs) = reads? (t :: ts) cs := by
  have hs : isSpace c = false ∧ c ≠ '"' := by
    unfold mark? at h
    split at h <;> first | contradiction | decide
  simp [reads?, run?, step?, begin?, hs, not_isWordChar_of_mark? h, h]

theorem run?_unit (h : c.toNat < 0x20) :
    run? ⟨.quoted ps, ts⟩ (['\\', 'u', '0', '0', Json.hexDigit (c.toNat / 16),
      Json.hexDigit (c.toNat % 16)] ++ rest) = run? ⟨.quoted (.unit c.toNat :: ps), ts⟩ rest := by
  have hz : hexValue? '0' = some 0 := rfl
  have hh : hexValue? (Json.hexDigit (c.toNat / 16)) = some (c.toNat / 16) :=
    hexValue?_hexDigit _ (by omega)
  have hl : hexValue? (Json.hexDigit (c.toNat % 16)) = some (c.toNat % 16) :=
    hexValue?_hexDigit _ (by omega)
  have hv : 16 * (c.toNat / 16) + c.toNat % 16 = c.toNat := Nat.div_add_mod _ _
  simp [run?, step?, hz, hh, hl, hv]

-- Every character of quoted text is read back, whether it was escaped or not.
theorem exists_piece (c : Char) : ∃ p, (∀ qs, spell? (p :: qs) = (spell? qs).map (c :: ·)) ∧
    ∀ ps ts rest, run? ⟨.quoted ps, ts⟩ (Json.escapeChar c ++ rest) =
      run? ⟨.quoted (p :: ps), ts⟩ rest := by
  unfold Json.escapeChar
  split_ifs with h₁ h₂ h₃ h₄ h₅ h₆ h₇ h₈
  any_goals
    subst c
    exact ⟨.char _, fun _ => rfl, fun _ _ _ => rfl⟩
  case pos => exact ⟨.unit c.toNat, spell?_unit h₈, fun _ _ _ => run?_unit h₈⟩
  case neg =>
    refine ⟨.char c, fun _ => rfl, fun ps ts rest => ?_⟩
    simp only [List.singleton_append, run?, step?, if_neg h₁, if_neg h₂, if_neg h₈, Option.bind_some]

theorem exists_pieces (cs : List Char) : ∃ ps, spell? ps = some cs ∧
    ∀ qs ts rest, run? ⟨.quoted qs, ts⟩ (cs.flatMap Json.escapeChar ++ rest) =
      run? ⟨.quoted (ps.reverse ++ qs), ts⟩ rest := by
  induction cs with
  | nil => exact ⟨[], rfl, fun _ _ _ => rfl⟩
  | cons c cs hi =>
    obtain ⟨ps, hs, hr⟩ := hi
    obtain ⟨p, hp, hc⟩ := exists_piece c
    refine ⟨p :: ps, by rw [hp, hs, Option.map_some], fun qs ts rest => ?_⟩
    rw [List.flatMap_cons, List.append_assoc, hc, hr, List.reverse_cons, List.append_assoc,
      List.singleton_append]

theorem reads?_quote {s : String} : reads? ts (Json.quote s ++ rest) = reads? (.text (some s) :: ts) rest := by
  obtain ⟨ps, hs, hr⟩ := exists_pieces s.toList
  have hb : run? ⟨.between, ts⟩ (Json.quote s ++ rest) =
      run? ⟨.between, .text (some s) :: ts⟩ rest := by
    simp only [Json.quote, List.cons_append, List.append_assoc, run?, step?]
    simp [begin?, isSpace, hr, run?, step?, hs]
  rw [reads?, reads?, hb]

end Scanner

namespace Json

mutual

-- No number is written with a point or an exponent.
def Integral : Json → Prop
  | number n       => ∃ i, n = .int i
  | array items    => IntegralItems items
  | object members => IntegralMembers members
  | _              => True

def IntegralItems : List Json → Prop
  | []      => True
  | j :: js => j.Integral ∧ IntegralItems js

def IntegralMembers : List (String × Json) → Prop
  | []           => True
  | (_, j) :: ms => j.Integral ∧ IntegralMembers ms

end

mutual

-- What a value stands in text as.
def document : Json → Document
  | null             => .null
  | bool b           => .bool b
  | number (.int n)  => .number (Token.integer? n)
  | number n         => .number (some n)
  | text s           => .text (some s)
  | array items      => .array (documents items)
  | object members   => .object (memberDocuments members)

def documents : List Json → List Document
  | []      => []
  | j :: js => j.document :: documents js

def memberDocuments : List (String × Json) → List (Option String × Document)
  | []              => []
  | (name, j) :: ms => (some name, j.document) :: memberDocuments ms

end

mutual

def tokens : Json → List Token
  | null             => [.null]
  | bool b           => [.bool b]
  | number (.int n)  => [.number (Token.integer? n)]
  | number n         => [.number (some n)]
  | text s           => [.text (some s)]
  | array items      => .openArray :: (tokensOfItems items ++ [.closeArray])
  | object members   => .openObject :: (tokensOfMembers members ++ [.closeObject])

def tokensOfItems : List Json → List Token
  | []      => []
  | [j]     => j.tokens
  | j :: js => j.tokens ++ .comma :: tokensOfItems js

def tokensOfMembers : List (String × Json) → List Token
  | []               => []
  | [(name, j)]      => .text (some name) :: .colon :: j.tokens
  | (name, j) :: ms  => .text (some name) :: .colon :: (j.tokens ++ .comma :: tokensOfMembers ms)

end

section Reading

open Scanner

mutual

theorem reads?_render (j : Json) (h : j.Integral) {ts : List Token} {rest : List Char}
    (hr : Stops rest) : reads? ts (render j ++ rest) = reads? (j.tokens.reverse ++ ts) rest := by
  cases j with
  | null => exact reads?_word (by simp [render]) (by simp [render]; decide) rfl hr
  | bool b => cases b <;> exact reads?_word (by simp [render]) (by simp [render]; decide) rfl hr
  | number n =>
    obtain ⟨i, rfl⟩ := h
    exact reads?_word Token.renderNumber_ne_nil (fun _ => Token.isWordChar_of_mem_renderNumber)
      Token.ofWord?_renderNumber hr
  | text s => exact reads?_quote
  | array items =>
    rw [Integral] at h
    simp only [render, tokens, List.cons_append, List.append_assoc,
      List.reverse_cons, List.reverse_append, List.reverse_nil, List.nil_append]
    rw [reads?_mark (t := .openArray) rfl, reads?_renderItems items h (stops_mark rfl),
      reads?_mark (t := .closeArray) rfl]
  | object ms =>
    rw [Integral] at h
    simp only [render, tokens, List.cons_append, List.append_assoc,
      List.reverse_cons, List.reverse_append, List.reverse_nil, List.nil_append]
    rw [reads?_mark (t := .openObject) rfl, reads?_renderMembers ms h (stops_mark rfl),
      reads?_mark (t := .closeObject) rfl]

theorem reads?_renderItems (js : List Json) (h : IntegralItems js) {ts : List Token}
    {rest : List Char} (hr : Stops rest) :
    reads? ts (renderItems js ++ rest) = reads? ((tokensOfItems js).reverse ++ ts) rest := by
  rcases js with _ | ⟨j, _ | ⟨j', js⟩⟩
  case nil      => rfl
  case cons.nil => exact reads?_render j h.left hr
  case cons.cons =>
    simp only [renderItems, tokensOfItems, List.append_assoc, List.cons_append]
    rw [reads?_render j h.left (stops_mark rfl), reads?_mark (t := .comma) rfl,
      reads?_renderItems (j' :: js) h.right hr]
    simp

theorem reads?_renderMembers (ms : List (String × Json)) (h : IntegralMembers ms) {ts : List Token}
    {rest : List Char} (hr : Stops rest) :
    reads? ts (renderMembers ms ++ rest) = reads? ((tokensOfMembers ms).reverse ++ ts) rest := by
  rcases ms with _ | ⟨⟨name, j⟩, _ | ⟨m, ms⟩⟩
  case nil => rfl
  case cons.nil =>
    simp only [renderMembers, tokensOfMembers, List.append_assoc, List.cons_append]
    rw [reads?_quote, reads?_mark (t := .colon) rfl, reads?_render j h.left hr]
    simp
  case cons.cons =>
    simp only [renderMembers, tokensOfMembers, List.append_assoc, List.cons_append]
    rw [reads?_quote, reads?_mark (t := .colon) rfl,
      reads?_render j h.left (stops_mark rfl), reads?_mark (t := .comma) rfl,
      reads?_renderMembers (m :: ms) h.right hr]
    simp

end

end Reading

section Parsing

open FleetMonitor.Parser

theorem head?_tokens (j : Json) : ∃ t ts, j.tokens = t :: ts ∧ ∀ stack,
    step? ⟨.itemOrEnd, stack⟩ t = step? ⟨.value, stack⟩ t := by
  cases j with
  | number n => cases n <;> exact ⟨_, _, rfl, fun _ => rfl⟩
  | _        => exact ⟨_, _, rfl, fun _ => rfl⟩

-- The first item of an array is read like the others.
theorem run?_itemOrEnd {stack : List Frame} {ts : List Token} (j : Json) :
    run? ⟨.itemOrEnd, stack⟩ (j.tokens ++ ts) = run? ⟨.value, stack⟩ (j.tokens ++ ts) := by
  obtain ⟨t, ts', ht, hs⟩ := j.head?_tokens
  rw [ht, List.cons_append, run?, run?, hs]

mutual

theorem run?_tokens (j : Json) {stack : List Frame} {ts : List Token} :
    run? ⟨.value, stack⟩ (j.tokens ++ ts) = run? ⟨.rest j.document, stack⟩ ts := by
  cases j with
  | null | bool | text => rfl
  | number n => cases n <;> rfl
  | array items =>
    rw [tokens, document, List.cons_append, List.append_assoc]
    cases items with
    | nil => rfl
    | cons j js =>
      have hf : run? ⟨.itemOrEnd, .array [] :: stack⟩ (tokensOfItems (j :: js) ++ .closeArray :: ts) =
          run? ⟨.value, .array [] :: stack⟩ (tokensOfItems (j :: js) ++ .closeArray :: ts) := by
        cases js with
        | nil    => exact run?_itemOrEnd j
        | cons _ => simp only [tokensOfItems, List.append_assoc, run?_itemOrEnd]
      exact hf.trans (run?_tokensOfItems (j :: js) (List.cons_ne_nil _ _))
  | object ms =>
    rw [tokens, document, List.cons_append, List.append_assoc]
    cases ms with
    | nil       => rfl
    | cons m ms =>
      have hf : run? ⟨.nameOrEnd, stack⟩ (tokensOfMembers (m :: ms) ++ .closeObject :: ts) =
          run? ⟨.name [], stack⟩ (tokensOfMembers (m :: ms) ++ .closeObject :: ts) := by
        cases ms <;> rfl
      exact hf.trans (run?_tokensOfMembers (m :: ms) (List.cons_ne_nil _ _))

theorem run?_tokensOfItems (js : List Json) (hn : js ≠ []) {ds : List Document} {stack : List Frame}
    {ts : List Token} :
    run? ⟨.value, .array ds :: stack⟩ (tokensOfItems js ++ .closeArray :: ts) =
      run? ⟨.rest (.array (ds.reverse ++ documents js)), stack⟩ ts := by
  rcases js with _ | ⟨j, _ | ⟨j', js⟩⟩
  case nil => contradiction
  case cons.nil =>
    rw [tokensOfItems, run?_tokens j]
    simp [run?, step?, rest?, documents]
  case cons.cons =>
    simp only [tokensOfItems, List.append_assoc, List.cons_append]
    rw [run?_tokens j]
    simp only [run?, step?, rest?, Option.bind_some]
    rw [run?_tokensOfItems (j' :: js) (List.cons_ne_nil _ _)]
    simp [documents]

theorem run?_tokensOfMembers (ms : List (String × Json)) (hn : ms ≠ [])
    {ds : List (Option String × Document)} {stack : List Frame} {ts : List Token} :
    run? ⟨.name ds, stack⟩ (tokensOfMembers ms ++ .closeObject :: ts) =
      run? ⟨.rest (.object (ds.reverse ++ memberDocuments ms)), stack⟩ ts := by
  rcases ms with _ | ⟨⟨name, j⟩, _ | ⟨m, ms⟩⟩
  case nil => contradiction
  case cons.nil =>
    simp only [tokensOfMembers, List.cons_append, run?, step?, Option.bind_some]
    rw [run?_tokens j]
    simp [run?, step?, rest?, memberDocuments]
  case cons.cons =>
    simp only [tokensOfMembers, List.cons_append, List.append_assoc, run?, step?, Option.bind_some]
    rw [run?_tokens j]
    simp only [run?, step?, rest?, Option.bind_some]
    rw [run?_tokensOfMembers (m :: ms) (List.cons_ne_nil _ _)]
    simp [memberDocuments]

end

end Parsing

-- The text of a value without fractions is read as what the value stands in text as.
theorem parse?_compact {j : Json} (h : j.Integral) : Document.parse? j.compact = some j.document := by
  have hr : Scanner.reads? [] (render j ++ []) = Scanner.reads? (j.tokens.reverse ++ []) [] :=
    reads?_render j h fun _ hc => by contradiction
  have hs : Token.scan? (render j) = some j.tokens := by
    rw [List.append_nil, List.append_nil] at hr
    exact hr.trans (congrArg some (List.reverse_reverse _))
  have hp : Parser.run? ⟨.value, []⟩ (j.tokens ++ []) = some ⟨.rest j.document, []⟩ :=
    run?_tokens j
  rw [List.append_nil] at hp
  rw [Document.parse?, compact, String.toList_ofList, hs, Option.bind_some, Parser.start, hp]
  rfl

end Json

end FleetMonitor
