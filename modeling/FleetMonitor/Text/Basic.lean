namespace FleetMonitor.Text

-- The characters with the Unicode property White_Space.
def isBlank (c : Char) : Bool :=
  (0x09 ≤ c.toNat && c.toNat ≤ 0x0D) || c.toNat == 0x20 || c.toNat == 0x85 || c.toNat == 0xA0 ||
  c.toNat == 0x1680 || (0x2000 ≤ c.toNat && c.toNat ≤ 0x200A) || c.toNat == 0x2028 ||
  c.toNat == 0x2029 || c.toNat == 0x202F || c.toNat == 0x205F || c.toNat == 0x3000

def trimStart (cs : List Char) : List Char :=
  cs.dropWhile isBlank

def trimEnd (cs : List Char) : List Char :=
  (cs.reverse.dropWhile isBlank).reverse

def trim (cs : List Char) : List Char :=
  trimEnd (trimStart cs)

def dropTrailing (c : Char) (cs : List Char) : List Char :=
  (cs.reverse.dropWhile (· == c)).reverse

-- The pieces between the separators: one more than there are separators.
def splitOn (sep : Char) : List Char → List (List Char)
  | [] => [[]]
  | c :: cs =>
    if c = sep then [] :: splitOn sep cs
    else
      match splitOn sep cs with
      | []          => [[c]]
      | piece :: ps => (c :: piece) :: ps

-- The text before and after the first separator, if there is one.
def cut? (sep : Char) : List Char → Option (List Char × List Char)
  | [] => none
  | c :: cs =>
    if c = sep then some ([], cs)
    else (cut? sep cs).map fun (before, after) => (c :: before, after)

theorem splitOn_ne_nil {sep : Char} {cs : List Char} : splitOn sep cs ≠ [] := by
  cases cs with
  | nil => simp [splitOn]
  | cons c cs =>
    simp only [splitOn]
    split
    · simp
    · split <;> simp

theorem cut?_append {sep : Char} {before after : List Char} (h : sep ∉ before) :
    cut? sep (before ++ sep :: after) = some (before, after) := by
  induction before with
  | nil => simp [cut?]
  | cons c cs hi =>
    simp only [List.mem_cons, not_or] at h
    simp [cut?, Ne.symm h.1, hi h.2]

theorem eq_append_of_cut? {sep : Char} {cs before after : List Char}
    (h : cut? sep cs = some (before, after)) : cs = before ++ sep :: after := by
  induction cs generalizing before with
  | nil => simp [cut?] at h
  | cons c cs hi =>
    simp only [cut?] at h
    split at h
    case isTrue e => simp_all
    case isFalse =>
      obtain ⟨⟨b, a⟩, hc, hb⟩ := Option.map_eq_some_iff.1 h
      simp only [Prod.mk.injEq] at hb
      obtain ⟨rfl, rfl⟩ := hb
      simp [hi hc]

end FleetMonitor.Text
