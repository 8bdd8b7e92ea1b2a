import FleetMonitor.Config
import FleetMonitor.Proofs.Numerals

namespace FleetMonitor

namespace Config

open IntRange

-- What a numeric parameter sets.
inductive Sets (lookup : String → Option String) (r : IntRange) (key : String) (default : Int) :
    Int → Prop
  | absent (h : lookup key = none) : Sets lookup r key default default
  | given (hl : lookup key = some raw) (hn : r.Holds raw n) : Sets lookup r key default n

-- A parameter with a text that is no number of its range.
structure Unreadable (lookup : String → Option String) (r : IntRange) (key raw : String) : Prop where
  present : lookup key = some raw
  holds   : ∀ n, ¬r.Holds raw n

-- The part of a path in front of the slashes at its end.
structure Stripped (path base : String) : Prop where
  slashes : ∃ n, path.toList = base.toList ++ List.replicate n '/'
  last    : base.toList.getLast? ≠ some '/'

-- A configuration with the settings that the parameters give.
structure Given (lookup : String → Option String) (c : Config) : Prop where
  endpoint  : c.streamEndpoint = (lookup "endpoint").getD default.streamEndpoint
  base      : Stripped ((lookup "api").getD default.apiBase) c.apiBase
  token     : ∀ t, c.token? = some t ↔
    lookup "token" = some t ∧ ∃ ch ∈ t.toList, Text.isBlank ch = false
  ratio     : c.jitterRatio = default.jitterRatio
  attempts  : Sets lookup .uint32 "maxReconnect" default.maxReconnectAttempts.toNat
    c.maxReconnectAttempts.toNat
  baseDelay : Sets lookup .uint64 "reconnectDelay" default.baseDelay.toNat c.baseDelay.toNat
  maxDelay  : Sets lookup .uint64 "maxReconnectDelay" default.maxDelay.toNat c.maxDelay.toNat
  interval  : Sets lookup .uint64 "pollInterval" default.pollInterval.toNat c.pollInterval.toNat
  capacity  : Sets lookup .uint64 "points" default.seriesCapacity.toNat c.seriesCapacity.toNat
  span      : Sets lookup .int64 "window" default.windowSpan.toInt c.windowSpan.toInt

-- The numeric parameters and their ranges.
def numbers : List (String × IntRange) :=
  [("maxReconnect", .uint32), ("reconnectDelay", .uint64), ("maxReconnectDelay", .uint64),
   ("pollInterval", .uint64), ("points", .uint64), ("window", .int64)]

-- Numbers with which a session can work.
structure Workable (c : Config) : Prop where
  attempts : 1 ≤ c.maxReconnectAttempts.toNat
  capacity : 1 ≤ c.seriesCapacity.toNat
  delays   : c.baseDelay.toNat ≤ c.maxDelay.toNat
  interval : 0 < c.pollInterval.toNat
  span     : 0 < c.windowSpan.toInt

-- Why parameters are refused.
inductive Refuses (lookup : String → Option String) : ConfigFault → Prop
  | unparsable (hm : (key, r) ∈ numbers) (h : Unreadable lookup r key raw) :
    Refuses lookup (.unparsable key raw)
  | unworkable (h : Given lookup c) (hf : c.fault? = some f) : Refuses lookup f

variable {lookup : String → Option String} {r : IntRange} {key path base token t : String} {d m n : Int}
  {c c' : Config}

-- Single parameters.

theorem param_eq_ok_iff : param lookup r key d = .ok n ↔ Sets lookup r key d n := by
  unfold param
  constructor
  case mp =>
    intro h
    split at h
    case h_1 hl => exact Except.ok.inj h ▸ .absent hl
    case h_2 raw hl =>
      split at h
      case h_1 hr => exact Except.ok.inj h ▸ .given hl (read?_trim_eq_some_iff.mp hr)
      case h_2    => contradiction
  case mpr =>
    intro h
    cases h with
    | absent hl   => simp [hl]
    | given hl hn => simp [hl, read?_trim_eq_some_iff.mpr hn]

theorem param_cases : (∃ n, param lookup r key d = .ok n) ∨
    ∃ raw, Unreadable lookup r key raw ∧
      param lookup r key d = .error (.config (.unparsable key raw)) := by
  unfold param
  split
  case h_1 => exact .inl ⟨_, rfl⟩
  case h_2 raw hl =>
    split
    case h_1    => exact .inl ⟨_, rfl⟩
    case h_2 hr =>
      have hn : ∀ n, ¬r.Holds raw n := fun n hn => by simp [read?_trim_eq_some_iff.mpr hn] at hr
      exact .inr ⟨raw, ⟨hl, hn⟩, rfl⟩

theorem Sets.contains (h : Sets lookup r key d n) (hd : r.Contains d) : r.Contains n := by
  cases h with
  | absent     => exact hd
  | given _ hn => exact hn.left

theorem Sets.exists_holds (h : Sets lookup r key d n) :
    ∀ raw, lookup key = some raw → ∃ n, r.Holds raw n := by
  intro raw hr
  cases h with
  | absent hl   => simp [hl] at hr
  | given hl hn => exact ⟨n, Option.some.inj (hl.symm.trans hr) ▸ hn⟩

theorem dropTrailingSlashes_eq_iff : dropTrailingSlashes path = base ↔ Stripped path base := by
  rw [dropTrailingSlashes]
  constructor
  case mp =>
    rintro rfl
    refine ⟨?slashes, ?last⟩ <;> rw [String.toList_ofList]
    case slashes => exact Text.exists_dropTrailing
    case last    => exact Text.getLast?_dropTrailing
  case mpr =>
    rintro ⟨⟨n, hp⟩, hl⟩
    rw [hp, Text.dropTrailing_append_replicate hl, String.ofList_toList]

theorem presentToken?_eq_some_iff : presentToken? token = some t ↔
    token = t ∧ ∃ ch ∈ t.toList, Text.isBlank ch = false := by
  rw [presentToken?]
  split <;> rename_i h <;> rw [List.isEmpty_iff, Text.trim_eq_nil_iff] at h
  case isTrue =>
    refine iff_of_false (by simp) ?_
    rintro ⟨rfl, ch, hm, hb⟩
    simp [h ch hm] at hb
  case isFalse =>
    have hb : ∃ ch ∈ token.toList, Text.isBlank ch = false := by simpa using h
    constructor
    case mp  => intro ht; exact Option.some.inj ht ▸ ⟨rfl, hb⟩
    case mpr => rintro ⟨rfl, _⟩; rfl

theorem bind_presentToken?_eq_some_iff : (lookup "token").bind presentToken? = some t ↔
    lookup "token" = some t ∧ ∃ ch ∈ t.toList, Text.isBlank ch = false := by
  simp only [Option.bind_eq_some_iff, presentToken?_eq_some_iff]
  constructor
  · rintro ⟨_, hl, rfl, hb⟩
    exact ⟨hl, hb⟩
  · rintro ⟨hl, hb⟩
    exact ⟨t, hl, rfl, hb⟩

-- All parameters together.

-- The configuration with the given numbers.
def assembled (lookup : String → Option String)
    (attempts baseDelay maxDelay interval capacity span : Int) : Config where
  streamEndpoint       := (lookup "endpoint").getD default.streamEndpoint
  apiBase              := dropTrailingSlashes ((lookup "api").getD default.apiBase)
  token?               := (lookup "token").bind presentToken?
  maxReconnectAttempts := .ofNat attempts.toNat
  baseDelay            := .ofNat baseDelay.toNat
  maxDelay             := .ofNat maxDelay.toNat
  jitterRatio          := default.jitterRatio
  pollInterval         := .ofNat interval.toNat
  seriesCapacity       := .ofNat capacity.toNat
  windowSpan           := .ofInt span

theorem toNat_ofNat_toNat_of_uint32 (h : uint32.Contains n) : ((UInt32.ofNat n.toNat).toNat : Int) = n := by
  obtain ⟨hl, hg⟩ := h
  simp only [uint32] at hl hg
  rw [UInt32.toNat_ofNat_of_lt' (by simp only [UInt32.size]; omega)]
  exact Int.toNat_of_nonneg hl

theorem toNat_ofNat_toNat_of_uint64 (h : uint64.Contains n) : ((UInt64.ofNat n.toNat).toNat : Int) = n := by
  obtain ⟨hl, hg⟩ := h
  simp only [uint64] at hl hg
  rw [UInt64.toNat_ofNat_of_lt' (by simp only [UInt64.size]; omega)]
  exact Int.toNat_of_nonneg hl

theorem toInt_ofInt_of_int64 (h : int64.Contains n) : (Int64.ofInt n).toInt = n :=
  Int64.toInt_ofInt_of_le h.left (Int.lt_of_le_of_lt h.right (by decide))

theorem given_assembled {a b m i p w : Int}
    (ha : Sets lookup .uint32 "maxReconnect" default.maxReconnectAttempts.toNat a)
    (hb : Sets lookup .uint64 "reconnectDelay" default.baseDelay.toNat b)
    (hm : Sets lookup .uint64 "maxReconnectDelay" default.maxDelay.toNat m)
    (hi : Sets lookup .uint64 "pollInterval" default.pollInterval.toNat i)
    (hp : Sets lookup .uint64 "points" default.seriesCapacity.toNat p)
    (hw : Sets lookup .int64 "window" default.windowSpan.toInt w) :
    Given lookup (assembled lookup a b m i p w) where
  endpoint  := rfl
  base      := dropTrailingSlashes_eq_iff.mp rfl
  token _   := bind_presentToken?_eq_some_iff
  ratio     := rfl
  attempts  := by rwa [assembled, toNat_ofNat_toNat_of_uint32 (ha.contains (by decide))]
  baseDelay := by rwa [assembled, toNat_ofNat_toNat_of_uint64 (hb.contains (by decide))]
  maxDelay  := by rwa [assembled, toNat_ofNat_toNat_of_uint64 (hm.contains (by decide))]
  interval  := by rwa [assembled, toNat_ofNat_toNat_of_uint64 (hi.contains (by decide))]
  capacity  := by rwa [assembled, toNat_ofNat_toNat_of_uint64 (hp.contains (by decide))]
  span      := by rwa [assembled, toInt_ofInt_of_int64 (hw.contains (by decide))]

theorem Given.eq_assembled (h : Given lookup c) : assembled lookup c.maxReconnectAttempts.toNat
    c.baseDelay.toNat c.maxDelay.toNat c.pollInterval.toNat c.seriesCapacity.toNat
    c.windowSpan.toInt = c := by
  have ht : (lookup "token").bind presentToken? = c.token? := by
    ext t
    exact bind_presentToken?_eq_some_iff.trans (h.token t).symm
  simp [assembled, dropTrailingSlashes_eq_iff.mpr h.base, ht, ← h.endpoint, ← h.ratio]

-- Only the check of the numbers is left then.
theorem Given.ofParams_eq (h : Given lookup c) : ofParams lookup = validate c := by
  have hc := h.eq_assembled
  rw [ofParams, param_eq_ok_iff.mpr h.attempts, param_eq_ok_iff.mpr h.baseDelay,
    param_eq_ok_iff.mpr h.maxDelay, param_eq_ok_iff.mpr h.interval, param_eq_ok_iff.mpr h.capacity,
    param_eq_ok_iff.mpr h.span]
  exact congrArg validate hc

-- Either all numbers can be read, or the result is the error about one that cannot.
def Settles (lookup : String → Option String) (result : Except MonitorError Config) : Prop :=
  (∃ c, Given lookup c) ∨ ∃ key r raw, (key, r) ∈ numbers ∧ Unreadable lookup r key raw ∧
    result = .error (.config (.unparsable key raw))

theorem settles_bind {f : Int → Except MonitorError Config} (hm : (key, r) ∈ numbers)
    (h : ∀ n, Sets lookup r key d n → Settles lookup (f n)) :
    Settles lookup (param lookup r key d >>= f) := by
  rcases param_cases with ⟨n, hp⟩ | ⟨raw, hu, hp⟩
  case inl =>
    rw [hp]
    exact h n (param_eq_ok_iff.mp hp)
  case inr =>
    rw [hp]
    exact .inr ⟨key, r, raw, hm, hu, rfl⟩

theorem settles_ofParams : Settles lookup (ofParams lookup) := by
  refine settles_bind (by simp [numbers]) fun a ha => ?_
  refine settles_bind (by simp [numbers]) fun b hb => ?_
  refine settles_bind (by simp [numbers]) fun m hm => ?_
  refine settles_bind (by simp [numbers]) fun i hi => ?_
  refine settles_bind (by simp [numbers]) fun p hp => ?_
  refine settles_bind (by simp [numbers]) fun w hw => ?_
  exact .inl ⟨_, given_assembled ha hb hm hi hp hw⟩

-- The check of the numbers.

theorem fault?_eq_none_iff (h : c.jitterRatio = default.jitterRatio) : c.fault? = none ↔ c.Workable := by
  have hr : 0.0 ≤ c.jitterRatio ∧ c.jitterRatio < 1.0 := by
    rw [h]
    decide +kernel
  have ha : c.maxReconnectAttempts = 0 ↔ c.maxReconnectAttempts.toNat = 0 := UInt32.toNat_inj.symm
  have hp : c.seriesCapacity = 0 ↔ c.seriesCapacity.toNat = 0 := UInt64.toNat_inj.symm
  have hi : c.pollInterval = 0 ↔ c.pollInterval.toNat = 0 := UInt64.toNat_inj.symm
  have hd : c.maxDelay < c.baseDelay ↔ c.maxDelay.toNat < c.baseDelay.toNat := UInt64.lt_iff_toNat_lt
  have hw : c.windowSpan ≤ 0 ↔ c.windowSpan.toInt ≤ 0 := Int64.le_iff_toInt_le
  simp only [fault?, ha, hp, hi, hd, hw, hr]
  constructor
  case mp =>
    intro hn
    split_ifs at hn
    exact ⟨by omega, by omega, by omega, by omega, by omega⟩
  case mpr =>
    rintro ⟨ha, hp, hd, hi, hw⟩
    rw [if_neg (by omega), if_neg (by omega), if_neg (by omega), if_neg (by simp),
      if_neg (by omega), if_neg (by omega)]

theorem validate_eq_ok_iff : validate c = .ok c' ↔ c.fault? = none ∧ c = c' := by
  rw [validate]
  split <;> simp [*]

theorem ofParams_eq_ok_iff : ofParams lookup = .ok c ↔ Given lookup c ∧ c.Workable := by
  constructor
  case mp =>
    intro h
    rcases settles_ofParams with ⟨c', hg⟩ | ⟨key, r, raw, _, _, he⟩
    case inl =>
      rw [hg.ofParams_eq] at h
      obtain ⟨hf, rfl⟩ := validate_eq_ok_iff.mp h
      exact ⟨hg, (fault?_eq_none_iff hg.ratio).mp hf⟩
    case inr =>
      rw [he] at h
      contradiction
  case mpr =>
    rintro ⟨hg, hw⟩
    rw [hg.ofParams_eq]
    exact validate_eq_ok_iff.mpr ⟨(fault?_eq_none_iff hg.ratio).mpr hw, rfl⟩

theorem Given.exists_holds (h : Given lookup c) :
    ∀ key r, (key, r) ∈ numbers → ∀ raw, lookup key = some raw → ∃ n, r.Holds raw n := by
  intro key r hm
  simp only [numbers, List.mem_cons, Prod.mk.injEq, List.not_mem_nil, or_false] at hm
  rcases hm with ⟨rfl, rfl⟩ | ⟨rfl, rfl⟩ | ⟨rfl, rfl⟩ | ⟨rfl, rfl⟩ | ⟨rfl, rfl⟩ | ⟨rfl, rfl⟩
  · exact h.attempts.exists_holds
  · exact h.baseDelay.exists_holds
  · exact h.maxDelay.exists_holds
  · exact h.interval.exists_holds
  · exact h.capacity.exists_holds
  · exact h.span.exists_holds

-- Parameters give a configuration exactly if every number that is written can be read and a session
-- can work with the numbers. It has the numbers that are written, the defaults of the others, the
-- endpoint as it is written, the base without the slashes at its end, and the token as it is written
-- unless it is blank. Everything else is a configuration error, and it says what is wrong.
theorem parameters_are_read_exactly (lookup : String → Option String) :
    ((∃ c, ofParams lookup = .ok c) ↔
      (∀ key r, (key, r) ∈ numbers → ∀ raw, lookup key = some raw → ∃ n, r.Holds raw n) ∧
      ∀ c, Given lookup c → c.Workable) ∧
    (∀ c, ofParams lookup = .ok c ↔ Given lookup c ∧ c.Workable) ∧
    ∀ e, ofParams lookup = .error e → ∃ f, e = .config f ∧ Refuses lookup f := by
  refine ⟨⟨?accepted, ?acceptable⟩, fun _ => ofParams_eq_ok_iff, ?refused⟩
  case accepted =>
    rintro ⟨c, hc⟩
    obtain ⟨hg, hw⟩ := ofParams_eq_ok_iff.mp hc
    refine ⟨hg.exists_holds, fun c' hg' => ?_⟩
    rw [hg'.ofParams_eq] at hc
    exact (validate_eq_ok_iff.mp hc).right ▸ hw
  case acceptable =>
    rintro ⟨hn, hw⟩
    rcases settles_ofParams with ⟨c, hg⟩ | ⟨key, r, raw, hm, hu, _⟩
    case inl => exact ⟨c, ofParams_eq_ok_iff.mpr ⟨hg, hw c hg⟩⟩
    case inr =>
      obtain ⟨n, hn⟩ := hn key r hm raw hu.present
      exact absurd hn (hu.holds n)
  case refused =>
    intro e h
    rcases settles_ofParams with ⟨c, hg⟩ | ⟨key, r, raw, hm, hu, he⟩
    case inl =>
      rw [hg.ofParams_eq, validate] at h
      split at h
      case h_1      => contradiction
      case h_2 f hf => exact ⟨f, (Except.error.inj h).symm, .unworkable hg hf⟩
    case inr =>
      rw [he] at h
      exact ⟨_, (Except.error.inj h).symm, .unparsable hm hu⟩

-- A plus and white space are no part of a number, but of a token they are.
theorem parameters_with_blanks :
    let lookup := fun key => List.lookup key
      [("maxReconnect", " +07\t"), ("token", " s3cret "), ("api", "/v2/api//"), ("window", "60000")]
    let wrong := fun key => List.lookup key [("points", "-0")]
    (∃ c, ofParams lookup = .ok c ∧ Given lookup c ∧ c.Workable ∧ c.maxReconnectAttempts = 7 ∧
      c.token? = some " s3cret " ∧ c.apiBase = "/v2/api" ∧ c.maxDelay = 30000) ∧
    ∃ e, ofParams wrong = .error e ∧ ∃ f, e = .config f ∧ Refuses wrong f := by
  intro lookup wrong
  constructor
  · have hs : ((ofParams lookup).toOption.map fun c =>
        (c.maxReconnectAttempts, c.token?, c.apiBase, c.maxDelay)) =
        some (7, some " s3cret ", "/v2/api", 30000) := by decide +kernel
    obtain ⟨_, hi, _⟩ := parameters_are_read_exactly lookup
    cases hc : ofParams lookup with
    | error e => simp [hc, Except.toOption] at hs
    | ok c    =>
      obtain ⟨hg, hw⟩ := (hi c).mp hc
      simp only [hc, Except.toOption, Option.map_some, Option.some.injEq, Prod.mk.injEq] at hs
      exact ⟨c, rfl, hg, hw, hs⟩
  · obtain ⟨_, _, hr⟩ := parameters_are_read_exactly wrong
    have he : (ofParams wrong).toOption.isSome = false := by decide +kernel
    cases hc : ofParams wrong with
    | error e => exact ⟨e, rfl, hr e hc⟩
    | ok c    => simp [hc, Except.toOption] at he

end Config
end FleetMonitor
