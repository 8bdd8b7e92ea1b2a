import FleetMonitor.Connection
import FleetMonitor.Proofs.Members
import FleetMonitor.Proofs.Parameters
import FleetMonitor.Proofs.Printing

namespace FleetMonitor

open Source

namespace IntRange

-- A number that is not given fits every range.
def Fits (r : IntRange) (n? : Option Int) : Prop :=
  ∀ n ∈ n?, r.Contains n

-- An integer of the range fits 64 bits, so that a reader of numbers keeps it.
def IsNarrow (r : IntRange) : Prop :=
  ∀ n, r.Contains n → uint64.Contains n ∨ int64.Contains n

theorem isNarrow_uint32 : uint32.IsNarrow := fun n h => by
  simp only [Contains, uint32, uint64] at h ⊢
  omega

end IntRange

-- What a deployment chooses of the settings.
structure Choice where
  endpoint?  : Option String
  api?       : Option String
  token?     : Option String
  attempts?  : Option Int
  baseDelay? : Option Int
  maxDelay?  : Option Int
  interval?  : Option Int
  capacity?  : Option Int
  span?      : Option Int

namespace Choice

-- A token that is there and yet none.
def BlankToken (ch : Choice) : Prop :=
  ∃ token, ch.token? = some token ∧ ∀ c ∈ token.toList, Text.isBlank c

-- As the parameters of a page.
def params (ch : Choice) : List (String × Option String) :=
  [("endpoint", ch.endpoint?), ("api", ch.api?), ("token", ch.token?),
   ("maxReconnect", ch.attempts?.map toString), ("reconnectDelay", ch.baseDelay?.map toString),
   ("maxReconnectDelay", ch.maxDelay?.map toString), ("pollInterval", ch.interval?.map toString),
   ("points", ch.capacity?.map toString), ("window", ch.span?.map toString)]

def lookup (ch : Choice) (key : String) : Option String :=
  (ch.params.lookup key).join

-- As the members of a JSON block, in the order of their names.
def fields (ch : Choice) : List (String × Option Json) :=
  let integer (n : Int) : Json := .number (.int n)
  [("apiBase", ch.api?.map .text), ("baseReconnectDelayMs", ch.baseDelay?.map integer),
   ("defaultPollIntervalMs", ch.interval?.map integer),
   ("maxReconnectAttempts", ch.attempts?.map integer),
   ("maxReconnectDelayMs", ch.maxDelay?.map integer),
   ("seriesCapacity", ch.capacity?.map integer), ("streamEndpoint", ch.endpoint?.map .text),
   ("token", ch.token?.map .text), ("windowSpanMs", ch.span?.map integer)]

def block (ch : Choice) : Json :=
  .object (present ch.fields)

-- A text with the members of the block, in any order and with any space between its tokens.
def WrittenIn (ch : Choice) (raw : String) : Prop :=
  ∃ ms, Document.parse? raw = some (.object ms) ∧
    ms.Perm (Json.memberDocuments (present ch.fields))

-- Every number is one of its machine type.
structure InRange (ch : Choice) : Prop where
  attempts  : IntRange.uint32.Fits ch.attempts?
  baseDelay : IntRange.uint64.Fits ch.baseDelay?
  maxDelay  : IntRange.uint64.Fits ch.maxDelay?
  interval  : IntRange.uint64.Fits ch.interval?
  capacity  : IntRange.uint64.Fits ch.capacity?
  span      : IntRange.int64.Fits ch.span?

-- The configuration with everything as it was chosen.
def config (ch : Choice) : Config where
  streamEndpoint       := ch.endpoint?.getD Config.default.streamEndpoint
  apiBase              := ch.api?.getD Config.default.apiBase
  token?               := ch.token?
  maxReconnectAttempts :=
    ch.attempts?.elim Config.default.maxReconnectAttempts fun n => .ofNat n.toNat
  baseDelay            := ch.baseDelay?.elim Config.default.baseDelay fun n => .ofNat n.toNat
  maxDelay             := ch.maxDelay?.elim Config.default.maxDelay fun n => .ofNat n.toNat
  jitterRatio          := Config.default.jitterRatio
  pollInterval         := ch.interval?.elim Config.default.pollInterval fun n => .ofNat n.toNat
  seriesCapacity       := ch.capacity?.elim Config.default.seriesCapacity fun n => .ofNat n.toNat
  windowSpan           := ch.span?.elim Config.default.windowSpan .ofInt

end Choice

namespace Config

-- The configuration without slashes at the end of the base, and without a token of blanks.
def tidied (c : Config) : Config :=
  { c with
    apiBase := dropTrailingSlashes c.apiBase
    token?  := c.token?.bind presentToken? }

structure SameNumbers (c c' : Config) : Prop where
  attempts  : c.maxReconnectAttempts = c'.maxReconnectAttempts
  baseDelay : c.baseDelay = c'.baseDelay
  maxDelay  : c.maxDelay = c'.maxDelay
  ratio     : c.jitterRatio = c'.jitterRatio
  interval  : c.pollInterval = c'.pollInterval
  capacity  : c.seriesCapacity = c'.seriesCapacity
  span      : c.windowSpan = c'.windowSpan

-- The address that a session with the configuration streams from.
def streamUrl (c : Config) : String :=
  (Connection.new c).request.url

end Config

namespace Written

-- What the reader of a block finds where a text or an integer is printed.

def ofText (k : Nat) (s : String) : Written :=
  ⟨.text (some s), k⟩

def ofInt (k : Nat) (n : Int) : Written :=
  ⟨.number (Token.integer? n), k⟩

def ofJson (k : Nat) (j : Json) : Written :=
  ⟨j.document, k⟩

variable {k : Nat} {ms : List (String × Json)} {names : List String}

theorem inside_memberDocuments : inside k (Json.memberDocuments ms) =
    (ms.map (Prod.map id (ofJson k))).map fun (name, w) => (some name, w) := by
  induction ms with
  | nil          => rfl
  | cons m ms hi => exact congrArg (_ :: ·) hi

theorem fields?_memberDocuments :
    fields? names (⟨.object (Json.memberDocuments ms), k + 1⟩ : Written) =
      byName? (ms.map (Prod.map id (ofJson k))) names := by
  rw [fields?_object, readable?_eq_some_iff.mpr inside_memberDocuments, Option.bind_some]

variable {r : IntRange} {n : Int} {n? : Option Int} {s? x? : Option String} {x d : α}

theorem int?_ofInt (hr : r.IsNarrow) : int? r (ofInt k n) = if r.Contains n then some n else none := by
  unfold int?
  split
  case h_1 m hm =>
    obtain ⟨rfl, _⟩ := Token.integer?_eq_int_iff.mp hm
    rfl
  case h_2 hm =>
    exact (if_neg fun hc => hm n (Token.integer?_eq_int_iff.mpr ⟨rfl, hr n hc⟩)).symm

theorem orElse_int?_eq_some_iff {f : Int → α} (hr : r.IsNarrow) :
    orElse (fun s => (int? r s).map f) d (n?.map (ofInt k)) = some x ↔
      r.Fits n? ∧ n?.elim d f = x := by
  cases n? with
  | none   => simp [orElse, IntRange.Fits]
  | some n =>
    simp only [orElse, Option.map_some, int?_ofInt hr, IntRange.Fits]
    split <;> simp [*]

theorem orElse_uint32?_eq_some_iff {x d : UInt32} :
    orElse uint32? d (n?.map (ofInt k)) = some x ↔
      IntRange.uint32.Fits n? ∧ (n?.elim d fun n => .ofNat n.toNat) = x :=
  orElse_int?_eq_some_iff IntRange.isNarrow_uint32

theorem orElse_uint64?_eq_some_iff {x d : UInt64} :
    orElse uint64? d (n?.map (ofInt k)) = some x ↔
      IntRange.uint64.Fits n? ∧ (n?.elim d fun n => .ofNat n.toNat) = x :=
  orElse_int?_eq_some_iff fun _ => .inl

theorem orElse_int64?_eq_some_iff {x d : Int64} :
    orElse int64? d (n?.map (ofInt k)) = some x ↔
      IntRange.int64.Fits n? ∧ n?.elim d .ofInt = x :=
  orElse_int?_eq_some_iff fun _ => .inr

theorem orElse_text?_eq_some_iff {x d : String} :
    orElse text? d (s?.map (ofText k)) = some x ↔ s?.getD d = x := by
  cases s? <;> exact Option.some_inj

theorem optional_text?_eq_some_iff : optional text? (s?.map (ofText k)) = some x? ↔ s? = x? := by
  cases s? <;> exact Option.some_inj

end Written

namespace Config

variable {c : Config} {lookup : String → Option String} {key : String} {r : IntRange}
  {n? : Option Int}

theorem workable_tidied_iff : c.tidied.Workable ↔ c.Workable where
  mp h  := ⟨h.attempts, h.capacity, h.delays, h.interval, h.span⟩
  mpr h := ⟨h.attempts, h.capacity, h.delays, h.interval, h.span⟩

-- The slashes at the end of the base are dropped from an address in any case.
theorem object_tidied {k : ObjectKey} :
    Endpoint.object c.tidied.apiBase k = Endpoint.object c.apiBase k := by
  simp only [Endpoint.object, tidied, dropTrailingSlashes, String.toList_ofList,
    Text.dropTrailing_dropTrailing]

theorem fits_of_sets {d n : Int} (hl : lookup key = n?.map toString) (h : Sets lookup r key d n) :
    r.Fits n? := by
  rintro m rfl
  cases h with
  | absent hn => simp [hl] at hn
  | given hg hn =>
    obtain ⟨rfl, hc⟩ := IntRange.holds_toString_iff.mp (Option.some.inj (hg.symm.trans hl) ▸ hn)
    exact hc

theorem sets_of_fits {d : α} {f : Int → α} {g : α → Int} (hl : lookup key = n?.map toString)
    (hf : r.Fits n?) (hg : ∀ n, r.Contains n → g (f n) = n) :
    Sets lookup r key (g d) (g (n?.elim d f)) := by
  cases n? with
  | none   => exact .absent hl
  | some n =>
    have hc : r.Contains n := hf n rfl
    rw [Option.elim_some, hg n hc]
    exact .given hl (IntRange.holds_toString_iff.mpr ⟨rfl, hc⟩)

theorem sets_uint64_of_fits {d : UInt64} (hl : lookup key = n?.map toString)
    (hf : IntRange.uint64.Fits n?) :
    Sets lookup .uint64 key d.toNat (n?.elim d fun n => UInt64.ofNat n.toNat).toNat :=
  sets_of_fits (g := fun x : UInt64 => (x.toNat : Int)) hl hf fun _ => toNat_ofNat_toNat_of_uint64

end Config

theorem StreamRequest.url_ne_endpoint {endpoint token : String} :
    url ⟨endpoint, some token⟩ ≠ endpoint := by
  intro h
  have hl : (url ⟨endpoint, some token⟩).length = endpoint.length :=
    congrArg String.length h
  have ht : "token=".length = 6 := rfl
  simp only [url, String.length_append, ht] at hl
  omega

namespace Choice

open Config

variable {ch : Choice} {raw : String} {c : Config}

theorem given_tidied (h : ch.InRange) : Given ch.lookup ch.config.tidied where
  endpoint  := rfl
  base      := dropTrailingSlashes_eq_iff.mp rfl
  token t   := @bind_presentToken?_eq_some_iff ch.lookup t
  ratio     := rfl
  attempts  := sets_of_fits (g := fun x : UInt32 => (x.toNat : Int)) rfl h.attempts fun _ =>
    toNat_ofNat_toNat_of_uint32
  baseDelay := sets_uint64_of_fits rfl h.baseDelay
  maxDelay  := sets_uint64_of_fits rfl h.maxDelay
  interval  := sets_uint64_of_fits rfl h.interval
  capacity  := sets_uint64_of_fits rfl h.capacity
  span      := sets_of_fits rfl h.span fun _ => toInt_ofInt_of_int64

theorem inRange_of_given (h : Given ch.lookup c) : ch.InRange where
  attempts  := fits_of_sets rfl h.attempts
  baseDelay := fits_of_sets rfl h.baseDelay
  maxDelay  := fits_of_sets rfl h.maxDelay
  interval  := fits_of_sets rfl h.interval
  capacity  := fits_of_sets rfl h.capacity
  span      := fits_of_sets rfl h.span

theorem ofParams_lookup_eq_ok_iff :
    ofParams ch.lookup = .ok c ↔ ch.InRange ∧ ch.config.tidied = c ∧ c.Workable := by
  constructor
  case mp =>
    intro h
    obtain ⟨hg, hw⟩ := ofParams_eq_ok_iff.mp h
    have hr : ch.InRange := inRange_of_given hg
    rw [(given_tidied hr).ofParams_eq] at h
    exact ⟨hr, (validate_eq_ok_iff.mp h).right, hw⟩
  case mpr =>
    rintro ⟨hr, rfl, hw⟩
    exact ofParams_eq_ok_iff.mpr ⟨given_tidied hr, hw⟩

theorem integralMembers_present {fields : List (String × Option Json)}
    (h : ∀ f ∈ fields, ∀ j ∈ f.2, j.Integral) : Json.IntegralMembers (present fields) := by
  induction fields with
  | nil => trivial
  | cons f fields hi =>
    obtain ⟨hf, hs⟩ := List.forall_mem_cons.mp h
    obtain ⟨name, j?⟩ := f
    cases j? with
    | none   => exact hi hs
    | some j => exact ⟨hf j rfl, hi hs⟩

theorem writtenIn_compact : ch.WrittenIn ch.block.compact := by
  have hf : ∀ f ∈ ch.fields, ∀ j ∈ f.2, j.Integral := by
    simp [fields, Json.Integral]
  exact ⟨_, Json.parse?_compact (integralMembers_present hf), .refl _⟩

theorem fields?_block {k : Nat} : fields? fieldNames
    (⟨.object (Json.memberDocuments (present ch.fields)), k + 1⟩ : Written) = some [
      ch.endpoint?.map (.ofText k), ch.api?.map (.ofText k), ch.token?.map (.ofText k),
      ch.attempts?.map (.ofInt k), ch.baseDelay?.map (.ofInt k), ch.maxDelay?.map (.ofInt k), none,
      ch.interval?.map (.ofInt k), ch.capacity?.map (.ofInt k), ch.span?.map (.ofInt k)] := by
  have ht : Written.ofJson k ∘ Json.text = .ofText k := rfl
  have hn : (Written.ofJson k ∘ fun n => Json.number (.int n)) = .ofInt k := rfl
  rw [Written.fields?_memberDocuments, map_present, byName?_present (by simp [fields])]
  simp [fields, fieldNames, List.lookup_cons, ht, hn]

theorem read?_eq_some_iff (h : ch.WrittenIn raw) :
    ((Document.parse? raw).bind fun d => read? d.written) = some c ↔ ch.InRange ∧ ch.config = c := by
  obtain ⟨ms, hp, hm⟩ := h
  rw [hp, Option.bind_some, Document.written_object, read?, Written.fields?_perm hm, fields?_block]
  simp only [Option.bind_eq_bind, Option.bind_eq_some_iff, Written.orElse_uint32?_eq_some_iff,
    Written.orElse_uint64?_eq_some_iff, Written.orElse_int64?_eq_some_iff,
    Written.orElse_text?_eq_some_iff, Written.optional_text?_eq_some_iff]
  constructor
  case mp =>
    rintro ⟨_, rfl, _, rfl, _, rfl, _, ⟨ha, rfl⟩, _, ⟨hb, rfl⟩, _, ⟨hm, rfl⟩, _, hr, _, ⟨hi, rfl⟩,
      _, ⟨hp, rfl⟩, _, ⟨hs, rfl⟩, hc⟩
    cases Option.some.inj hr
    exact ⟨⟨ha, hb, hm, hi, hp, hs⟩, Option.some.inj hc⟩
  case mpr =>
    rintro ⟨⟨ha, hb, hm, hi, hp, hs⟩, rfl⟩
    exact ⟨_, rfl, _, rfl, _, rfl, _, ⟨ha, rfl⟩, _, ⟨hb, rfl⟩, _, ⟨hm, rfl⟩, _, rfl, _, ⟨hi, rfl⟩,
      _, ⟨hp, rfl⟩, _, ⟨hs, rfl⟩, rfl⟩

theorem ofJson_eq_ok_iff (h : ch.WrittenIn raw) :
    ofJson raw = .ok c ↔ ch.InRange ∧ ch.config = c ∧ c.Workable := by
  rw [ofJson]
  constructor
  case mp =>
    intro hc
    split at hc
    case h_1 => contradiction
    case h_2 c' hr =>
      obtain ⟨hi, rfl⟩ := (read?_eq_some_iff h).mp hr
      obtain ⟨hf, rfl⟩ := validate_eq_ok_iff.mp hc
      exact ⟨hi, rfl, (fault?_eq_none_iff (c := ch.config) rfl).mp hf⟩
  case mpr =>
    rintro ⟨hi, rfl, hw⟩
    rw [(read?_eq_some_iff h).mpr ⟨hi, rfl⟩]
    exact validate_eq_ok_iff.mpr ⟨(fault?_eq_none_iff (c := ch.config) rfl).mpr hw, rfl⟩

theorem token_tidied_of_blank (h : ch.BlankToken) : ch.config.tidied.token? = none := by
  obtain ⟨token, ht, hb⟩ := h
  have he : (Text.trim token.toList).isEmpty := List.isEmpty_iff.mpr (Text.trim_eq_nil_iff.mpr hb)
  show ch.token?.bind presentToken? = none
  rw [ht, Option.bind_some, presentToken?, if_pos he]

theorem token_tidied_of_not_blank (h : ¬ch.BlankToken) : ch.config.tidied.token? = ch.token? := by
  show ch.token?.bind presentToken? = ch.token?
  cases ht : ch.token? with
  | none       => rfl
  | some token =>
    have he : ¬(Text.trim token.toList).isEmpty := fun he =>
      h ⟨token, ht, Text.trim_eq_nil_iff.mp (List.isEmpty_iff.mp he)⟩
    rw [Option.bind_some, presentToken?, if_neg he]

theorem streamUrl_tidied_of_blank (h : ch.BlankToken) :
    ch.config.tidied.streamUrl = ch.config.streamEndpoint := by
  show StreamRequest.url ⟨ch.config.streamEndpoint, ch.config.tidied.token?⟩ = _
  rw [token_tidied_of_blank h]
  rfl

theorem streamUrl_tidied_iff : ch.config.tidied.streamUrl = ch.config.streamUrl ↔ ¬ch.BlankToken := by
  constructor
  case mp =>
    intro he hb
    rw [streamUrl_tidied_of_blank hb] at he
    obtain ⟨token, ht, _⟩ := hb
    have hu : ch.config.streamUrl = StreamRequest.url ⟨ch.config.streamEndpoint, some token⟩ := by
      show StreamRequest.url ⟨ch.config.streamEndpoint, ch.token?⟩ = _
      rw [ht]
    exact StreamRequest.url_ne_endpoint (hu.symm.trans he.symm)
  case mpr =>
    intro hb
    show StreamRequest.url ⟨ch.config.streamEndpoint, ch.config.tidied.token?⟩ = _
    rw [token_tidied_of_not_blank hb]
    rfl

-- Whatever is chosen, both loaders take it or both refuse it. What they take has the same numbers,
-- and leads to the same addresses of objects and series. It leads to the same address of the stream
-- too, unless a token of blanks is chosen, which only the block still sends.
theorem loaders_agree_unless_token_is_blank (ch : Choice) :
    ch.WrittenIn ch.block.compact ∧ ∀ raw, ch.WrittenIn raw →
      ((∃ c, ofParams ch.lookup = .ok c) ↔ ∃ c, ofJson raw = .ok c) ∧
      ∀ c c', ofParams ch.lookup = .ok c → ofJson raw = .ok c' →
        c.SameNumbers c' ∧
        (∀ k, Endpoint.object c.apiBase k = Endpoint.object c'.apiBase k) ∧
        (∀ k s, Endpoint.series c.apiBase k s = Endpoint.series c'.apiBase k s) ∧
        (c.streamUrl = c'.streamUrl ↔ ¬ch.BlankToken) ∧
        (ch.BlankToken → c.streamUrl = c'.streamEndpoint) := by
  refine ⟨writtenIn_compact, fun raw h => ⟨⟨?params, ?json⟩, ?agree⟩⟩
  case params =>
    rintro ⟨_, hc⟩
    obtain ⟨hi, rfl, hw⟩ := ofParams_lookup_eq_ok_iff.mp hc
    exact ⟨_, (ofJson_eq_ok_iff h).mpr ⟨hi, rfl, workable_tidied_iff.mp hw⟩⟩
  case json =>
    rintro ⟨_, hc⟩
    obtain ⟨hi, rfl, hw⟩ := (ofJson_eq_ok_iff h).mp hc
    exact ⟨_, ofParams_lookup_eq_ok_iff.mpr ⟨hi, rfl, workable_tidied_iff.mpr hw⟩⟩
  case agree =>
    intro c c' hc hc'
    obtain ⟨_, rfl, _⟩ := ofParams_lookup_eq_ok_iff.mp hc
    obtain ⟨_, rfl, _⟩ := (ofJson_eq_ok_iff h).mp hc'
    refine ⟨⟨rfl, rfl, rfl, rfl, rfl, rfl, rfl⟩, fun _ => object_tidied, fun _ _ => ?series,
      streamUrl_tidied_iff, streamUrl_tidied_of_blank⟩
    rw [Endpoint.series, Endpoint.series, object_tidied]

-- The base is told without its slashes in one configuration and with them in the other.
theorem loaders_agree_on_slashes : ∃ ch raw c c', WrittenIn ch raw ∧ InRange ch ∧
    ofParams ch.lookup = .ok c ∧ ofJson raw = .ok c' ∧ c.apiBase = "/v2" ∧ c'.apiBase = "/v2//" ∧
    c.SameNumbers c' ∧ (∀ k, Endpoint.object c.apiBase k = Endpoint.object c'.apiBase k) ∧
    c.streamUrl = c'.streamUrl := by
  let ch : Choice := ⟨none, some "/v2//", some " a", none, none, none, none, some 5, none⟩
  let raw := Json.compact (.object
    [("token", .text " a"), ("seriesCapacity", .number (.int 5)), ("apiBase", .text "/v2//")])
  have hp : Document.parse? raw = some (Json.document _) :=
    Json.parse?_compact (by simp [Json.Integral, Json.IntegralMembers])
  have hw : ch.WrittenIn raw := ⟨_, hp, List.reverse_perm (Json.memberDocuments (present ch.fields))⟩
  have hi : ch.InRange := by
    constructor <;> simp [ch, IntRange.Fits]
    decide
  have hc : ofParams ch.lookup = .ok ch.config.tidied :=
    ofParams_lookup_eq_ok_iff.mpr ⟨hi, rfl, by constructor <;> decide⟩
  have hc' : ofJson raw = .ok ch.config :=
    (ofJson_eq_ok_iff hw).mpr ⟨hi, rfl, by constructor <;> decide⟩
  have hb : ¬ch.BlankToken := by
    rintro ⟨_, ht, hb⟩
    cases Option.some.inj ht
    exact absurd (hb 'a' (by decide)) (by decide)
  obtain ⟨_, ha⟩ := loaders_agree_unless_token_is_blank ch
  obtain ⟨_, hs⟩ := ha raw hw
  obtain ⟨hn, ho, _, hu, _⟩ := hs _ _ hc hc'
  exact ⟨ch, raw, _, _, hw, hi, hc, hc', by decide, rfl, hn, ho, hu.mpr hb⟩

-- Of two blanks the parameters make no token, and the block makes one.
theorem blank_token_parts_loaders : ∃ (ch : Choice) (c c' : Config), ofParams ch.lookup = .ok c ∧
    ofJson ch.block.compact = .ok c' ∧ ch.block.compact = "\x7b\"token\":\"  \"\x7d" ∧
    c.streamUrl = "/api/events" ∧ c'.streamUrl = "/api/events?token=%20%20" := by
  let ch : Choice := ⟨none, none, some "  ", none, none, none, none, none, none⟩
  have hi : ch.InRange := by constructor <;> simp [ch, IntRange.Fits]
  have hc : ofParams ch.lookup = .ok ch.config.tidied :=
    ofParams_lookup_eq_ok_iff.mpr ⟨hi, rfl, by constructor <;> decide⟩
  have hc' : ofJson ch.block.compact = .ok ch.config :=
    (ofJson_eq_ok_iff writtenIn_compact).mpr ⟨hi, rfl, by constructor <;> decide⟩
  exact ⟨ch, _, _, hc, hc', by decide +kernel, by decide +kernel, by decide +kernel⟩

end Choice

end FleetMonitor
