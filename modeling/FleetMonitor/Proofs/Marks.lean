import FleetMonitor.Proofs.Arrivals
import FleetMonitor.Proofs.Texts

namespace FleetMonitor

namespace SeriesKey

variable {k : SeriesKey} {mark name : String}

theorem toList_tagged : (tagged mark name).text.toList = mark.toList ++ ':' :: name.toList := by
  simp [tagged]

-- A key has a mark and a name just if it is put together from them.
theorem mark?_and_name_iff :
    k.mark? = some mark ∧ k.name = name ↔ ':' ∉ mark.toList ∧ k = tagged mark name := by
  constructor
  case mp =>
    rintro ⟨hm, rfl⟩
    obtain ⟨⟨before, after⟩, hc, rfl⟩ := Option.map_eq_some_iff.mp hm
    have ⟨hn, he⟩ := Text.cut?_eq_some_iff.mp hc
    have hk : k.name = String.ofList after := by rw [SeriesKey.name, hc]; rfl
    refine ⟨by simpa using hn, ?_⟩
    cases k
    simp_all [tagged, String.ext_iff]
  case mpr =>
    rintro ⟨hn, rfl⟩
    have hc : Text.cut? ':' (tagged mark name).text.toList = some (mark.toList, name.toList) :=
      toList_tagged ▸ Text.cut?_append hn
    simp [mark?, SeriesKey.name, hc]

theorem mark?_eq_some_iff : k.mark? = some mark ↔ ':' ∉ mark.toList ∧ k = tagged mark k.name := by
  rw [← mark?_and_name_iff]
  simp

theorem mark?_tagged (h : ':' ∉ mark.toList) : (tagged mark name).mark? = some mark :=
  (mark?_and_name_iff.mpr ⟨h, rfl⟩).left

theorem name_tagged (h : ':' ∉ mark.toList) : (tagged mark name).name = name :=
  (mark?_and_name_iff.mpr ⟨h, rfl⟩).right

end SeriesKey

namespace Kind

-- The mark of the series that messages of a kind feed by the names of their values. Other messages
-- have no named values.
def mark? : Kind → Option String
  | sensorUpdate => some SeriesKey.externalMark
  | batch d      => some d.mark
  | _            => none

-- The series that a value of some name is for.
def series? (kind : Kind) (name : String) : Option SeriesKey :=
  kind.mark?.map (.tagged · name)

variable {kind kind' : Kind} {mark name name' : String} {series : SeriesKey}

theorem colon_not_mem_mark (h : kind.mark? = some mark) : ':' ∉ mark.toList := by
  rcases kind with _ | _ | _ | (_ | _ | _) | _ | _
  case sensorUpdate | batch.ionc | batch.modbus | batch.opcua => exact Option.some.inj h ▸ by decide
  all_goals contradiction

-- A kind is found again by its mark, as it is by its tag.
theorem find?_mark (h : kind.mark? = some mark) : all.find? (·.mark? = some mark) = some kind := by
  rcases kind with _ | _ | _ | (_ | _ | _) | _ | _
  case sensorUpdate | batch.ionc | batch.modbus | batch.opcua => exact Option.some.inj h ▸ by decide
  all_goals contradiction

theorem mark?_inj (h : kind.mark? = some mark) (h' : kind'.mark? = some mark) : kind = kind' :=
  Option.some.inj ((find?_mark h).symm.trans (find?_mark h'))

-- The key of a series tells the kind of messages that feed it, and the name of its values.
theorem of_series? (h : kind.series? name = some series) :
    kind.mark? = series.mark? ∧ series.name = name := by
  obtain ⟨mark, hm, rfl⟩ := Option.map_eq_some_iff.mp h
  have hn := colon_not_mem_mark hm
  exact ⟨hm.trans (SeriesKey.mark?_tagged hn).symm, SeriesKey.name_tagged hn⟩

theorem series?_inj (h : kind.series? name = some series) (h' : kind'.series? name' = some series) :
    kind = kind' ∧ name = name' := by
  obtain ⟨mark, hm, _⟩ := Option.map_eq_some_iff.mp h
  have ⟨hs, hn⟩ := of_series? h
  have ⟨hs', hn'⟩ := of_series? h'
  exact ⟨mark?_inj hm (hs'.trans (hs.symm.trans hm)), hn.symm.trans hn'⟩

end Kind

-- The names of the values in a message.
def Envelope.names (e : Envelope) : Kind → List String
  | .sensorUpdate => (SensorUpdate.read? e.data).toList.map SensorUpdate.name
  | .batch _      => ((BatchEntry.readAll? e.data).getD []).map BatchEntry.name
  | _             => []

namespace Session

variable {s : Session} {k : ObjectKey} {series : SeriesKey} {e : Envelope} {kind : Kind} {f : Feed}
  {event? : Option String} {raw : String} {received : Millis} {p : Point}

-- Whatever a message has for a series by name is one of its values.
theorem exists_name_of_messageFeed? (h : s.messageFeed? e received kind = some (k, f))
    (hm : kind.mark?.isSome) (hp : p ∈ f.points series) :
    ∃ name ∈ e.names kind, kind.series? name = some series := by
  cases kind
  case sensorUpdate =>
    obtain ⟨u, hu, h⟩ := Option.bind_eq_some_iff.mp h
    obtain ⟨y, _, h⟩ := Option.bind_eq_some_iff.mp h
    obtain ⟨_, _, h⟩ := Option.bind_eq_some_iff.mp h
    obtain ⟨_, rfl⟩ := Prod.mk.inj (Option.some.inj h)
    refine ⟨u.name, by simp [Envelope.names, hu], ?_⟩
    by_cases hs : .external u.name = series
    case pos => exact congrArg some hs
    case neg => rw [Feed.points, if_neg hs] at hp; contradiction
  case batch d =>
    obtain ⟨_, _, h⟩ := Option.bind_eq_some_iff.mp h
    obtain ⟨entries, he, h⟩ := Option.bind_eq_some_iff.mp h
    obtain ⟨_, rfl⟩ := Prod.mk.inj (Option.some.inj h)
    obtain ⟨entry, hm, hs⟩ := List.mem_filterMap.mp hp
    refine ⟨entry.name, by simpa [Envelope.names, he] using ⟨entry, hm, rfl⟩, ?_⟩
    split at hs
    case isTrue ht => exact congrArg some ht
    case isFalse   => contradiction
  all_goals contradiction

theorem exists_name_of_mem_pointsFor (he : Envelope.parse? raw = some e)
    (hk : e.kind? event? = some kind) (hm : kind.mark?.isSome)
    (hp : p ∈ s.pointsFor k series (.message event? raw received)) :
    ∃ name ∈ e.names kind, kind.series? name = some series := by
  rw [pointsFor, feed?_message he hk] at hp
  rcases hf : s.messageFeed? e received kind with _ | ⟨k', f⟩
  case none => rw [hf] at hp; contradiction
  case some =>
    rw [hf] at hp
    dsimp only at hp
    split at hp
    case isTrue  => exact exists_name_of_messageFeed? hf hm hp
    case isFalse => contradiction

-- A key that is put together from a mark without a colon and a name, whatever that is, has this mark
-- and this name; and a key with a mark is put together from it. So values that are pushed for the
-- same series are of the same kind and have the same name. Every point that a message has for a
-- series by name is of the kind that the key of the series says, and a value of the name that the
-- key says is in the message.
theorem series_tell_sources :
    (∀ mark name, ':' ∉ mark.toList → (SeriesKey.tagged mark name).mark? = some mark ∧
      (SeriesKey.tagged mark name).name = name) ∧
    (∀ (series : SeriesKey) mark, series.mark? = some mark ↔
      ':' ∉ mark.toList ∧ series = .tagged mark series.name) ∧
    (∀ (kind kind' : Kind) name name' series, kind.series? name = some series →
      kind'.series? name' = some series → kind = kind' ∧ name = name') ∧
    ∀ (s : Session) k series event? raw received e kind,
      Envelope.parse? raw = some e → e.kind? event? = some kind → kind.mark?.isSome →
      ∀ p ∈ s.pointsFor k series (.message event? raw received),
        kind.mark? = series.mark? ∧ series.name ∈ e.names kind := by
  refine ⟨fun mark name h => ?key, fun series mark => SeriesKey.mark?_eq_some_iff,
    fun _ _ _ _ _ => Kind.series?_inj,
    fun s k series event? raw received e kind he hk hm p hp => ?values⟩
  case key => exact ⟨SeriesKey.mark?_tagged h, SeriesKey.name_tagged h⟩
  case values =>
    obtain ⟨name, hn, hs⟩ := exists_name_of_mem_pointsFor he hk hm hp
    have ⟨ht, e⟩ := Kind.of_series? hs
    exact ⟨ht, e ▸ hn⟩

-- The name of a register may have a colon itself; only the first colon of the key counts.
theorem series_of_name_with_colon : ∃ raw e k series p,
    Envelope.parse? raw = some e ∧ e.kind? none = some (.batch .modbus) ∧
    p ∈ (new .default).pointsFor k series (.message none raw 10) ∧
    series.text = "mb:a:b" ∧ series.mark? = some "mb" ∧ series.name = "a:b" ∧
    "a:b" ∈ e.names (.batch .modbus) ∧
    ∀ kind name, Kind.series? kind name = some series → kind = .batch .modbus ∧ name = "a:b" := by
  let raw := "\x7b\"type\":\"modbus_register_batch\",\"serverId\":\"a\",\"objectName\":\"b\"," ++
    "\"data\":[\x7b\"name\":\"a:b\",\"value\":1\x7d]\x7d"
  let series : SeriesKey := .tagged "mb" "a:b"
  have he : (Envelope.parse? raw).any fun e => e.kind? none = some (.batch .modbus) := by
    decide +kernel
  have hp : (new .default).pointsFor ⟨"a", "b"⟩ series (.message none raw 10) ≠ [] := by
    decide +kernel
  obtain ⟨e, he, hk⟩ := (Option.any_eq_true _ _).mp he
  replace hk := of_decide_eq_true hk
  obtain ⟨p, hp⟩ := List.exists_mem_of_ne_nil _ hp
  obtain ⟨hs, _, hi, hv⟩ := series_tell_sources
  have ⟨hm, hn⟩ := hs "mb" "a:b" (by decide)
  have ⟨_, hv⟩ := hv _ _ _ _ _ _ e _ he hk rfl p hp
  exact ⟨raw, e, _, series, p, he, hk, hp, by decide, hm, hn, hn ▸ hv,
    fun kind name h => hi kind (.batch .modbus) name "a:b" series h rfl⟩

end Session
end FleetMonitor
