import FleetMonitor.Proofs.Members
import FleetMonitor.Proofs.Printing
import FleetMonitor.Proofs.Refusals

namespace FleetMonitor

open Source

open Document (memberDepth)

namespace Envelope

variable {p : Document} {hs ms ps : List (Option String × Document)} {e : Envelope} {raw : String}

theorem read?_congr [Source σ] {s s' : σ} (h : fields? fieldNames s = fields? fieldNames s') :
    read? s = read? s' := by
  rw [read?, read?, h]

-- The payload has its own place in a message, whatever else the message says.
theorem read?_payload (hd : some "data" ∉ hs.map Prod.fst)
    (he : read? (Document.object hs).written = some e) :
    read? (Document.object ((some "data", p) :: hs)).written =
      (p.value? memberDepth).map fun j => { e with data := j } := by
  unfold read? at he
  split at he
  case h_2 => contradiction
  case h_1 tag serverId serverName objectName data timestamp hf =>
    rw [Document.written_object, Written.fields?_object, Option.bind_eq_some_iff] at hf
    obtain ⟨l, hl, hf⟩ := hf
    have hn : named "data" l = [] := named_eq_nil (Written.not_mem_of_readable? hl hd)
    simp only [fieldNames, byName?_cons_eq_some_iff] at hf
    obtain ⟨htag, hid, hname, hobject, _, htime, _⟩ := hf
    have hl' : Written.readable? (Written.inside memberDepth ((some "data", p) :: hs)) =
        some (("data", ⟨p, memberDepth⟩) :: l) := congrArg (Option.map _) hl
    have hf' : fields? fieldNames (Document.object ((some "data", p) :: hs)).written =
        some [tag, serverId, serverName, objectName, some ⟨p, memberDepth⟩, timestamp] := by
      rw [Document.written_object, Written.fields?_object, hl', Option.bind_some]
      simp [fieldNames, byName?_cons_eq_some_iff, byName?_nil_eq_some_iff, named_cons, htag, hid,
        hname, hobject, hn, htime]
    simp only [Option.bind_eq_bind, Option.bind_eq_some_iff, Option.some.injEq] at he
    obtain ⟨t, ht, i, hi, n, hn', o, ho, d, hd, x, hx, rfl⟩ := he
    have hp : orElse value? Json.null (some ⟨p, memberDepth⟩ : Option Written) =
        p.value? memberDepth := rfl
    simp only [read?, hf', ht, hi, hn', ho, hx, hp, Option.bind_eq_bind, Option.bind_some]
    cases p.value? memberDepth <;> rfl

-- The tag of a message, if it has one.
def tagMember (tag? : Option Document) : List (Option String × Document) :=
  (tag?.map (some "type", ·)).toList

-- Beside the tag nothing of an acknowledgement has a place of its own.
theorem of_tagMember {tag? : Option Document}
    (h : read? (Document.object (tagMember tag?)).written = some e) :
    e.data = .null ∧ ∀ tag, tag? = some tag → ∃ j, tag.value? memberDepth = some j := by
  have hf : fields? fieldNames (Document.object (tagMember tag?)).written =
      some [tag?.map (⟨·, memberDepth⟩), none, none, none, none, none] := by
    cases tag? <;> rfl
  simp only [read?, hf, Option.bind_eq_bind, Option.bind_eq_some_iff, Option.some.injEq] at h
  obtain ⟨t, ht, _, _, _, _, _, _, d, hd, _, _, rfl⟩ := h
  refine ⟨(Option.some.inj hd).symm, ?_⟩
  rintro tag rfl
  cases tag with
  | null      => exact ⟨_, rfl⟩
  | text s?   =>
    cases s? with
    | none   => contradiction
    | some s => exact ⟨_, rfl⟩
  | bool | number | array | object => contradiction

theorem nodup_tagMember_append {tag? : Option Document} (hk : (ps.map Prod.fst).Nodup)
    (hn : some "type" ∉ ps.map Prod.fst) : ((tagMember tag? ++ ps).map Prod.fst).Nodup := by
  cases tag? with
  | none     => exact hk
  | some tag => exact List.nodup_cons.mpr ⟨hn, hk⟩

end Envelope

namespace Ack

variable {ps : List (Option String × Document)}

-- The acknowledgement that an object is.
def ofMembers? (ps : List (Option String × Document)) : Option Ack :=
  ((Document.object ps).value? Document.depthLimit).bind read?

-- A member with another name is no part of it.
theorem read?_insertMember {name : String} {j : Json} {js : List (String × Json)}
    (h : name ∉ fieldNames) :
    read? (Json.object (Json.insertMember name j js)) = read? (Json.object js) := by
  have hf : fields? fieldNames (Json.object (Json.insertMember name j js)) =
      fields? fieldNames (Json.object js) :=
    byName?_congr fun n hn => Json.named_insertMember_of_ne fun he => h (he ▸ hn)
  rw [read?, read?, hf]

theorem ofMembers?_of_unreadable (h : Written.readable? (Written.inside memberDepth ps) = none) :
    ofMembers? ps = none := by
  rw [ofMembers?, Document.value?_object]
  cases hj : Document.members? memberDepth ps with
  | none    => rfl
  | some js =>
    obtain ⟨l, hl⟩ := Written.exists_readable?_of_members? (k := memberDepth) hj
    rw [h] at hl
    contradiction

theorem ofMembers?_tagMember {tag? : Option Document}
    (h : ∀ tag, tag? = some tag → ∃ j, tag.value? memberDepth = some j) :
    ofMembers? (Envelope.tagMember tag? ++ ps) = ofMembers? ps := by
  cases tag? with
  | none     => rfl
  | some tag =>
    obtain ⟨j, hj⟩ := h tag rfl
    have hm : Document.members? memberDepth ((some "type", tag) :: ps) =
        (Document.members? memberDepth ps).map (Json.insertMember "type" j) := by
      simp only [Document.members?, hj]
      cases Document.members? memberDepth ps <;> rfl
    simp only [ofMembers?, Envelope.tagMember, Option.map_some, Option.toList_some,
      List.singleton_append, Document.value?_object, hm]
    cases Document.members? memberDepth ps with
    | none    => rfl
    | some js => exact read?_insertMember (by decide)

end Ack

-- Members that make a message an acknowledgement, unless its payload spoils that.
def Announces (event? : Option String) (hs : List (Option String × Document)) : Prop :=
  ∃ e, Envelope.read? (Document.object hs).written = some e ∧ e.kind? event? = some .connected

-- A message with the members `ps` as its payload.
inductive Nests (event? : Option String) (raw : String) (ps : List (Option String × Document)) : Prop
  | intro (hp : Document.parse? raw = some (.object ms))
    (hm : ms.Perm ((some "data", .object ps) :: hs)) (hd : some "data" ∉ hs.map Prod.fst)
    (ha : Announces event? hs)

-- A message with the members `ps` beside its tag, if it has one.
inductive Spreads (event? : Option String) (raw : String) (ps : List (Option String × Document)) : Prop
  | intro (tag? : Option Document) (hp : Document.parse? raw = some (.object ms))
    (hm : ms.Perm (Envelope.tagMember tag? ++ ps)) (ha : Announces event? (Envelope.tagMember tag?))

namespace Session

variable {s : Session} {event? : Option String} {raw : String} {received : Millis}
  {ps : List (Option String × Document)} {e : Envelope}

-- Takes up what a message acknowledges; without anything the message is dropped.
def takeUp (s : Session) : Option Ack → Step Outcome
  | none     => s.countReceived.drop
  | some ack => s.countReceived.acknowledge ack

theorem handleMessage_of_connected (he : Envelope.parse? raw = some e)
    (hk : e.kind? event? = some .connected) :
    s.handleMessage event? raw received = s.takeUp (ack? e raw) := by
  simp only [handleMessage, he, hk]
  cases ack? e raw <;> rfl

theorem handleMessage_of_unreadable (h : Envelope.parse? raw = none) :
    s.handleMessage event? raw received = s.takeUp none := by
  simp only [handleMessage, h, takeUp]

theorem handleMessage_of_nests (hd : (Document.object ps).nesting < Document.depthLimit)
    (h : Nests event? raw ps) :
    s.handleMessage event? raw received = s.takeUp (Ack.ofMembers? ps) := by
  obtain ⟨hp, hm, hn, e, he, hk⟩ := h
  have hv : (Document.object ps).value? memberDepth =
      (Document.object ps).value? Document.depthLimit :=
    Document.value?_congr _ (Nat.le_of_lt_succ hd) (Nat.le_of_lt hd)
  have hr : Envelope.parse? raw =
      ((Document.object ps).value? memberDepth).map fun j => { e with data := j } := by
    rw [Envelope.parse?, hp, Option.bind_some, ← Envelope.read?_payload hn he]
    exact Envelope.read?_congr (Written.fields?_perm hm)
  rw [Ack.ofMembers?, ← hv]
  cases hj : (Document.object ps).value? memberDepth with
  | none =>
    rw [hj] at hr
    exact handleMessage_of_unreadable hr
  | some j =>
    rw [hj] at hr
    have ho : j.isObject := by
      obtain ⟨js, _, rfl⟩ := Option.map_eq_some_iff.mp hj
      rfl
    rw [handleMessage_of_connected hr hk, ack?, if_pos ho]
    rfl

theorem handleMessage_of_spreads (hk : (ps.map Prod.fst).Nodup)
    (hn : ∀ name ∈ Envelope.fieldNames, some name ∉ ps.map Prod.fst) (h : Spreads event? raw ps) :
    s.handleMessage event? raw received = s.takeUp (Ack.ofMembers? ps) := by
  obtain ⟨tag?, hp, hm, e, he, hc⟩ := h
  have hr : Envelope.parse? raw =
      Envelope.read? (Document.object (Envelope.tagMember tag? ++ ps)).written := by
    rw [Envelope.parse?, hp, Option.bind_some]
    exact Envelope.read?_congr (Written.fields?_perm hm)
  cases hl : Written.readable? (Written.inside memberDepth ps) with
  | none =>
    have hf : Envelope.parse? raw = none := by
      rw [hr, Envelope.read?, Document.written_object, Written.fields?_append_of_unreadable hl]
    rw [Ack.ofMembers?_of_unreadable hl, handleMessage_of_unreadable hf]
  | some l =>
    have hf : Envelope.parse? raw = some e := by
      rw [hr, ← he]
      exact Envelope.read?_congr (Written.fields?_append hl hn)
    obtain ⟨hd, ht⟩ := Envelope.of_tagMember he
    have hw : Json.parse? raw =
        (Document.object (Envelope.tagMember tag? ++ ps)).value? Document.depthLimit := by
      rw [Json.parse?, hp, Option.bind_some, Document.value?_object, Document.value?_object,
        Document.members?_perm hm]
      refine (hm.map Prod.fst).nodup_iff.mpr ?_
      exact Envelope.nodup_tagMember_append hk (hn _ List.mem_cons_self)
    have hj : e.data.isObject = false := by rw [hd]; rfl
    rw [handleMessage_of_connected hf hc, ack?, hj, hw]
    exact congrArg s.takeUp (Ack.ofMembers?_tagMember ht)

theorem takeUp_of_unexpected {ack : Ack} (h : s.connection.phase.expectsAck = false) :
    (s.takeUp (some ack)).answer = .unrouted := by
  have hn : ¬s.countReceived.connection.phase.expectsAck = true := by simp [countReceived, h]
  rw [takeUp, acknowledge, if_neg hn]

theorem takeUp_of_expected {ack : Ack} (h : s.connection.phase.expectsAck = true) :
    s.takeUp (some ack) =
      { session := { s.countReceived.withRegistry s.registry.clearTimers with
          connection := s.connection.acknowledge ack }
        answer  := .acknowledged s.registry.timers.length
        effects := s.registry.timers.map .stop } :=
  if_pos h

-- An acknowledgement says the same in a payload of its own as beside the tag of the message, if it
-- has no member twice and none by which the message itself is read. Either way a session drops what
-- is no acknowledgement, leaves one that it does not expect unrouted, and otherwise clears its timers
-- and takes up the poll interval and the abilities of the server.
theorem layouts_agree (s : Session) (ps : List (Option String × Document))
    (event₁? event₂? : Option String) (raw₁ raw₂ : String) (t₁ t₂ : Millis)
    (hk : (ps.map Prod.fst).Nodup) (hn : ∀ name ∈ Envelope.fieldNames, some name ∉ ps.map Prod.fst)
    (hd : (Document.object ps).nesting < Document.depthLimit)
    (h₁ : Nests event₁? raw₁ ps) (h₂ : Spreads event₂? raw₂ ps) :
    let st₁ := s.handleMessage event₁? raw₁ t₁
    let st₂ := s.handleMessage event₂? raw₂ t₂
    st₁ = st₂ ∧
    (Ack.ofMembers? ps = none → st₁.answer = .dropped) ∧
    ∀ ack, Ack.ofMembers? ps = some ack →
      (s.connection.phase.expectsAck = false → st₁.answer = .unrouted) ∧
      (s.connection.phase.expectsAck = true →
        st₁.answer = .acknowledged s.registry.timers.length ∧
        st₁.effects = s.registry.timers.map .stop ∧
        st₁.session.registry = s.registry.clearTimers ∧
        st₁.session.connection = s.connection.acknowledge ack) := by
  intro st₁ st₂
  have he₁ : st₁ = s.takeUp (Ack.ofMembers? ps) := handleMessage_of_nests hd h₁
  have he₂ : st₂ = s.takeUp (Ack.ofMembers? ps) := handleMessage_of_spreads hk hn h₂
  refine ⟨he₁.trans he₂.symm, fun ha => ?dropped,
    fun ack ha => ⟨fun hx => ?unexpected, fun hx => ?expected⟩⟩
  all_goals rw [he₁, ha]
  case dropped    => rfl
  case unexpected => exact takeUp_of_unexpected hx
  case expected   =>
    rw [takeUp_of_expected hx]
    exact ⟨rfl, rfl, rfl, rfl⟩

-- After the stream was given up and opened again, one tab still polls.
theorem ack_in_both_layouts : ∃ c ops raw₁ raw₂,
    let s := (new c).run ops
    let st₁ := s.handleMessage none raw₁ 10
    let st₂ := s.handleMessage none raw₂ 20
    st₁ = st₂ ∧ st₁.answer = .acknowledged 1 ∧ st₁.session.connection.pollInterval = 250 ∧
      st₁.session.connection.smEnabled = true := by
  let c : Config := { Config.default with maxReconnectAttempts := 1 }
  let ops : List Operation := [
    .openTab ⟨"a", "b"⟩ none ⟨true, []⟩, .connect, .transportError 0.5, .connect]
  let sm    : String × Json := ("smEnabled", .bool true)
  let every : String × Json := ("pollInterval", .number (.int 250))
  let tag   : String × Json := ("type", .text "connected")
  let raw₁ := Json.compact (.object [tag, ("data", .object [sm, every])])
  let raw₂ := Json.compact (.object [every, tag, sm])
  let ps := Json.memberDocuments [sm, every]
  have hp₁ : Document.parse? raw₁ = some (Json.document _) :=
    Json.parse?_compact (by simp [sm, every, tag, Json.Integral, Json.IntegralMembers])
  have hp₂ : Document.parse? raw₂ = some (Json.document _) :=
    Json.parse?_compact (by simp [sm, every, tag, Json.Integral, Json.IntegralMembers])
  have ha : Announces none [(some "type", .text (some "connected"))] :=
    ⟨⟨some "connected", none, none, none, .null, none⟩, rfl, Kind.ofTag?_tag .connected⟩
  have h₁ : Nests none raw₁ ps := .intro hp₁ (@List.perm_append_comm _ [_] [_]) (by decide) ha
  have h₂ : Spreads none raw₂ ps := .intro (some _) hp₂ (@List.perm_append_comm _ [_] [_, _]) ha
  have hx : ((new c).run ops).connection.phase.expectsAck = true := by decide +kernel
  have ht : ((new c).run ops).registry.timers.length = 1 := by decide +kernel
  obtain ⟨he, _, hs⟩ := layouts_agree ((new c).run ops) ps none none raw₁ raw₂ 10 20
    (by decide) (by decide) (by decide) h₁ h₂
  obtain ⟨_, hi⟩ := hs ⟨some 250, true, none⟩ rfl
  obtain ⟨hn, _, _, hc⟩ := hi hx
  refine ⟨c, ops, raw₁, raw₂, he, ht ▸ hn, ?_, ?_⟩ <;> rw [hc] <;> rfl

end Session
end FleetMonitor
