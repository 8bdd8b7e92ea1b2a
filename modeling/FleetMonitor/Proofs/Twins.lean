import FleetMonitor.Proofs.Changes
import FleetMonitor.Proofs.Refusals

namespace FleetMonitor

namespace Registry

variable {r r' r'' : Registry} {k k' : ObjectKey} {series : SeriesKey} {t t' : Tab} {f : Feed}
  {timer : Timer} {timers : List Timer} {name? : Option String} {renderer : Renderer}

-- Registries that one of their tabs cannot tell apart. They number their timers alike and agree on
-- that tab; their other tabs are the same up to what passes change.
structure Alike (k : ObjectKey) (r r' : Registry) : Prop where
  capacity     : r'.capacity = r.capacity
  defaultRange : r'.defaultRange = r.defaultRange
  tab?         : r'.tab? k = r.tab? k
  framed       : r.Framed r'

theorem defaultRange_take : (r.take k f).registry.defaultRange = r.defaultRange := by
  unfold take update
  split <;> rfl

namespace Alike

theorem refl : Alike k r r :=
  ⟨rfl, rfl, rfl, .refl⟩

theorem symm (h : Alike k r r') : Alike k r' r :=
  ⟨h.capacity.symm, h.defaultRange.symm, h.tab?.symm, h.framed.symm⟩

theorem trans (h : Alike k r r') (h' : Alike k r' r'') : Alike k r r'' :=
  ⟨h'.capacity.trans h.capacity, h'.defaultRange.trans h.defaultRange, h'.tab?.trans h.tab?,
    h.framed.trans h'.framed⟩

-- The tabs of an object in both.
theorem tabs (h : Alike k r r') (k' : ObjectKey) : (r.tab? k' = none ∧ r'.tab? k' = none) ∨
    ∃ t t', r.tab? k' = some t ∧ r'.tab? k' = some t' ∧ Tab.Frame t t' ∧ (k' = k → t' = t) := by
  rcases h.framed.tab? k' with hn | ⟨t, t', ht, ht', f⟩
  · exact .inl hn
  · refine .inr ⟨t, t', ht, ht', f, ?_⟩
    rintro rfl
    exact Option.some.inj (ht'.symm.trans (h.tab?.trans ht))

-- What is fed to another tab, or to none, on one side only.
theorem of_take (h : r.tab? k = none ∨ k' ≠ k) : Alike k r (r.take k' f).registry := by
  refine ⟨capacity_take, defaultRange_take, ?_, .take⟩
  rw [tab?_take]
  cases h with
  | inl hn => rw [hn, Option.map_none]
  | inr hk => cases r.tab? k <;> simp [Ne.symm hk]

theorem take (h : Alike k r r') : Alike k (r.take k' f).registry (r'.take k' f).registry where
  capacity     := capacity_take.trans (h.capacity.trans capacity_take.symm)
  defaultRange := defaultRange_take.trans (h.defaultRange.trans defaultRange_take.symm)
  tab?         := by rw [tab?_take, tab?_take, h.tab?]
  framed       := Framed.take.symm.trans (h.framed.trans .take)

theorem clearTimers (h : Alike k r r') : Alike k r.clearTimers r'.clearTimers where
  capacity     := h.capacity
  defaultRange := h.defaultRange
  tab?         := by rw [tab?_clearTimers, tab?_clearTimers, h.tab?]
  framed       := h.framed.clearTimers

theorem keepTimers (h : Alike k r r') : Alike k (r.keepTimers timers) (r'.keepTimers timers) := by
  induction timers generalizing r r' with
  | nil => exact h
  | cons timer timers hi =>
    apply hi
    exact ⟨h.capacity, h.defaultRange, by rw [tab?_keepTimer, tab?_keepTimer, h.tab?],
      h.framed.keepTimer⟩

theorem closeTab (h : Alike k r r') : Alike k (r.closeTab k') (r'.closeTab k') where
  capacity     := h.capacity
  defaultRange := h.defaultRange
  tab?         := by rw [tab?_closeTab, tab?_closeTab, h.tab?]
  framed       := h.framed.closeTab

theorem openTab? (h : Alike k r r') :
    Option.Rel (Alike k) (r.openTab? k' name? renderer) (r'.openTab? k' name? renderer) := by
  have ht (r : Registry) (t : Tab) (n : Nat) (range : TimeRange) (k : ObjectKey) :
      Registry.tab? ⟨r.tabs.insert k' t, n, range⟩ k = if k = k' then some t else r.tab? k := by
    simp [Registry.tab?, SortedMap.find?_insert]
  unfold Registry.openTab?
  rw [h.framed.contains, h.capacity, h.defaultRange]
  split
  · exact .none
  · refine .some ⟨rfl, rfl, by rw [ht, ht, h.tab?], fun k => ?_⟩
    rw [ht, ht]
    split
    · exact .some .refl
    · exact h.framed k

theorem set (h : Alike k r r') (f : Tab.Frame t t') (he : k' = k → t' = t) :
    Alike k (r.set k' t) (r'.set k' t') where
  capacity     := h.capacity
  defaultRange := h.defaultRange
  framed       := h.framed.set f
  tab?         := by
    rw [tab?_set, tab?_set, h.tab?]
    by_cases hk : k' = k
    · rw [he hk]
    · simp [Ne.symm hk]

end Alike

end Registry

namespace Session

variable {s s' s'' : Session} {op : Operation} {k k' : ObjectKey} {series : SeriesKey}
  {r r' : Registry} {f? : Option (ObjectKey × Feed)} {name? event? : Option String}
  {renderer : Renderer} {options : DisplayOptions} {surface : Surface} {raw : String}
  {received : Millis} {targets : List PollTarget} {unit : Float} {t : Ticket}

-- So are sessions that have the same connection as well.
structure Alike (k : ObjectKey) (s s' : Session) : Prop where
  connection : s'.connection = s.connection
  nextTimer  : s'.nextTimer = s.nextTimer
  registry   : s.registry.Alike k s'.registry

namespace Alike

theorem refl : Alike k s s :=
  ⟨rfl, rfl, .refl⟩

theorem symm (h : Alike k s s') : Alike k s' s :=
  ⟨h.connection.symm, h.nextTimer.symm, h.registry.symm⟩

theorem trans (h : Alike k s s') (h' : Alike k s' s'') : Alike k s s'' :=
  ⟨h'.connection.trans h.connection, h'.nextTimer.trans h.nextTimer, h.registry.trans h'.registry⟩

-- What operations are fed.

theorem addressee? {e : Envelope} (h : Alike k s s') : s'.addressee? e = s.addressee? e := by
  unfold Session.addressee?
  split
  · rfl
  · rw [h.registry.framed.shownAs]
  · rfl

theorem messageFeed? {e : Envelope} (h : Alike k s s') (kind : Kind) :
    s'.messageFeed? e received kind = s.messageFeed? e received kind := by
  cases kind with
  | sensorUpdate => simp only [Session.messageFeed?, h.addressee?]
  | _            => rfl

theorem acceptsPolled (h : Alike k s s') : s'.acceptsPolled k' = s.acceptsPolled k' := by
  unfold Session.acceptsPolled Session.tab?
  rcases h.registry.tabs k' with ⟨ht, ht'⟩ | ⟨t, t', ht, ht', f, _⟩
  · rw [ht, ht']
  · rw [ht, ht', Option.any_some, Option.any_some, Tab.timerCount, f.timers, Tab.timerCount]

theorem feed? (h : Alike k s s') : s'.feed? op = s.feed? op := by
  cases op with
  | message        => simp only [Session.feed?, h.messageFeed?]
  | polledSnapshot => simp only [Session.feed?, h.acceptsPolled]
  | polledValue    => simp only [Session.feed?, h.acceptsPolled]
  | _              => rfl

theorem callsFor (h : Alike k s s') : s'.callsFor k op = s.callsFor k op := by
  unfold Session.callsFor Session.feedOf?
  rw [h.registry.tab?, h.feed?]

-- The operations.

theorem feeds {st st' : Step α} (h : Alike k s s') (hf : s.Feeds op st) (hf' : s'.Feeds op st')
    (hc : st.session.connection = s.connection) (hc' : st'.session.connection = s'.connection) :
    Alike k st.session st'.session where
  connection := hc'.trans (h.connection.trans hc.symm)
  nextTimer  := hf'.nextTimer.trans (h.nextTimer.trans hf.nextTimer.symm)
  registry   := by
    rw [hf.registry, hf'.registry, h.feed?]
    rcases s.feed? op with _ | ⟨k, f⟩
    · exact h.registry
    · exact h.registry.take

theorem withRegistry (h : Alike k s s') (hr : r.Alike k r') :
    Alike k (s.withRegistry r) (s'.withRegistry r') :=
  ⟨h.connection, h.nextTimer, hr⟩

theorem startTimers (h : Alike k s s') :
    Alike k (s.startTimers targets).session (s'.startTimers targets).session := by
  unfold Session.startTimers
  rw [h.connection, h.nextTimer]
  exact ⟨h.connection, rfl, h.registry.keepTimers⟩

theorem activateFallback (h : Alike k s s') :
    Alike k s.activateFallback.session s'.activateFallback.session := by
  unfold Session.activateFallback
  rw [h.registry.framed.missingTargets]
  exact h.startTimers

theorem backfill (h : Alike k s s') : Alike k (s.backfill k').session (s'.backfill k').session := by
  unfold Session.backfill
  rw [h.connection, h.registry.framed.missingTargetsOf]
  split
  · exact h.startTimers
  · exact h

theorem transportError (h : Alike k s s') :
    Alike k (s.transportError unit).session (s'.transportError unit).session := by
  have hc : s'.connection.fail = s.connection.fail := congrArg Connection.fail h.connection
  unfold Session.transportError
  dsimp only
  rw [h.connection]
  split
  · exact ⟨rfl, h.nextTimer, h.registry⟩
  · exact activateFallback ⟨rfl, h.nextTimer, h.registry⟩
  · exact ⟨rfl, h.nextTimer, h.registry⟩

-- A message is taken up as an acknowledgement on both sides or on neither.
theorem message (h : Alike k s s') (hs : s.registry.Keyed) (hs' : s'.registry.Keyed) :
    Alike k (s.handleMessage event? raw received).session
      (s'.handleMessage event? raw received).session := by
  by_cases ha : (ackIn? event? raw).isSome ∧ s.connection.phase.expectsAck
  case pos =>
    obtain ⟨ha, hp⟩ := ha
    obtain ⟨ack, ha⟩ := Option.isSome_iff_exists.mp ha
    have hp' : s'.connection.phase.expectsAck := h.connection ▸ hp
    rw [handleMessage_of_ackIn? ha, handleMessage_of_ackIn? ha, acknowledge_eq hp, acknowledge_eq hp']
    exact ⟨congrArg (Connection.acknowledge · ack) h.connection, h.nextTimer, h.registry.clearTimers⟩
  case neg =>
    have hn (n : Nat) : (s.handleMessage event? raw received).answer ≠ .acknowledged n :=
      fun e => ha (acknowledged_iff.mp ⟨n, e⟩)
    have hn' (n : Nat) : (s'.handleMessage event? raw received).answer ≠ .acknowledged n :=
      fun e => ha (h.connection ▸ acknowledged_iff.mp ⟨n, e⟩)
    exact h.feeds (feeds_message hs hn) (feeds_message hs' hn') (connection_message hn)
      (connection_message hn')

theorem openTab (h : Alike k s s') :
    Alike k (s.openTab k' name? renderer).session (s'.openTab k' name? renderer).session := by
  have hr : Option.Rel (Registry.Alike k) (s.registry.openTab? k' name? renderer)
      (s'.registry.openTab? k' name? renderer) := h.registry.openTab?
  unfold Session.openTab
  generalize s.registry.openTab? k' name? renderer = r? at hr ⊢
  generalize s'.registry.openTab? k' name? renderer = r?' at hr ⊢
  cases hr with
  | none    => exact h
  | some hr => exact (h.withRegistry hr).backfill

theorem openChart (h : Alike k s s') : Alike k (s.openChart k' series options surface).session
    (s'.openChart k' series options surface).session := by
  unfold Session.openChart Session.tab?
  rcases h.registry.tabs k' with ⟨ht, ht'⟩ | ⟨t, t', ht, ht', f, he⟩ <;> rw [ht, ht']
  case inl => exact h
  case inr =>
    have ho : Option.Rel Tab.Frame (t.openChart? series options surface)
        (t'.openChart? series options surface) := f.openChart?
    have he : k' = k → t'.openChart? series options surface = t.openChart? series options surface :=
      fun hk => by rw [he hk]
    dsimp only [Option.bind_some]
    generalize t.openChart? series options surface = u? at ho he ⊢
    generalize t'.openChart? series options surface = u?' at ho he ⊢
    cases ho with
    | none   => exact h
    | some f => exact (h.withRegistry (h.registry.set f fun hk => Option.some.inj (he hk))).backfill

theorem closeChart (h : Alike k s s') :
    Alike k (s.closeChart k' series).session (s'.closeChart k' series).session := by
  unfold Session.closeChart Session.tab?
  rcases h.registry.tabs k' with ⟨ht, ht'⟩ | ⟨t, t', ht, ht', f, he⟩ <;> rw [ht, ht']
  case inl => exact h
  case inr => exact h.withRegistry (h.registry.set f.closeChart fun hk => by rw [he hk])

theorem step (h : Alike k s s') (hs : s.registry.Keyed) (hs' : s'.registry.Keyed) (op : Operation) :
    Alike k (s.step op).session (s'.step op).session := by
  cases op
  case connect => exact ⟨congrArg Connection.connect h.connection, h.nextTimer, h.registry⟩
  case redeem t => exact ⟨congrArg (Connection.redeem · t) h.connection, h.nextTimer, h.registry⟩
  case close =>
    exact ⟨congrArg Connection.close h.connection, h.nextTimer, h.registry.clearTimers⟩
  case message          => exact h.message hs hs'
  case transportError   => exact h.transportError
  case openTab          => exact h.openTab
  case closeTab         => exact h.withRegistry h.registry.closeTab
  case openChart        => exact h.openChart
  case closeChart       => exact h.closeChart
  case activateFallback => exact h.activateFallback
  case setRange k' range =>
    have hf (s : Session) : s.Feeds (.setRange k' range) (s.step (.setRange k' range)) :=
      ⟨rfl, rfl, rfl⟩
    exact h.feeds (hf s) (hf s') rfl rfl
  case polledSnapshot =>
    exact h.feeds (feeds_polledSnapshot.map _) (feeds_polledSnapshot.map _)
      frame_takePolled.connection frame_takePolled.connection
  case polledValue =>
    exact h.feeds (feeds_polledValue.map _) (feeds_polledValue.map _)
      frame_takePolled.connection frame_takePolled.connection
  case pollFailed       => exact ⟨h.connection, h.nextTimer, h.registry⟩

end Alike

end Session
end FleetMonitor
