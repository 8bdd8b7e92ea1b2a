import FleetMonitor.Proofs.Loops
import FleetMonitor.Proofs.Mirrors
import FleetMonitor.Proofs.Refusals
import FleetMonitor.Proofs.Timers

namespace FleetMonitor

-- Whether it closes a chart, or the tab that the chart is on.
def Operation.shuts (k : ObjectKey) (series : SeriesKey) : Operation → Bool
  | closeTab k'           => k' = k
  | closeChart k' series' => k' = k ∧ series' = series
  | _                     => false

def Happening.shuts (k : ObjectKey) (series : SeriesKey) : Happening → Bool
  | display op _ => op.shuts k series
  | _            => false

namespace Session

variable {s : Session} {op : Operation} {k : ObjectKey} {series : SeriesKey} {h : History}

theorem answer_display (ho : op.isDisplay) : ∃ b, (s.step op).answer = .flag b := by
  cases op <;> first | exact ⟨_, rfl⟩ | contradiction

-- While it does not poll, a session starts no timers for what is opened.
theorem starts_nothing (hk : s.registry.Keyed) (ho : op.isDisplay)
    (hp : s.connection.phase ≠ .polling) : (s.step op).session.nextTimer = s.nextTimer ∧
      ∀ t, .start t ∉ (s.step op).effects := by
  obtain ⟨b, ha⟩ := answer_display (s := s) ho
  have c := course hk op
  generalize s.step op = st at c ha
  cases c with
  | feeds hf =>
    refine ⟨hf.nextTimer, fun t ht => ?_⟩
    obtain ⟨_, _, he⟩ := hf.exists_call ht
    contradiction
  | refuses           => exact ⟨rfl, by simp⟩
  | stops _ _ ht _ he => exact ⟨ht, by simp [he]⟩
  | starts hs =>
    rcases hs with rfl | hs
    · contradiction
    · rw [hs] at ha
      contradiction
  | @openTab _ _ _ r =>
    rw [backfill_of_ne_polling (s := s.withRegistry r) hp]
    exact ⟨rfl, by simp [Step.map]⟩
  | closeTab => exact ⟨rfl, by simp [Session.closeTab, Step.map]⟩
  | @openChart k _ _ _ t =>
    rw [backfill_of_ne_polling (s := s.withRegistry (s.registry.set k t)) hp]
    exact ⟨rfl, by simp [Step.map]⟩
  | closeChart => exact ⟨rfl, by simp⟩

theorem pointsFor_display (ho : op.isDisplay) : s.pointsFor k series op = [] := by
  cases op <;> try contradiction
  case setRange => unfold pointsFor; simp only [feed?]; split <;> rfl
  all_goals exact pointsFor_of_none rfl

-- A chart that is open is the same after any change of tabs and charts, unless it is closed.
theorem history?_display (hk : s.registry.Keyed) (ho : op.isDisplay) (hn : ¬op.shuts k series)
    (hh : s.registry.history? k series = some h) :
    (s.step op).session.registry.history? k series = some h := by
  have hp : s.pointsFor k series op = [] := pointsFor_display ho
  have c := course hk op
  generalize s.step op = st at c
  cases c with
  | feeds hf      => rw [hf.registry, history?_take, hh, hp, Option.map_some, History.appendAll_nil]
  | refuses       => exact hh
  | stops _ _ _ hr  => rw [hr, Registry.history?_clearTimers, hh]
  | starts _ _ _ _ _ hr => rw [hr, Registry.history?_keepTimers, hh]
  | openTab hr    => exact history?_backfill.trans ((Registry.history?_openTab? hr).trans hh)
  | @closeTab k'  =>
    refine Registry.history?_closeTab.trans ((if_neg fun e => hn ?_).trans hh)
    simp [Operation.shuts, e]
  | @openChart k' series' _ _ _ hr =>
    refine history?_backfill.trans ((Registry.history?_openChart hr).trans ((if_neg ?_).trans hh))
    rintro ⟨rfl, rfl⟩
    obtain ⟨t, ht, hc⟩ := Option.bind_eq_some_iff.mp hr
    have ht : s.registry.tab? k = some t := ht
    simp [Registry.history?, ht, Tab.history?, (Tab.openChart?_eq hc).left] at hh
  | @closeChart k' series' t ht  =>
    refine (Registry.history?_closeChart ht).trans ((if_neg fun e => hn ?_).trans hh)
    simp [Operation.shuts, e]

end Session

namespace Client

variable {c c' : Client} {ts : List Timer}

-- Every poll loop that was not stopped runs for one of the given timers.
def Serves (polls : SortedMap Nat PollTask) (ts : List Timer) : Prop :=
  ∀ i p, polls.find? i = some p → ¬p.stopped → p.timer.id = i ∧ p.timer ∈ ts

theorem serves_apply {e : Effect} (h : Serves c.polls ts) :
    Serves (c.apply e).polls (Effect.after ts e) := by
  cases e with
  | call => exact h
  | start t =>
    intro i p hp hs
    rw [apply, find?_startPoll] at hp
    split at hp
    case isTrue he =>
      obtain rfl := Option.some.inj hp
      exact ⟨he.symm, List.mem_append_right _ (List.mem_singleton_self _)⟩
    case isFalse => exact (h i p hp hs).imp id (List.mem_append_left _)
  | stop t =>
    intro i p hp hs
    rw [apply, find?_stopPoll] at hp
    split at hp
    case isTrue =>
      obtain ⟨_, _, rfl⟩ := Option.map_eq_some_iff.mp hp
      exact absurd rfl hs
    case isFalse hi =>
      obtain ⟨he, hm⟩ := h i p hp hs
      exact ⟨he, List.mem_filter.mpr ⟨hm, by simpa [he] using hi⟩⟩

theorem serves_take {s : Session.Step α} (h : Serves c.polls ts) :
    Serves (c.take s).polls (Effect.live ts s.effects) := by
  have hf (es : List Effect) : ∀ (c : Client) ts, Serves c.polls ts →
      Serves (es.foldl apply c).polls (Effect.live ts es) := by
    induction es with
    | nil          => exact fun _ _ => id
    | cons e es hi => exact fun c ts h => hi (c.apply e) _ (serves_apply h)
  exact hf s.effects _ ts h

theorem serves_setPoll {timer : Nat} {waits : PollLoop} (h : Serves c.polls ts) :
    Serves (c.setPoll timer waits).polls ts := by
  intro i p hp hn
  obtain ⟨q, hq, ht, hs⟩ := exists_of_find?_setPoll hp
  exact ht ▸ h i q hq (hs ▸ hn)

theorem serves_endPoll {timer : Nat} (h : Serves c.polls ts) : Serves (c.endPoll timer).polls ts :=
  fun i p hp => h i p (find?_of_find?_endPoll hp).right

theorem serves_nil_iff {polls : SortedMap Nat PollTask} :
    Serves polls [] ↔ ∀ i p, polls.find? i = some p → p.stopped := by
  simp [Serves]

-- The poll loops are stopped with the timers of the session.
def Tended (c : Client) : Prop :=
  ∃ ts, c.session.registry.Keeps c.session.nextTimer ts ∧ Serves c.polls ts

namespace Tended

theorem take {op : Operation} (h : c.Tended) : (c.take (c.session.step op)).Tended := by
  obtain ⟨ts, hk, hs⟩ := h
  refine ⟨Effect.live ts (c.session.step op).effects, ?_, serves_take hs⟩
  rw [session_take]
  exact (Session.course hk.sound.keyed op).keeps hk

theorem act (h : c.Tended) (ha : c.Act c') : c'.Tended := by
  cases ha with
  | ask op => exact take (c := { c with asked := c.asked ++ [(op, (c.session.step op).answer)] }) h
  | other  => exact h
  | setPoll =>
    obtain ⟨ts, hk, hs⟩ := h
    exact ⟨ts, hk, serves_setPoll hs⟩
  | endPoll =>
    obtain ⟨ts, hk, hs⟩ := h
    exact ⟨ts, hk, serves_endPoll hs⟩

end Tended

theorem tended (o : Outset) (es : List Happening) : (o.after es).Tended :=
  o.keep ⟨[], .new, fun _ _ h => by contradiction⟩ (fun _ _ ha h => h.act ha)
    (fun _ _ _ h => h.take) es

-- A client of which every loop is stopped.
structure Closed (c : Client) : Prop where
  streams : ∀ i st, c.streams.find? i = some st → st.stopped
  polls   : ∀ i p, c.polls.find? i = some p → p.stopped
  sound   : c.session.registry.Sound
  phase   : c.session.connection.phase = .disconnected

theorem closed_close (h : c.Driven) (ht : c.Tended) : c.close.Closed := by
  obtain ⟨_, hn⟩ := h.stopStream
  obtain ⟨ts, hk, hs⟩ : c.close.Tended := acts_close.keep ht fun _ _ ha h => h.act ha
  have he : c.close.session = (c.stopStream.session.step .close).session := session_ask
  obtain rfl : ts = [] := by
    refine hk.eq_nil_iff.mpr fun x => ?_
    rw [he]
    exact Registry.timer?_clearTimers
  refine ⟨fun i st hf => ?_, serves_nil_iff.mp hs, hk.sound, by rw [he]; rfl⟩
  · rw [show c.close.streams = c.stopStream.streams from streams_ask] at hf
    by_contra hb
    obtain ⟨w, b⟩ := st
    obtain rfl : b = false := by simpa using hb
    exact hn hf

-- From one state to another nothing came of the client: it asked for nothing, except that streams
-- were closed, and what is shown is the same, with every chart that none of the given happenings
-- shuts.
structure Quiet (es : List Happening) (c c' : Client) : Prop where
  asked     : c'.asked = c.asked
  calls     : ∃ calls, c'.browser.calls = c.browser.calls ++ calls ∧ ∀ x ∈ calls, ∃ s, x = .closed s
  nextTimer : c'.session.nextTimer = c.session.nextTimer
  status    : c'.session.status = c.session.status
  stats     : c'.session.stats = c.session.stats
  signals   : c'.signals = c.signals
  history   : ∀ k series h, (∀ e ∈ es, ¬e.shuts k series) →
    c.session.registry.history? k series = some h → c'.session.registry.history? k series = some h

namespace Quiet

variable {c₁ c₂ c₃ : Client} {es es₁ es₂ : List Happening}

theorem of_session (ha : c₂.asked = c₁.asked)
    (hc : ∃ calls, c₂.browser.calls = c₁.browser.calls ++ calls ∧ ∀ x ∈ calls, ∃ s, x = .closed s)
    (hs : c₂.session = c₁.session) (hg : c₂.signals = c₁.signals) : Quiet es c₁ c₂ := by
  refine ⟨ha, hc, by rw [hs], by rw [hs], by rw [hs], hg, fun k series h _ hh => ?_⟩
  rw [hs]
  exact hh

theorem of_calls (ha : c₂.asked = c₁.asked) (hc : c₂.browser.calls = c₁.browser.calls)
    (hs : c₂.session = c₁.session) (hg : c₂.signals = c₁.signals) : Quiet es c₁ c₂ :=
  of_session ha ⟨[], by simp [hc], by simp⟩ hs hg

theorem refl : Quiet es c c :=
  of_calls rfl rfl rfl rfl

theorem trans (h₁ : Quiet es₁ c₁ c₂) (h₂ : Quiet es₂ c₂ c₃) : Quiet (es₁ ++ es₂) c₁ c₃ := by
  obtain ⟨calls₁, e₁, p₁⟩ := h₁.calls
  obtain ⟨calls₂, e₂, p₂⟩ := h₂.calls
  refine ⟨h₂.asked.trans h₁.asked, ⟨calls₁ ++ calls₂, ?_, fun x hx => ?_⟩,
    h₂.nextTimer.trans h₁.nextTimer, h₂.status.trans h₁.status, h₂.stats.trans h₁.stats,
    h₂.signals.trans h₁.signals, fun k series h hn hh => ?_⟩
  · rw [e₂, e₁, List.append_assoc]
  · exact (List.mem_append.mp hx).elim (p₁ x) (p₂ x)
  · obtain ⟨hn₁, hn₂⟩ := List.forall_mem_append.mp hn
    exact h₂.history k series h hn₂ (h₁.history k series h hn₁ hh)

end Quiet

theorem calls_releaseStream {b : Browser} {w : StreamLoop} : ∃ calls,
    (releaseStream b w).calls = b.calls ++ calls ∧ ∀ x ∈ calls, ∃ s, x = .closed s := by
  cases w with
  | starting  => exact ⟨[], by simp [releaseStream], by simp⟩
  | reading s =>
    simp only [releaseStream, Browser.close]
    split
    · exact ⟨[.closed s], rfl, by simp⟩
    · exact ⟨[], by simp, by simp⟩
  | delayed   =>
    simp only [releaseStream, Browser.cancelSleep]
    split <;> exact ⟨[], by simp [Browser.endSleep], by simp⟩

theorem calls_releasePoll {b : Browser} {p : PollLoop} : (releasePoll b p).calls = b.calls := by
  cases p with
  | starting => rfl
  | sleeping => simp only [releasePoll, Browser.cancelSleep]; split <;> rfl
  | fetching => simp only [releasePoll, Browser.cancelFetch]; split <;> rfl

-- A loop that is stopped only lets go of what it holds, and loops that are stopped stay so.

namespace Closed

variable (h : c.Closed)

include h

theorem of_eq (hs : c'.streams = c.streams) (hp : c'.polls = c.polls) (hn : c'.session = c.session) :
    c'.Closed := by
  refine ⟨fun i st => ?_, fun i p => ?_, ?_, ?_⟩
  · rw [hs]; exact h.streams i st
  · rw [hp]; exact h.polls i p
  · rw [hn]; exact h.sound
  · rw [hn]; exact h.phase

theorem display {op : Operation} (ho : op.isDisplay) :
    (c.take (c.session.step op)).Closed ∧
      Quiet [.display op ho] c (c.take (c.session.step op)) := by
  have hk := h.sound.keyed
  obtain ⟨hn, he⟩ := Session.starts_nothing hk ho (by rw [h.phase]; simp)
  obtain ⟨hs, _, ht⟩ := Session.shown_display (s := c.session) ho
  have hc := (c.session.moves op).eq_of_isLocal (Operation.isLocal_of_isDisplay ho)
  constructor
  · refine ⟨fun i st => ?_, ?_, ?_, ?_⟩
    · rw [streams_take]; exact h.streams i st
    · have hs := serves_take (s := c.session.step op) (serves_nil_iff.mpr h.polls)
      exact serves_nil_iff.mp (Effect.live_of_not_start he ▸ hs)
    · rw [session_take]; exact (Session.course hk op).sound h.sound
    · rw [session_take, hc]; exact h.phase
  · refine ⟨asked_take, ⟨[], ?_, by simp⟩, ?_, ?_, ?_, signals_take, fun k series hist hn hh => ?_⟩
    · rw [browser_take, List.append_nil]
    all_goals rw [session_take]
    · exact hn
    · exact hs
    · exact ht
    · exact Session.history?_display hk ho (hn _ (List.mem_singleton_self _)) hh

theorem runStream {task : Nat} {why : StreamSignal} :
    (c.runStream task why).Closed ∧ Quiet [] c (c.runStream task why) := by
  simp only [Client.runStream]
  split
  case h_1 => exact ⟨h, .refl⟩
  case h_2 w hf =>
    refine ⟨⟨fun i st hs => ?_, h.polls, h.sound, h.phase⟩, .of_session rfl calls_releaseStream rfl rfl⟩
    replace hs : (c.streams.erase task).find? i = some st := hs
    rw [SortedMap.find?_erase] at hs
    split at hs
    · contradiction
    · exact h.streams i st hs
  case h_3 hf => exact absurd (h.streams _ _ hf) (by simp)

theorem runPoll {timer : Nat} {why : PollSignal} :
    (c.runPoll timer why).Closed ∧ Quiet [] c (c.runPoll timer why) := by
  simp only [Client.runPoll]
  split
  case h_1 => exact ⟨h, .refl⟩
  case h_2 w hf =>
    refine ⟨⟨h.streams, fun i p hp => ?_, h.sound, h.phase⟩, .of_calls rfl calls_releasePoll rfl rfl⟩
    exact h.polls i p (find?_of_find?_endPoll hp).right
  case h_3 hf => exact absurd (h.polls _ _ hf) (by simp)

theorem runReady {r : Ready} : (c.runReady r).Closed ∧ Quiet [] c (c.runReady r) := by
  cases r with
  | stream => exact h.runStream
  | poll   => exact h.runPoll

theorem step {e : Happening} (hc : e ≠ .connect) (hx : e ≠ .close) :
    (c.step e).Closed ∧ Quiet [e] c (c.step e) := by
  by_cases ho : e.isOutside
  case pos =>
    obtain ⟨_, _, he, hb, _⟩ := c.step_outside ho
    rw [he]
    exact ⟨h.of_eq rfl rfl rfl, .of_calls rfl hb rfl rfl⟩
  case neg =>
    cases e with
    | connect       => contradiction
    | close         => contradiction
    | display op hd => exact h.display hd
    | turn i        =>
      simp only [Client.step]
      split
      case h_1 r _ =>
        have hd : (c.dequeue i).Closed := h.of_eq rfl rfl rfl
        have hq : Quiet [.turn i] c (c.dequeue i) := .of_calls rfl rfl rfl rfl
        exact hd.runReady.imp id hq.trans
      case h_2 => exact ⟨h, .refl⟩
    | _ => exact absurd rfl ho

theorem run {es : List Happening} (he : ∀ e ∈ es, e ≠ .connect ∧ e ≠ .close) :
    Quiet es c (c.run es) := by
  induction es generalizing c with
  | nil          => exact .refl
  | cons e es hi =>
    obtain ⟨⟨hc, hx⟩, he⟩ := List.forall_mem_cons.mp he
    obtain ⟨hs, hq⟩ := h.step hc hx
    exact hq.trans (hi hs he)

end Closed

-- After a client was closed nothing comes of what is still under way, of what the browser brings or of
-- the tabs and charts that are opened or closed, until the client connects or is closed again: nothing
-- is asked of the session, nothing is asked of the browser except that streams are closed, and no
-- timer is started. What is shown of the connection and the counters stay the same, and so do the
-- charts that stay open.
theorem close_is_final (o : Outset) (es es' : List Happening)
    (he : ∀ e ∈ es', e ≠ .connect ∧ e ≠ .close) :
    (o.after (es ++ .close :: es')).asked = (o.after (es ++ [.close])).asked ∧
    (∃ calls, (o.after (es ++ .close :: es')).browser.calls =
        (o.after (es ++ [.close])).browser.calls ++ calls ∧ ∀ x ∈ calls, ∃ s, x = .closed s) ∧
    (o.after (es ++ .close :: es')).session.nextTimer =
      (o.after (es ++ [.close])).session.nextTimer ∧
    (o.after (es ++ .close :: es')).session.status = (o.after (es ++ [.close])).session.status ∧
    (o.after (es ++ .close :: es')).session.stats = (o.after (es ++ [.close])).session.stats ∧
    (o.after (es ++ .close :: es')).signals = (o.after (es ++ [.close])).signals ∧
    ∀ k series h, (∀ e ∈ es', ¬e.shuts k series) →
      (o.after (es ++ [.close])).session.registry.history? k series = some h →
      (o.after (es ++ .close :: es')).session.registry.history? k series = some h := by
  have hc : (o.after es).close.Closed := closed_close (driven o es) (tended o es)
  have h₁ : o.after (es ++ [.close]) = (o.after es).close := Outset.after_concat
  have h₂ : o.after (es ++ .close :: es') = (o.after es).close.run es' := run_append
  have hq : Quiet es' (o.after (es ++ [.close])) (o.after (es ++ .close :: es')) := by
    rw [h₁, h₂]
    exact hc.run he
  exact ⟨hq.asked, hq.calls, hq.nextTimer, hq.status, hq.stats, hq.signals, hq.history⟩

-- The only attempt fails, an open tab is polled, and then the client is closed. The end of the loop's
-- sleep leads to nothing, nor does another tab that is opened.
theorem sleep_ends_after_close : ∃ (o : Outset) (es es' : List Happening) (s : Sleep),
    s ∈ (o.after (es ++ [.close])).browser.sleeps ∧ .expiry s ∈ es' ∧
    (∀ e ∈ es', e ≠ .connect ∧ e ≠ .close) ∧
    ((o.after (es ++ .close :: es')).session.tab? ⟨"a", "c"⟩).isSome ∧
    (o.after (es ++ .close :: es')).asked = (o.after (es ++ [.close])).asked := by
  have he : ∀ e ∈ [
      Happening.expiry ⟨0, 5000⟩,
      .turn 0,
      .display (.openTab ⟨"a", "c"⟩ none ⟨true, []⟩) rfl,
      .turn 0], e ≠ .connect ∧ e ≠ .close := by simp
  have hc := close_is_final ⟨{ Config.default with maxReconnectAttempts := 1 }, 0, [], 1, .bounded⟩ [
    .turn 0, .display (.openTab ⟨"a", "b"⟩ none ⟨true, []⟩) rfl, .turn 0] _ he
  exact ⟨_, _, _, ⟨0, 5000⟩, by decide +kernel, by simp, he, rfl, hc.left⟩

end Client
end FleetMonitor
