import FleetMonitor.Proofs.Waits

namespace FleetMonitor

-- What a poll loop does when it runs: what it is told, and what it asks of the session and of the
-- browser.
structure PollTurn where
  time  : Millis
  why   : PollSignal
  asked : List (Operation × Answer)
  calls : List BrowserCall

def PollTurn.isIdle (p : PollTurn) : Bool :=
  p.asked.isEmpty && p.calls.isEmpty

-- How the loop of a timer goes on.
inductive PollLoop.Goes (base : String) (t : Timer) : PollLoop → PollTurn → PollLoop → Prop
  | sleep : Goes base t .starting ⟨time, .turn, [], [.slept z t.every]⟩ (.sleeping z)
  | fetch : Goes base t (.sleeping z) ⟨time, .woken z, [], [.fetched f (t.target.url base)]⟩
    (.fetching f)
  | read (h : t.target.Means time q op) :
    Goes base t (.fetching f) ⟨time, .reply f q, [(op, a)], [.slept z t.every]⟩ (.sleeping z)

-- Whether sleeps can last for the interval of a timer.
def Timer.Fits (t : Timer) : Prop :=
  t.every < SleepLength.exactBound

namespace Client

-- What the client and its loops ask of the browser when something happens.
def calls (c : Client) (e : Happening) : List BrowserCall :=
  (c.step e).browser.calls.drop c.browser.calls.length

-- What the given poll loop does when something happens, if it does anything.
def pollTurn? (c : Client) (i : Nat) : Happening → Option PollTurn
  | .turn j =>
    match c.ready[j]? with
    | some (.poll i' why) =>
      if i' = i then
        (some ⟨c.browser.time, why, c.asks (.turn j), c.calls (.turn j)⟩).filter (!·.isIdle)
      else none
    | _ => none
  | _ => none

def pollTurns (c : Client) (i : Nat) : List Happening → List PollTurn
  | []      => []
  | e :: es => (c.pollTurn? i e).toList ++ (c.step e).pollTurns i es

def Outset.pollTurns (o : Outset) (i : Nat) (es : List Happening) : List PollTurn :=
  (o.after []).pollTurns i es

-- A sleep of so many milliseconds was asked for, and while it is not over it is due that long after.
def Outset.Asleep (o : Outset) (es : List Happening) (z : Nat) (ms : UInt64) : Prop :=
  ∃ es₁ e es₂, es = es₁ ++ e :: es₂ ∧ .slept z ms ∈ (o.after es₁).calls e ∧
    ∀ s ∈ (o.after es).browser.sleeps, s.id = z → s.due = (o.after es₁).browser.now + ms.toNat

-- From one state to another a loop that sleeps now fell asleep for the interval of its timer.
def FallsAsleep (t : Timer) (w : PollLoop) (c c' : Client) : Prop :=
  ∀ z, w = .sleeping z →
    z = c.browser.nextSleep ∧ c'.browser.sleeps = (c.browser.sleep t.every).1.sleeps

variable {c c' : Client} {i j k : Nat} {t : Timer} {w : PollLoop} {why : PollSignal} {e : Happening}
  {es es' : List Happening} {p : PollTurn}

theorem exists_ready_of_pollTurn? (h : c.pollTurn? i e = some p) :
    ∃ j, e = .turn j ∧ c.ready[j]? = some (.poll i p.why) ∧ p.calls = c.calls e := by
  cases e with
  | turn j =>
    simp only [pollTurn?] at h
    split at h
    case h_2 => contradiction
    case h_1 i' why hj =>
      split at h
      case isFalse => contradiction
      case isTrue e =>
        obtain rfl := Option.some.inj (Option.filter_eq_some_iff.mp h).left
        exact ⟨j, rfl, e ▸ hj, rfl⟩
  | _ => contradiction

theorem pollTurn?_of_ready {as : List (Operation × Answer)} {bs : List BrowserCall}
    (hj : c.ready[j]? = some (.poll i why)) (ha : (c.step (.turn j)).asked = c.asked ++ as)
    (hb : (c.step (.turn j)).browser.calls = c.browser.calls ++ bs) : c.pollTurn? i (.turn j) =
      (some ⟨c.browser.time, why, as, bs⟩ : Option PollTurn).filter (!·.isIdle) := by
  simp only [pollTurn?, hj, if_true, asks, calls, ha, hb, List.drop_left]

theorem polls_setPoll {w' : PollLoop} (h : c.Polls i t w) : (c.setPoll i w').Polls i t w' := by
  rw [Polls, find?_setPoll, if_pos rfl, h]
  rfl

-- A poll loop that runs goes on, or it does not wait for what it is told and does nothing.
theorem turn_cases (hc : c.Tended) (hj : c.ready[j]? = some (.poll i why)) :
    (c.pollTurn? i (.turn j) = none ∧ (∀ t w, (c.step (.turn j)).Polls i t w → c.Polls i t w) ∧
      ∀ t w, c.Polls i t w → ¬w.Takes why) ∨
    ∃ t w p w', c.Polls i t w ∧ c.pollTurn? i (.turn j) = some p ∧
      w.Goes c.session.config.apiBase t p w' ∧ (c.step (.turn j)).Polls i t w' ∧
      FallsAsleep t w' c (c.step (.turn j)) := by
  have hr : (c.dequeue j).PollRun i why (c.step (.turn j)) := pollRun_step hj
  have ht {as : List (Operation × Answer)} {bs : List BrowserCall}
      (ha : (c.step (.turn j)).asked = c.asked ++ as)
      (hb : (c.step (.turn j)).browser.calls = c.browser.calls ++ bs) :=
    pollTurn?_of_ready hj ha hb
  generalize c.step (.turn j) = c' at hr ht
  cases hr with
  | passes hn =>
    refine .inl ⟨?_, fun _ _ => id, fun _ _ hp => (hn _ hp).right⟩
    rw [ht (List.append_nil _).symm (List.append_nil _).symm]
    rfl
  | ends hp =>
    refine .inl ⟨?_, fun t w hw => ?_, fun t w hw => ?_⟩
    · rw [ht (List.append_nil _).symm (calls_releasePoll.trans (List.append_nil _).symm)]
      rfl
    · exact absurd rfl (find?_of_find?_endPoll hw).left
    · have he := hp.symm.trans hw
      simp at he
  | @sleeps t hp =>
    obtain rfl := hc.id_of_polls hp
    refine .inr ⟨t, _, _, _, hp, ht (List.append_nil _).symm rfl, .sleep, ?_, ?_⟩
    · exact polls_setPoll (c := (c.dequeue j).setBrowser _) hp
    · rintro _ ⟨⟩
      exact ⟨rfl, rfl⟩
  | @fetches t _ hp =>
    obtain rfl := hc.id_of_polls hp
    refine .inr ⟨t, _, _, _, hp, ht (List.append_nil _).symm rfl, .fetch, ?_, nofun⟩
    exact polls_setPoll (c := (c.dequeue j).setBrowser _) hp
  | @reads t f q hp =>
    obtain rfl := hc.id_of_polls hp
    let r := (c.dequeue j).readReply t q
    have hb : r.browser = c.browser := browser_ask
    have hr : r.Polls t.id t (.fetching f) := by rwa [Polls, polls_readReply]
    have hs : (r.sleepPoll t).browser.calls =
        c.browser.calls ++ [.slept r.browser.nextSleep t.every] := by rw [← hb]; rfl
    refine .inr ⟨t, _, _, _, hp, ht asked_ask hs, .read PollTarget.means_onReply, ?_, ?_⟩
    · exact polls_setPoll (c := r.setBrowser _) hr
    · rintro _ ⟨⟩
      exact ⟨congrArg Browser.nextSleep hb, congrArg (·.sleep t.every |>.1.sleeps) hb⟩

-- A loop that was stopped, or that there is not, does nothing.
theorem pollTurn?_eq_none (hc : c.Tended) (hn : ∀ t w, ¬c.Polls i t w) : c.pollTurn? i e = none := by
  by_contra hp
  obtain ⟨p, hp⟩ := Option.ne_none_iff_exists'.mp hp
  obtain ⟨j, rfl, hj, _⟩ := exists_ready_of_pollTurn? hp
  rcases turn_cases hc hj with ⟨he, _⟩ | ⟨t, w, _, _, hw, _⟩
  · rw [he] at hp
    contradiction
  · exact hn t w hw

section

variable {o : Outset} {z : Nat} {ms : UInt64}

theorem Outset.Asleep.slept (h : o.Asleep es z ms) : .slept z ms ∈ (o.after es).browser.calls := by
  obtain ⟨es₁, e, es₂, rfl, hc, _⟩ := h
  rw [Outset.after, run_append, run_cons]
  exact (proceeds_run es₂).calls (List.mem_of_mem_drop hc)

end

theorem Retired.pollTurns (h : c.Retired i) (ht : c.Tended) : c.pollTurns i es = [] := by
  induction es generalizing c with
  | nil => rfl
  | cons e es hi =>
    obtain ⟨h', ht'⟩ := h.step ht e
    rw [Client.pollTurns, pollTurn?_eq_none ht fun _ _ => h.not_polls]
    exact hi h' ht'

end Client
end FleetMonitor
