import FleetMonitor.Proofs.PollLoops

namespace FleetMonitor

namespace PollLoop

-- Whether that for which a loop waits was begun so far.
def Begun (b : Browser) : PollLoop → Prop
  | starting   => True
  | sleeping z => z < b.nextSleep
  | fetching f => f < b.nextFetch

-- Whether it is not over.
def UnderWay (b : Browser) : PollLoop → Prop
  | starting   => False
  | sleeping z => b.Lasts (.sleep z)
  | fetching f => f ∈ b.fetches

variable {w w' : PollLoop} {b b' : Browser}

theorem Begun.mono (h : w.Begun b) (hz : b.nextSleep ≤ b'.nextSleep)
    (hf : b.nextFetch ≤ b'.nextFetch) : w.Begun b' := by
  cases w with
  | starting => trivial
  | sleeping => exact Nat.lt_of_lt_of_le h hz
  | fetching => exact Nat.lt_of_lt_of_le h hf

theorem UnderWay.ne_starting (h : w.UnderWay b) : w ≠ .starting := by
  rintro rfl
  exact h

theorem UnderWay.releasePoll (h : w.UnderWay b) (hn : w ≠ w') :
    w.UnderWay (Client.releasePoll b w') := by
  cases w with
  | starting   => contradiction
  | sleeping z =>
    refine Browser.lasts_releasePoll (x := .sleep z) h fun he => hn ?_
    cases w' <;> simp_all [holding?]
  | fetching f =>
    cases w' with
    | starting    => exact h
    | sleeping z  =>
      change f ∈ (b.cancelSleep z).fetches
      unfold Browser.cancelSleep
      split <;> exact h
    | fetching f' =>
      change f ∈ (b.cancelFetch f').fetches
      unfold Browser.cancelFetch
      split
      · exact List.mem_filter.mpr ⟨h, by simpa using hn⟩
      · exact h

theorem Begun.releasePoll (h : w.Begun b) : w.Begun (Client.releasePoll b w') := by
  refine h.mono ?_ ?_
  all_goals
    cases w' with
    | starting => exact Nat.le_refl _
    | sleeping => simp only [Client.releasePoll, Browser.cancelSleep]; split <;> exact Nat.le_refl _
    | fetching => simp only [Client.releasePoll, Browser.cancelFetch]; split <;> exact Nat.le_refl _

end PollLoop

-- From one state to another something may have been begun, and nothing is over that goes on before.
structure Browser.Continues (b b' : Browser) : Prop where
  begun    : ∀ w : PollLoop, w.Begun b → w.Begun b'
  underWay : ∀ w : PollLoop, w.UnderWay b → w.UnderWay b'

theorem Browser.continues_sleep {b : Browser} {ms : UInt64} : b.Continues (b.sleep ms).1 where
  begun _ h := h.mono (Nat.le_succ _) (Nat.le_refl _)
  underWay w h := by
    cases w with
    | sleeping z => exact lasts_of_sleep (x := .sleep z) h
    | _          => exact h

theorem Browser.continues_fetch {b : Browser} {url : String} : b.Continues (b.fetch url).1 where
  begun _ h := h.mono (Nat.le_refl _) (Nat.le_succ _)
  underWay w h := by
    cases w with
    | fetching => exact List.mem_append_left _ h
    | _        => exact h

namespace Client

variable {c c' : Client} {i j : Nat} {t : Timer} {w : PollLoop} {why : PollSignal}

-- What a loop waits for is under way, or it has made the loop ready.
def Expects (c : Client) (i : Nat) (w : PollLoop) : Prop :=
  w.UnderWay c.browser ∨ ∃ why, w.Takes why ∧ .poll i why ∈ c.ready

theorem Polls.holding? (h : c.Polls i t w) : pollHolding? c.polls i = w.holding? := by
  rw [pollHolding?, h]
  rfl

theorem Expects.mono (h : c.Expects i w) (hb : w.UnderWay c.browser → w.UnderWay c'.browser)
    (hr : ∀ why, w.Takes why → .poll i why ∈ c.ready → .poll i why ∈ c'.ready) : c'.Expects i w :=
  h.imp hb fun ⟨why, ht, hm⟩ => ⟨why, ht, hr why ht hm⟩

-- Every sleep and every fetch is begun by one loop, which waits for it, and a loop that was not
-- stopped waits for what is under way or is ready to go on.
structure Patient (c : Client) : Prop where
  begun  : ∀ {i p}, c.polls.find? i = some p → p.waits.Begun c.browser
  -- No two loops wait for the same.
  unique : ∀ {i j p q}, c.polls.find? i = some p → c.polls.find? j = some q →
    p.waits = q.waits → p.waits ≠ .starting → i = j
  awaits : ∀ {i t w}, c.Polls i t w → c.Expects i w

namespace Patient

variable (h : c.Patient)

include h

theorem take {op : Operation} : (c.take (c.session.step op)).Patient where
  begun := fun hp => by
    rw [browser_take]
    rcases find?_take hp with ⟨q, hq, hr⟩ | ⟨_, _, _, _, hw, _⟩
    · rw [hr.waits]
      exact h.begun hq
    · rw [hw]
      trivial
  unique := fun hp hq he hn => by
    rcases find?_take hp with ⟨p', hp', hr⟩ | ⟨_, _, _, _, hw, _⟩
    case inr => exact absurd hw hn
    case inl =>
      rcases find?_take hq with ⟨q', hq', hr'⟩ | ⟨_, _, _, _, hw, _⟩
      case inr => exact absurd (he.trans hw) hn
      case inl => exact h.unique hp' hq' (hr.waits.symm.trans (he.trans hr'.waits)) (hr.waits ▸ hn)
  awaits := fun hp => by
    rcases polls_of_take hp with hp | ⟨_, _, rfl, hm⟩
    · refine (h.awaits hp).mono (fun hu => ?_) fun _ _ => mem_ready_take
      rwa [browser_take]
    · exact .inr ⟨.turn, trivial, hm⟩

-- The loops are the same.
theorem of_polls_eq (hp : c'.polls = c.polls)
    (hb : ∀ w : PollLoop, w.Begun c.browser → w.Begun c'.browser)
    (ha : ∀ i t w, c.Polls i t w → c.Expects i w → c'.Expects i w) : c'.Patient := by
  refine ⟨?_, ?_, fun {i t w} hi => ?_⟩
  · rw [hp]
    exact fun hi => hb _ (h.begun hi)
  · rw [hp]
    exact h.unique
  · rw [Polls, hp] at hi
    exact ha i t w hi (h.awaits hi)

theorem errand (he : c.Errand c') : c'.Patient := by
  cases he with
  | take => exact h.take
  | other _ _ _ _ _ _ _ hb hr =>
    refine h.of_polls_eq rfl (fun w hw => hw.mono hb.nextSleep hb.nextFetch.ge) fun i t w hp hx => ?_
    refine hx.mono (fun hu => ?_) fun why _ => hr i why
    cases w with
    | starting => exact hu
    | sleeping => exact hb.lasts i _ hp.holding? hu
    | fetching => exact (congrArg (_ ∈ ·) hb.fetches).mpr hu

-- A loop begins something and waits for it.
theorem setPoll (hp : c'.polls = (c.setPoll i w).polls)
    (hb : c.browser.Continues c'.browser) (hn : ¬w.Begun c.browser) (hw : w.Begun c'.browser)
    (hu : w.UnderWay c'.browser)
    (hr : ∀ j why, j ≠ i → .poll j why ∈ c.ready → .poll j why ∈ c'.ready) : c'.Patient := by
  have hi {j : Nat} {p : PollTask} (hj : c'.polls.find? j = some p) :
      j = i ∧ p.waits = w ∨ j ≠ i ∧ c.polls.find? j = some p := by
    rw [hp, find?_setPoll] at hj
    split at hj
    case isTrue e  =>
      obtain ⟨_, _, rfl⟩ := Option.map_eq_some_iff.mp hj
      exact .inl ⟨e, rfl⟩
    case isFalse e => exact .inr ⟨e, hj⟩
  refine ⟨fun hj => ?begun, fun {j k p q} hj hk he hs => ?unique, fun {j t w'} hj => ?awaits⟩
  case begun =>
    rcases hi hj with ⟨_, he⟩ | ⟨_, hj⟩
    · exact he ▸ hw
    · exact hb.begun _ (h.begun hj)
  case unique =>
    rcases hi hj with ⟨ej, hej⟩ | ⟨_, hj⟩ <;> rcases hi hk with ⟨ek, hek⟩ | ⟨_, hk⟩
    · exact ej.trans ek.symm
    · exact absurd (he.symm.trans hej ▸ h.begun hk) hn
    · exact absurd (he.trans hek ▸ h.begun hj) hn
    · exact h.unique hj hk he hs
  case awaits =>
    rcases hi hj with ⟨_, he⟩ | ⟨hn, hj⟩
    · obtain rfl : w' = w := he
      exact .inl hu
    · exact (h.awaits hj).mono (hb.underWay w') fun why _ => hr j why hn

theorem sleepPoll (hb : c'.browser = c.browser) (hp : c'.polls = c.polls)
    (hr : ∀ j why, j ≠ t.id → .poll j why ∈ c.ready → .poll j why ∈ c'.ready) :
    (c'.sleepPoll t).Patient := by
  have hs : (c'.sleepPoll t).browser = (c.browser.sleep t.every).1 := by rw [← hb]; rfl
  have hz : (c'.sleepPoll t).polls = (c.setPoll t.id (.sleeping c.browser.nextSleep)).polls := by
    rw [← hb]
    exact congrArg (·.modify t.id ({ · with waits := .sleeping c'.browser.nextSleep })) hp
  refine h.setPoll hz ?_ (Nat.lt_irrefl _) ?_ ?_ hr <;> rw [hs]
  · exact Browser.continues_sleep
  · exact Nat.lt_succ_self _
  · exact Browser.lasts_sleep

-- A loop that was stopped lets go of what it waits for, and that is nothing to the others.
theorem endPoll {p : PollTask} (hi : c.polls.find? i = some p)
    (hp : c'.polls = (c.endPoll i).polls) (hb : c'.browser = releasePoll c.browser p.waits)
    (hr : ∀ j why, j ≠ i → .poll j why ∈ c.ready → .poll j why ∈ c'.ready) : c'.Patient := by
  have hi' {j : Nat} {q : PollTask} (hj : c'.polls.find? j = some q) :
      j ≠ i ∧ c.polls.find? j = some q :=
    find?_of_find?_endPoll (hp ▸ hj)
  refine ⟨fun hj => ?begun, fun hj hk => ?unique, fun {j t w} hj => ?awaits⟩
  case begun =>
    rw [hb]
    exact (h.begun (hi' hj).right).releasePoll
  case unique => exact h.unique (hi' hj).right (hi' hk).right
  case awaits =>
    obtain ⟨hn, hj⟩ := hi' hj
    refine (h.awaits hj).mono (fun hu => ?_) fun why _ => hr j why hn
    rw [hb]
    exact hu.releasePoll fun he => hn (h.unique hj hi he hu.ne_starting)

theorem turn (ht : c.Tended) (hj : c.ready[j]? = some (.poll i why)) :
    (c.step (.turn j)).Patient := by
  have hd {k : Nat} {why' : PollSignal} (hm : .poll k why' ∈ c.ready) (hn : k = i → why' ≠ why) :
      .poll k why' ∈ (c.dequeue j).ready := by
    obtain ⟨l, hl⟩ := List.mem_iff_getElem?.mp hm
    refine List.mem_eraseIdx_iff_getElem?.mpr ⟨l, ?_, hl⟩
    rintro rfl
    obtain ⟨e, e'⟩ := Ready.poll.inj (Option.some.inj (hl.symm.trans hj))
    exact hn e e'
  have hr : (c.dequeue j).PollRun i why (c.step (.turn j)) := pollRun_step hj
  generalize c.step (.turn j) = c' at hr
  cases hr with
  | passes hn =>
    refine h.of_polls_eq rfl (fun _ => id) fun k t w hp hx => hx.mono id fun why' ht hm => ?_
    refine hd hm ?_
    rintro rfl rfl
    exact (hn _ hp).right ht
  | ends hp => exact h.endPoll hp rfl rfl fun k why hn hm => hd hm fun e => absurd e hn
  | sleeps hp =>
    obtain rfl := ht.id_of_polls hp
    exact h.sleepPoll rfl rfl fun k why hn hm => hd hm fun e => absurd e hn
  | fetches hp =>
    obtain rfl := ht.id_of_polls hp
    exact h.setPoll rfl Browser.continues_fetch (Nat.lt_irrefl _) (Nat.lt_succ_self _)
      (List.mem_append_right _ (List.mem_singleton_self _))
      fun k why hn hm => hd hm fun e => absurd e hn
  | reads hp =>
    obtain rfl := ht.id_of_polls hp
    exact h.sleepPoll browser_ask polls_readReply
      fun k why hn hm => mem_ready_ask (hd hm fun e => absurd e hn)

-- The browser says what is over, and that makes the loop ready that waits for it.
theorem hear {b : Browser} {rs : List Ready} (hb : ∀ w : PollLoop, w.Begun c.browser → w.Begun b)
    (hu : ∀ i t w, c.Polls i t w → w.UnderWay c.browser →
      w.UnderWay b ∨ ∃ why, w.Takes why ∧ .poll i why ∈ rs) :
    Patient { c with browser := b, ready := c.ready ++ rs } := by
  refine h.of_polls_eq rfl hb fun i t w hp hx => ?_
  rcases hx with hx | ⟨why, ht, hm⟩
  · exact (hu i t w hp hx).imp id fun ⟨why, ht, hm⟩ => ⟨why, ht, List.mem_append_right _ hm⟩
  · exact .inr ⟨why, ht, List.mem_append_left _ hm⟩

theorem eq_of_waits {p : PollTask} (hp : (j, p) ∈ c.polls.entries) (hw : p.waits = w)
    (hn : w ≠ .starting) (hi : c.Polls i t w) : j = i :=
  h.unique (SortedMap.find?_eq_some_iff.mpr hp) hi hw (hw ▸ hn)

theorem wake (ho : Owns c.browser c.streams c.polls) {s : Sleep} : (c.wake s).Patient := by
  have hb (w : PollLoop) (hw : w.Begun c.browser) : w.Begun (c.browser.wake s) :=
    hw.mono (Nat.le_refl _) (Nat.le_refl _)
  have hu {rs : List Ready} (hs : ∀ i t, c.Polls i t (.sleeping s.id) → .poll i (.woken s.id) ∈ rs)
      (i : Nat) (t : Timer) (w : PollLoop) (hp : c.Polls i t w) (hl : w.UnderWay c.browser) :
      w.UnderWay (c.browser.wake s) ∨ ∃ why, w.Takes why ∧ .poll i why ∈ rs := by
    cases w with
    | starting   => exact .inl hl
    | fetching   => exact .inl hl
    | sleeping z =>
      by_cases hz : z = s.id
      case pos =>
        obtain rfl := hz
        exact .inr ⟨.woken s.id, rfl, hs i t hp⟩
      case neg => exact .inl (Browser.lasts_endSleep (x := .sleep z) hl (by simpa using hz))
  simp only [Client.wake, wakeSleeper]
  split
  case h_1 task st hf =>
    have hm : c.streams.find? task = some st :=
      SortedMap.find?_eq_some_iff.mpr (List.mem_of_find?_eq_some hf)
    have hs := List.find?_some hf
    have hx : streamHolding? c.streams task = some (.sleep s.id) := by
      rw [streamHolding?, hm]
      exact StreamLoop.holding?_of_isDelayed hs
    exact h.hear hb (hu fun i t hp => absurd hp.holding? (ho.apart hx))
  case h_2 =>
    split
    case h_1 timer p hf =>
      refine h.hear hb (hu fun i t hp => ?_)
      have hw : p.waits = .sleeping s.id := by simpa using List.find?_some hf
      obtain rfl := h.eq_of_waits (List.mem_of_find?_eq_some hf) hw (by simp) hp
      exact List.mem_singleton_self _
    case h_2 hf =>
      have hn (i : Nat) (t : Timer) (hp : c.Polls i t (.sleeping s.id)) :
          Ready.poll i (.woken s.id) ∈ [] := by
        have he := List.find?_eq_none.mp hf _ (SortedMap.find?_eq_some_iff.mp hp)
        simp at he
      have := h.hear hb (hu hn)
      rwa [List.append_nil] at this

theorem reply {f : Nat} {q : Reply} : (c.reply f q).Patient := by
  have hb (w : PollLoop) (hw : w.Begun c.browser) : w.Begun (c.browser.endFetch f) :=
    hw.mono (Nat.le_refl _) (Nat.le_refl _)
  have hu {rs : List Ready} (hs : ∀ i t, c.Polls i t (.fetching f) → .poll i (.reply f q) ∈ rs)
      (i : Nat) (t : Timer) (w : PollLoop) (hp : c.Polls i t w) (hl : w.UnderWay c.browser) :
      w.UnderWay (c.browser.endFetch f) ∨ ∃ why, w.Takes why ∧ .poll i why ∈ rs := by
    cases w with
    | starting    => exact .inl hl
    | sleeping    => exact .inl hl
    | fetching f' =>
      by_cases hf : f' = f
      case pos =>
        obtain rfl := hf
        exact .inr ⟨.reply f' q, rfl, hs i t hp⟩
      case neg => exact .inl (List.mem_filter.mpr ⟨hl, by simpa using hf⟩)
  simp only [Client.reply]
  split
  case isFalse => exact h
  case isTrue  =>
    split
    case h_1 timer p hf =>
      refine h.hear hb (hu fun i t hp => ?_)
      have hw : p.waits = .fetching f := by simpa using List.find?_some hf
      obtain rfl := h.eq_of_waits (List.mem_of_find?_eq_some hf) hw (by simp) hp
      exact List.mem_singleton_self _
    case h_2 hf =>
      have hn (i : Nat) (t : Timer) (hp : c.Polls i t (.fetching f)) :
          Ready.poll i (.reply f q) ∈ [] := by
        have he := List.find?_eq_none.mp hf _ (SortedMap.find?_eq_some_iff.mp hp)
        simp at he
      have := h.hear hb (hu hn)
      rwa [List.append_nil] at this

theorem step (hd : c.Driven) (ht : c.Tended) (e : Happening) : (c.step e).Patient := by
  rcases errands_step hd e with he | he
  · exact he.keep h fun _ _ he h => h.errand he
  · cases he with
    | turn hi   => exact h.turn ht hi
    | reply     => exact h.reply
    | expiry hm =>
      simp only [Client.step, if_pos hm]
      exact h.wake hd.owns

end Patient

end Client
end FleetMonitor
