import FleetMonitor.Proofs.Loops

namespace FleetMonitor

-- From one state to another the sleeps of poll loops and all fetches go on.
structure Browser.Spares (polls : SortedMap Nat PollTask) (b b' : Browser) : Prop where
  nextSleep : b.nextSleep ≤ b'.nextSleep
  lasts     : ∀ i z, Client.pollHolding? polls i = some (.sleep z) → b.Lasts (.sleep z) →
    b'.Lasts (.sleep z)
  fetches   : b'.fetches = b.fetches
  nextFetch : b'.nextFetch = b.nextFetch

namespace Browser.Spares

variable {polls : SortedMap Nat PollTask} {b b' b'' : Browser} {z : Nat} {url : String}

theorem of_eq (hn : b'.nextSleep = b.nextSleep) (hs : b'.sleeps = b.sleeps)
    (hl : b'.lostSleeps = b.lostSleeps) (hf : b'.fetches = b.fetches)
    (hm : b'.nextFetch = b.nextFetch) : Spares polls b b' := by
  refine ⟨hn.ge, fun _ _ _ h => ?_, hf, hm⟩
  rwa [Lasts, hs, hl]

theorem refl : Spares polls b b :=
  of_eq rfl rfl rfl rfl rfl

theorem trans (h : Spares polls b b') (h' : Spares polls b' b'') : Spares polls b b'' where
  nextSleep        := h.nextSleep.trans h'.nextSleep
  lasts i z hi hl  := h'.lasts i z hi (h.lasts i z hi hl)
  fetches          := h'.fetches.trans h.fetches
  nextFetch        := h'.nextFetch.trans h.nextFetch

theorem sleep {ms : UInt64} : Spares polls b (b.sleep ms).1 :=
  ⟨Nat.le_succ _, fun _ _ _ => lasts_of_sleep, rfl, rfl⟩

-- A random number is used up and a sleep begins.
theorem delay {ms : UInt64} : Spares polls b (b.dropRandom.sleep ms).1 :=
  have h : Spares polls b b.dropRandom := of_eq rfl rfl rfl rfl rfl
  h.trans sleep

theorem cancelSleep (h : ∀ i, Client.pollHolding? polls i ≠ some (.sleep z)) :
    Spares polls b (b.cancelSleep z) := by
  unfold Browser.cancelSleep
  split
  case isFalse => exact refl
  case isTrue  =>
    refine ⟨Nat.le_refl _, fun i z' hi hl => lasts_endSleep hl ?_, rfl, rfl⟩
    rintro he
    exact h i (hi.trans (congrArg some he))

theorem close {s : Nat} : Spares polls b (b.close s) := by
  unfold Browser.close
  split
  · exact of_eq rfl rfl rfl rfl rfl
  · exact refl

theorem addStream {names : List String} {left? : Option Nat} :
    Spares polls b (b.addStream url names left?) :=
  of_eq rfl rfl rfl rfl rfl

theorem open? : Spares polls b (b.open? url).1 := by
  unfold Browser.open?
  split
  case isTrue  => exact of_eq rfl rfl rfl rfl rfl
  case isFalse =>
    dsimp only
    split
    case h_1 => exact addStream
    case h_2 =>
      split
      · exact addStream.trans close
      · exact addStream

-- A connection loop lets go of what no poll loop holds.
theorem releaseStream {w : StreamLoop}
    (h : ∀ i x, w.holding? = some x → Client.pollHolding? polls i ≠ some x) :
    Spares polls b (Client.releaseStream b w) := by
  cases w with
  | starting => exact refl
  | reading  => exact close
  | delayed  => exact cancelSleep fun i => h i _ rfl

end Browser.Spares

namespace Client

-- What a client does apart from running its poll loops and hearing from the browser that a sleep or
-- a fetch is over. It gives up nothing of what poll loops wait for.
inductive Errand (c : Client) : Client → Prop
  | take (op : Operation) : Errand c (c.take (c.session.step op))
  | other (signals : Signals) (asked : List (Operation × Answer)) (browser : Browser)
      (streams : SortedMap Nat StreamTask) (nextTask : Nat) (current? : Option Nat)
      (ready : List Ready) (hb : c.browser.Spares c.polls browser)
      (hr : ∀ timer why, .poll timer why ∈ c.ready → .poll timer why ∈ ready) :
    Errand c { c with signals, asked, browser, streams, nextTask, current?, ready }

def Errands : Client → Client → Prop :=
  Relation.ReflTransGen Errand

-- What is no errand is for the poll loops: a sleep or a fetch is over, or a poll loop runs.
inductive Concerns (c : Client) : Happening → Prop
  | expiry (h : s ∈ c.browser.sleeps) : Concerns c (.expiry s)
  | reply (h : f ∈ c.browser.fetches) : Concerns c (.reply f q)
  | turn (h : c.ready[i]? = some (.poll timer why)) : Concerns c (.turn i)

variable {c c₁ c₂ c₃ : Client} {task i : Nat}

namespace Errands

theorem refl : Errands c c :=
  Relation.ReflTransGen.refl

theorem trans (h₁ : Errands c₁ c₂) (h₂ : Errands c₂ c₃) : Errands c₁ c₃ :=
  Relation.ReflTransGen.trans h₁ h₂

theorem of_errand (h : c₁.Errand c₂) : Errands c₁ c₂ :=
  Relation.ReflTransGen.single h

theorem keep {P : Client → Prop} (h : Errands c₁ c₂) (hp : P c₁)
    (errand : ∀ c c', Errand c c' → P c → P c') : P c₂ := by
  induction h with
  | refl        => exact hp
  | tail _ h hi => exact errand _ _ h hi

end Errands

theorem errands_take {op : Operation} : Errands c (c.take (c.session.step op)) :=
  .of_errand (.take op)

theorem errands_other {signals : Signals} {asked : List (Operation × Answer)} {browser : Browser}
    {streams : SortedMap Nat StreamTask} {nextTask : Nat} {current? : Option Nat}
    {ready : List Ready} (hb : c.browser.Spares c.polls browser)
    (hr : ∀ timer why, .poll timer why ∈ c.ready → .poll timer why ∈ ready) :
    Errands c { c with signals, asked, browser, streams, nextTask, current?, ready } :=
  .of_errand (.other _ _ _ _ _ _ _ hb hr)

-- Nothing is made ready, and nothing that was is forgotten.
theorem errands_browser {signals : Signals} {asked : List (Operation × Answer)} {browser : Browser}
    {streams : SortedMap Nat StreamTask} {nextTask : Nat} {current? : Option Nat}
    (hb : c.browser.Spares c.polls browser) :
    Errands c { c with signals, asked, browser, streams, nextTask, current? } :=
  errands_other hb fun _ _ => id

theorem errands_ask {op : Operation} : Errands c (c.ask op).sync := by
  have ha : Errands c { c with asked := c.asked ++ [(op, (c.session.step op).answer)] } :=
    errands_browser .refl
  exact (ha.trans errands_take).trans (errands_browser .refl)

theorem errands_enqueue {r : Ready} : Errands c (c.enqueue r) :=
  errands_other .refl fun _ _ => List.mem_append_left _

-- Connection loops.

theorem errands_recover : Errands c (c.recover task) := by
  simp only [recover]
  split
  · exact errands_ask.trans (errands_browser .delay)
  · exact errands_ask.trans (errands_browser .refl)

theorem errands_openStream {r : StreamRequest} : Errands c (c.openStream task r) := by
  have hb : c.browser.Spares c.polls (c.browser.open? r.url).1 := .open?
  simp only [openStream]
  split
  case h_1 he =>
    rw [he] at hb
    exact errands_browser hb
  case h_2 he =>
    rw [he] at hb
    exact (errands_browser hb).trans errands_recover

theorem errands_readMessage {name : String} {data? : Option String} :
    Errands c (c.readMessage name data?) := by
  cases data? with
  | none   => exact .refl
  | some _ => exact errands_ask

theorem errands_resume {t : Ticket} : Errands c (c.resume task t) := by
  simp only [resume]
  split
  · exact errands_ask.trans errands_openStream
  · exact errands_ask.trans (errands_browser .refl)

theorem errands_runStream (h : Owns c.browser c.streams c.polls) {why : StreamSignal} :
    Errands c (c.runStream task why) := by
  simp only [runStream]
  split
  case h_1      => exact .refl
  case h_2 w hf =>
    refine errands_browser (.releaseStream fun i x hx => h.apart (i := task) ?_)
    rw [streamHolding?, hf]
    exact hx
  case h_3 =>
    split
    case h_1 => exact errands_openStream
    case h_2 => split; exacts [errands_readMessage, .refl]
    case h_3 => split; exacts [(errands_browser .close).trans errands_recover, .refl]
    case h_4 => split; exacts [errands_resume, .refl]
    case h_5 => exact .refl

-- What the page does.

theorem errands_stopStream : Errands c c.stopStream := by
  simp only [stopStream]
  split
  · exact .refl
  · split
    · exact errands_other .refl fun _ _ => List.mem_append_left _
    · exact errands_browser .refl

theorem errands_connect : Errands c c.connect :=
  errands_stopStream.trans (errands_ask.trans
    (errands_other .refl fun _ _ => List.mem_append_left _))

theorem errands_close : Errands c c.close :=
  errands_stopStream.trans errands_ask

-- What the browser does.

theorem errands_wakeReader {s : Nat} {why : StreamSignal} : Errands c (c.wakeReader s why) := by
  simp only [wakeReader]
  split
  · exact errands_enqueue
  · exact .refl

theorem errands_turn (h : c.Driven) {why : StreamSignal}
    (hi : c.ready[i]? = some (.stream task why)) : Errands c (c.step (.turn i)) := by
  have hd : Errands c (c.dequeue i) := errands_other .refl fun timer why' hm => by
    obtain ⟨j, hj⟩ := List.mem_iff_getElem?.mp hm
    refine List.mem_eraseIdx_iff_getElem?.mpr ⟨j, ?_, hj⟩
    rintro rfl
    exact Ready.noConfusion (Option.some.inj (hi.symm.trans hj))
  simp only [step, hi]
  exact hd.trans (errands_runStream (c := c.dequeue i) h.owns)

theorem errands_step (h : c.Driven) (e : Happening) : Errands c (c.step e) ∨ c.Concerns e := by
  cases e with
  | connect            => exact .inl errands_connect
  | close              => exact .inl errands_close
  | display            => exact .inl errands_take
  | message            => simp only [step, deliver]; split; exacts [.inl errands_wakeReader, .inl .refl]
  | failure            =>
    simp only [step, failStream]; split; exacts [.inl errands_wakeReader, .inl .refl]
  | clock              => exact .inl (errands_browser (.of_eq rfl rfl rfl rfl rfl))
  | refuse             => exact .inl (errands_browser (.of_eq rfl rfl rfl rfl rfl))
  | refuseSubscription => exact .inl (errands_browser (.of_eq rfl rfl rfl rfl rfl))
  | expiry s           =>
    by_cases hs : s ∈ c.browser.sleeps
    case pos => exact .inr (.expiry hs)
    case neg => simp only [step, if_neg hs]; exact .inl .refl
  | reply f q          =>
    by_cases hf : f ∈ c.browser.fetches
    case pos => exact .inr (.reply hf)
    case neg => simp only [step, reply, if_neg hf]; exact .inl .refl
  | turn i             =>
    cases hi : c.ready[i]? with
    | none   => simp only [step, hi]; exact .inl .refl
    | some r =>
      cases r with
      | stream => exact .inl (errands_turn h hi)
      | poll   => exact .inr (.turn hi)

end Client
end FleetMonitor
