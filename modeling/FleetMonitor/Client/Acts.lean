import FleetMonitor.Client.Happenings
import Mathlib.Logic.Relation

namespace FleetMonitor.Client

-- What a client does whenever it runs comes down to these. It asks something of the session and
-- sets the signals; it changes what a poll loop waits for, or ends the loop; and it changes what it
-- knows of the browser, of its connection loops and of the loops that are ready.
inductive Act (c : Client) : Client → Prop
  | ask (op : Operation) : Act c (c.ask op).sync
  | setPoll (timer : Nat) (waits : PollLoop) : Act c (c.setPoll timer waits)
  | endPoll (timer : Nat) : Act c (c.endPoll timer)
  | other (browser : Browser) (streams : SortedMap Nat StreamTask) (nextTask : Nat)
      (current? : Option Nat) (ready : List Ready) (hb : c.browser.Proceeds browser) :
    Act c { c with browser, streams, nextTask, current?, ready }

def Acts : Client → Client → Prop :=
  Relation.ReflTransGen Act

variable {c c₁ c₂ c₃ : Client}

namespace Acts

theorem refl : Acts c c :=
  Relation.ReflTransGen.refl

theorem trans (h₁ : Acts c₁ c₂) (h₂ : Acts c₂ c₃) : Acts c₁ c₃ :=
  Relation.ReflTransGen.trans h₁ h₂

theorem of_act (h : c₁.Act c₂) : Acts c₁ c₂ :=
  Relation.ReflTransGen.single h

theorem ite {p : Prop} [Decidable p] (h : Acts c₁ c₂) : Acts c₁ (if p then c₂ else c₁) := by
  split
  · exact h
  · exact refl

theorem keep {P : Client → Prop} (h : Acts c₁ c₂) (hp : P c₁)
    (act : ∀ c c', Act c c' → P c → P c') : P c₂ := by
  induction h with
  | refl          => exact hp
  | tail _ h hi => exact act _ _ h hi

end Acts

theorem acts_other {browser : Browser} {streams : SortedMap Nat StreamTask} {nextTask : Nat}
    {current? : Option Nat} {ready : List Ready} (hb : c.browser.Proceeds browser) :
    Acts c { c with browser, streams, nextTask, current?, ready } :=
  .of_act (.other _ _ _ _ _ hb)

theorem acts_ask {op : Operation} : Acts c (c.ask op).sync :=
  .of_act (.ask op)

theorem acts_setBrowser {b : Browser} (hb : c.browser.Proceeds b) : Acts c (c.setBrowser b) :=
  acts_other hb

-- Connection loops.

theorem acts_recover {task : Nat} : Acts c (c.recover task) := by
  simp only [recover]
  split
  · exact acts_ask.trans (acts_other (Browser.Proceeds.dropRandom.trans .sleep))
  · exact acts_ask.trans (acts_other .refl)

theorem acts_openStream {task : Nat} {r : StreamRequest} : Acts c (c.openStream task r) := by
  have hb : c.browser.Proceeds (c.browser.open? r.url).1 := .open?
  simp only [openStream]
  split
  case h_1 he =>
    rw [he] at hb
    exact acts_other hb
  case h_2 he =>
    rw [he] at hb
    exact (acts_setBrowser hb).trans acts_recover

theorem acts_readMessage {name : String} {data? : Option String} :
    Acts c (c.readMessage name data?) := by
  cases data? with
  | none   => exact .refl
  | some _ => exact acts_ask

theorem acts_resume {task : Nat} {t : Ticket} : Acts c (c.resume task t) := by
  simp only [resume]
  split
  · exact acts_ask.trans acts_openStream
  · exact acts_ask.trans (acts_other .refl)

theorem proceeds_releaseStream {b : Browser} {w : StreamLoop} :
    b.Proceeds (releaseStream b w) := by
  cases w with
  | starting => exact .refl
  | reading  => exact .close
  | delayed  => exact .cancelSleep

theorem acts_runStream {task : Nat} {why : StreamSignal} : Acts c (c.runStream task why) := by
  simp only [runStream]
  split
  case h_1 => exact .refl
  case h_2 => exact acts_other proceeds_releaseStream
  case h_3 =>
    split
    case h_1 => exact acts_openStream
    case h_2 => exact .ite acts_readMessage
    case h_3 => exact .ite ((acts_setBrowser .close).trans acts_recover)
    case h_4 => exact .ite acts_resume
    case h_5 => exact .refl

-- Poll loops.

theorem acts_setPoll {b : Browser} {timer : Nat} {waits : PollLoop} (hb : c.browser.Proceeds b) :
    Acts c ((c.setBrowser b).setPoll timer waits) :=
  (acts_setBrowser hb).trans (.of_act (.setPoll timer waits))

theorem proceeds_releasePoll {b : Browser} {w : PollLoop} : b.Proceeds (releasePoll b w) := by
  cases w with
  | starting => exact .refl
  | sleeping => exact .cancelSleep
  | fetching => exact .cancelFetch

theorem acts_runPoll {timer : Nat} {why : PollSignal} : Acts c (c.runPoll timer why) := by
  simp only [runPoll]
  split
  case h_1 => exact .refl
  case h_2 => exact (acts_setBrowser proceeds_releasePoll).trans (.of_act (.endPoll timer))
  case h_3 =>
    split
    case h_1 => exact acts_setPoll .sleep
    case h_2 => exact .ite (acts_setPoll .fetch)
    case h_3 => exact .ite (acts_ask.trans (acts_setPoll .sleep))
    case h_4 => exact .refl

theorem acts_runReady {r : Ready} : Acts c (c.runReady r) := by
  cases r with
  | stream => exact acts_runStream
  | poll   => exact acts_runPoll

-- What the page does.

theorem acts_stopStream : Acts c c.stopStream := by
  simp only [stopStream]
  split
  · exact .refl
  · split <;> exact acts_other .refl

theorem acts_connect : Acts c c.connect :=
  acts_stopStream.trans (acts_ask.trans (acts_other .refl))

theorem acts_close : Acts c c.close :=
  acts_stopStream.trans acts_ask

theorem acts_dequeue {i : Nat} : Acts c (c.dequeue i) :=
  acts_other .refl

theorem acts_turn {i : Nat} : Acts c (c.step (.turn i)) := by
  simp only [step]
  split
  · exact acts_dequeue.trans acts_runReady
  · exact .refl

-- What is no act of the client is the page's own.
theorem acts_step (h : Happening) : Acts c (c.step h) ∨
    ∃ op ho, h = .display op ho ∧ c.step h = c.take (c.session.step op) := by
  by_cases ho : h.isOutside
  case pos =>
    obtain ⟨_, _, he, _, hb⟩ := c.step_outside ho
    exact .inl (he ▸ acts_other hb)
  case neg =>
    cases h with
    | display op hd => exact .inr ⟨op, hd, rfl, rfl⟩
    | connect       => exact .inl acts_connect
    | close         => exact .inl acts_close
    | turn          => exact .inl acts_turn
    | _             => exact absurd rfl ho

theorem Act.proceeds (h : c₁.Act c₂) : c₁.browser.Proceeds c₂.browser := by
  cases h with
  | ask op =>
    have hb : (c₁.ask op).sync.browser = c₁.browser := browser_ask
    rw [hb]
    exact .refl
  | setPoll => exact .refl
  | endPoll => exact .refl
  | other _ _ _ _ _ hb => exact hb

theorem proceeds_step (h : Happening) : c.browser.Proceeds (c.step h).browser := by
  rcases c.acts_step h with ha | ⟨_, _, _, he⟩
  · exact ha.keep (P := fun c' => c.browser.Proceeds c'.browser) .refl fun _ _ ha hp =>
      hp.trans ha.proceeds
  · rw [he, browser_take]
    exact .refl

theorem proceeds_run (hs : List Happening) : c.browser.Proceeds (c.run hs).browser :=
  run_induction (P := fun c' => c.browser.Proceeds c'.browser) .refl
    (fun _ h hp => hp.trans (proceeds_step h)) hs

-- What every act of the client and every change of tabs and charts keeps holds after all that happens.
theorem Outset.keep {P : Client → Prop} (o : Outset)
    (init : P (blank o.config o.browser))
    (act : ∀ c c', Act c c' → P c → P c')
    (display : ∀ c op, op.isDisplay → P c → P (c.take (c.session.step op))) (hs : List Happening) :
    P (o.after hs) := by
  refine run_induction (acts_connect.keep init act) (fun c h hp => ?_) hs
  rcases c.acts_step h with ha | ⟨op, ho, _, he⟩
  · exact ha.keep hp act
  · rw [he]
    exact display c op ho hp

theorem Outset.proceeds (o : Outset) (hs : List Happening) :
    o.browser.Proceeds (o.after hs).browser :=
  have h : o.browser.Proceeds (start o.config o.browser).browser :=
    (blank o.config o.browser).proceeds_step .connect
  h.trans (proceeds_run hs)

theorem Outset.recorded (o : Outset) (hs : List Happening) : (o.after hs).browser.Recorded :=
  (o.proceeds hs).recorded Browser.recorded_start

end FleetMonitor.Client
