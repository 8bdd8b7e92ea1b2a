import FleetMonitor.Client.Sleeps
import FleetMonitor.Client.Turns

namespace FleetMonitor

-- The operations that the page asks of the session itself.
def Operation.isDisplay : Operation → Bool
  | openTab .. | closeTab _ | openChart .. | closeChart .. | setRange .. => true
  | _ => false

-- What can happen to a client, in any order. That the loops run first in, first out and that time
-- passes from one sleep to the next are special cases.
inductive Happening where
  | connect
  | close
  | display (op : Operation) (h : op.isDisplay)
  | message (stream : Nat) (name : String) (data? : Option String)
  | failure (stream : Nat)
  | expiry  (s : Sleep)
  | reply   (fetch : Nat) (r : Reply)
  -- The clock is set, and the streams or the subscriptions to come are refused.
  | clock              (now : Int)
  | refuse             (streams : Nat)
  | refuseSubscription (after : Nat)
  -- The loop at the given place among those that are ready runs.
  | turn (i : Nat)

-- Whether it comes from the browser or concerns nothing else.
def Happening.isOutside : Happening → Bool
  | message .. | failure _ | expiry _ | reply .. | clock _ | refuse _ | refuseSubscription _ => true
  | connect | close | display .. | turn _ => false

namespace Client

variable {c : Client} {rs : List Ready}

def dequeue (c : Client) (i : Nat) : Client :=
  { c with ready := c.ready.eraseIdx i }

def step (c : Client) : Happening → Client
  | .connect                   => c.connect
  | .close                     => c.close
  | .display op _              => c.take (c.session.step op)
  | .message stream name data? => c.deliver stream name data?
  | .failure stream            => c.failStream stream
  | .expiry s                  => if s ∈ c.browser.sleeps then c.wake s else c
  | .reply fetch r             => c.reply fetch r
  | .clock now                 => c.setBrowser { c.browser with now }
  | .refuse streams            => c.setBrowser { c.browser with refusals := streams }
  | .refuseSubscription after  => c.setBrowser { c.browser with unsubscribable? := some after }
  | .turn i =>
    match c.ready[i]? with
    | some r => (c.dequeue i).runReady r
    | none   => c

def run (c : Client) (hs : List Happening) : Client :=
  hs.foldl step c

-- What a client is started with.
structure Outset where
  config      : Config
  now         : Int
  randoms     : List Float
  refusals    : Nat
  sleepLength : SleepLength

def Outset.browser (o : Outset) : Browser :=
  .start o.now o.randoms o.refusals o.sleepLength

-- The client after all that happened since its start.
def Outset.after (o : Outset) (hs : List Happening) : Client :=
  (start o.config o.browser).run hs

-- What the client and its loops ask of the session when something happens.
def asks (c : Client) (h : Happening) : List (Operation × Answer) :=
  (c.step h).asked.drop c.asked.length

theorem run_append {hs₁ hs₂ : List Happening} : c.run (hs₁ ++ hs₂) = (c.run hs₁).run hs₂ :=
  List.foldl_append

theorem run_cons {h : Happening} {hs : List Happening} : c.run (h :: hs) = (c.step h).run hs :=
  rfl

theorem run_concat {h : Happening} {hs : List Happening} :
    c.run (hs ++ [h]) = (c.run hs).step h :=
  run_append

theorem Outset.after_concat {o : Outset} {h : Happening} {hs : List Happening} :
    o.after (hs ++ [h]) = (o.after hs).step h :=
  run_concat

-- What holds at first, and is kept by whatever happens, holds of every run.
theorem run_induction {P : Client → Prop} (init : P c) (step : ∀ c h, P c → P (c.step h))
    (hs : List Happening) : P (c.run hs) := by
  induction hs generalizing c with
  | nil             => exact init
  | cons h hs hi => exact hi (step c h init)

-- Whatever comes from outside makes loops ready and does no more to the client.
theorem step_outside {e : Happening} (h : e.isOutside) : ∃ browser ready,
    c.step e = { c with browser, ready } ∧ browser.calls = c.browser.calls ∧
      c.browser.Proceeds browser := by
  have hs : ∃ browser ready, c = { c with browser, ready } ∧ browser.calls = c.browser.calls ∧
      c.browser.Proceeds browser :=
    ⟨_, _, rfl, rfl, .refl⟩
  cases e with
  | connect | close | display | turn => contradiction
  | clock              => exact ⟨_, _, rfl, rfl, .of_eq rfl rfl rfl (fun _ => id) Iff.rfl⟩
  | refuse             => exact ⟨_, _, rfl, rfl, .of_eq rfl rfl rfl (fun _ => id) Iff.rfl⟩
  | refuseSubscription => exact ⟨_, _, rfl, rfl, .of_eq rfl rfl rfl (fun _ => id) Iff.rfl⟩
  | message =>
    simp only [step, deliver, wakeReader]
    split
    · split <;> exact ⟨_, _, rfl, rfl, .refl⟩
    · exact hs
  | failure =>
    simp only [step, failStream, wakeReader]
    split
    · split <;> exact ⟨_, _, rfl, rfl, .refl⟩
    · exact hs
  | reply =>
    simp only [step, reply]
    split
    · split <;> exact ⟨_, _, rfl, rfl, .endFetch⟩
    · exact hs
  | expiry =>
    simp only [step, wake, wakeSleeper]
    split
    · split
      · exact ⟨_, _, rfl, rfl, .wake⟩
      · split <;> exact ⟨_, _, rfl, rfl, .wake⟩
    · exact hs

-- A loop runs in the same way, whatever else is ready before it.

def behind (c : Client) (rs : List Ready) : Client :=
  { c with ready := rs ++ c.ready }

@[simp]
theorem session_behind : (c.behind rs).session = c.session :=
  rfl

@[simp]
theorem browser_behind : (c.behind rs).browser = c.browser :=
  rfl

theorem behind_enqueue {r : Ready} : (c.behind rs).enqueue r = (c.enqueue r).behind rs := by
  simp [behind, enqueue]

theorem behind_ite {p : Prop} [Decidable p] {c₁ c₂ : Client} (h : c₂ = c₁.behind rs) :
    (if p then c₂ else c.behind rs) = (if p then c₁ else c).behind rs := by
  split
  · exact h
  · rfl

theorem behind_apply {e : Effect} : (c.behind rs).apply e = (c.apply e).behind rs := by
  cases e with
  | call    => rfl
  | start t =>
    exact behind_enqueue (c := { c with polls := c.polls.insert t.id ⟨t, .starting, false⟩ })
  | stop t  =>
    let polls := c.polls.modify t.id ({ · with stopped := true })
    exact behind_ite (behind_enqueue (c := { c with polls }))

theorem behind_foldl {f : Client → α → Client} (h : ∀ c a, f (c.behind rs) a = (f c a).behind rs)
    (as : List α) (c : Client) : as.foldl f (c.behind rs) = (as.foldl f c).behind rs := by
  induction as generalizing c with
  | nil          => rfl
  | cons a as hi => rw [List.foldl_cons, h, hi, List.foldl_cons]

theorem behind_take {s : Session.Step α} : (c.behind rs).take s = (c.take s).behind rs :=
  behind_foldl (fun _ _ => behind_apply) s.effects { c with session := s.session }

theorem behind_ask {op : Operation} : ((c.behind rs).ask op).sync = (c.ask op).sync.behind rs :=
  let step := c.session.step op
  congrArg sync (behind_take (c := { c with asked := c.asked ++ [(op, step.answer)] }))

theorem behind_recover {task : Nat} : (c.behind rs).recover task = (c.recover task).behind rs := by
  simp only [recover, session_behind, browser_behind, behind_ask]
  split <;> rfl

theorem behind_openStream {task : Nat} {r : StreamRequest} :
    (c.behind rs).openStream task r = (c.openStream task r).behind rs := by
  simp only [openStream, browser_behind]
  split
  case h_1   => rfl
  case h_2 b _ => exact behind_recover (c := c.setBrowser b)

theorem behind_readMessage {name : String} {data? : Option String} :
    (c.behind rs).readMessage name data? = (c.readMessage name data?).behind rs := by
  cases data? with
  | none   => rfl
  | some _ => exact behind_ask

theorem behind_resume {task : Nat} {t : Ticket} :
    (c.behind rs).resume task t = (c.resume task t).behind rs := by
  simp only [resume, session_behind, behind_ask]
  split
  · exact behind_openStream
  · rfl

theorem behind_runStream {task : Nat} {why : StreamSignal} :
    (c.behind rs).runStream task why = (c.runStream task why).behind rs := by
  have hs : (c.behind rs).streams = c.streams := rfl
  simp only [runStream, hs]
  split
  case h_1 => rfl
  case h_2 => rfl
  case h_3 =>
    split
    case h_1 => exact behind_openStream
    case h_2 => exact behind_ite behind_readMessage
    case h_3 stream _ _ =>
      exact behind_ite (behind_recover (c := c.setBrowser (c.browser.close stream)))
    case h_4 => exact behind_ite behind_resume
    case h_5 => rfl

theorem behind_readReply {t : Timer} {r : Reply} :
    (c.behind rs).readReply t r = (c.readReply t r).behind rs :=
  behind_ask

theorem behind_sleepPoll {t : Timer} : (c.behind rs).sleepPoll t = (c.sleepPoll t).behind rs :=
  rfl

theorem behind_runPoll {timer : Nat} {why : PollSignal} :
    (c.behind rs).runPoll timer why = (c.runPoll timer why).behind rs := by
  have hp : (c.behind rs).polls = c.polls := rfl
  simp only [runPoll, hp]
  split
  case h_1 => rfl
  case h_2 => rfl
  case h_3 =>
    split
    case h_1 => rfl
    case h_2 => exact behind_ite rfl
    case h_3 => rw [behind_readReply]; exact behind_ite behind_sleepPoll
    case h_4 => rfl

theorem behind_runReady {r : Ready} : (c.behind rs).runReady r = (c.runReady r).behind rs := by
  cases r with
  | stream => exact behind_runStream
  | poll   => exact behind_runPoll

-- To settle is to give turns to the first loop that is ready, again and again.

theorem run_turns : (c.behind rs).run (List.replicate rs.length (.turn 0)) = rs.foldl runReady c := by
  induction rs generalizing c with
  | nil          => rfl
  | cons r rs hi =>
    have hs : (c.behind (r :: rs)).step (.turn 0) = (c.behind rs).runReady r := rfl
    rw [List.length_cons, List.replicate_succ, run_cons, hs, behind_runReady, hi, List.foldl_cons]

theorem round_eq_run : c.round = c.run (List.replicate c.ready.length (.turn 0)) := by
  have h : { c with ready := [] }.behind c.ready = c := by simp [behind]
  rw [round, ← run_turns, h]

theorem settle_eq_run : ∃ n, c.settle = c.run (List.replicate n (.turn 0)) := by
  refine ⟨c.ready.length + c.round.ready.length, ?_⟩
  rw [settle, round_eq_run (c := c.round), round_eq_run (c := c), ← run_append,
    List.replicate_append_replicate]

-- To let time pass is to end sleeps, to settle after each and to set the clock.

theorem mem_of_earlier? {ss : List Sleep} {s : Sleep} {best? : Option Sleep}
    (h : ss.foldl Browser.earlier? best? = some s) : s ∈ ss ∨ best? = some s := by
  induction ss generalizing best? with
  | nil          => exact .inr h
  | cons x ss hi =>
    rcases hi h with hm | hx
    case inl => exact .inl (List.mem_cons_of_mem _ hm)
    case inr =>
      unfold Browser.earlier? at hx
      split at hx
      case h_1 => exact .inl (by simp [Option.some.inj hx])
      case h_2 =>
        split at hx
        case isTrue  => exact .inl (by simp [Option.some.inj hx])
        case isFalse => exact .inr hx

theorem mem_of_nextDue? {b : Browser} {target : Int} {s : Sleep} (h : b.nextDue? target = some s) :
    s ∈ b.sleeps := by
  rcases mem_of_earlier? h with hm | hn
  · exact (List.mem_filter.mp hm).left
  · contradiction

theorem passTime_eq_run {target : Int} {fuel : Nat} : ∃ hs, passTime target fuel c = c.run hs := by
  induction fuel generalizing c with
  | zero         => exact ⟨[], rfl⟩
  | succ fuel hi =>
    unfold passTime
    split
    case h_1     => exact ⟨[], rfl⟩
    case h_2 s h =>
      obtain ⟨n, hn⟩ := settle_eq_run (c := c.wake s)
      obtain ⟨hs, hr⟩ := hi (c := (c.wake s).settle)
      refine ⟨.expiry s :: (List.replicate n (.turn 0) ++ hs), ?_⟩
      rw [hr, run_cons, run_append, step, if_pos (mem_of_nextDue? h), hn]

theorem advance_eq_run {ms : Nat} : ∃ hs, c.advance ms = c.run hs := by
  obtain ⟨hs, h⟩ : ∃ hs, passTime (c.browser.now + ms) c.sleepBound c = c.run hs := passTime_eq_run
  refine ⟨hs ++ [.clock (c.browser.now + ms)], ?_⟩
  rw [run_concat, ← h]
  rfl

end Client
end FleetMonitor
