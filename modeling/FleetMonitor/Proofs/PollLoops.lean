import FleetMonitor.Proofs.Closing
import FleetMonitor.Proofs.Errands
import FleetMonitor.Proofs.Replies

namespace FleetMonitor

theorem Timer.id_of_mem_startAll {first : Nat} {every : UInt64} {targets : List PollTarget}
    {t : Timer} (h : t ∈ startAll first every targets) :
    first ≤ t.id ∧ t.id < first + (startAll first every targets).length := by
  rw [length_startAll]
  induction targets generalizing first with
  | nil => contradiction
  | cons x targets hi =>
    rw [List.length_cons]
    cases h with
    | head      => dsimp only; omega
    | tail _ hm => have := hi hm; omega

namespace Session

variable {s : Session} {op : Operation} {st : Step Answer} {k : ObjectKey} {t : Timer}

theorem nextTimer_le_backfill : s.nextTimer ≤ (s.backfill k).session.nextTimer := by
  unfold backfill
  split
  · exact Nat.le_add_right ..
  · exact Nat.le_refl _

theorem id_of_start_backfill (h : .start t ∈ (s.backfill k).effects) :
    s.nextTimer ≤ t.id ∧ t.id < (s.backfill k).session.nextTimer := by
  unfold backfill at h ⊢
  split at h
  case isFalse   => contradiction
  case isTrue hp =>
    obtain ⟨u, hm, he⟩ := List.mem_map.mp h
    obtain rfl := Effect.start.inj he
    rw [if_pos hp]
    exact Timer.id_of_mem_startAll hm

theorem Course.nextTimer_le (c : s.Course op st) : s.nextTimer ≤ st.session.nextTimer := by
  cases c with
  | feeds hf             => exact hf.nextTimer.ge
  | refuses              => exact Nat.le_refl _
  | stops _ _ ht         => exact ht.ge
  | starts _ _ _ _ ht    => exact ht ▸ Nat.le_add_right ..
  | @openTab _ _ _ r     => exact nextTimer_le_backfill (s := s.withRegistry r)
  | closeTab             => exact Nat.le_refl _
  | @openChart k _ _ _ t => exact nextTimer_le_backfill (s := s.withRegistry (s.registry.set k t))
  | closeChart           => exact Nat.le_refl _

-- The timers that an operation starts have numbers that were not used before.
theorem Course.id_of_start (c : s.Course op st) (h : .start t ∈ st.effects) :
    s.nextTimer ≤ t.id ∧ t.id < st.session.nextTimer := by
  cases c with
  | feeds hf =>
    obtain ⟨_, _, he⟩ := hf.exists_call h
    contradiction
  | refuses => contradiction
  | stops _ _ _ _ he =>
    rw [he] at h
    simp at h
  | starts _ _ timers hs ht _ he =>
    rw [he] at h
    obtain ⟨u, hm, hu⟩ := List.mem_map.mp h
    obtain rfl := Effect.start.inj hu
    rw [ht, hs]
    exact Timer.id_of_mem_startAll (hs ▸ hm)
  | @openTab _ _ _ r     => exact id_of_start_backfill (s := s.withRegistry r) h
  | closeTab             => simp [Step.map, Session.closeTab] at h
  | @openChart k _ _ _ t =>
    exact id_of_start_backfill (s := s.withRegistry (s.registry.set k t)) h
  | closeChart           => simp at h

end Session

-- A loop that is as it was, apart from having been stopped.
structure PollTask.Remains (q p : PollTask) : Prop where
  timer   : p.timer = q.timer
  waits   : p.waits = q.waits
  stopped : q.stopped → p.stopped

theorem PollTask.Remains.refl {p : PollTask} : p.Remains p :=
  ⟨rfl, rfl, id⟩

theorem PollTask.Remains.trans {p q r : PollTask} (h : p.Remains q) (h' : q.Remains r) :
    p.Remains r :=
  ⟨h'.timer.trans h.timer, h'.waits.trans h.waits, h'.stopped ∘ h.stopped⟩

-- Whether a loop goes on with a signal.
def PollLoop.Takes : PollLoop → PollSignal → Prop
  | starting,   .turn       => True
  | sleeping z, .woken z'   => z' = z
  | fetching f, .reply f' _ => f' = f
  | _,          _           => False

namespace Client

-- A poll loop that was not stopped and is not over.
def Polls (c : Client) (i : Nat) (t : Timer) (w : PollLoop) : Prop :=
  c.polls.find? i = some ⟨t, w, false⟩

-- What becomes of a client in which a poll loop runs.
inductive PollRun (c : Client) (i : Nat) : PollSignal → Client → Prop
  -- There is no loop, or it passes over the signal.
  | passes (h : ∀ p, c.polls.find? i = some p → ¬p.stopped ∧ ¬p.waits.Takes why) : PollRun c i why c
  | ends (h : c.polls.find? i = some ⟨t, w, true⟩) :
    PollRun c i why ((c.setBrowser (releasePoll c.browser w)).endPoll i)
  | sleeps (h : c.Polls i t .starting) : PollRun c i .turn (c.sleepPoll t)
  | fetches (h : c.Polls i t (.sleeping z)) : PollRun c i (.woken z) (c.fetchPoll t)
  | reads (h : c.Polls i t (.fetching f)) :
    PollRun c i (.reply f q) ((c.readReply t q).sleepPoll t)

variable {c c' : Client} {ts : List Timer} {t : Timer} {w : PollLoop} {p : PollTask} {i : Nat}
  {why : PollSignal}

theorem Polls.eq {t' : Timer} {w' : PollLoop} (h : c.Polls i t w) (h' : c.Polls i t' w') :
    t = t' ∧ w = w' :=
  have e := Option.some.inj (h.symm.trans h')
  ⟨congrArg PollTask.timer e, congrArg PollTask.waits e⟩

-- What effects do to a loop. One that was not there before was started and has its first turn.

theorem find?_apply {e : Effect} (h : (c.apply e).polls.find? i = some p) :
    (∃ q, c.polls.find? i = some q ∧ q.Remains p) ∨
    ∃ t, e = .start t ∧ t.id = i ∧ p = ⟨t, .starting, false⟩ ∧ .poll i .turn ∈ (c.apply e).ready := by
  cases e with
  | call    => exact .inl ⟨p, h, .refl⟩
  | start t =>
    rw [apply, find?_startPoll] at h
    split at h
    case isFalse    => exact .inl ⟨p, h, .refl⟩
    case isTrue hi =>
      obtain rfl := hi
      exact .inr ⟨t, rfl, rfl, (Option.some.inj h).symm, List.mem_append_right _ (by simp)⟩
  | stop t  =>
    rw [apply, find?_stopPoll] at h
    split at h
    case isFalse => exact .inl ⟨p, h, .refl⟩
    case isTrue  =>
      obtain ⟨q, hq, rfl⟩ := Option.map_eq_some_iff.mp h
      exact .inl ⟨q, hq, rfl, rfl, fun _ => rfl⟩

theorem find?_foldl_apply {es : List Effect} (h : (es.foldl apply c).polls.find? i = some p) :
    (∃ q, c.polls.find? i = some q ∧ q.Remains p) ∨
    ∃ t, .start t ∈ es ∧ t.id = i ∧ p.timer = t ∧ p.waits = .starting ∧
      .poll i .turn ∈ (es.foldl apply c).ready := by
  induction es generalizing c with
  | nil          => exact .inl ⟨p, h, .refl⟩
  | cons e es hi =>
    rcases hi h with ⟨q, hq, hr⟩ | ⟨t, ht, hs⟩
    case inr => exact .inr ⟨t, List.mem_cons_of_mem _ ht, hs⟩
    case inl =>
      rcases find?_apply hq with ⟨q', hq', hr'⟩ | ⟨t, rfl, ht, rfl, hm⟩
      · exact .inl ⟨q', hq', hr'.trans hr⟩
      · obtain ⟨rs, he, _⟩ := AddsTurns.foldl (fun _ _ => addsTurns_apply) es (c.apply (.start t))
        refine .inr ⟨t, List.mem_cons_self .., ht, hr.timer, hr.waits, ?_⟩
        rw [List.foldl_cons, he]
        exact List.mem_append_left _ hm

theorem find?_take {s : Session.Step α} (h : (c.take s).polls.find? i = some p) :
    (∃ q, c.polls.find? i = some q ∧ q.Remains p) ∨
    ∃ t, .start t ∈ s.effects ∧ t.id = i ∧ p.timer = t ∧ p.waits = .starting ∧
      .poll i .turn ∈ (c.take s).ready :=
  find?_foldl_apply (c := { c with session := s.session }) h

theorem polls_of_take {s : Session.Step α} (h : (c.take s).Polls i t w) : c.Polls i t w ∨
    .start t ∈ s.effects ∧ t.id = i ∧ w = .starting ∧ .poll i .turn ∈ (c.take s).ready := by
  rcases find?_take h with ⟨⟨t', w', b⟩, hq, hr⟩ | ⟨t', ht, hi, rfl, hw, hm⟩
  · obtain rfl : t = t' := hr.timer
    obtain rfl : w = w' := hr.waits
    obtain rfl : b = false := by simpa using hr.stopped
    exact .inl hq
  · exact .inr ⟨ht, hi, hw, hm⟩

-- Calls are no matter of the loops.
theorem polls_take {s : Session.Step α} (hc : ∀ e ∈ s.effects, ∃ k call, e = .call k call) :
    (c.take s).polls = c.polls := by
  have hf (es : List Effect) (hc : ∀ e ∈ es, ∃ k call, e = .call k call) (c : Client) :
      (es.foldl apply c).polls = c.polls := by
    induction es generalizing c with
    | nil          => rfl
    | cons e es hi =>
      obtain ⟨⟨_, _, rfl⟩, hs⟩ := List.forall_mem_cons.mp hc
      exact hi hs _
  exact hf s.effects hc { c with session := s.session }

theorem polls_readReply {q : Reply} : (c.readReply t q).polls = c.polls :=
  polls_take (c := { c with asked := _ }) fun _ he =>
    Session.calls_of_means PollTarget.means_onReply he

-- Every one of the given timers has its loop, unless another one has the same number.
def Served (polls : SortedMap Nat PollTask) (ts : List Timer) : Prop :=
  ∀ t ∈ ts, (∀ u ∈ ts, u.id = t.id → u = t) → ∃ w, polls.find? t.id = some ⟨t, w, false⟩

theorem served_apply {e : Effect} (h : Served c.polls ts) :
    Served (c.apply e).polls (Effect.after ts e) := by
  intro t ht hu
  cases e with
  | call    => exact h t ht hu
  | start u =>
    rw [apply, find?_startPoll]
    split
    case isTrue hi =>
      obtain rfl := hu u (List.mem_append_right _ (by simp)) hi.symm
      exact ⟨_, rfl⟩
    case isFalse hi =>
      refine h t ?_ fun u hm => hu u (List.mem_append_left _ hm)
      refine (List.mem_append.mp ht).resolve_right fun hm => hi ?_
      rw [List.mem_singleton.mp hm]
  | stop u  =>
    obtain ⟨ht, hi⟩ := List.mem_filter.mp ht
    have hi : t.id ≠ u.id := of_decide_eq_true hi
    rw [apply, find?_stopPoll, if_neg hi]
    refine h t ht fun v hv he => hu v (List.mem_filter.mpr ⟨hv, ?_⟩) he
    rw [he]
    exact decide_eq_true hi

theorem served_take {s : Session.Step α} (h : Served c.polls ts) :
    Served (c.take s).polls (Effect.live ts s.effects) := by
  have hf (es : List Effect) : ∀ (c : Client) ts, Served c.polls ts →
      Served (es.foldl apply c).polls (Effect.live ts es) := by
    induction es with
    | nil          => exact fun _ _ => id
    | cons e es hi => exact fun c ts h => hi (c.apply e) _ (served_apply h)
  exact hf s.effects _ ts h

theorem pollRun : c.PollRun i why (c.runPoll i why) := by
  have hp {t : Timer} {w : PollLoop} (hf : c.Polls i t w) (hw : ¬w.Takes why) :
      ∀ p, c.polls.find? i = some p → ¬p.stopped ∧ ¬p.waits.Takes why := by
    intro p h
    obtain rfl := Option.some.inj (hf.symm.trans h)
    exact ⟨by simp, hw⟩
  simp only [runPoll]
  split
  case h_1 hf => exact .passes fun p h => by rw [hf] at h; contradiction
  case h_2 hf => exact .ends hf
  case h_3 w hf =>
    split
    case h_1 => exact .sleeps hf
    case h_2 =>
      split
      case isTrue e  => subst e; exact .fetches hf
      case isFalse e => exact .passes (hp hf e)
    case h_3 =>
      split
      case isTrue e  => subst e; exact .reads hf
      case isFalse e => exact .passes (hp hf e)
    case h_4 h₁ h₂ h₃ =>
      refine .passes (hp hf fun hw => ?_)
      cases w <;> cases why <;> first | exact hw | skip
      · exact h₁ rfl rfl
      · exact h₂ _ _ rfl rfl
      · exact h₃ _ _ _ rfl rfl

theorem pollRun_step {j : Nat} (hj : c.ready[j]? = some (.poll i why)) :
    (c.dequeue j).PollRun i why (c.step (.turn j)) := by
  simp only [step, hj]
  exact pollRun

-- The loop of a timer is the one of its number.
theorem Tended.id_of_polls (h : c.Tended) (hp : c.Polls i t w) : t.id = i :=
  (h.choose_spec.right i _ hp (by simp)).left

theorem Tended.keyed (h : c.Tended) : c.session.registry.Keyed :=
  h.choose_spec.left.sound.keyed

-- The loops that were not stopped are those of the timers that the session keeps.
structure Staffs (c : Client) (ts : List Timer) : Prop where
  keeps  : c.session.registry.Keeps c.session.nextTimer ts
  serves : Serves c.polls ts
  served : Served c.polls ts
  below  : ∀ i p, c.polls.find? i = some p → i < c.session.nextTimer

namespace Staffs

variable (h : c.Staffs ts)

include h

theorem take {op : Operation} : (c.take (c.session.step op)).Staffs
    (Effect.live ts (c.session.step op).effects) := by
  have hc := Session.course h.keeps.sound.keyed op
  refine ⟨?_, serves_take h.serves, served_take h.served, fun i p hp => ?_⟩ <;> rw [session_take]
  · exact hc.keeps h.keeps
  · rcases find?_take hp with ⟨q, hq, _⟩ | ⟨t, ht, rfl, _⟩
    · exact Nat.lt_of_lt_of_le (h.below i q hq) hc.nextTimer_le
    · exact (hc.id_of_start ht).right

theorem of_eq (hp : c'.polls = c.polls) (hs : c'.session = c.session) : c'.Staffs ts := by
  refine ⟨?_, ?_, ?_, ?_⟩
  · rw [hs]; exact h.keeps
  · rw [hp]; exact h.serves
  · rw [hp]; exact h.served
  · rw [hp, hs]; exact h.below

theorem setPoll : (c.setPoll i w).Staffs ts where
  keeps  := h.keeps
  serves := serves_setPoll h.serves
  served := fun t ht hu => by
    obtain ⟨w', hw⟩ := h.served t ht hu
    rw [find?_setPoll, hw]
    split <;> exact ⟨_, rfl⟩
  below  := fun j _ hp =>
    have ⟨q, hq, _⟩ := exists_of_find?_setPoll hp
    h.below j q hq

-- Only loops that were stopped come to an end.
theorem endPoll (hp : c.polls.find? i = some p) (hs : p.stopped) : (c.endPoll i).Staffs ts where
  keeps  := h.keeps
  serves := serves_endPoll h.serves
  served := fun t ht hu => by
    obtain ⟨w', hw⟩ := h.served t ht hu
    rw [find?_endPoll, if_neg, hw]
    · exact ⟨_, rfl⟩
    · rintro rfl
      obtain rfl := Option.some.inj (hp.symm.trans hw)
      contradiction
  below  := fun j q hq => h.below j q (find?_of_find?_endPoll hq).right

theorem mem_timers_iff : t ∈ c.session.registry.timers ↔ ∃ w, c.Polls t.id t w := by
  rw [← h.keeps.perm.mem_iff]
  constructor
  case mp =>
    intro ht
    exact h.served t ht fun u hu he => List.inj_on_of_nodup_map h.keeps.ids hu ht he
  case mpr =>
    rintro ⟨w, hw⟩
    exact (h.serves _ _ hw (by simp)).right

end Staffs

def Staffed (c : Client) : Prop :=
  ∃ ts, c.Staffs ts

namespace Staffed

theorem take {op : Operation} (h : c.Staffed) : (c.take (c.session.step op)).Staffed :=
  h.elim fun _ h => ⟨_, h.take⟩

theorem of_eq (h : c.Staffed) (hp : c'.polls = c.polls) (hs : c'.session = c.session) : c'.Staffed :=
  h.imp fun _ h => h.of_eq hp hs

theorem setPoll {b : Browser} (h : c.Staffed) : ((c.setBrowser b).setPoll i w).Staffed :=
  h.imp fun _ h => Staffs.setPoll (h.of_eq rfl rfl)

theorem errands (h : c.Staffed) (he : c.Errands c') : c'.Staffed :=
  he.keep h fun c c' he h => by
    cases he with
    | take  => exact h.take
    | other => exact h.of_eq rfl rfl

theorem runPoll (h : c.Staffed) : (c.runPoll i why).Staffed := by
  have hr : c.PollRun i why (c.runPoll i why) := pollRun
  generalize c.runPoll i why = c' at hr
  cases hr with
  | passes  => exact h
  | sleeps  => exact h.setPoll
  | fetches => exact h.setPoll
  | reads   => exact (h.errands errands_ask).setPoll
  | ends hp =>
    obtain ⟨ts, h⟩ := h
    exact ⟨ts, Staffs.endPoll (h.of_eq rfl rfl) hp rfl⟩

theorem step (h : c.Staffed) (hd : c.Driven) (e : Happening) : (c.step e).Staffed := by
  rcases errands_step hd e with he | he
  · exact h.errands he
  · by_cases ho : e.isOutside
    case pos =>
      obtain ⟨_, _, he, _⟩ := c.step_outside ho
      rw [he]
      exact h.of_eq rfl rfl
    case neg =>
      cases he with
      | turn hi =>
        simp only [Client.step, hi]
        exact runPoll (c := c.dequeue _) (h.of_eq rfl rfl)
      | _ => exact absurd rfl ho

end Staffed

-- A number that was given to a timer whose loop is stopped or over.
structure Retired (c : Client) (i : Nat) : Prop where
  used    : i < c.session.nextTimer
  stopped : ∀ p, c.polls.find? i = some p → p.stopped

-- A timer that the session does not keep any more is done with.
theorem Staffed.retired (h : c.Staffed) (hi : i < c.session.nextTimer)
    (hn : ∀ t ∈ c.session.registry.timers, t.id ≠ i) : c.Retired i := by
  obtain ⟨ts, h⟩ := h
  refine ⟨hi, fun p hp => ?_⟩
  by_contra hs
  obtain ⟨hp, hm⟩ := h.serves i p hp hs
  exact hn p.timer (h.keeps.perm.mem_iff.mp hm) hp

namespace Retired

variable (h : c.Retired i)

include h

theorem not_polls : ¬c.Polls i t w :=
  fun hp => Bool.false_ne_true (h.stopped _ hp)

theorem take {op : Operation} (hk : c.session.registry.Keyed) :
    (c.take (c.session.step op)).Retired i := by
  have hc := Session.course hk op
  refine ⟨?_, fun p hp => ?_⟩
  · rw [session_take]
    exact Nat.lt_of_lt_of_le h.used hc.nextTimer_le
  · rcases find?_take hp with ⟨q, hq, hr⟩ | ⟨t, ht, rfl, _⟩
    · exact hr.stopped (h.stopped q hq)
    · exact absurd h.used (Nat.not_lt.mpr (hc.id_of_start ht).left)

theorem act (ht : c.Tended) (ha : c.Act c') : c'.Retired i := by
  cases ha with
  | ask op =>
    have h : Retired { c with asked := c.asked ++ [(op, (c.session.step op).answer)] } i :=
      ⟨h.used, h.stopped⟩
    have h : (c.ask op).Retired i := h.take ht.keyed
    exact ⟨h.used, h.stopped⟩
  | other => exact ⟨h.used, h.stopped⟩
  | setPoll =>
    refine ⟨h.used, fun p hp => ?_⟩
    obtain ⟨q, hq, _, hs⟩ := exists_of_find?_setPoll hp
    exact hs ▸ h.stopped q hq
  | endPoll => exact ⟨h.used, fun p hp => h.stopped p (find?_of_find?_endPoll hp).right⟩

theorem step (ht : c.Tended) (e : Happening) : (c.step e).Retired i ∧ (c.step e).Tended := by
  rcases c.acts_step e with ha | ⟨op, _, _, he⟩
  · exact ha.keep (P := fun c => c.Retired i ∧ c.Tended) ⟨h, ht⟩
      fun _ _ ha h => ⟨h.left.act h.right ha, h.right.act ha⟩
  · rw [he]
    exact ⟨h.take ht.keyed, ht.take⟩

end Retired

-- When the client is let go of, every loop is stopped.

end Client
end FleetMonitor
