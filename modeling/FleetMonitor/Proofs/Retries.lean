import FleetMonitor.Proofs.Moves

namespace FleetMonitor

namespace Connection.Moves

variable {c c' : Connection} {op : Operation} {a : Answer}

theorem policy_eq (m : c.Moves op a c') : c'.policy = c.policy := by
  cases m <;> try rfl
  case fail   => unfold Connection.fail; split <;> rfl
  case redeem => unfold Connection.redeem; split <;> rfl

theorem maxAttempts_eq (m : c.Moves op a c') : c'.maxAttempts = c.maxAttempts := by
  cases m <;> try rfl
  case fail   => unfold Connection.fail; split <;> rfl
  case redeem => unfold Connection.redeem; split <;> rfl

theorem attempts_eq (m : c.Moves op a c') :
    c'.attempts = if a.acknowledges then 0
      else if op.failsOn c then saturatingSucc c.attempts
      else c.attempts := by
  cases m
  case connect     => rfl
  case acknowledge => rfl
  case close       => rfl
  case message o h =>
    cases o <;> try rfl
    case acknowledged n => exact absurd rfl (h n)
  case redeem => unfold Connection.redeem; split <;> rfl
  case fail =>
    by_cases h : c.phase = .disconnected ∨ c.phase = .polling
    case pos => rcases h with h | h <;> simp [Connection.fail, h, Operation.failsOn, Answer.acknowledges]
    case neg => simp_all [Connection.fail, Operation.failsOn, Answer.acknowledges]
  case «local» h ha => cases op <;> cases a <;> first | rfl | contradiction

-- A reconnection is scheduled only for a failure that leaves attempts to be made.
theorem lt_of_ticket? (m : c.Moves op a c') (h : a.ticket?.isSome) :
    op.failsOn c ∧ c.attempts.toNat + 1 < c.maxAttempts.toNat := by
  cases m <;> try contradiction
  case fail =>
    by_cases hp : c.phase = .disconnected ∨ c.phase = .polling
    case pos => rw [recovery_of_idle hp] at h; contradiction
    case neg =>
      rw [not_or] at hp
      rw [recovery_of_wanted hp.left hp.right] at h
      split at h
      case isTrue    => contradiction
      case isFalse _ => exact ⟨by simp [Operation.failsOn, hp], by omega⟩
  case «local» ha => cases a <;> contradiction

end Connection.Moves

namespace Session

-- The number of failures of the stream since the last acknowledgement.
def failures (es : List Event) : Nat :=
  (since Event.acknowledges es).countP Event.fails

-- The number of reconnections that were scheduled.
def retries (es : List Event) : Nat :=
  es.countP fun e => e.ticket?.isSome

variable {s : Session} {op : Operation} {es : List Event} {e : Event}

theorem attempts_step : (s.step op).session.connection.attempts =
    if Event.acknowledges ⟨s, op⟩ then 0
    else if Event.fails ⟨s, op⟩ then Connection.saturatingSucc s.connection.attempts
    else s.connection.attempts :=
  (s.moves op).attempts_eq

theorem fails_of_ticket? (h : (Event.ticket? ⟨s, op⟩).isSome) : Event.fails ⟨s, op⟩ ∧
    s.connection.attempts.toNat + 1 < s.connection.maxAttempts.toNat :=
  (s.moves op).lt_of_ticket? h

theorem failures_concat : failures (es ++ [e]) =
    if e.acknowledges then 0 else if e.fails then failures es + 1 else failures es := by
  simp only [failures, since_concat]
  cases e.acknowledges <;> cases h : e.fails <;> simp [h]

theorem retries_concat :
    retries (es ++ [e]) = if e.ticket?.isSome then retries es + 1 else retries es := by
  cases h : e.ticket?.isSome <;> simp [retries, h]

theorem retries_append {es₁ es₂ : List Event} : retries (es₁ ++ es₂) = retries es₁ + retries es₂ :=
  List.countP_append

theorem toNat_max_one {n : UInt32} : (max n 1).toNat = max 1 n.toNat := by
  change (if n ≤ 1 then 1 else n).toNat = _
  split
  case isTrue h  => have := UInt32.le_iff_toNat_le.mp h; simp at this ⊢; omega
  case isFalse h => have := mt UInt32.le_iff_toNat_le.mpr h; simp at this ⊢; omega

-- What a session knows of its failures.
structure Counts (c : Config) (es : List Event) (s : Session) : Prop where
  policy   : s.connection.policy = .new c.baseDelay c.maxDelay c.jitterRatio
  budget   : s.connection.maxAttempts.toNat = max 1 c.maxReconnectAttempts.toNat
  attempts : s.connection.attempts.toNat = min (failures es) (UInt32.size - 1)
  retries  : retries (since Event.acknowledges es) ≤
    min (failures es) (max 1 c.maxReconnectAttempts.toNat - 1)

namespace Counts

variable {c : Config}

theorem init : Counts c [] (.new c) where
  policy   := rfl
  budget   := toNat_max_one
  attempts := by simp [failures, new, Connection.new]
  retries  := by simp [Session.retries]

theorem step (h : Counts c es s) : Counts c (es ++ [⟨s, op⟩]) (s.step op).session where
  policy   := (s.moves op).policy_eq.trans h.policy
  budget   := (s.moves op).maxAttempts_eq ▸ h.budget
  attempts := by
    have ha := h.attempts
    rw [failures_concat, attempts_step]
    by_cases hk : Event.acknowledges ⟨s, op⟩
    case pos => simp [hk]
    case neg =>
      by_cases hf : Event.fails ⟨s, op⟩
      case pos => simp only [if_neg hk, if_pos hf, Connection.toNat_saturatingSucc]; omega
      case neg => simp only [if_neg hk, if_neg hf]; exact ha
  retries := by
    have hr := h.retries
    rw [failures_concat, since_concat]
    by_cases hk : Event.acknowledges ⟨s, op⟩
    case pos => simp [hk, Session.retries]
    case neg =>
      simp only [if_neg hk, retries_concat]
      by_cases ht : (Event.ticket? ⟨s, op⟩).isSome
      case pos =>
        have ⟨hf, hl⟩ := fails_of_ticket? ht
        have ha := h.attempts
        have hb := h.budget
        have hm : c.maxReconnectAttempts.toNat < UInt32.size := c.maxReconnectAttempts.toNat_lt
        simp only [if_pos ht, if_pos hf]
        omega
      case neg =>
        simp only [if_neg ht]
        split <;> omega

end Counts

theorem counts (c : Config) (ops : List Operation) :
    Counts c ((new c).events ops) ((new c).run ops) :=
  run_induction .init (fun _ _ _ h => h.step) ops

-- A session counts the failures since the last acknowledgement, as far as its counter reaches. The
-- next failure is answered by the next attempt if the budget allows for one and by the fallback to
-- polling if it does not, so no stretch without an acknowledgement has more attempts than that.
theorem attempts_are_failures (c : Config) (ops : List Operation) :
    ((new c).run ops).connection.attempts.toNat =
      min (failures ((new c).events ops)) (UInt32.size - 1) ∧
    (((new c).run ops).connection.phase ≠ .disconnected →
      ((new c).run ops).connection.phase ≠ .polling → ∀ unit,
      if failures ((new c).events ops) + 1 < max 1 c.maxReconnectAttempts.toNat then
        ∃ ticket, (((new c).run ops).transportError unit).answer =
          .retry (.ofNat (failures ((new c).events ops) + 1))
            ((BackoffPolicy.new c.baseDelay c.maxDelay c.jitterRatio).delay
              (.ofNat (failures ((new c).events ops) + 1)) unit) ticket
      else (((new c).run ops).transportError unit).answer = .fallback) ∧
    ∀ es₁ es₂ es₃, (new c).events ops = es₁ ++ es₂ ++ es₃ → (∀ e ∈ es₂, ¬e.acknowledges) →
      retries es₂ ≤ max 1 c.maxReconnectAttempts.toNat - 1 := by
  have h := counts c ops
  refine ⟨h.attempts, ?recovery, ?retries⟩
  case recovery =>
    intro hd hp unit
    have ha := h.attempts
    have hb := h.budget
    have hm : c.maxReconnectAttempts.toNat < UInt32.size := c.maxReconnectAttempts.toNat_lt
    rw [answer_transportError, Connection.recovery_of_wanted hd hp]
    split
    case isTrue hn =>
      have hs : Connection.saturatingSucc ((new c).run ops).connection.attempts =
          .ofNat (failures ((new c).events ops) + 1) := by
        have hz : UInt32.size = 4294967296 := rfl
        rw [← UInt32.toNat_inj, Connection.toNat_saturatingSucc, UInt32.toNat_ofNat']
        omega
      rw [if_neg (by omega), hs, h.policy]
      exact ⟨_, rfl⟩
    case isFalse hn => rw [if_pos (by omega)]
  case retries =>
    intro es₁ es₂ es₃ he hk
    have ⟨ops₁, _, _, hs, _⟩ := events_eq_append he
    have hr := (counts c ops₁).retries
    rw [← hs, since_append hk, retries_append] at hr
    omega

-- With a budget of two the first failure is followed by another attempt and the second one is not.
theorem second_failure_is_last : ∃ c, ∃ delay ticket,
    (((new c).run [.connect]).transportError 0.5).answer = .retry 1 delay ticket ∧
    (((new c).run [.connect, .transportError 0.5]).transportError 0.5).answer = .fallback := by
  let c : Config := { Config.default with maxReconnectAttempts := 2 }
  have ⟨_, h₁, _⟩ := attempts_are_failures c [.connect]
  have ⟨_, h₂, _⟩ := attempts_are_failures c [.connect, .transportError 0.5]
  have f₁ : failures ((new c).events [.connect]) = 0 := rfl
  have f₂ : failures ((new c).events [.connect, .transportError 0.5]) = 1 := rfl
  have hb : max 1 c.maxReconnectAttempts.toNat = 2 := rfl
  have ⟨ticket, h₁⟩ := (if_pos (by rw [f₁, hb]; decide)).mp (h₁ (by decide) (by decide) 0.5)
  have h₂ := (if_neg (by rw [f₂, hb]; decide)).mp (h₂ (by decide) (by decide) 0.5)
  exact ⟨c, _, ticket, h₁, h₂⟩

end Session
end FleetMonitor
