import FleetMonitor.Proofs.Counters
import FleetMonitor.Proofs.Phases

namespace FleetMonitor

-- The fallback to polling is the answer to a failure that uses up the attempts.
theorem Connection.Moves.isFallback_iff {c c' : Connection} {op : Operation} {a : Answer}
    (m : c.Moves op a c') :
    a.isFallback ↔ op.failsOn c ∧ c.maxAttempts.toNat ≤ c.attempts.toNat + 1 := by
  cases m with
  | fail =>
    by_cases hp : c.phase = .disconnected ∨ c.phase = .polling
    case pos =>
      rw [recovery_of_idle hp]
      rcases hp with hp | hp <;> simp [Answer.isFallback, Operation.failsOn, hp]
    case neg =>
      rw [not_or] at hp
      rw [recovery_of_wanted hp.left hp.right]
      split <;> simp_all [Answer.isFallback, Operation.failsOn]
  | «local» h ha =>
    cases op <;> cases a <;> first | contradiction | simp [Answer.isFallback, Operation.failsOn]
  | _            => simp [Answer.isFallback, Operation.failsOn]

namespace Session

variable {s : Session} {op : Operation} {ops : List Operation} {es es₁ es₂ : List Event}
  {e e' : Event}

-- How often polling took over since the last acknowledgement.
def outages (es : List Event) : Nat :=
  (since Event.acknowledges es).countP Event.isFallback

theorem outages_concat :
    outages (es ++ [e]) = if e.acknowledges then 0 else outages es + e.isFallback.toNat := by
  rw [outages, since_concat]
  split
  · rfl
  · exact countP_concat

theorem fallsBack_of_isFallback (h : e.isFallback) : e.fallsBack := by
  have ha : e.answer = .recovery .fallback := by
    unfold Event.isFallback Answer.isFallback at h
    split at h
    · assumption
    · contradiction
  refine ⟨?_, ha⟩
  have t := turns e
  generalize e.op = op, e.nextPhase = p at t
  rw [ha] at t
  cases t with
  | fallback  => exact ⟨_, rfl⟩
  | stay _ hq => contradiction

namespace Counts

variable {c : Config}

theorem isFallback_iff (h : Counts c es s) : Event.isFallback ⟨s, op⟩ ↔
    Event.fails ⟨s, op⟩ ∧ max 1 c.maxReconnectAttempts.toNat ≤ failures es + 1 := by
  have ha := h.attempts
  have hb := h.budget
  have hm : c.maxReconnectAttempts.toNat < UInt32.size := c.maxReconnectAttempts.toNat_lt
  have hi : Event.isFallback ⟨s, op⟩ ↔ Event.fails ⟨s, op⟩ ∧ _ := (s.moves op).isFallback_iff
  rw [hi]
  exact and_congr_right fun _ => by omega

theorem outages_step (h : Counts c es s) : outages (es ++ [⟨s, op⟩]) =
    if Event.acknowledges ⟨s, op⟩ then 0
    else if Event.fails ⟨s, op⟩ then
      if max 1 c.maxReconnectAttempts.toNat ≤ failures es + 1 then outages es + 1 else outages es
    else outages es := by
  rw [outages_concat]
  split_ifs with _ hf hl
  · rfl
  · rw [h.isFallback_iff.mpr ⟨hf, hl⟩, Bool.toNat_true]
  · rw [Bool.eq_false_iff.mpr fun hb => hl (h.isFallback_iff.mp hb).right, Bool.toNat_false,
      Nat.add_zero]
  · rw [Bool.eq_false_iff.mpr fun hb => hf (h.isFallback_iff.mp hb).left, Bool.toNat_false,
      Nat.add_zero]

end Counts

-- Every failure ends in polling once the failures are as many as the budget, and none before.
theorem outages_eq (c : Config) (ops : List Operation) : outages ((new c).events ops) =
    failures ((new c).events ops) + 1 - max 1 c.maxReconnectAttempts.toNat := by
  have hs := run_induction (s := new c) (P := fun es s => Counts c es s ∧
    outages es = failures es + 1 - max 1 c.maxReconnectAttempts.toNat) ?init ?step ops
  case init =>
    have hz : 0 = 0 + 1 - max 1 c.maxReconnectAttempts.toNat := by omega
    exact ⟨.init, hz⟩
  case step =>
    rintro es s op ⟨hc, ho⟩
    refine ⟨hc.step, ?_⟩
    rw [hc.outages_step, failures_concat]
    split_ifs <;> omega
  exact hs.right

-- Between two fallbacks to polling a new connection is asked for.
theorem exists_connect_of_fallsBack (he : s.events ops = es₁ ++ e :: es₂) (hf : e.fallsBack)
    (hm : e' ∈ es₂) (hf' : e'.fallsBack) : ∃ e ∈ es₂, e.op = .connect := by
  by_contra hn
  obtain ⟨es₃, es₄, rfl⟩ := List.append_of_mem hm
  have hc : ∀ e ∈ es₃, e.op ≠ .connect := fun e hm ho =>
    hn ⟨e, List.mem_append_left _ hm, ho⟩
  rw [← List.cons_append, ← List.append_assoc] at he
  obtain ⟨ops₁, ops₂, rfl, h₁, h₂⟩ := events_eq_append he
  cases ops₂ with
  | nil => simp [events] at h₂
  | cons op ops₂ =>
    obtain ⟨rfl, _⟩ := List.cons.inj h₂
    have hp := not_expectsAck_of_fallsBack h₁.symm hf hc
    exact hp ((turns ⟨s.run ops₁, op⟩).of_fallback hf'.right).left

-- Where something is counted twice, it comes once more after the first time.
theorem exists_of_one_lt_countP {p : Event → Bool} (h : 1 < es.countP p) :
    ∃ es₁ e es₂, es = es₁ ++ e :: es₂ ∧ p e ∧ ∃ e ∈ es₂, p e := by
  induction es with
  | nil => contradiction
  | cons e es hi =>
    by_cases hp : p e
    case pos =>
      rw [List.countP_cons_of_pos hp] at h
      exact ⟨[], e, es, rfl, hp, List.countP_pos_iff.mp (Nat.lt_of_succ_lt_succ h)⟩
    case neg =>
      rw [List.countP_cons_of_neg hp] at h
      obtain ⟨es₁, e', es₂, rfl, hs⟩ := hi h
      exact ⟨e :: es₁, e', es₂, rfl, hs⟩

-- As long as polling did not take over since the last acknowledgement, the failures are fewer than
-- the budget. With the first fallback they are as many, and with every further one they are one more,
-- as far as the counter reaches. That is so only if a new connection was asked for after a fallback
-- and has not been acknowledged since.
theorem attempts_bounded_by_outages (c : Config) (ops : List Operation) :
    (outages ((new c).events ops) = 0 →
      ((new c).run ops).connection.attempts < ((new c).run ops).connection.maxAttempts) ∧
    (0 < outages ((new c).events ops) → ((new c).run ops).connection.attempts.toNat =
      min (((new c).run ops).connection.maxAttempts.toNat + (outages ((new c).events ops) - 1))
        (UInt32.size - 1)) ∧
    (((new c).run ops).connection.maxAttempts < ((new c).run ops).connection.attempts →
      ∃ es₁ e es₂, (new c).events ops = es₁ ++ e :: es₂ ∧ e.fallsBack ∧
        (∀ e ∈ es₂, ¬e.acknowledges) ∧ ∃ e ∈ es₂, e.op = .connect) := by
  have ho := outages_eq c ops
  have ha := (counts c ops).attempts
  have hb := (counts c ops).budget
  have hm : c.maxReconnectAttempts.toNat < UInt32.size := c.maxReconnectAttempts.toNat_lt
  have hz : UInt32.size = 4294967296 := rfl
  refine ⟨fun h => ?below, fun h => ?exact, fun h => ?beyond⟩
  case below =>
    rw [UInt32.lt_iff_toNat_lt]
    omega
  case exact => omega
  case beyond =>
    rw [UInt32.lt_iff_toNat_lt] at h
    have hl : 1 < outages ((new c).events ops) := by omega
    obtain ⟨es₁, e, es₂, hs, hf, e', hm, hf'⟩ := exists_of_one_lt_countP hl
    obtain ⟨es₀, he⟩ : since Event.acknowledges ((new c).events ops) <:+ _ := since_suffix
    replace he : (new c).events ops = es₀ ++ es₁ ++ e :: es₂ := by
      rw [← he, hs, List.append_assoc]
    refine ⟨es₀ ++ es₁, e, es₂, he, fallsBack_of_isFallback hf, fun e hm => ?_, ?_⟩
    · have hm : e ∈ since Event.acknowledges ((new c).events ops) := by simp [hs, hm]
      exact not_of_mem_since hm
    · exact exists_connect_of_fallsBack he (fallsBack_of_isFallback hf) hm
        (fallsBack_of_isFallback hf')

-- With a single attempt, the failure of the connection that is asked for while polling is the second
-- one to be counted.
theorem attempts_exceed_budget :
    ((new { Config.default with maxReconnectAttempts := 1 }).run
      [.connect, .transportError 0.5, .connect, .transportError 0.5]).connection.maxAttempts = 1 ∧
    ((new { Config.default with maxReconnectAttempts := 1 }).run
      [.connect, .transportError 0.5, .connect, .transportError 0.5]).connection.attempts = 2 := by
  decide +kernel

-- With two attempts it is the third one.
theorem second_outage_is_beyond : ∃ c ops,
    outages ((new c).events ops) = 2 ∧ ((new c).run ops).connection.attempts.toNat = 3 ∧
    ((new c).run ops).connection.maxAttempts < ((new c).run ops).connection.attempts ∧
    ∃ es₁ e es₂, (new c).events ops = es₁ ++ e :: es₂ ∧ e.fallsBack ∧
      (∀ e ∈ es₂, ¬e.acknowledges) ∧ ∃ e ∈ es₂, e.op = .connect := by
  let c : Config := { Config.default with maxReconnectAttempts := 2 }
  let ops : List Operation :=
    [.connect, .transportError 0.5, .connect, .transportError 0.5, .connect, .transportError 0.5]
  have ho : outages ((new c).events ops) = 2 := by decide +kernel
  have hb : ((new c).run ops).connection.maxAttempts = 2 := by decide +kernel
  obtain ⟨_, h, hc⟩ := attempts_bounded_by_outages c ops
  have ha : ((new c).run ops).connection.attempts.toNat = 3 := by
    rw [h (by rw [ho]; decide), ho, hb]
    rfl
  have hl : ((new c).run ops).connection.maxAttempts < ((new c).run ops).connection.attempts := by
    rw [UInt32.lt_iff_toNat_lt, ha, hb]
    decide
  exact ⟨c, ops, ho, ha, hl, hc hl⟩

end Session
end FleetMonitor
