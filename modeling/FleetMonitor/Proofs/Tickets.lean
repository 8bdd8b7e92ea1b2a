import FleetMonitor.Proofs.Moves

namespace FleetMonitor

namespace Answer

-- Whether a failure changed nothing.
def isIdle : Answer → Bool
  | recovery .idle => true
  | _              => false

-- Whether a ticket was taken.
def isRedemption : Answer → Bool
  | redeemed (some _) => true
  | _                 => false

end Answer

namespace Operation

-- Whether an operation with its answer is the redemption of a ticket that is taken.
def redeems (t : Ticket) (a : Answer) : Operation → Bool
  | redeem t' => t' = t ∧ a.isRedemption
  | _         => false

-- Whether an operation with its answer makes a ticket worthless that was issued before: a new or
-- closed connection, an acknowledgement that is taken up, a failure of a stream that was wanted, or
-- the ticket's own redemption.
def cancels (t : Ticket) (a : Answer) : Operation → Bool
  | connect          => true
  | close            => true
  | message ..       => a.acknowledges
  | transportError _ => !a.isIdle
  | redeem t'        => t' = t ∧ a.isRedemption
  | _                => false

end Operation

namespace Session.Event

def redeems (t : Ticket) (e : Event) : Bool :=
  e.op.redeems t e.answer

def cancels (t : Ticket) (e : Event) : Bool :=
  e.op.cancels t e.answer

end Session.Event

namespace Connection

-- The state in which a ticket is worthless for good.
def Retired (c : Connection) (t : Ticket) : Prop :=
  t.generation.toNat < c.generation.toNat ∨
    t.generation = c.generation ∧ c.phase ≠ .reconnecting

variable {c c' : Connection} {op : Operation} {a : Answer} {t t' : Ticket}

theorem accepts_iff : c.accepts t ↔ t.generation = c.generation ∧ c.phase = .reconnecting := by
  simp [accepts]

theorem accepts_unique (h : c.accepts t) (h' : c.accepts t') : t = t' := by
  rw [accepts_iff] at h h'
  cases t; cases t'
  simp_all

theorem Retired.not_accepts (h : c.Retired t) : ¬c.accepts t := by
  rw [accepts_iff]
  rintro ⟨hg, hp⟩
  cases h
  case inl h => rw [hg] at h; omega
  case inr h => exact h.right hp

-- The next generation of a connection makes every ticket worthless that is not newer than it.
theorem Retired.of_lt (h : t.generation.toNat < c.generation.toNat + 1)
    (hw : c.generation.toNat + 1 < UInt64.size) (hg : c'.generation = c.generation + 1) :
    c'.Retired t := by
  refine .inl ?_
  rw [hg, UInt64.toNat_add, UInt64.toNat_one, Nat.mod_eq_of_lt hw]
  exact h

theorem isRedemption_redeemed? : (Answer.redeemed (c.redeemed? t)).isRedemption = c.accepts t := by
  unfold redeemed?
  split <;> simp_all [Answer.isRedemption]

namespace Moves

theorem generation_cases (m : c.Moves op a c') :
    c'.generation = c.generation + 1 ∨
    c'.generation = c.generation ∧ (c'.phase = c.phase ∨ c'.phase = .connected) := by
  cases m
  case connect     => exact .inl rfl
  case acknowledge => exact .inr ⟨rfl, .inr rfl⟩
  case message     => exact .inr ⟨rfl, .inl rfl⟩
  case fail =>
    unfold Connection.fail
    split
    · exact .inr ⟨rfl, .inl rfl⟩
    · exact .inl rfl
  case redeem =>
    unfold Connection.redeem
    split
    · exact .inl rfl
    · exact .inr ⟨rfl, .inl rfl⟩
  case close   => exact .inl rfl
  case «local» => exact .inr ⟨rfl, .inl rfl⟩

theorem generation_le (m : c.Moves op a c') : c'.generation.toNat ≤ c.generation.toNat + 1 := by
  rcases m.generation_cases with h | ⟨h, _⟩ <;> rw [h]
  · rw [UInt64.toNat_add]
    exact Nat.mod_le ..
  · omega

variable (m : c.Moves op a c') (hw : c.generation.toNat + 1 < UInt64.size)

include m hw

theorem retired (h : c.Retired t) : c'.Retired t := by
  rcases m.generation_cases with hg | ⟨hg, hp⟩
  case inl =>
    rcases h with h | ⟨h, _⟩
    · exact .of_lt (Nat.lt_succ_of_lt h) hw hg
    · exact .of_lt (h ▸ Nat.lt_succ_self _) hw hg
  case inr =>
    rcases h with h | ⟨h, hr⟩
    · exact .inl (hg ▸ h)
    · refine .inr ⟨hg ▸ h, ?_⟩
      rcases hp with hp | hp <;> rw [hp]
      · exact hr
      · nofun

-- A ticket that is good stays so unless it is cancelled, and then it is worthless for good.
theorem retired_or_accepts (h : c.accepts t) :
    if op.cancels t a then c'.Retired t else c'.accepts t := by
  have ⟨hg, hp⟩ := accepts_iff.mp h
  have hl : t.generation.toNat < c.generation.toNat + 1 := hg ▸ Nat.lt_succ_self _
  cases m
  case connect     => exact .of_lt hl hw rfl
  case acknowledge => exact .inr ⟨hg, nofun⟩
  case message o ho =>
    cases o
    case acknowledged n => exact absurd rfl (ho n)
    all_goals exact h
  case fail unit =>
    have hi : (Answer.recovery (c.recovery unit)).isIdle = false := by
      rw [recovery_of_wanted (by simp [hp]) (by simp [hp])]
      split <;> rfl
    rw [if_pos (by simp [Operation.cancels, hi])]
    exact .of_lt hl hw (by simp [Connection.fail, hp])
  case redeem t' =>
    by_cases h' : c.accepts t'
    case pos =>
      obtain rfl := accepts_unique h' h
      rw [if_pos (by simp [Operation.cancels, isRedemption_redeemed?, h])]
      exact .of_lt hl hw (by simp [Connection.redeem, h, Connection.connect])
    case neg =>
      rw [if_neg (by simp [Operation.cancels, isRedemption_redeemed?, h'])]
      simpa [Connection.redeem, h'] using h
  case close => exact .of_lt hl hw rfl
  case «local» ho _ => cases op <;> first | exact h | contradiction

omit hw in
theorem accepts_of_redeems (h : op.redeems t a) : c.accepts t ∧ op.cancels t a := by
  cases m <;> try contradiction
  case redeem t' =>
    have ⟨ht, hr⟩ : t' = t ∧ (Answer.redeemed (c.redeemed? t')).isRedemption := by
      simpa [Operation.redeems] using h
    rw [isRedemption_redeemed?, ht] at hr
    exact ⟨hr, h⟩
  case «local» ho _ => cases op <;> contradiction

omit hw in
theorem accepts_of_ticket? (h : a.ticket? = some t) : c'.accepts t ∧ ∀ t', op.cancels t' a := by
  cases m <;> try contradiction
  case fail unit =>
    by_cases hp : c.phase = .disconnected ∨ c.phase = .polling
    case pos => rw [recovery_of_idle hp] at h; contradiction
    case neg =>
      rw [not_or] at hp
      rw [recovery_of_wanted hp.left hp.right] at h ⊢
      split at h
      case isTrue => contradiction
      case isFalse hm =>
        obtain rfl := Option.some.inj h
        rw [if_neg hm, accepts_iff]
        rw [← maxAttempts_le_saturatingSucc_iff] at hm
        refine ⟨⟨?_, ?_⟩, fun _ => rfl⟩ <;> simp [Connection.fail, hp, hm]
  case «local» ha => cases a <;> contradiction

end Moves
end Connection

namespace Session

open Connection

variable {s : Session} {ops : List Operation} {t : Ticket}

theorem generation_run_le :
    (s.run ops).connection.generation.toNat ≤ s.connection.generation.toNat + ops.length := by
  induction ops generalizing s with
  | nil => simp
  | cons op ops hi =>
    have := (s.moves op).generation_le
    have := hi (s := (s.step op).session)
    simp only [run_cons, List.length_cons]
    omega

theorem retired_run (h : s.connection.Retired t)
    (hw : s.connection.generation.toNat + ops.length < UInt64.size) :
    (s.run ops).connection.Retired t ∧ ∀ e ∈ s.events ops, ¬e.redeems t := by
  induction ops generalizing s with
  | nil => exact ⟨h, by simp [events]⟩
  | cons op ops hi =>
    have m := s.moves op
    rw [List.length_cons] at hw
    obtain ⟨hr, he⟩ := hi (m.retired (by omega) h) (by have := m.generation_le; omega)
    refine ⟨hr, ?_⟩
    simp only [events, List.mem_cons, forall_eq_or_imp]
    exact ⟨fun hc => h.not_accepts (m.accepts_of_redeems hc).left, he⟩

-- By induction on the run: a good ticket stays good until the first event that cancels it.
theorem accepts_run_iff (h : s.connection.accepts t)
    (hw : s.connection.generation.toNat + ops.length < UInt64.size) :
    (s.run ops).connection.accepts t ↔ ∀ e ∈ s.events ops, ¬e.cancels t := by
  induction ops generalizing s with
  | nil => simp [events, h]
  | cons op ops hi =>
    have m := s.moves op
    rw [List.length_cons] at hw
    have hw' : (s.step op).session.connection.generation.toNat + ops.length < UInt64.size := by
      have := m.generation_le
      omega
    have hs := m.retired_or_accepts (by omega) h
    simp only [events, List.mem_cons, forall_eq_or_imp, run_cons]
    split at hs
    case isTrue hc =>
      have hr := (retired_run hs hw').left.not_accepts
      exact ⟨fun ha => absurd ha hr, fun ha => absurd hc ha.left⟩
    case isFalse hc => rw [hi hs hw']; exact ⟨fun ha => ⟨hc, ha⟩, And.right⟩

theorem countP_redeems_le_one (hw : s.connection.generation.toNat + ops.length < UInt64.size) :
    (s.events ops).countP (Event.redeems t) ≤ 1 := by
  induction ops generalizing s with
  | nil => simp [events]
  | cons op ops hi =>
    have m := s.moves op
    rw [List.length_cons] at hw
    have hw' : (s.step op).session.connection.generation.toNat + ops.length < UInt64.size := by
      have := m.generation_le
      omega
    rw [events, List.countP_cons]
    split
    case isFalse => exact hi hw'
    case isTrue h =>
      obtain ⟨ha, hc⟩ := m.accepts_of_redeems h
      have hs := m.retired_or_accepts (by omega) ha
      rw [if_pos hc] at hs
      rw [List.countP_eq_zero.mpr (retired_run hs hw').right]

theorem isSome_redeem : (s.redeem t).answer.isSome = s.connection.accepts t := by
  change (s.connection.redeemed? t).isSome = _
  unfold Connection.redeemed?
  split <;> simp_all

theorem Event.cancels_of_ticket? {e : Event} {t' : Ticket} (h : e.ticket? = some t') :
    e.cancels t :=
  ((e.session.moves e.op).accepts_of_ticket? h).right t

-- A ticket is taken just as long as it is the latest one and nothing has happened to the stream
-- since: every other event leaves it good. So no ticket is taken twice, and there is never a second
-- one that would be taken.
theorem ticket_taken_iff (c : Config) (ops : List Operation) (h : ops.length < UInt64.size) :
    (∀ es₁ e es₂ t, (new c).events ops = es₁ ++ e :: es₂ → e.ticket? = some t →
      ((((new c).run ops).redeem t).answer.isSome ↔
        (∀ e' ∈ es₂, e'.ticket? = none) ∧ ∀ e' ∈ es₂, ¬e'.cancels t)) ∧
    (∀ t, ((new c).events ops).countP (Event.redeems t) ≤ 1) ∧
    ∀ t₁ t₂, (((new c).run ops).redeem t₁).answer.isSome →
      (((new c).run ops).redeem t₂).answer.isSome → t₁ = t₂ := by
  have hw : (new c).connection.generation.toNat + ops.length < UInt64.size := by
    simpa [new, Connection.new] using h
  refine ⟨?latest, fun _ => countP_redeems_le_one hw, ?unique⟩
  case latest =>
    intro es₁ e es₂ t he ht
    obtain ⟨ops₁, ops₂, rfl, _, he⟩ := events_eq_append he
    cases ops₂ with
    | nil => simp [events] at he
    | cons op ops₂ =>
      obtain ⟨rfl, rfl⟩ := List.cons.inj he
      have hg : ((new c).run (ops₁ ++ [op])).connection.generation.toNat ≤
        (new c).connection.generation.toNat + (ops₁ ++ [op]).length := generation_run_le
      simp only [run_concat, List.length_append, List.length_cons, List.length_nil] at hg hw
      rw [isSome_redeem, run_append, run_cons,
        accepts_run_iff (((new c).run ops₁).moves op |>.accepts_of_ticket? ht).left (by omega)]
      refine ⟨fun hc => ⟨fun e' he' => ?_, hc⟩, And.right⟩
      exact Option.eq_none_iff_forall_ne_some.mpr fun _ ht' => hc e' he' (Event.cancels_of_ticket? ht')
  case unique =>
    intro t₁ t₂ h₁ h₂
    rw [isSome_redeem] at h₁ h₂
    exact accepts_unique h₁ h₂

-- Of the tickets for two failures in a row only the second one is taken.
theorem second_ticket_taken :
    [Operation.connect, .transportError 0.5, .transportError 0.5, .pollFailed].length < UInt64.size ∧
      ¬(((new .default).run [.connect, .transportError 0.5, .transportError 0.5,
        .pollFailed]).redeem ⟨2⟩).answer.isSome ∧
      (((new .default).run [.connect, .transportError 0.5, .transportError 0.5,
        .pollFailed]).redeem ⟨3⟩).answer.isSome := by
  let ops : List Operation := [.connect, .transportError 0.5, .transportError 0.5, .pollFailed]
  let failure (n : Nat) : Event := ⟨(new .default).run (ops.take n), .transportError 0.5⟩
  let poll : Event := ⟨(new .default).run (ops.take 3), .pollFailed⟩
  have h : ops.length < UInt64.size := by decide
  have ⟨hi, _⟩ := ticket_taken_iff .default ops h
  have h₁ := hi [⟨new .default, .connect⟩] (failure 1) [failure 2, poll] ⟨2⟩ rfl rfl
  have h₂ := hi [⟨new .default, .connect⟩, failure 1] (failure 2) [poll] ⟨3⟩ rfl rfl
  refine ⟨h, ?_, ?_⟩
  · rw [h₁]
    intro hc
    exact absurd (hc.left (failure 2) (by simp)) nofun
  · rw [h₂]
    exact ⟨by simp [poll]; rfl, by simp [poll]; rfl⟩

end Session
end FleetMonitor
