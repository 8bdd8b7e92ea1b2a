import FleetMonitor.Proofs.Loops

namespace FleetMonitor.Client

variable {c c' : Client} {task i : Nat}

-- From one state to another nothing was asked of the session but what the predicate allows.
def AsksOnly (P : Operation × Answer → Prop) (c c' : Client) : Prop :=
  ∃ oas, c'.asked = c.asked ++ oas ∧ ∀ oa ∈ oas, P oa

-- What is neither a message nor the redemption of a ticket.
structure Plain (oa : Operation × Answer) : Prop where
  message : ∀ event? raw received, oa.1 ≠ .message event? raw received
  redeem  : ∀ t, oa.1 ≠ .redeem t

-- What may be asked of the session when something happens: a message only by the loop that reads
-- the stream it came from, the last one that was opened; and a ticket is redeemed only to be taken.
structure Due (c : Client) (e : Happening) (oa : Operation × Answer) : Prop where
  message : ∀ event? raw received, oa.1 = .message event? raw received → ∃ i task s name,
    e = .turn i ∧ c.ready[i]? = some (.stream task (.message s name (some raw))) ∧
    c.Runs task (.reading s) ∧ c.browser.isOpen s ∧ c.browser.streams.length = s + 1
  redeem : ∀ t, oa.1 = .redeem t → ∃ q, oa.2 = .redeemed (some q)

theorem Plain.due {e : Happening} {oa : Operation × Answer} (h : Plain oa) : c.Due e oa :=
  ⟨fun _ _ _ he => absurd he (h.message _ _ _), fun _ he => absurd he (h.redeem _)⟩

namespace AsksOnly

variable {P Q : Operation × Answer → Prop} {c₁ c₂ c₃ : Client}

theorem trans (h₁ : AsksOnly P c₁ c₂) (h₂ : AsksOnly P c₂ c₃) : AsksOnly P c₁ c₃ := by
  obtain ⟨oas₁, e₁, p₁⟩ := h₁
  obtain ⟨oas₂, e₂, p₂⟩ := h₂
  refine ⟨oas₁ ++ oas₂, by rw [e₂, e₁, List.append_assoc], fun oa ho => ?_⟩
  exact (List.mem_append.mp ho).elim (p₁ oa) (p₂ oa)

theorem mono (h : AsksOnly P c₁ c₂) (hpq : ∀ oa, P oa → Q oa) : AsksOnly Q c₁ c₂ := by
  obtain ⟨oas, e, p⟩ := h
  exact ⟨oas, e, fun oa ho => hpq oa (p oa ho)⟩

theorem ask {op : Operation} (h : P (op, (c₁.session.step op).answer)) :
    AsksOnly P c₁ (c₁.ask op).sync :=
  ⟨_, asked_ask, by simpa using h⟩

end AsksOnly

-- With a delay that is too long for a sleep the loop is lost, and the phase does not show it.
example :
    let o : Outset := ⟨{ Config.default with baseDelay := 5000000000, maxDelay := 5000000000 }, 0, [],
      1, .bounded⟩
    (o.after [.turn 0]).session.connection.phase = .reconnecting ∧
    (o.after [.turn 0]).browser.sleeps = [] ∧ (o.after [.turn 0]).browser.lostSleeps = [0] := by
  decide +kernel

-- The loop of the first connection after its first turn, and that of another one that takes over
-- before the failure of the first stream is noticed.
example : (Outset.after ⟨.default, 0, [], 0, .bounded⟩ [.turn 0]).Runs 0 (.reading 0) ∧
    (Outset.after ⟨.default, 0, [], 0, .bounded⟩
      [.turn 0, .failure 0, .connect, .turn 0, .turn 0, .turn 0]).Runs 1 (.reading 1) :=
  ⟨rfl, rfl⟩

end FleetMonitor.Client
