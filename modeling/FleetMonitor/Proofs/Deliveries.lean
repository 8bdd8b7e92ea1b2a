import FleetMonitor.Proofs.Changes

namespace FleetMonitor

-- The delivery in an answer.
def Answer.delivery? : Answer → Option Delivery
  | outcome (.delivered d) => some d
  | delivery d             => some d
  | _                      => none

-- Whether an effect asks a surface to draw its chart anew.
def Effect.isRedraw : Effect → Bool
  | call _ c => c.isRedraw
  | _        => false

namespace Registry

variable {r : Registry} {k : ObjectKey} {f : Feed}

theorem countP_take :
    (r.take k f).effects.countP Effect.isRedraw = (r.take k f).delivery.redrawn := by
  have hp : ∀ t : Tab, ∀ p?, t.Takes f p? → ∀ p, p? = some p →
      p.calls.countP TabCall.isRedraw = p.delivery.redrawn := by
    intro t p? h p hp
    cases h with
    | nothing        => contradiction
    | pass _ _ _ hr  => obtain rfl := Option.some.inj hp; exact Tab.countP_pass hr
  unfold take update
  split
  case h_1 => rfl
  case h_2 p h =>
    obtain ⟨t, _, ht⟩ := Option.bind_eq_some_iff.mp h
    rw [List.countP_map]
    exact hp t _ Tab.takes p ht

end Registry

namespace Session

-- What becomes of a message.
inductive Receives (s : Session) (op : Operation) : Step Outcome → Prop
  | acknowledges (ack : Ack) (hp : s.connection.phase.expectsAck) :
    Receives s op (s.countReceived.acknowledge ack)
  | feeds : Receives s op (s.countReceived.deliver (s.board.ofRegistry (s.take (s.feed? op))))
  | directs (hf : s.feed? op = none) (servers : ServerDirectory) :
    Receives s op (s.countReceived.deliver (s.board.ofServers servers))
  | refuses (hf : s.feed? op = none) (o : Outcome) (ho : o = .unrouted ∨ o = .dropped) :
    Receives s op ⟨{ s with stats := s.stats.after o }, o, []⟩

variable {s : Session} {op : Operation} {event? : Option String} {raw : String} {received : Millis}

theorem receives (hk : s.registry.Keyed) :
    s.Receives (.message event? raw received) (s.handleMessage event? raw received) := by
  generalize hm : s.handleMessage event? raw received = st
  have h : s.Handles event? raw received st := hm ▸ handles
  cases h with
  | acknowledges _ _ _ hp => exact .acknowledges _ hp
  | refuses o ho h        => exact .refuses (feed?_refused hk h) o ho
  | @delivers e kind u he hn hr =>
    have h : s.Routed (s.messageFeed? e received kind) (s.board.route kind e received) :=
      routed kind hk
    rw [hr, ← feed?_message he hn] at h
    cases h with
    | fed                 => exact .feeds
    | directed hf servers => exact .directs hf servers

theorem stats_deliver {u : Board.Update} : (s.countReceived.deliver u).session.stats =
    s.stats.after (s.countReceived.deliver u).answer := by
  unfold deliver
  split <;> rfl

-- Every message is counted once, as what became of it.
theorem stats_handleMessage : (s.handleMessage event? raw received).session.stats =
    s.stats.after (s.handleMessage event? raw received).answer := by
  generalize hm : s.handleMessage event? raw received = st
  have h : s.Handles event? raw received st := hm ▸ handles
  cases h with
  | delivers => exact stats_deliver
  | refuses  => rfl
  | acknowledges _ _ _ hp =>
    rw [acknowledge_eq hp]
    rfl

theorem countP_take {f? : Option (ObjectKey × Feed)} :
    (s.take f?).effects.countP Effect.isRedraw = (s.take f?).delivery.redrawn := by
  unfold take
  split
  · exact Registry.countP_take
  · rfl

theorem redrawn_deliver {u : Board.Update} {d : Delivery}
    (h : (Answer.outcome (s.deliver u).answer).delivery? = some d) :
    d = u.delivery ∧ (s.deliver u).effects = u.effects := by
  unfold deliver at h ⊢
  split at h
  case isTrue => contradiction
  case isFalse hn =>
    rw [if_neg hn]
    exact ⟨(Option.some.inj h).symm, rfl⟩

theorem redrawn_takePolled {k : ObjectKey} {f : Feed} :
    (s.takePolled k (s.registry.take k f)).effects.countP Effect.isRedraw =
      (s.takePolled k (s.registry.take k f)).answer.redrawn := by
  unfold takePolled
  split
  · exact Registry.countP_take
  · rfl

-- A delivery tells how many charts were drawn.
theorem redrawn_eq_countP {d : Delivery} (hk : s.registry.Keyed)
    (h : (s.step op).answer.delivery? = some d) :
    d.redrawn = (s.step op).effects.countP Effect.isRedraw := by
  cases op with
  | message event? raw received =>
    replace h : (Answer.outcome (s.handleMessage event? raw received).answer).delivery? = some d := h
    change d.redrawn = (s.handleMessage event? raw received).effects.countP Effect.isRedraw
    generalize hm : s.handleMessage event? raw received = st at h
    have hr : s.Receives (.message event? raw received) st := hm ▸ receives hk
    cases hr with
    | feeds =>
      obtain ⟨rfl, he⟩ := redrawn_deliver h
      rw [he]
      exact countP_take.symm
    | directs _ servers =>
      obtain ⟨rfl, he⟩ := redrawn_deliver h
      rw [he]
      rfl
    | refuses _ o ho => rcases ho with rfl | rfl <;> contradiction
    | acknowledges ack hp =>
      rw [acknowledge_eq hp] at h
      contradiction
  | polledSnapshot k p received =>
    obtain rfl := Option.some.inj h
    exact (redrawn_takePolled (f := .snapshot p.data (p.timestamp?.getD received))).symm
  | polledValue k series p received =>
    obtain rfl := Option.some.inj h
    exact (redrawn_takePolled (f := .value series p.sample (p.timestamp?.getD received))).symm
  | _ => contradiction

end Session
end FleetMonitor
