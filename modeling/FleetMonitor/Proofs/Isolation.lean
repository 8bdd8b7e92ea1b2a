import FleetMonitor.Proofs.Twins

namespace FleetMonitor

namespace Operation

-- The operations that bring something in: messages, and what came of polls.
def isInput : Operation → Bool
  | message .. | polledSnapshot .. | polledValue .. | pollFailed => true
  | _ => false

-- The messages about servers.
def isTopology : Operation → Bool
  | message event? raw _ =>
    (Envelope.parse? raw).any fun e => e.kind? event? ∈ [some .serverStatus, some .objectsList]
  | _ => false

end Operation

namespace Session

-- The tab that an input is for, whether or not there is such a tab. A snapshot and a batch name it, and
-- a value may as well be for the only tab that is shown under its object's name.
def target? (s : Session) : Operation → Option ObjectKey
  | .message event? raw _ => do
    let e ← Envelope.parse? raw
    match ← e.kind? event? with
    | .objectSnapshot | .batch _ => e.key?
    | .sensorUpdate              => s.addressee? e
    | _                          => none
  | .polledSnapshot k .. | .polledValue k .. => some k
  | _ => none

-- An input that does not reach a tab. Acknowledgements reach all tabs.
structure Spares (s : Session) (k : ObjectKey) (op : Operation) : Prop where
  input : op.isInput
  quiet : ¬(s.step op).answer.acknowledges
  aside : s.tab? k = none ∨ s.feedOf? k op = none

instance {s : Session} {k : ObjectKey} {op : Operation} : Decidable (s.Spares k op) :=
  decidable_of_iff (op.isInput ∧ ¬(s.step op).answer.acknowledges ∧
      ((s.tab? k).isNone ∨ (s.feedOf? k op).isNone))
    ⟨fun ⟨hi, hq, ha⟩ => ⟨hi, hq, by simpa using ha⟩, fun ⟨hi, hq, ha⟩ => ⟨hi, hq, by simpa using ha⟩⟩

-- What is left of the operations of a run when some inputs are left out that spare a tab.
inductive Omits (k : ObjectKey) : Session → List Operation → List Operation → Prop
  | nil : Omits k s [] []
  | keep (h : Omits k (s.step op).session ops ops') : Omits k s (op :: ops) (op :: ops')
  | skip (ho : s.Spares k op) (h : Omits k (s.step op).session ops ops') : Omits k s (op :: ops) ops'

-- The calls that the events of a run make for a tab.
def callsIn (k : ObjectKey) (es : List Event) : List TabCall :=
  es.flatMap fun e => Effect.calls k e.step.effects

variable {s s' : Session} {op : Operation} {ops ops' : List Operation} {k k' : ObjectKey}
  {event? : Option String} {raw : String} {received : Millis}

theorem alike_take {f? : Option (ObjectKey × Feed)}
    (h : s.tab? k = none ∨ ∀ f, f? ≠ some (k, f)) : s.registry.Alike k (s.take f?).registry := by
  rcases f? with _ | ⟨k', f⟩
  case none => exact .refl
  case some =>
    refine .of_take (h.imp id fun hn => ?_)
    rintro rfl
    exact hn f rfl

theorem target?_of_feed? {f : Feed} (hi : op.isInput) (h : s.feed? op = some (k, f)) :
    s.target? op = some k := by
  cases op
  case message event? raw received =>
    obtain ⟨e, he, h⟩ := Option.bind_eq_some_iff.mp h
    obtain ⟨kind, hk, h⟩ := Option.bind_eq_some_iff.mp h
    simp only [target?, he, hk, Option.bind_eq_bind, Option.bind_some]
    cases kind
    case objectSnapshot =>
      obtain ⟨k', hk, h⟩ := Option.bind_eq_some_iff.mp h
      obtain ⟨rfl, _⟩ := Prod.mk.inj (Option.some.inj h)
      exact hk
    case batch =>
      obtain ⟨k', hk, h⟩ := Option.bind_eq_some_iff.mp h
      obtain ⟨_, _, h⟩ := Option.bind_eq_some_iff.mp h
      obtain ⟨rfl, _⟩ := Prod.mk.inj (Option.some.inj h)
      exact hk
    case sensorUpdate =>
      obtain ⟨_, _, h⟩ := Option.bind_eq_some_iff.mp h
      obtain ⟨_, _, h⟩ := Option.bind_eq_some_iff.mp h
      obtain ⟨k', hk, h⟩ := Option.bind_eq_some_iff.mp h
      obtain ⟨rfl, _⟩ := Prod.mk.inj (Option.some.inj h)
      exact hk
    all_goals contradiction
  case polledSnapshot =>
    simp only [feed?, Option.ite_none_right_eq_some, Option.some.injEq, Prod.mk.injEq] at h
    exact congrArg some h.right.left
  case polledValue =>
    simp only [feed?, Option.ite_none_right_eq_some, Option.some.injEq, Prod.mk.injEq] at h
    exact congrArg some h.right.left
  all_goals contradiction

namespace Spares

-- An input that is for another tab, or for none, spares a tab.
theorem of_target? (hi : op.isInput) (hq : ¬(s.step op).answer.acknowledges)
    (ht : s.target? op ≠ some k) : s.Spares k op := by
  refine ⟨hi, hq, .inr (Option.eq_none_iff_forall_ne_some.mpr fun f hf => ht ?_)⟩
  exact target?_of_feed? hi (feedOf?_eq_some_iff.mp hf)

theorem feeds (h : s.Spares k op) (hs : s.registry.Keyed) : s.Feeds op (s.step op) ∧
    (s.step op).session.connection = s.connection := by
  cases op
  case message event? raw received =>
    have hn (n : Nat) : (s.handleMessage event? raw received).answer ≠ .acknowledged n := fun e =>
      h.quiet (Answer.acknowledges_iff.mpr ⟨n, congrArg Answer.outcome e⟩)
    exact ⟨(feeds_message hs hn).map _, connection_message hn⟩
  case polledSnapshot => exact ⟨feeds_polledSnapshot.map _, frame_takePolled.connection⟩
  case polledValue    => exact ⟨feeds_polledValue.map _, frame_takePolled.connection⟩
  case pollFailed     => exact ⟨feeds_of_none rfl rfl rfl rfl, rfl⟩
  all_goals exact absurd h.input Bool.false_ne_true

theorem alike (h : s.Spares k op) (hs : s.registry.Keyed) : s.Alike k (s.step op).session := by
  obtain ⟨hf, hc⟩ := h.feeds hs
  refine ⟨hc, hf.nextTimer, ?_⟩
  rw [hf.registry]
  refine alike_take (h.aside.imp id fun hn f he => ?_)
  rw [feedOf?_eq_some_iff.mpr he] at hn
  contradiction

theorem calls (h : s.Spares k op) (hs : s.registry.Keyed) :
    Effect.calls k (s.step op).effects = [] := by
  rw [(course hs op).calls, callsFor]
  cases h.aside with
  | inl hn => rw [show s.registry.tab? k = none from hn]
  | inr hn => rw [hn]; cases s.registry.tab? k <;> rfl

end Spares

namespace Omits

-- By induction on what is left out, for all sessions that the tab cannot tell from the first one.
theorem alike (h : Omits k s ops ops') (ha : Alike k s s') (hs : s.registry.Sound)
    (hs' : s'.registry.Sound) : Alike k (s.run ops) (s'.run ops') ∧
      callsIn k (s'.events ops') = callsIn k (s.events ops) := by
  induction h generalizing s' with
  | nil => exact ⟨ha, rfl⟩
  | @keep ops ops' s op h hi =>
    have hc  : s.Course op (s.step op) := course hs.keyed op
    have hc' : s'.Course op (s'.step op) := course hs'.keyed op
    obtain ⟨hr, he⟩ := hi (ha.step hs.keyed hs'.keyed op) (hc.sound hs) (hc'.sound hs')
    refine ⟨hr, ?_⟩
    change Effect.calls k (s'.step op).effects ++ callsIn k _ =
      Effect.calls k (s.step op).effects ++ callsIn k _
    rw [hc.calls, hc'.calls, ha.callsFor, he]
  | @skip ops ops' s op ho h hi =>
    have hc : s.Course op (s.step op) := course hs.keyed op
    obtain ⟨hr, he⟩ := hi ((ho.alike hs.keyed).symm.trans ha) (hc.sound hs) hs'
    refine ⟨hr, ?_⟩
    change _ = Effect.calls k (s.step op).effects ++ callsIn k _
    rw [ho.calls hs.keyed, he, List.nil_append]

end Omits

end Session

-- The tabs and the directory of servers.

namespace Board

theorem exists_of_bind_eq_ok {x : Except ε α} {f : α → Except ε β} {b : β} (h : (x >>= f) = .ok b) :
    ∃ a, x = .ok a ∧ f a = .ok b := by
  cases x with
  | error => contradiction
  | ok a  => exact ⟨a, rfl, h⟩

variable {b : Board} {e : Envelope} {kind : Kind} {received : Millis} {u : Update}

theorem registry_route (hk : kind ∈ [.serverStatus, .objectsList])
    (h : b.route kind e received = .ok u) : u.board.registry = b.registry ∧ u.effects = [] := by
  cases kind
  case objectsList => obtain rfl := Except.ok.inj h; exact ⟨rfl, rfl⟩
  case serverStatus =>
    simp only [route, takeServerStatus] at h
    split at h
    · contradiction
    · contradiction
    · obtain rfl := Except.ok.inj h; exact ⟨rfl, rfl⟩
  all_goals simp at hk

theorem servers_route (hk : kind ∉ [.serverStatus, .objectsList])
    (h : b.route kind e received = .ok u) : u.board.servers = b.servers := by
  cases kind
  case connected => obtain rfl := Except.ok.inj h; rfl
  case objectSnapshot =>
    obtain ⟨k, _, hu⟩ := exists_of_bind_eq_ok h
    obtain rfl := Except.ok.inj hu
    rfl
  case sensorUpdate =>
    simp only [route, takeSensorUpdate] at h
    split at h
    · contradiction
    · obtain ⟨k?, _, hu⟩ := exists_of_bind_eq_ok h
      split at hu <;> obtain rfl := Except.ok.inj hu <;> rfl
  case batch =>
    obtain ⟨k, _, hu⟩ := exists_of_bind_eq_ok h
    split at hu
    · contradiction
    · obtain rfl := Except.ok.inj hu
      rfl
  all_goals simp at hk

end Board

namespace Session

variable {s : Session} {k : ObjectKey} {event? : Option String} {raw : String} {received : Millis}

theorem board_deliver {u : Board.Update} : (s.deliver u).session.board = u.board := by
  unfold deliver
  split <;> rfl

theorem effects_deliver {u : Board.Update} : (s.deliver u).effects = u.effects := by
  unfold deliver
  split <;> rfl

theorem registry_topology (h : (Operation.message event? raw received).isTopology) :
    (s.handleMessage event? raw received).session.registry = s.registry ∧
      (s.handleMessage event? raw received).effects = [] := by
  obtain ⟨e, he, hk⟩ := (Option.any_eq_true _ _).mp h
  have hk : e.kind? event? ∈ [some .serverStatus, some .objectsList] := of_decide_eq_true hk
  generalize hm : s.handleMessage event? raw received = st
  have hh : s.Handles event? raw received st := hm ▸ handles
  cases hh with
  | acknowledges he' hk' =>
    obtain rfl := Option.some.inj (he.symm.trans he')
    simp [hk'] at hk
  | delivers he' hk' hr =>
    obtain rfl := Option.some.inj (he.symm.trans he')
    rw [registry, board_deliver, effects_deliver]
    exact Board.registry_route (by simpa [hk'] using hk) hr
  | refuses => exact ⟨rfl, rfl⟩

theorem servers_message (h : ¬(Operation.message event? raw received).isTopology) :
    (s.handleMessage event? raw received).session.board.servers = s.board.servers := by
  generalize hm : s.handleMessage event? raw received = st
  have hh : s.Handles event? raw received st := hm ▸ handles
  cases hh with
  | acknowledges _ _ _ hp => rw [acknowledge_eq hp]; rfl
  | refuses               => rfl
  | delivers he hk hr =>
    rw [board_deliver]
    refine Board.servers_route (fun hm => h ?_) hr
    simpa [Operation.isTopology, he, hk] using hm

theorem servers_transportError {unit : Float} :
    (s.transportError unit).session.board.servers = s.board.servers := by
  unfold transportError
  dsimp only
  split <;> rfl

theorem servers_step {op : Operation} (h : ¬op.isTopology) :
    (s.step op).session.board.servers = s.board.servers := by
  cases op
  case message        => exact servers_message h
  case transportError => exact servers_transportError
  case openTab        => exact frame_openTab.servers
  case openChart      => exact frame_openChart.servers
  case closeChart     => exact frame_closeChart.servers
  case polledSnapshot => exact frame_takePolled.servers
  case polledValue    => exact frame_takePolled.servers
  all_goals rfl

-- Messages that acknowledge nothing and answers to polls spare every tab that they are not for. Those
-- that spare a tab in a run can be left out of it: the same calls are made for the tab, in the same
-- order, and it ends up the same with all its charts and timers. Moreover messages about servers
-- change no tab and ask for nothing, and nothing else changes the directory of servers.
theorem tab_isolated (c : Config) (k : ObjectKey) :
    (∀ ops op, op.isInput → ¬(((new c).run ops).step op).answer.acknowledges →
      ((new c).run ops).target? op ≠ some k → ((new c).run ops).Spares k op) ∧
    (∀ ops ops', Omits k (new c) ops ops' →
      ((new c).run ops').tab? k = ((new c).run ops).tab? k ∧
      callsIn k ((new c).events ops') = callsIn k ((new c).events ops)) ∧
    ∀ ops op, (op.isTopology →
        (((new c).run ops).step op).session.registry = ((new c).run ops).registry ∧
        (((new c).run ops).step op).effects = []) ∧
      (¬op.isTopology →
        (((new c).run ops).step op).session.board.servers = ((new c).run ops).board.servers) := by
  refine ⟨fun ops op => .of_target?, fun ops ops' h => ?omitted,
    fun ops op => ⟨fun ht => ?topology, servers_step⟩⟩
  case omitted =>
    have hs : (new c).registry.Sound := .new
    obtain ⟨ha, hc⟩ := h.alike .refl hs hs
    exact ⟨ha.registry.tab?, hc⟩
  case topology =>
    cases op with
    | message => exact registry_topology ht
    | _       => exact absurd ht Bool.false_ne_true

-- Two tabs are shown under one name. Of what comes in only one message is for the first of them, and
-- all the rest can be left out.
theorem tab_isolated_from_twin : ∃ c k ops ops', Omits k (new c) ops ops' ∧
    ops.length = 9 ∧ ops'.length = 6 ∧ (callsIn k ((new c).events ops)).length = 2 ∧
    ((new c).run ops').tab? k = ((new c).run ops).tab? k ∧
    callsIn k ((new c).events ops') = callsIn k ((new c).events ops) := by
  let c := { Config.default with maxReconnectAttempts := 1 }
  let k : ObjectKey := ⟨"a", "b"⟩
  let other : ObjectKey := ⟨"c", "d"⟩
  let toBoth := "\x7b\"type\":\"sensor_data\",\"objectName\":\"n\",\"data\":" ++
    "\x7b\"name\":\"x\",\"value\":1\x7d\x7d"
  let toServers := "\x7b\"type\":\"server_status\",\"serverId\":\"a\",\"data\":" ++
    "\x7b\"connected\":true\x7d\x7d"
  let toTab := "\x7b\"type\":\"sensor_data\",\"serverId\":\"a\",\"objectName\":\"b\",\"data\":" ++
    "\x7b\"name\":\"x\",\"value\":1\x7d\x7d"
  let opening : List Operation := [
    .openTab k (some "n") ⟨true, []⟩,
    .openTab other (some "n") ⟨true, []⟩,
    .openChart k ⟨"ext:x"⟩ ⟨none, none, false, false⟩ ⟨true⟩,
    .connect]
  let ops := opening ++ [
    .message none toBoth 10,
    .message none toServers 10,
    .message none toTab 10,
    .transportError 0.5,
    .polledSnapshot other ⟨.object [], none⟩ 20]
  let ops' := opening ++ [.message none toTab 10, .transportError 0.5]
  have h : Omits k (new c) ops ops' :=
    .keep <| .keep <| .keep <| .keep <| .skip (by decide +kernel) <| .skip (by decide +kernel) <|
    .keep <| .keep <| .skip (by decide +kernel) .nil
  obtain ⟨ht, hc⟩ := (tab_isolated c k).right.left ops ops' h
  exact ⟨c, k, ops, ops', h, rfl, rfl, by decide +kernel, ht, hc⟩

end Session
end FleetMonitor
