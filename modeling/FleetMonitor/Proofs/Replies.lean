import FleetMonitor.Client.Fetch
import FleetMonitor.Proofs.Course
import FleetMonitor.Proofs.Refusals

namespace FleetMonitor

def Reply.isSuccess (status : Nat) : Prop :=
  200 ≤ status ∧ status < 300

namespace PollTarget

-- What is to be asked of the session for a reply that is received at a certain time.
inductive Means (received : Millis) : PollTarget → Reply → Operation → Prop
  | snapshot (hs : Reply.isSuccess status) (hj : Json.parse? text = some body)
      (hp : PolledSnapshot.ofBody body = .ok p) :
    Means received (.object k) (.response status text) (.polledSnapshot k p received)
  | value (hs : Reply.isSuccess status) (hj : Json.parse? text = some body)
      (hp : PolledValue.ofBody body = .ok p) :
    Means received (.series k s) (.response status text) (.polledValue k s p received)
  | transport : Means received t (.failure text) .pollFailed
  | status (hs : ¬Reply.isSuccess status) : Means received t (.response status text) .pollFailed
  | undecodable (hs : Reply.isSuccess status) (hj : Json.parse? text = none) :
    Means received t (.response status text) .pollFailed
  | noObject (hs : Reply.isSuccess status) (hj : Json.parse? text = some body)
      (hb : ¬body.isObject) :
    Means received (.object k) (.response status text) .pollFailed
  | noNumber (hs : Reply.isSuccess status) (hj : Json.parse? text = some body)
      (hb : Sample.ofJson? body = none) :
    Means received (.series k s) (.response status text) .pollFailed

variable {t : PollTarget} {base : String} {received : Millis} {r : Reply} {op : Operation}
  {body : Json}

theorem body_of_isSuccess {url text : String} {status : Nat} (hs : Reply.isSuccess status) :
    (Reply.response status text).body url =
      match Json.parse? text with
      | some j => .ok j
      | none   => .error .unreadable :=
  if_pos hs

theorem body_of_not_isSuccess {url text : String} {status : Nat} (hs : ¬Reply.isSuccess status) :
    (Reply.response status text).body url = .error (.fetch url status) :=
  if_neg hs

-- A body that is of no use to the target.
theorem means_of_error {status : Nat} {text : String} {e : MonitorError}
    (hs : Reply.isSuccess status) (hj : Json.parse? text = some body)
    (ho : t.operation received body = .error e) :
    t.Means received (.response status text) .pollFailed := by
  cases t with
  | object k =>
    refine .noObject hs hj fun hb => ?_
    cases body <;> contradiction
  | series k s =>
    refine .noNumber hs hj ?_
    cases hb : Sample.ofJson? body with
    | none   => rfl
    | some y => simp [operation, PolledValue.ofBody, hb, Except.map] at ho

theorem means_of_ok {status : Nat} {text : String} (hs : Reply.isSuccess status)
    (hj : Json.parse? text = some body) (ho : t.operation received body = .ok op) :
    t.Means received (.response status text) op := by
  cases t with
  | object k =>
    cases hp : PolledSnapshot.ofBody body <;> rw [operation, hp] at ho <;> cases ho
    exact .snapshot hs hj hp
  | series k s =>
    cases hp : PolledValue.ofBody body <;> rw [operation, hp] at ho <;> cases ho
    exact .value hs hj hp

theorem means_onReply : t.Means received r (t.onReply base received r) := by
  cases r with
  | failure text         => exact .transport
  | response status text =>
    by_cases hs : Reply.isSuccess status
    case neg =>
      rw [onReply, body_of_not_isSuccess hs]
      exact .status hs
    case pos =>
      rw [onReply, body_of_isSuccess hs]
      cases hj : Json.parse? text with
      | none      => exact .undecodable hs hj
      | some body =>
        cases ho : t.operation received body with
        | ok op   => simpa only [Except.bind, ho] using means_of_ok hs hj ho
        | error e => simpa only [Except.bind, ho] using means_of_error hs hj ho

end PollTarget

-- The timers go on whatever a reply means.
theorem Session.calls_of_means {s : Session} {t : PollTarget} {received : Millis} {r : Reply}
    {op : Operation} {e : Effect} (h : t.Means received r op) (he : e ∈ (s.step op).effects) :
    ∃ k c, e = .call k c := by
  cases h with
  | snapshot => exact (feeds_polledSnapshot.map _).exists_call he
  | value    => exact (feeds_polledValue.map _).exists_call he
  | _        => contradiction

end FleetMonitor
