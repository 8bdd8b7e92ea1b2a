import FleetMonitor.Session
import Mathlib.Data.List.DropRight

namespace FleetMonitor

namespace Operation

-- Whether it is the failure of a stream that was wanted.
def failsOn (c : Connection) : Operation → Bool
  | transportError _ => c.phase ≠ .disconnected ∧ c.phase ≠ .polling
  | _                => false

end Operation

namespace Answer

-- Whether an acknowledgement of the stream was taken up.
def acknowledges : Answer → Bool
  | outcome (.acknowledged _) => true
  | _                         => false

theorem acknowledges_iff {a : Answer} : a.acknowledges ↔ ∃ n, a = .outcome (.acknowledged n) := by
  unfold acknowledges
  split <;> simp_all

-- The ticket that is handed out with a reconnection.
def ticket? : Answer → Option Ticket
  | recovery (.retry _ _ t) => some t
  | _                       => none

end Answer

namespace Session

-- An operation with the session that it finds.
structure Event where
  session : Session
  op      : Operation

namespace Event

def step (e : Event) : Step Answer :=
  e.session.step e.op

def answer (e : Event) : Answer :=
  e.step.answer

def acknowledges (e : Event) : Bool :=
  e.answer.acknowledges

def fails (e : Event) : Bool :=
  e.op.failsOn e.session.connection

def ticket? (e : Event) : Option Ticket :=
  e.answer.ticket?

end Event

-- The events of a run.
def events (s : Session) : List Operation → List Event
  | []        => []
  | op :: ops => ⟨s, op⟩ :: (s.step op).session.events ops

variable {s : Session} {op : Operation} {ops ops₁ ops₂ : List Operation}

@[simp]
theorem run_nil : s.run [] = s :=
  rfl

@[simp]
theorem run_cons : s.run (op :: ops) = (s.step op).session.run ops :=
  rfl

theorem run_append : s.run (ops₁ ++ ops₂) = (s.run ops₁).run ops₂ :=
  List.foldl_append

@[simp]
theorem run_concat : s.run (ops ++ [op]) = ((s.run ops).step op).session :=
  run_append

theorem events_append : s.events (ops₁ ++ ops₂) = s.events ops₁ ++ (s.run ops₁).events ops₂ := by
  induction ops₁ generalizing s with
  | nil => rfl
  | cons op ops hi => simp [events, hi]

@[simp]
theorem events_concat : s.events (ops ++ [op]) = s.events ops ++ [⟨s.run ops, op⟩] :=
  events_append

-- Whatever splits the events of a run splits the run.
theorem events_eq_append {es₁ es₂ : List Event} (h : s.events ops = es₁ ++ es₂) :
    ∃ ops₁ ops₂, ops = ops₁ ++ ops₂ ∧ es₁ = s.events ops₁ ∧ es₂ = (s.run ops₁).events ops₂ := by
  induction es₁ generalizing s ops with
  | nil => exact ⟨[], ops, rfl, rfl, h.symm⟩
  | cons e es₁ hi =>
    cases ops with
    | nil => simp [events] at h
    | cons op ops =>
      have ⟨he, ht⟩ := List.cons.inj h
      obtain ⟨ops₁, ops₂, rfl, rfl, rfl⟩ := hi ht
      exact ⟨op :: ops₁, ops₂, rfl, by simp [events, he], rfl⟩

-- Every event finds what some run leads to.
theorem exists_run_of_mem {e : Event} (h : e ∈ s.events ops) : ∃ ops, e.session = s.run ops := by
  induction ops generalizing s with
  | nil => contradiction
  | cons op ops hi =>
    cases h with
    | head      => exact ⟨[], rfl⟩
    | tail _ hm =>
      obtain ⟨ops, he⟩ := hi hm
      exact ⟨op :: ops, he⟩

-- What holds at the start, and is kept by every operation, holds of every run and its events.
theorem run_induction {P : List Event → Session → Prop} (init : P [] s)
    (step : ∀ es s op, P es s → P (es ++ [⟨s, op⟩]) (s.step op).session) (ops : List Operation) :
    P (s.events ops) (s.run ops) := by
  induction ops using List.reverseRec with
  | nil => exact init
  | append_singleton ops op hi =>
    rw [events_concat, run_concat]
    exact step _ _ op hi

-- The events after the last one that satisfies `p`, or all of them if there is none.
def since (p : Event → Bool) (es : List Event) : List Event :=
  es.rtakeWhile fun e => !p e

variable {p : Event → Bool} {es es₁ es₂ : List Event} {e : Event}

@[simp]
theorem since_nil : since p [] = [] := by
  simp [since]

theorem since_concat : since p (es ++ [e]) = if p e then [] else since p es ++ [e] := by
  simp only [since, List.rtakeWhile_concat, Bool.not_eq_true']
  cases p e <;> rfl

theorem since_suffix : since p es <:+ es :=
  List.rtakeWhile_suffix _ es

theorem not_of_mem_since (h : e ∈ since p es) : ¬p e := by
  simpa using List.mem_rtakeWhile_imp h

theorem since_append (h : ∀ e ∈ es₂, ¬p e) : since p (es₁ ++ es₂) = since p es₁ ++ es₂ := by
  induction es₂ using List.reverseRec with
  | nil => simp
  | append_singleton es₂ e hi =>
    simp only [List.mem_append, List.mem_singleton] at h
    rw [← List.append_assoc, since_concat, if_neg (h e (.inr rfl)), hi fun e he => h e (.inl he),
      List.append_assoc]

end Session
end FleetMonitor
