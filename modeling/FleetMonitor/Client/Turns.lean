import FleetMonitor.Client.Basic

namespace FleetMonitor

-- A turn of a poll loop, in which it goes to sleep, fetches or lets go.
def Ready.isPollTurn : Ready → Bool
  | poll _ .turn => true
  | _            => false

namespace Client

-- From `c₁` to `c₂` nothing but turns of poll loops became ready.
def AddsTurns (c₁ c₂ : Client) : Prop :=
  ∃ rs, c₂.ready = c₁.ready ++ rs ∧ ∀ r ∈ rs, r.isPollTurn

namespace AddsTurns

theorem of_ready {c₁ c₂ : Client} (h : c₂.ready = c₁.ready) : AddsTurns c₁ c₂ :=
  ⟨[], by simp [h], by simp⟩

theorem refl {c : Client} : AddsTurns c c :=
  of_ready rfl

theorem trans {c₁ c₂ c₃ : Client} (h₁ : AddsTurns c₁ c₂) (h₂ : AddsTurns c₂ c₃) :
    AddsTurns c₁ c₃ := by
  obtain ⟨rs₁, e₁, t₁⟩ := h₁
  obtain ⟨rs₂, e₂, t₂⟩ := h₂
  refine ⟨rs₁ ++ rs₂, by simp [e₁, e₂], fun r hr => ?_⟩
  cases List.mem_append.1 hr with
  | inl h => exact t₁ r h
  | inr h => exact t₂ r h

theorem ite {p : Prop} [Decidable p] {c c' : Client} (h : AddsTurns c c') :
    AddsTurns c (if p then c' else c) := by
  split
  · exact h
  · exact refl

theorem foldl {f : Client → α → Client} (h : ∀ c a, AddsTurns c (f c a)) (as : List α)
    (c : Client) : AddsTurns c (as.foldl f c) := by
  induction as generalizing c with
  | nil => exact refl
  | cons a as hi => exact (h c a).trans (hi (f c a))

end AddsTurns

open AddsTurns

-- Effects of the session.

theorem addsTurns_apply {c : Client} {e : Effect} : AddsTurns c (c.apply e) := by
  cases e with
  | call k t => exact of_ready rfl
  | start t  => exact ⟨[.poll t.id .turn], rfl, by simp [Ready.isPollTurn]⟩
  | stop t   =>
    simp only [apply, stopPoll]
    split
    · exact ⟨[.poll t.id .turn], rfl, by simp [Ready.isPollTurn]⟩
    · exact refl

theorem addsTurns_take {c : Client} {s : Session.Step α} : AddsTurns c (c.take s) :=
  trans (of_ready rfl) (foldl (fun _ _ => addsTurns_apply) _ _)

theorem addsTurns_ask {c : Client} {op : Operation} : AddsTurns c (c.ask op).sync := by
  have h : AddsTurns c (c.ask op) := trans (of_ready rfl) addsTurns_take
  exact h.trans (of_ready rfl)

-- Connection loops.

theorem addsTurns_recover {c : Client} {task : Nat} : AddsTurns c (c.recover task) := by
  simp only [recover]
  split
  · exact addsTurns_ask.trans (of_ready rfl)
  · exact addsTurns_ask.trans (of_ready rfl)

theorem addsTurns_openStream {c : Client} {task : Nat} {r : StreamRequest} :
    AddsTurns c (c.openStream task r) := by
  simp only [openStream]
  split
  · exact of_ready rfl
  · exact trans (of_ready rfl) addsTurns_recover

theorem addsTurns_readMessage {c : Client} {name : String} {data? : Option String} :
    AddsTurns c (c.readMessage name data?) := by
  cases data? with
  | none   => exact refl
  | some _ => exact addsTurns_ask

theorem addsTurns_resume {c : Client} {task : Nat} {t : Ticket} :
    AddsTurns c (c.resume task t) := by
  simp only [resume]
  split
  · exact addsTurns_ask.trans addsTurns_openStream
  · exact addsTurns_ask.trans (of_ready rfl)

theorem addsTurns_runStream {c : Client} {task : Nat} {why : StreamSignal} :
    AddsTurns c (c.runStream task why) := by
  simp only [runStream]
  split
  case h_1 => exact refl
  case h_2 => exact of_ready rfl
  case h_3 =>
    split
    case h_1 => exact addsTurns_openStream
    case h_2 => exact ite addsTurns_readMessage
    case h_3 => exact ite (trans (of_ready rfl) addsTurns_recover)
    case h_4 => exact ite addsTurns_resume
    case h_5 => exact refl

-- Poll loops.

theorem ready_runPoll_turn {c : Client} {timer : Nat} : (c.runPoll timer .turn).ready = c.ready := by
  simp only [runPoll]
  split
  case h_1 => rfl
  case h_2 => rfl
  case h_3 =>
    split
    case h_1 => rfl
    case h_4 => rfl
    all_goals contradiction

theorem addsTurns_runPoll {c : Client} {timer : Nat} {why : PollSignal} :
    AddsTurns c (c.runPoll timer why) := by
  simp only [runPoll]
  split
  case h_1 => exact refl
  case h_2 => exact of_ready rfl
  case h_3 =>
    split
    case h_1 => exact of_ready rfl
    case h_2 => exact ite (of_ready rfl)
    case h_3 => exact ite (addsTurns_ask.trans (of_ready rfl))
    case h_4 => exact refl

-- Rounds.

theorem addsTurns_runReady {c : Client} {r : Ready} : AddsTurns c (c.runReady r) := by
  cases r with
  | stream => exact addsTurns_runStream
  | poll   => exact addsTurns_runPoll

theorem isPollTurn_of_mem_ready_round {c : Client} {r : Ready} (h : r ∈ c.round.ready) :
    r.isPollTurn := by
  obtain ⟨rs, e, t⟩ : AddsTurns { c with ready := [] } c.round :=
    foldl (fun _ _ => addsTurns_runReady) _ _
  rw [e] at h
  exact t r h

theorem ready_foldl_of_isPollTurn {rs : List Ready} {c : Client} (h : ∀ r ∈ rs, r.isPollTurn) :
    (rs.foldl runReady c).ready = c.ready := by
  induction rs generalizing c with
  | nil => rfl
  | cons r rs hi =>
    simp only [List.mem_cons, forall_eq_or_imp] at h
    rw [List.foldl_cons, hi h.2]
    match r, h.1 with
    | .poll _ .turn, _ => exact ready_runPoll_turn

-- Whatever runs in the first round makes only turns of poll loops ready, and such a turn makes
-- nothing ready.
@[simp]
theorem ready_settle {c : Client} : c.settle.ready = [] :=
  ready_foldl_of_isPollTurn fun _ => isPollTurn_of_mem_ready_round

end Client
end FleetMonitor
