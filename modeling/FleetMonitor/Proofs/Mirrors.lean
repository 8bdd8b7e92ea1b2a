import FleetMonitor.Client.Acts
import FleetMonitor.Proofs.Counters

namespace FleetMonitor

-- The number of times that a value was set, and the value: from one state to another it was set, or
-- it is the same.
def Tracks (n n' : Nat) (a a' : α) : Prop :=
  n < n' ∨ n' = n ∧ a' = a

namespace Tracks

variable {n n₁ n₂ n₃ : Nat} {a a₁ a₂ a₃ : α}

theorem refl : Tracks n n a a :=
  .inr ⟨rfl, rfl⟩

theorem trans (h₁ : Tracks n₁ n₂ a₁ a₂) (h₂ : Tracks n₂ n₃ a₂ a₃) : Tracks n₁ n₃ a₁ a₃ := by
  rcases h₁ with h₁ | ⟨rfl, rfl⟩
  case inr => exact h₂
  case inl =>
    rcases h₂ with h₂ | ⟨rfl, _⟩
    · exact .inl (Nat.lt_trans h₁ h₂)
    · exact .inl h₁

theorem lt (h : Tracks n₁ n₂ a₁ a₂) (ha : a₂ ≠ a₁) : n₁ < n₂ :=
  h.resolve_right fun hn => ha hn.right

end Tracks

namespace Signals

-- Signals that show a session.
structure Shows (g : Signals) (s : Session) : Prop where
  status  : g.status = s.status
  servers : g.servers = s.board.servers
  stats   : g.stats = s.stats

-- From one state to another no signal shows something else without having been set.
structure Advances (g g' : Signals) : Prop where
  status  : Tracks g.statusSets g'.statusSets g.status g'.status
  servers : Tracks g.serversSets g'.serversSets g.servers g'.servers
  stats   : Tracks g.statsSets g'.statsSets g.stats g'.stats

variable {g g₁ g₂ g₃ : Signals} {s : Session}

theorem Advances.refl : g.Advances g :=
  ⟨.refl, .refl, .refl⟩

theorem Advances.trans (h₁ : g₁.Advances g₂) (h₂ : g₂.Advances g₃) : g₁.Advances g₃ :=
  ⟨h₁.status.trans h₂.status, h₁.servers.trans h₂.servers, h₁.stats.trans h₂.stats⟩

theorem shows_sync : (g.sync s).Shows s :=
  ⟨rfl, rfl, rfl⟩

theorem advances_sync : g.Advances (g.sync s) := by
  refine ⟨?status, ?servers, .inl (Nat.lt_succ_self _)⟩
  case status =>
    by_cases h : g.status = s.status
    case pos => exact .inr ⟨if_pos h, h.symm⟩
    case neg => exact .inl (by simp [sync, h])
  case servers =>
    by_cases h : g.servers = s.board.servers
    case pos => exact .inr ⟨if_pos h, h.symm⟩
    case neg => exact .inl (by simp [sync, h])

end Signals

theorem Session.shown_display {s : Session} {op : Operation} (h : op.isDisplay) :
    (s.step op).session.status = s.status ∧
      (s.step op).session.board.servers = s.board.servers ∧
      (s.step op).session.stats = s.stats := by
  have hf {s' : Session} (h : s.Frame s') : s'.status = s.status :=
    congrArg Connection.status h.connection
  cases op <;> try contradiction
  case openTab    => exact ⟨hf frame_openTab, frame_openTab.servers, stats_openTab⟩
  case closeTab   => exact ⟨rfl, rfl, rfl⟩
  case openChart  => exact ⟨hf frame_openChart, frame_openChart.servers, stats_openChart⟩
  case closeChart => exact ⟨hf frame_closeChart, frame_closeChart.servers, stats_closeChart⟩
  case setRange   => exact ⟨rfl, rfl, rfl⟩

namespace Client

variable {c c₁ c₂ c₃ : Client}

-- From one state to another the signals go on to show the session, and nothing else without having
-- been set.
structure Follows (c c' : Client) : Prop where
  shows    : c.signals.Shows c.session → c'.signals.Shows c'.session
  advances : c.signals.Advances c'.signals

namespace Follows

theorem of_eq (hs : c₂.session = c₁.session) (hg : c₂.signals = c₁.signals) : Follows c₁ c₂ where
  shows h  := by rw [hs, hg]; exact h
  advances := by rw [hg]; exact .refl

theorem refl : Follows c c :=
  of_eq rfl rfl

theorem trans (h₁ : Follows c₁ c₂) (h₂ : Follows c₂ c₃) : Follows c₁ c₃ where
  shows    := h₂.shows ∘ h₁.shows
  advances := h₁.advances.trans h₂.advances

end Follows

theorem follows_ask {op : Operation} : Follows c (c.ask op).sync := by
  have hg : (c.ask op).signals = c.signals := signals_ask
  have ha : (c.ask op).signals.Advances (c.ask op).sync.signals := Signals.advances_sync
  exact ⟨fun _ => Signals.shows_sync, hg ▸ ha⟩

theorem follows_display {op : Operation} (h : op.isDisplay) :
    Follows c (c.take (c.session.step op)) where
  shows hg := by
    obtain ⟨hs, hv, ht⟩ := Session.shown_display h
    rw [session_take, signals_take]
    exact ⟨hg.status.trans hs.symm, hg.servers.trans hv.symm, hg.stats.trans ht.symm⟩
  advances := by rw [signals_take]; exact .refl

theorem Act.follows (h : Act c₁ c₂) : Follows c₁ c₂ := by
  cases h with
  | ask     => exact follows_ask
  | setPoll => exact .of_eq rfl rfl
  | endPoll => exact .of_eq rfl rfl
  | other   => exact .of_eq rfl rfl

theorem follows_step (h : Happening) : Follows c (c.step h) := by
  rcases c.acts_step h with ha | ⟨op, ho, _, he⟩
  · exact ha.keep .refl fun _ _ h hf => hf.trans h.follows
  · rw [he]
    exact follows_display ho

-- The signals are set for the first time when the client connects.
theorem shows_start {config : Config} {b : Browser} :
    (start config b).signals.Shows (start config b).session :=
  Signals.shows_sync

-- The signals show the session after whatever happens, and so they do when nothing runs any more.
-- What is shown of it never changes unless the signal is set.
theorem signals_show_session (o : Outset) (hs : List Happening) :
    ((o.after hs).signals.status = (o.after hs).session.status ∧
      (o.after hs).signals.servers = (o.after hs).session.board.servers ∧
      (o.after hs).signals.stats = (o.after hs).session.stats) ∧
    ∀ h,
      (((o.after hs).step h).session.status ≠ (o.after hs).session.status →
        (o.after hs).signals.statusSets < ((o.after hs).step h).signals.statusSets ∧
        ((o.after hs).step h).signals.status = ((o.after hs).step h).session.status) ∧
      (((o.after hs).step h).session.board.servers ≠ (o.after hs).session.board.servers →
        (o.after hs).signals.serversSets < ((o.after hs).step h).signals.serversSets ∧
        ((o.after hs).step h).signals.servers = ((o.after hs).step h).session.board.servers) ∧
      (((o.after hs).step h).session.stats ≠ (o.after hs).session.stats →
        (o.after hs).signals.statsSets < ((o.after hs).step h).signals.statsSets ∧
        ((o.after hs).step h).signals.stats = ((o.after hs).step h).session.stats) := by
  have hg : (o.after hs).signals.Shows (o.after hs).session :=
    run_induction (P := fun c => c.signals.Shows c.session) shows_start
      (fun _ h hg => (follows_step h).shows hg) hs
  refine ⟨⟨hg.status, hg.servers, hg.stats⟩, fun h => ?_⟩
  obtain ⟨hf, ha⟩ := follows_step (c := o.after hs) h
  have hg' := hf hg
  refine ⟨fun hn => ⟨ha.status.lt ?_, hg'.status⟩, fun hn => ⟨ha.servers.lt ?_, hg'.servers⟩,
    fun hn => ⟨ha.stats.lt ?_, hg'.stats⟩⟩
  · rwa [hg'.status, hg.status]
  · rwa [hg'.servers, hg.servers]
  · rwa [hg'.stats, hg.stats]

end Client
end FleetMonitor
