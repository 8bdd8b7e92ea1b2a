import FleetMonitor.Client.Browser

namespace FleetMonitor.Browser

-- What is known of the sleeps of a browser. Each was asked for once and has a number of its own, and
-- it is lost only if no sleep can be that long.
structure Recorded (b : Browser) : Prop where
  below : ∀ {z ms}, .slept z ms ∈ b.calls → z < b.nextSleep
  once  : ∀ {z ms ms'}, .slept z ms ∈ b.calls → .slept z ms' ∈ b.calls → ms = ms'
  ids   : ∀ s ∈ b.sleeps, s.id < b.nextSleep
  lost  : ∀ z ∈ b.lostSleeps, ∃ ms, .slept z ms ∈ b.calls ∧ b.sleepLength ms = none

-- From one state to another sleeps may have been asked for, and some may be over.
structure Proceeds (b b' : Browser) : Prop where
  sleepLength : b'.sleepLength = b.sleepLength
  nextSleep   : b.nextSleep ≤ b'.nextSleep
  calls       : ∀ {z ms}, .slept z ms ∈ b.calls → .slept z ms ∈ b'.calls
  -- No sleep from before comes back.
  sleeps      : ∀ s ∈ b'.sleeps, s.id < b.nextSleep → s ∈ b.sleeps
  recorded    : b.Recorded → b'.Recorded

variable {b b' b'' : Browser} {c : BrowserCall} {z s : Nat} {ms : UInt64} {url : String}

theorem mem_calls_log : c ∈ (b.log c').calls ↔ c ∈ b.calls ∨ c = c' := by
  simp [log]

theorem mem_sleeps_sleep {s : Sleep} : s ∈ (b.sleep ms).1.sleeps ↔
    s ∈ b.sleeps ∨ ∃ d, b.sleepLength ms = some d ∧ ⟨b.nextSleep, b.now + d⟩ = s := by
  simp [sleep, log]

theorem mem_lostSleeps_sleep : z ∈ (b.sleep ms).1.lostSleeps ↔
    z ∈ b.lostSleeps ∨ b.sleepLength ms = none ∧ z = b.nextSleep := by
  simp only [sleep, log, List.mem_append]
  split <;> simp_all

theorem mem_calls_sleep {ms' : UInt64} : .slept z ms' ∈ (b.sleep ms).1.calls ↔
    .slept z ms' ∈ b.calls ∨ z = b.nextSleep ∧ ms' = ms := by
  simp [sleep, log]

theorem Recorded.sleep (h : b.Recorded) : (b.sleep ms).1.Recorded := by
  -- The number of the new sleep is not that of any other.
  have hn {ms' : UInt64} (hc : .slept b.nextSleep ms' ∈ b.calls) : False :=
    Nat.lt_irrefl _ (h.below hc)
  refine ⟨fun hc => ?below, fun hc hc' => ?once, fun s hs => ?ids, fun z hz => ?lost⟩
  case below =>
    rcases mem_calls_sleep.mp hc with hc | ⟨rfl, _⟩
    · exact Nat.lt_succ_of_lt (h.below hc)
    · exact Nat.lt_succ_self _
  case once =>
    rcases mem_calls_sleep.mp hc with ho | ⟨hz, he⟩ <;>
      rcases mem_calls_sleep.mp hc' with ho' | ⟨hz', he'⟩
    · exact h.once ho ho'
    · exact (hn (hz' ▸ ho)).elim
    · exact (hn (hz ▸ ho')).elim
    · exact he.trans he'.symm
  case ids =>
    rcases mem_sleeps_sleep.mp hs with hs | ⟨d, _, rfl⟩
    · exact Nat.lt_succ_of_lt (h.ids s hs)
    · exact Nat.lt_succ_self _
  case lost =>
    rcases mem_lostSleeps_sleep.mp hz with hz | ⟨hl, rfl⟩
    · obtain ⟨ms', hc, hl⟩ := h.lost z hz
      exact ⟨ms', mem_calls_sleep.mpr (.inl hc), hl⟩
    · exact ⟨ms, mem_calls_sleep.mpr (.inr ⟨rfl, rfl⟩), hl⟩

namespace Proceeds

theorem refl : Proceeds b b :=
  ⟨rfl, Nat.le_refl _, id, fun _ hs _ => hs, id⟩

theorem trans (h : Proceeds b b') (h' : Proceeds b' b'') : Proceeds b b'' where
  sleepLength   := h'.sleepLength.trans h.sleepLength
  nextSleep     := Nat.le_trans h.nextSleep h'.nextSleep
  calls         := h'.calls ∘ h.calls
  sleeps s hs i := h.sleeps s (h'.sleeps s hs (Nat.lt_of_lt_of_le i h.nextSleep)) i
  recorded      := h'.recorded ∘ h.recorded

theorem sleep : Proceeds b (b.sleep ms).1 where
  sleepLength := rfl
  nextSleep   := Nat.le_succ _
  calls hc    := mem_calls_sleep.mpr (.inl hc)
  recorded    := Recorded.sleep
  sleeps s hs hi := by
    rcases mem_sleeps_sleep.mp hs with hs | ⟨d, _, rfl⟩
    · exact hs
    · exact (Nat.lt_irrefl _ hi).elim

-- No sleep is asked for.
theorem of_eq (hf : b'.sleepLength = b.sleepLength) (hn : b'.nextSleep = b.nextSleep)
    (hl : b'.lostSleeps = b.lostSleeps) (hs : ∀ s ∈ b'.sleeps, s ∈ b.sleeps)
    (hc : ∀ {z ms}, .slept z ms ∈ b'.calls ↔ .slept z ms ∈ b.calls) : Proceeds b b' := by
  refine ⟨hf, Nat.le_of_eq hn.symm, hc.mpr, fun s hm _ => hs s hm, fun h => ?_⟩
  refine ⟨fun hm => ?_, fun hm hm' => h.once (hc.mp hm) (hc.mp hm'), fun s hm => ?_, fun z hz => ?_⟩
  · rw [hn]
    exact h.below (hc.mp hm)
  · rw [hn]
    exact h.ids s (hs s hm)
  · rw [hl] at hz
    obtain ⟨ms, hm, he⟩ := h.lost z hz
    exact ⟨ms, hc.mpr hm, hf ▸ he⟩

theorem dropRandom : Proceeds b b.dropRandom :=
  of_eq rfl rfl rfl (fun _ => id) Iff.rfl

theorem log (h : ∀ z ms, c ≠ .slept z ms) : Proceeds b (b.log c) := by
  refine of_eq rfl rfl rfl (fun _ => id) fun {z ms} => ?_
  rw [mem_calls_log]
  exact or_iff_left (h z ms).symm

theorem fetch : Proceeds b (b.fetch url).1 :=
  have h : Proceeds b { b with fetches := b.fetches ++ [b.nextFetch], nextFetch := b.nextFetch + 1 } :=
    of_eq rfl rfl rfl (fun _ => id) Iff.rfl
  h.trans (log fun _ _ => nofun)

theorem endSleep : Proceeds b (b.endSleep z) :=
  of_eq rfl rfl rfl (fun _ hs => (List.mem_filter.mp hs).left) Iff.rfl

theorem cancelSleep : Proceeds b (b.cancelSleep z) := by
  unfold Browser.cancelSleep
  split
  · exact endSleep.trans (of_eq rfl rfl rfl (fun _ => id) Iff.rfl)
  · exact refl

theorem endFetch {f : Nat} : Proceeds b (b.endFetch f) :=
  of_eq rfl rfl rfl (fun _ => id) Iff.rfl

theorem cancelFetch {f : Nat} : Proceeds b (b.cancelFetch f) := by
  unfold Browser.cancelFetch
  split
  · exact (endFetch (f := f)).trans (of_eq rfl rfl rfl (fun _ => id) Iff.rfl)
  · exact refl

theorem close {s : Nat} : Proceeds b (b.close s) := by
  unfold Browser.close
  split
  · have h : Proceeds b { b with streams := b.streams.modify s ({ · with isOpen := false }) } :=
      of_eq rfl rfl rfl (fun _ => id) Iff.rfl
    exact h.trans (log fun _ _ => nofun)
  · exact refl

theorem addStream {names : List String} {left? : Option Nat} :
    Proceeds b (b.addStream url names left?) :=
  have h : Proceeds b
      { b with streams := b.streams ++ [⟨url, names, true⟩], unsubscribable? := left? } :=
    of_eq rfl rfl rfl (fun _ => id) Iff.rfl
  h.trans (log fun _ _ => nofun)

theorem open? : Proceeds b (b.open? url).1 := by
  unfold Browser.open?
  split
  case isTrue  =>
    have h : Proceeds b { b with refusals := b.refusals - 1 } :=
      of_eq rfl rfl rfl (fun _ => id) Iff.rfl
    exact h.trans (log fun _ _ => nofun)
  case isFalse =>
    dsimp only
    split
    case h_1 => exact addStream
    case h_2 =>
      split
      · exact addStream.trans close
      · exact addStream

theorem wake {s : Sleep} : Proceeds b (b.wake s) :=
  endSleep.trans (of_eq rfl rfl rfl (fun _ => id) Iff.rfl)

end Proceeds

theorem recorded_start {now : Int} {randoms : List Float} {refusals : Nat} {f : SleepLength} :
    (start now randoms refusals f).Recorded :=
  ⟨nofun, nofun, nofun, nofun⟩

end FleetMonitor.Browser
