import FleetMonitor.Backoff
import FleetMonitor.Config
import FleetMonitor.Message.Payload
import FleetMonitor.Url.Endpoint

namespace FleetMonitor

--   disconnected → connecting → connected → reconnecting → connecting → …
--                                                       ↘ polling
inductive Phase where
  | disconnected
  | connecting
  | connected
  -- Waiting for the delay before the next attempt.
  | reconnecting
  -- The stream has been given up; only a new connection leaves this phase.
  | polling
  deriving DecidableEq, Repr

namespace Phase

-- Whether there is a stream that could be acknowledged.
def expectsAck : Phase → Bool
  | connecting | connected | reconnecting => true
  | disconnected | polling                => false

end Phase

-- The state of the connection as it is shown to the user.
inductive Status where
  | disconnected
  | connecting
  | connected
  | reconnecting (attempt max : UInt32)
  | polling
  deriving DecidableEq

namespace Status

def default : Status :=
  disconnected

def label : Status → String
  | disconnected     => "disconnected"
  | connecting       => "connecting"
  | connected        => "connected"
  | reconnecting _ _ => "reconnecting"
  | polling          => "polling"

-- Whether new data arrives, pushed or polled.
def isLive : Status → Bool
  | connected | polling => true
  | _                   => false

end Status

-- What a reconnection after its delay is redeemed with.
structure Ticket where
  generation : UInt64
  deriving DecidableEq, Repr

-- What to do after the stream failed.
inductive Recovery where
  -- Wait for the delay in milliseconds and then redeem the ticket.
  | retry (attempt : UInt32) (delay : UInt64) (ticket : Ticket)
  -- Poll from now on.
  | fallback
  -- Nothing: the stream was not wanted any more.
  | idle
  deriving DecidableEq

-- The one logical stream to the server: a bounded number of attempts to reconnect, and then
-- polling. Nothing here opens a stream or waits. The machine says what to open and how long to
-- wait, and is told what became of it.
structure Connection where
  phase        : Phase
  connected    : Bool
  -- The failures since the last acknowledgement.
  attempts     : UInt32
  maxAttempts  : UInt32
  -- The poll interval in milliseconds: the server's latest one, or the configured one.
  pollInterval : UInt64
  smEnabled    : Bool
  control?     : Option Control
  policy       : BackoffPolicy
  request      : StreamRequest
  -- Grows, modulo 2 ^ 64, whenever an earlier ticket becomes worthless.
  generation   : UInt64

namespace Connection

def new (c : Config) : Connection where
  phase        := .disconnected
  connected    := false
  attempts     := 0
  maxAttempts  := max c.maxReconnectAttempts 1
  pollInterval := c.pollInterval
  smEnabled    := false
  control?     := none
  policy       := .new c.baseDelay c.maxDelay c.jitterRatio
  request      := ⟨c.streamEndpoint, c.token?⟩
  generation   := 0

-- The ratio of a configuration that was checked is a number, so there always is a delay.
theorem delay?_policy_new {c : Config} {attempt : UInt32} {unit : Float} (h : c.fault? = none) :
    (new c).policy.delay? attempt unit = some ((new c).policy.delay attempt unit) := by
  have hr : 0.0 ≤ c.jitterRatio ∧ c.jitterRatio < 1.0 := by
    refine Decidable.by_contra fun hr => ?_
    unfold Config.fault? at h
    rw [if_pos hr] at h
    split at h
    case isTrue => contradiction
    split at h
    case isTrue => contradiction
    split at h <;> contradiction
  exact BackoffPolicy.delay?_of_hasBand (BackoffPolicy.hasBand_new (Backoff.not_isNaN_of_le hr.left))

-- Starts a new connection in place of any other. The failures so far still count.
def connect (c : Connection) : Connection :=
  { c with phase := .connecting, connected := false, generation := c.generation + 1 }

-- Takes up what the server acknowledges. A poll interval of zero is none.
def acknowledge (c : Connection) (ack : Ack) : Connection :=
  { c with
    phase        := .connected
    connected    := true
    attempts     := 0
    pollInterval := (ack.pollInterval?.filter (0 < ·)).getD c.pollInterval
    smEnabled    := ack.smEnabled
    control?     := ack.control? }

-- The next number, or the same one if it is the greatest.
def saturatingSucc (n : UInt32) : UInt32 :=
  .ofNat (IntRange.uint32.saturate (n.toNat + 1)).toNat

theorem toNat_saturatingSucc {n : UInt32} :
    (saturatingSucc n).toNat = min (n.toNat + 1) (UInt32.size - 1) := by
  have h : n.toNat < UInt32.size := n.toNat_lt
  have hs : IntRange.uint32.saturate (n.toNat + 1) = (min (n.toNat + 1) (UInt32.size - 1) : Nat) := by
    simp only [IntRange.saturate, IntRange.uint32, UInt32.size]
    omega
  simp only [saturatingSucc, hs, Int.toNat_natCast, UInt32.toNat_ofNat', UInt32.size]
  omega

-- What follows a failure of the stream, for a random `unit` that scales the delay. The policy is meant
-- to have a band, as that of a checked configuration has (`delay?_policy_new`).
def recovery (c : Connection) (unit : Float) : Recovery :=
  if c.phase = .disconnected ∨ c.phase = .polling then .idle
  else
    let attempt := saturatingSucc c.attempts
    if c.maxAttempts ≤ attempt then .fallback
    else .retry attempt (c.policy.delay attempt unit) ⟨c.generation + 1⟩

def fail (c : Connection) : Connection :=
  if c.phase = .disconnected ∨ c.phase = .polling then c
  else
    let attempt := saturatingSucc c.attempts
    { c with
      phase      := if c.maxAttempts ≤ attempt then .polling else .reconnecting
      connected  := false
      attempts   := attempt
      generation := c.generation + 1 }

-- Whether a ticket is still worth a connection.
def accepts (c : Connection) (t : Ticket) : Bool :=
  t.generation = c.generation && c.phase = .reconnecting

-- Redeems a ticket; a worthless one changes nothing.
def redeem (c : Connection) (t : Ticket) : Connection :=
  if c.accepts t then c.connect else c

def redeemed? (c : Connection) (t : Ticket) : Option StreamRequest :=
  if c.accepts t then some c.request else none

-- Ends the connection for good.
def close (c : Connection) : Connection :=
  { c with phase := .disconnected, connected := false, generation := c.generation + 1 }

def status (c : Connection) : Status :=
  match c.phase with
  | .disconnected => .disconnected
  | .connecting   => .connecting
  | .connected    => .connected
  | .reconnecting => .reconnecting c.attempts c.maxAttempts
  | .polling      => .polling

@[simp]
theorem phase_connect {c : Connection} : c.connect.phase = .connecting :=
  rfl

@[simp]
theorem phase_acknowledge {c : Connection} {ack : Ack} : (c.acknowledge ack).phase = .connected :=
  rfl

@[simp]
theorem phase_close {c : Connection} : c.close.phase = .disconnected :=
  rfl

theorem maxAttempts_le_saturatingSucc_iff {c : Connection} :
    c.maxAttempts ≤ saturatingSucc c.attempts ↔ c.maxAttempts.toNat ≤ c.attempts.toNat + 1 := by
  have h : c.maxAttempts.toNat < UInt32.size := c.maxAttempts.toNat_lt
  rw [UInt32.le_iff_toNat_le, toNat_saturatingSucc]
  omega

theorem pollInterval_fail {c : Connection} : c.fail.pollInterval = c.pollInterval := by
  unfold fail
  split <;> rfl

theorem recovery_of_idle {c : Connection} {unit : Float}
    (h : c.phase = .disconnected ∨ c.phase = .polling) : c.recovery unit = .idle :=
  if_pos h

theorem recovery_of_wanted {c : Connection} {unit : Float}
    (hd : c.phase ≠ .disconnected) (hp : c.phase ≠ .polling) : c.recovery unit =
      if c.maxAttempts.toNat ≤ c.attempts.toNat + 1 then .fallback
      else .retry (saturatingSucc c.attempts) (c.policy.delay (saturatingSucc c.attempts) unit)
        ⟨c.generation + 1⟩ := by
  simp [recovery, hd, hp, maxAttempts_le_saturatingSucc_iff]

theorem fail_of_idle {c : Connection} {unit : Float} (h : c.recovery unit = .idle) : c.fail = c := by
  unfold recovery at h
  unfold fail
  split at h
  case isTrue => simp [*]
  case isFalse => dsimp only at h; split at h <;> simp at h

end Connection
end FleetMonitor
