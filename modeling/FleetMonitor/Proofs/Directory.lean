import FleetMonitor.Proofs.Isolation
import Mathlib.Algebra.BigOperators.Group.Finset.Piecewise
import Mathlib.Data.Finset.Card
import Mathlib.Data.List.SplitBy

namespace FleetMonitor

-- What is reported about a server.
structure Report where
  name?     : Option String
  connected : Bool
  time      : Millis
  deriving DecidableEq

-- What the directory is told: how a server is doing, or that a new list of objects is wanted.
inductive Notice where
  | report (id : String) (r : Report)
  | refresh

namespace Report

-- The name that a report gives. An empty name is no name.
def given? (r : Report) : Option String :=
  r.name?.filter (· ≠ "")

-- The reports about a server, cut between any two that do not agree on whether it is connected.
def blocks (rs : List Report) : List (List Report) :=
  rs.splitBy fun r r' => r.connected = r'.connected

-- Whether the last of some reports says that the server is connected.
def isUp (rs : List Report) : Bool :=
  rs.getLast?.any (·.connected)

-- What the reports about a server come to: the last name that was given, or else its id; the state in
-- the last report; and the time of the first report of the block that ends with the last one.
def info? (id : String) (rs : List Report) : Option ServerInfo := do
  let last  ← rs.getLast?
  let block ← (blocks rs).getLast?
  let first ← block.head?
  some {
    id         := id
    name       := (rs.filterMap given?).getLast?.getD id
    connected  := last.connected
    lastChange := first.time
  }

variable {id : String} {r last first : Report} {rs rest : List Report} {bs : List (List Report)}

theorem getLast?_filterMap_given? : ((rs ++ [r]).filterMap given?).getLast? =
    r.given?.or (rs.filterMap given?).getLast? := by
  rw [List.filterMap_append]
  cases h : r.given? <;> simp [h]

-- A report begins a block if it is the first one or does not agree with the one before.
theorem blocks_concat_of_ne (h : ∀ last ∈ rs.getLast?, last.connected ≠ r.connected) :
    blocks (rs ++ [r]) = blocks rs ++ [[r]] :=
  List.splitBy_append_cons [] fun last hl => by simpa using h last hl

theorem exists_blocks_eq (hl : rs.getLast? = some last) :
    ∃ bs first rest, blocks rs = bs ++ [first :: rest] := by
  have hb : blocks rs ≠ [] := by
    apply List.splitBy_ne_nil.mpr
    rintro rfl
    contradiction
  obtain ⟨first, rest, hr⟩ :=
    List.exists_cons_of_ne_nil (List.ne_nil_of_mem_splitBy (List.getLast_mem hb))
  exact ⟨_, first, rest, hr ▸ (List.dropLast_append_getLast hb).symm⟩

-- Otherwise it goes to the last block, and the blocks before stay the same.
theorem blocks_concat_of_eq (hl : rs.getLast? = some last) (h : last.connected = r.connected)
    (hb : blocks rs = bs ++ [first :: rest]) :
    blocks (rs ++ [r]) = bs ++ [first :: (rest ++ [r])] := by
  obtain ⟨hf, hn, hc, hd⟩ := List.splitBy_eq_iff.mp hb
  have hl : (first :: rest).getLast? = some last := by
    rw [hf] at hl
    simpa using hl
  refine List.splitBy_eq_iff.mpr ⟨?join, ?nonempty, ?within, ?between⟩
  case join     => simp [hf]
  case nonempty => simpa using hn
  case within =>
    simp only [List.forall_mem_append, List.forall_mem_singleton] at hc ⊢
    rw [← List.cons_append]
    refine ⟨hc.left, List.isChain_append.mpr ⟨hc.right, List.isChain_singleton r, ?_⟩⟩
    simpa [hl] using h
  case between =>
    simp only [List.isChain_append, List.isChain_singleton] at hd ⊢
    refine ⟨hd.left, trivial, fun b hb _ hm => ?_⟩
    obtain rfl := Option.some.inj hm
    obtain ⟨ha, _, he⟩ := hd.right.right b hb _ rfl
    exact ⟨ha, by simp, he⟩

theorem length_blocks_concat : (blocks (rs ++ [r])).length =
    (blocks rs).length + if blocks (rs ++ [r]) = blocks rs ++ [[r]] then 1 else 0 := by
  by_cases h : ∃ last, rs.getLast? = some last ∧ last.connected = r.connected
  case pos =>
    obtain ⟨last, hl, h⟩ := h
    obtain ⟨bs, first, rest, hb⟩ := exists_blocks_eq hl
    rw [blocks_concat_of_eq hl h hb, hb]
    simp
  case neg =>
    have hb : blocks (rs ++ [r]) = blocks rs ++ [[r]] :=
      blocks_concat_of_ne fun last hl he => h ⟨last, hl, he⟩
    simp [hb]

theorem info?_eq (hl : rs.getLast? = some last) (hb : blocks rs = bs ++ [first :: rest]) :
    info? id rs =
      some ⟨id, (rs.filterMap given?).getLast?.getD id, last.connected, first.time⟩ := by
  simp [info?, hl, hb]

theorem isSome_info?_iff : (info? id rs).isSome ↔ rs ≠ [] := by
  cases hl : rs.getLast? with
  | none =>
    obtain rfl := List.getLast?_eq_none_iff.mp hl
    simp [info?]
  | some last =>
    obtain ⟨bs, first, rest, hb⟩ := exists_blocks_eq hl
    rw [info?_eq hl hb]
    refine iff_of_true rfl ?_
    rintro rfl
    contradiction

theorem isUp_eq (id : String) : isUp rs = (info? id rs).any (·.connected) := by
  cases hl : rs.getLast? with
  | none =>
    obtain rfl := List.getLast?_eq_none_iff.mp hl
    rfl
  | some last =>
    obtain ⟨bs, first, rest, hb⟩ := exists_blocks_eq hl
    rw [isUp, info?_eq hl hb, hl]
    rfl

-- What one more report makes of it, where a server that was never reported counts as being in
-- the opposite state. The report begins a block just if it changes the state.
theorem info?_concat :
    let prior := (info? id rs).getD ⟨id, id, !r.connected, r.time⟩
    info? id (rs ++ [r]) = some {
      id         := prior.id
      name       := r.given?.getD prior.name
      connected  := r.connected
      lastChange := if prior.connected ≠ r.connected then r.time else prior.lastChange } ∧
    (prior.connected ≠ r.connected ↔ blocks (rs ++ [r]) = blocks rs ++ [[r]]) := by
  have hr : (rs ++ [r]).getLast? = some r := List.getLast?_concat
  cases hl : rs.getLast? with
  | none =>
    obtain rfl := List.getLast?_eq_none_iff.mp hl
    have hb : blocks ([] ++ [r]) = blocks [] ++ [[r]] := blocks_concat_of_ne (by simp)
    rw [info?_eq hr hb, getLast?_filterMap_given?]
    simpa [info?] using hb
  | some last =>
    obtain ⟨bs, first, rest, hb⟩ := exists_blocks_eq hl
    rw [info?_eq hl hb, Option.getD_some]
    by_cases h : last.connected = r.connected
    case pos =>
      have hb' := blocks_concat_of_eq hl h hb
      rw [info?_eq hr hb', getLast?_filterMap_given?]
      simp [h, hb, hb']
    case neg =>
      have hb' : blocks (rs ++ [r]) = blocks rs ++ [[r]] := blocks_concat_of_ne (by simpa [hl] using h)
      rw [info?_eq hr hb', getLast?_filterMap_given?]
      simp [h, hb']

end Report

open Report (blocks info? isUp)

namespace Notice

def isRefresh : Notice → Bool
  | refresh => true
  | _       => false

def id? : Notice → Option String
  | report id _ => some id
  | refresh     => none

-- The report if it is about the given server.
def about? (id : String) : Notice → Option Report
  | report id' r => if id' = id then some r else none
  | refresh      => none

-- The reports about one server, in order.
def reports (id : String) (ns : List Notice) : List Report :=
  ns.filterMap (about? id)

-- The servers that were reported.
def reported (ns : List Notice) : Finset String :=
  (ns.filterMap id?).toFinset

-- How many blocks the reports have, those about every server taken by themselves.
def blockCount (ns : List Notice) : Nat :=
  ∑ id ∈ reported ns, (blocks (reports id ns)).length

variable {id id' : String} {r : Report} {n : Notice} {ns : List Notice}

theorem reports_concat : reports id (ns ++ [n]) = reports id ns ++ (n.about? id).toList := by
  rw [reports, List.filterMap_append]
  cases h : n.about? id <;> simp [reports, h]

theorem mem_reported_iff : id ∈ reported ns ↔ reports id ns ≠ [] := by
  have hn (n : Notice) : n.id? = some id ↔ n.about? id ≠ none := by
    cases n <;> simp [id?, about?]
  rw [reported, List.mem_toFinset, List.mem_filterMap, reports, Ne, List.filterMap_eq_nil_iff]
  simp [hn]

theorem reported_refresh : reported (ns ++ [.refresh]) = reported ns := by
  simp [reported, List.filterMap_cons, id?]

theorem reported_report : reported (ns ++ [.report id r]) = insert id (reported ns) := by
  ext
  simp [reported, id?]

theorem blockCount_refresh : blockCount (ns ++ [.refresh]) = blockCount ns := by
  simp [blockCount, reported_refresh, reports_concat, about?]

-- One more report adds a block if it begins one.
theorem blockCount_report : blockCount (ns ++ [.report id r]) = blockCount ns +
    if blocks (reports id ns ++ [r]) = blocks (reports id ns) ++ [[r]] then 1 else 0 := by
  have hz : id ∉ reported ns → (blocks (reports id ns)).length = 0 := by
    rw [mem_reported_iff, not_not]
    intro h
    rw [h]
    rfl
  have hb (id' : String) : (blocks (reports id' (ns ++ [.report id r]))).length =
      (blocks (reports id' ns)).length + if id = id' then
        (if blocks (reports id ns ++ [r]) = blocks (reports id ns) ++ [[r]] then 1 else 0) else 0 := by
    by_cases h : id = id'
    case pos =>
      subst h
      simpa [reports_concat, about?] using Report.length_blocks_concat
    case neg => simp [reports_concat, about?, h]
  simp only [blockCount, reported_report, hb]
  rw [Finset.sum_add_distrib, Finset.sum_insert_of_eq_zero_if_notMem hz, Finset.sum_ite_eq,
    if_pos (Finset.mem_insert_self ..)]

end Notice

namespace ServerDirectory

def take (d : ServerDirectory) : Notice → ServerDirectory
  | .report id r => d.report id r.name? r.connected r.time
  | .refresh     => d.refresh

def ofNotices (ns : List Notice) : ServerDirectory :=
  ns.foldl take empty

variable {d : ServerDirectory} {id id' : String} {r : Report} {n : Notice} {ns : List Notice}

theorem ofNotices_concat : ofNotices (ns ++ [n]) = (ofNotices ns).take n :=
  List.foldl_append

-- Whether a report is a change does not depend on when it comes.
theorem flips_iff {connected : Bool} (time : Millis) :
    d.flips id connected ↔ (d.prior id connected time).connected ≠ connected := by
  rw [flips, bne_iff_ne, prior, prior]
  cases d.find? id <;> rfl

theorem find?_take : (d.take (.report id r)).find? id' = if id' = id then
    let prior := d.prior id r.connected r.time
    some {
      id         := prior.id
      name       := r.given?.getD prior.name
      connected  := r.connected
      lastChange := if d.flips id r.connected then r.time else prior.lastChange }
    else d.find? id' := by
  simp [take, report, find?, SortedMap.find?_insert, Report.given?]

-- The directory knows of every server what the reports about it come to.
theorem find?_ofNotices : (ofNotices ns).find? id = info? id (Notice.reports id ns) := by
  induction ns using List.reverseRec generalizing id with
  | nil => rfl
  | append_singleton ns n hi =>
    rw [ofNotices_concat, Notice.reports_concat]
    cases n with
    | refresh =>
      change (ofNotices ns).find? id = _
      simp [hi, Notice.about?]
    | report id' r =>
      rw [find?_take]
      by_cases h : id = id'
      case neg => simpa [Notice.about?, h, Ne.symm h] using hi
      case pos =>
        subst h
        rw [if_pos rfl, Notice.about?, if_pos rfl, Option.toList_some, Report.info?_concat.left]
        simp only [flips_iff r.time, prior, hi]

-- A report changes the state of its server just if it begins a block.
theorem flips_ofNotices_iff : (ofNotices ns).flips id r.connected ↔
    blocks (Notice.reports id ns ++ [r]) = blocks (Notice.reports id ns) ++ [[r]] := by
  rw [flips_iff r.time, prior, find?_ofNotices]
  exact Report.info?_concat.right

theorem revision_ofNotices :
    (ofNotices ns).revision = ns.countP Notice.isRefresh + Notice.blockCount ns := by
  induction ns using List.reverseRec with
  | nil => rfl
  | append_singleton ns n hi =>
    rw [ofNotices_concat, List.countP_append]
    cases n with
    | refresh =>
      have hc : [Notice.refresh].countP Notice.isRefresh = 1 := rfl
      change (ofNotices ns).revision + 1 = _
      rw [hi, Notice.blockCount_refresh, hc]
      omega
    | report id r =>
      have hc : [Notice.report id r].countP Notice.isRefresh = 0 := rfl
      change (if (ofNotices ns).flips id r.connected then _ else _) = _
      rw [hi, Notice.blockCount_report, if_congr flips_ofNotices_iff rfl rfl, hc]
      split <;> omega

theorem revision_take_le : (d.take n).revision ≤ d.revision + 1 := by
  cases n with
  | refresh     => exact Nat.le_refl _
  | report id r =>
    change (if d.flips id r.connected then _ else _) ≤ _
    split <;> omega

theorem revision_ofNotices_le : (ofNotices ns).revision ≤ ns.length := by
  induction ns using List.reverseRec with
  | nil => exact Nat.le_refl _
  | append_singleton ns n hi =>
    rw [ofNotices_concat, List.length_append]
    exact revision_take_le.trans (Nat.succ_le_succ hi)

theorem toFinset_keys_ofNotices : (ofNotices ns).servers.keys.toFinset = Notice.reported ns := by
  ext id
  have hf : (ofNotices ns).servers.find? id = info? id (Notice.reports id ns) := find?_ofNotices
  rw [List.mem_toFinset, SortedMap.mem_keys_iff, SortedMap.contains, hf, Report.isSome_info?_iff,
    Notice.mem_reported_iff]

theorem connectedCount_ofNotices : (ofNotices ns).connectedCount =
    ((Notice.reported ns).filter fun id => isUp (Notice.reports id ns)).card := by
  let d := ofNotices ns
  have hu : ∀ e ∈ d.servers.entries, e.2.connected ↔ isUp (Notice.reports e.1 ns) := by
    intro e he
    have hf : d.find? e.1 = some e.2 := SortedMap.find?_eq_some_iff.mpr he
    rw [Report.isUp_eq e.1, ← find?_ofNotices, hf]
    rfl
  calc d.connectedCount
    _ = d.servers.entries.countP (·.2.connected) := List.countP_map
    _ = d.servers.entries.countP fun e => isUp (Notice.reports e.1 ns) := List.countP_congr hu
    _ = d.servers.keys.countP fun id => isUp (Notice.reports id ns) := by
      rw [SortedMap.keys, List.countP_map]
      rfl
    _ = ((Notice.reported ns).filter fun id => isUp (Notice.reports id ns)).card := by
      rw [← toFinset_keys_ofNotices, ← List.toFinset_filter, List.countP_eq_length_filter,
        List.toFinset_card_of_nodup (SortedMap.nodup_keys.filter _)]

end ServerDirectory

-- What messages tell.

namespace Envelope

-- What a message of some kind tells the directory.
def notice? (e : Envelope) (received : Millis) : Kind → Option Notice
  | .serverStatus => do
    let id        ← e.serverId?
    let connected ← e.data.pick? Json.bool? ["connected"]
    some (.report id ⟨e.serverName?, connected, received⟩)
  | .objectsList  => some .refresh
  | _             => none

variable {e : Envelope} {b : Board} {u : Board.Update} {kind : Kind} {received : Millis}

theorem notice?_of_error {err : MonitorError} (h : b.route kind e received = .error err) :
    e.notice? received kind = none := by
  cases kind with
  | objectsList  => contradiction
  | serverStatus =>
    simp only [Board.route, Board.takeServerStatus] at h
    cases hi : e.serverId? <;> cases hc : e.data.pick? Json.bool? ["connected"] <;> rw [hi, hc] at h
    case some.some => contradiction
    all_goals simp [notice?, hi, hc]
  | _ => rfl

theorem servers_of_ok (h : b.route kind e received = .ok u) :
    u.board.servers = ((e.notice? received kind).map b.servers.take).getD b.servers := by
  cases kind with
  | objectsList  => exact Except.ok.inj h ▸ rfl
  | serverStatus =>
    simp only [Board.route, Board.takeServerStatus] at h
    cases hi : e.serverId? <;> cases hc : e.data.pick? Json.bool? ["connected"] <;> rw [hi, hc] at h
    case some.some =>
      obtain rfl := Except.ok.inj h
      simp only [notice?, hi, hc]
      rfl
    all_goals contradiction
  | _ => exact Board.servers_route (by simp) h

end Envelope

-- What an operation tells the directory of servers.
def Operation.notice? : Operation → Option Notice
  | message event? raw received => do
    let e ← Envelope.parse? raw
    e.notice? received (← e.kind? event?)
  | _ => none

namespace Session

variable {s : Session} {op : Operation} {event? : Option String} {raw : String} {received : Millis}

theorem notice?_message {e : Envelope} {kind : Kind} (he : Envelope.parse? raw = some e)
    (hk : e.kind? event? = some kind) :
    (Operation.message event? raw received).notice? = e.notice? received kind := by
  simp [Operation.notice?, he, hk]

theorem servers_message_eq : (s.handleMessage event? raw received).session.board.servers =
    (((Operation.message event? raw received).notice?).map s.board.servers.take).getD
      s.board.servers := by
  generalize hm : s.handleMessage event? raw received = st
  have hh : s.Handles event? raw received st := hm ▸ handles
  cases hh with
  | acknowledges he hk _ hp =>
    rw [acknowledge_eq hp, notice?_message he hk]
    rfl
  | delivers he hk hr =>
    rw [board_deliver, notice?_message he hk]
    exact Envelope.servers_of_ok hr
  | refuses o ho h =>
    have hn : (Operation.message event? raw received).notice? = none := by
      cases he : Envelope.parse? raw with
      | none   => simp [Operation.notice?, he]
      | some e =>
        cases hk : e.kind? event? with
        | none      => simp [Operation.notice?, he, hk]
        | some kind =>
          rw [notice?_message he hk]
          rcases h e he kind hk with rfl | ⟨err, hr⟩
          · rfl
          · exact Envelope.notice?_of_error hr
    rw [hn]
    rfl

theorem servers_step_eq : (s.step op).session.board.servers =
    ((op.notice?).map s.board.servers.take).getD s.board.servers := by
  cases op with
  | message => exact servers_message_eq
  | _       => exact servers_step Bool.false_ne_true

-- The directory of a session is made by what its messages tell.
theorem servers_run (c : Config) (ops : List Operation) :
    ((new c).run ops).board.servers = .ofNotices (ops.filterMap Operation.notice?) := by
  induction ops using List.reverseRec with
  | nil => rfl
  | append_singleton ops op hi =>
    rw [run_concat, servers_step_eq, hi, List.filterMap_append]
    cases hn : op.notice? with
    | none   => simp [hn]
    | some n => simp [hn, ServerDirectory.ofNotices_concat]

end Session

namespace ServerDirectory

-- After any reports and requests for a new list, a server is known if it was reported. It has the last
-- name that was given for it, or else its id, and the state in its last report, since the first report
-- of the block that ends with it. A report is a change just if it begins a block. Every block of every
-- server and every request counts once as an occasion for a new list, and 64 bits are enough to count
-- them as long as they are enough to count the reports and requests. The servers that count as
-- connected are those whose last report says so. Such is the directory of every session, made by what
-- its messages tell.
theorem directory_is_history (ns : List Notice) :
    let d := ofNotices ns
    (∀ id, let rs := Notice.reports id ns
      (d.servers.contains id ↔ rs ≠ []) ∧ d.find? id = info? id rs ∧
      ∀ r : Report, d.flips id r.connected ↔ blocks (rs ++ [r]) = blocks rs ++ [[r]]) ∧
    d.revision = ns.countP Notice.isRefresh +
      ∑ id ∈ Notice.reported ns, (blocks (Notice.reports id ns)).length ∧
    (ns.length < UInt64.size → d.revision < UInt64.size) ∧
    d.connectedCount = ((Notice.reported ns).filter fun id => isUp (Notice.reports id ns)).card ∧
    ∀ c ops, ((Session.new c).run ops).board.servers = ofNotices (ops.filterMap Operation.notice?) := by
  refine ⟨fun id => ⟨?known, find?_ofNotices, fun _ => flips_ofNotices_iff⟩, revision_ofNotices,
    revision_ofNotices_le.trans_lt, connectedCount_ofNotices, Session.servers_run⟩
  rw [SortedMap.contains, ← Report.isSome_info?_iff, ← find?_ofNotices]
  rfl

-- Two servers whose reports are mixed: the name stands although a later report has none, and the state
-- is that of the last two reports, since the first of these.
example : (ofNotices [
    .report "a" ⟨none, true, 10⟩,
    .report "b" ⟨none, true, 15⟩,
    .report "a" ⟨some "Pumps", true, 20⟩,
    .refresh,
    .report "a" ⟨some "", false, 30⟩,
    .report "a" ⟨none, false, 40⟩]).find? "a" = some ⟨"a", "Pumps", false, 30⟩ := by
  decide +kernel

end ServerDirectory

end FleetMonitor
