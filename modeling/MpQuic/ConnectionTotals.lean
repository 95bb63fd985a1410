import MpQuic.ReceiveWindows

/-!
# The counters of the connection

The connection's controller counts by increments what the stream controllers count
each for itself.  `Accounts` is a manager together with the last controllers of the
streams it has removed; its counters are compared with the sums over all streams that
contribute to the connection, removed or not (`total`).

The counters are `uint64`s.  Where no sum exceeds 64 bits (`Fits`), the counters of the
connection are the sums, nothing is read that was not received, and nothing is received
beyond a window, in every run of operations without error.  A window that is updated
when bytes read and increment together exceed 64 bits wraps around, and ends up below
what was received.
-/
namespace MpQuic
open Systems FlowControlManager FlowController

/-- The assumptions on the parameters: the largest increments are not below the initial
windows. -/
structure ConnectionParameters.WindowsAllowed (params : ConnectionParameters) : Prop where
  stream : params.receiveStreamFlowControlWindow ≤ params.maxReceiveStreamFlowControlWindow
  conn : params.receiveConnectionFlowControlWindow ≤ params.maxReceiveConnectionFlowControlWindow
  stream_lt : params.maxReceiveStreamFlowControlWindow < 2 ^ 64
  conn_lt : params.maxReceiveConnectionFlowControlWindow < 2 ^ 64

namespace FlowController

/-- What is read was received, what is received lies within the window, and the increment is
at most its maximum. -/
structure Counts (c : FlowController) : Prop where
  receives : c.Receives 0
  increment : c.receiveWindowIncrement ≤ c.maxReceiveWindowIncrement

variable {c c' : FlowController}

theorem Updates.counts (h : c.Updates c') (hc : c.Counts) : c'.Counts :=
  ⟨h.receives hc.receives, h.increment hc.increment⟩

/-- The counters the connection shares with its streams. -/
inductive Counter
  | bytesRead | highestReceived | bytesSent | bytesRetrans
  deriving DecidableEq

/-- The value of a counter. -/
def Counter.of : Counter → FlowController → Nat
  | .bytesRead => (·.bytesRead)
  | .highestReceived => (·.highestReceived)
  | .bytesSent => (·.bytesSent)
  | .bytesRetrans => (·.bytesRetrans)

theorem Updates.counter (h : c.Updates c') (k : Counter) : k.of c' = k.of c := by
  cases k
  · exact h.bytesRead
  · exact h.highestReceived
  · exact h.bytesSent
  · exact h.bytesRetrans

theorem counts_new {params : ConnectionParameters} (hp : params.WindowsAllowed) (streamID : Nat)
    (contributesToConnection : Bool) :
    (new params streamID contributesToConnection).Counts ∧
      ∀ k : Counter, k.of (new params streamID contributesToConnection) = 0 := by
  have hstream := hp.stream.trans_lt hp.stream_lt
  have hconn := hp.conn.trans_lt hp.conn_lt
  unfold new
  split
  · exact ⟨⟨⟨le_rfl, Nat.zero_le _, Nat.zero_le _, hconn⟩, hp.conn⟩, by rintro ⟨⟩ <;> rfl⟩
  · exact ⟨⟨⟨le_rfl, Nat.zero_le _, Nat.zero_le _, hstream⟩, hp.stream⟩, by rintro ⟨⟩ <;> rfl⟩

end FlowController

open FlowController (contribution Counter contribution_pos contribution_neg
  valueAt_contribution_le)

namespace FlowControlManager

/-- The error of `getFlowController`. -/
def mapAccess (f : FlowControlManager) (streamID : Nat) : Option Err :=
  match f.streamFlowController.lookup streamID with
  | none => some .flowControllerMapAccess
  | some _ => none

variable {f : FlowControlManager}

theorem lookup_of_mapAccess {id : Nat} (h : f.mapAccess id = none) :
    ∃ c, f.streamFlowController.lookup id = some c := by
  unfold mapAccess at h
  cases hc : f.streamFlowController.lookup id with
  | none => simp [hc] at h
  | some c => exact ⟨c, rfl⟩

/-- Received data that is counted without error lies within the windows. -/
theorem countReceived_ok {id increment : Nat} {c : FlowController}
    (h : (f.countReceived id c increment).2 = none) :
    c.highestReceived ≤ c.receiveWindow ∧
    (f.countReceived id c increment).1 = ⟨f.streamFlowController.insert id c,
      if c.contributesToConnection then f.connFlowController.incrementHighestReceived increment
      else f.connFlowController⟩ ∧
    (c.contributesToConnection = true →
      add64 f.connFlowController.highestReceived increment ≤
        f.connFlowController.receiveWindow) := by
  unfold countReceived checkFlowControlViolation at h ⊢
  dsimp only at h ⊢
  by_cases hstream : c.receiveWindow < c.highestReceived
  · simp [hstream] at h
  rw [decide_eq_false hstream, if_neg Bool.false_ne_true] at h ⊢
  refine ⟨not_lt.mp hstream, ?_⟩
  by_cases hcontributes : c.contributesToConnection = true
  · rw [if_pos hcontributes] at h ⊢
    rw [if_pos hcontributes]
    refine ⟨rfl, fun _ => ?_⟩
    by_contra hlt
    have hviolation := decide_eq_true (not_le.mp hlt)
    rw [if_pos (by exact hviolation)] at h
    cases h
  · rw [if_neg hcontributes, if_neg hcontributes]
    exact ⟨rfl, fun hpos => absurd hpos hcontributes⟩

/-- `UpdateHighestReceived` and `ResetStream` without error count the same. -/
theorem receive_ok {id byteOffset : Nat} {r : FlowControlManager × Option Err}
    (hr : r = f.updateHighestReceived id byteOffset ∨ r = f.resetStream id byteOffset)
    (hok : r.2 = none) :
    ∃ c, f.streamFlowController.lookup id = some c ∧
      r = f.countReceived id { c with highestReceived := max c.highestReceived byteOffset }
        (byteOffset - c.highestReceived) := by
  cases hc : f.streamFlowController.lookup id with
  | none =>
    rcases hr with rfl | rfl
    · rw [updateHighestReceived, hc] at hok
      cases hok
    · rw [resetStream, hc] at hok
      cases hok
  | some c =>
    refine ⟨c, rfl, ?_⟩
    rcases hr with rfl | rfl
    · exact updateHighestReceived_of_lookup hc byteOffset
    · rw [resetStream_of_lookup hc] at hok ⊢
      by_cases hlt : byteOffset < c.highestReceived
      · rw [if_pos hlt] at hok
        cases hok
      · rw [if_neg hlt]

end FlowControlManager

/-- A manager, and the last controllers of the streams that were removed from it. -/
structure Accounts where
  manager : FlowControlManager
  removed : GoMap FlowController := ∅

namespace Accounts

/-- The sum of a counter over all streams that contribute to the connection. -/
def total (s : Accounts) (g : FlowController → Nat) : Nat :=
  entrySum s.manager.streamFlowController (contribution g) + entrySum s.removed (contribution g)

/-- The operations of the manager. -/
inductive Op
  | newStream (streamID : Nat) (contributesToConnection : Bool)
  | removeStream (streamID : Nat)
  | updateHighestReceived (streamID byteOffset : Nat)
  | resetStream (streamID byteOffset : Nat)
  | addBytesRead (streamID n : Nat) (now : Int)
  | addBytesSent (streamID n : Nat)
  | addBytesRetrans (streamID n : Nat)
  | getWindowUpdates (rtt : Int) (remoteRTTs : List Int) (now : Int) (force : Bool)
      (order : List Nat)

/-- The manager after an operation, and its error. -/
def Op.run (params : ConnectionParameters) (f : FlowControlManager) :
    Op → FlowControlManager × Option Err
  | .newStream id contributesToConnection =>
    (f.newStream params id contributesToConnection, none)
  | .removeStream id => (f.removeStream id, none)
  | .updateHighestReceived id byteOffset => f.updateHighestReceived id byteOffset
  | .resetStream id byteOffset => f.resetStream id byteOffset
  | .addBytesRead id n now => (f.addBytesRead id n now, f.mapAccess id)
  | .addBytesSent id n => (f.addBytesSent id n, f.mapAccess id)
  | .addBytesRetrans id n => (f.addBytesRetrans id n, f.mapAccess id)
  | .getWindowUpdates rtt remoteRTTs now force order =>
    ((f.getWindowUpdates rtt remoteRTTs now force order).1, none)

/-- No stream is created again after it was removed, and only bytes that were received are
read. -/
def Op.Allowed (s : Accounts) : Op → Prop
  | .newStream id _ => s.removed.lookup id = none
  | .addBytesRead id n _ => ∀ c, s.manager.streamFlowController.lookup id = some c →
    c.bytesRead + n ≤ c.highestReceived
  | _ => True

/-- The removed streams after an operation. -/
def Op.removed (s : Accounts) : Op → GoMap FlowController
  | .removeStream id =>
    match s.manager.streamFlowController.lookup id with
    | none => s.removed
    | some c => s.removed.insert id c
  | _ => s.removed

/-- The accounts after an operation. -/
def Op.apply (params : ConnectionParameters) (op : Op) (s : Accounts) : Accounts :=
  ⟨(op.run params s.manager).1, op.removed s⟩

/-- The runs of operations without error. -/
def machine (params : ConnectionParameters) : Machine Accounts Op where
  init s := s = { manager := .new params }
  step s op s' := op.Allowed s ∧ (op.run params s.manager).2 = none ∧ s' = op.apply params s

/-- The counters of the connection are the sums over its streams, and what is read was received
within the windows. -/
structure Balanced (s : Accounts) : Prop where
  highestReceived : s.manager.connFlowController.highestReceived = s.total (·.highestReceived)
  bytesSent : s.manager.connFlowController.bytesSent = s.total (·.bytesSent)
  bytesRetrans : s.manager.connFlowController.bytesRetrans = s.total (·.bytesRetrans)
  stream : ∀ id c, s.manager.streamFlowController.lookup id = some c →
    c.bytesRead ≤ c.highestReceived ∧ c.highestReceived ≤ c.receiveWindow
  conn : s.manager.connFlowController.bytesRead ≤ s.manager.connFlowController.highestReceived ∧
    s.manager.connFlowController.highestReceived ≤ s.manager.connFlowController.receiveWindow

/-- The invariant behind it. -/
structure Kept (s : Accounts) : Prop where
  stream : ∀ id c, s.manager.streamFlowController.lookup id = some c →
    c.Counts ∧ s.removed.lookup id = none
  removed : ∀ id c, s.removed.lookup id = some c → c.bytesRead ≤ c.highestReceived
  conn : s.manager.connFlowController.Counts
  sums : ∀ k : Counter, k.of s.manager.connFlowController = s.total k.of

variable {s : Accounts} {id n : Nat} {c : FlowController} {params : ConnectionParameters}

theorem Kept.balanced (h : s.Kept) : s.Balanced where
  highestReceived := h.sums .highestReceived
  bytesSent := h.sums .bytesSent
  bytesRetrans := h.sums .bytesRetrans
  stream id c hc := ⟨(h.stream id c hc).1.receives.read, (h.stream id c hc).1.receives.received⟩
  conn := ⟨h.conn.receives.read, h.conn.receives.received⟩

/-- A controller that is put in the place of another. -/
theorem Kept.insert (h : s.Kept) {c c' conn : FlowController}
    (hc : s.manager.streamFlowController.lookup id = some c) (hcounts : c'.Counts)
    (hconn : conn.Counts) (hsums : ∀ k : Counter, k.of conn + contribution k.of c =
      k.of s.manager.connFlowController + contribution k.of c') :
    Kept ⟨⟨s.manager.streamFlowController.insert id c', conn⟩, s.removed⟩ where
  stream := forall_lookup_insert ⟨hcounts, (h.stream _ c hc).2⟩ h.stream
  removed := h.removed
  conn := hconn
  sums := by
    intro k
    have hinsert := entrySum_insert s.manager.streamFlowController (contribution k.of) id c'
    have hsum := h.sums k
    have hnew := hsums k
    rw [valueAt_of_lookup hc] at hinsert
    unfold total at hsum ⊢
    dsimp only
    omega

/-- No more is read of the connection than of its streams. -/
theorem Kept.conn_read_le (h : s.Kept) (hc : s.manager.streamFlowController.lookup id = some c)
    (hcontributes : c.contributesToConnection = true) (hn : c.bytesRead + n ≤ c.highestReceived) :
    s.manager.connFlowController.bytesRead + n ≤ s.manager.connFlowController.highestReceived := by
  have hread : s.manager.connFlowController.bytesRead = s.total (·.bytesRead) := h.sums .bytesRead
  have hhighest := h.balanced.highestReceived
  have hstreams : entrySum s.manager.streamFlowController (contribution (·.bytesRead)) + n ≤
      entrySum s.manager.streamFlowController (contribution (·.highestReceived)) := by
    refine entrySum_add_le (a := id) ?_ fun id' _ =>
      valueAt_contribution_le fun d hd => (h.stream id' d hd).1.receives.read
    rwa [valueAt_of_lookup hc, valueAt_of_lookup hc, contribution_pos hcontributes,
      contribution_pos hcontributes]
  have hremoved : entrySum s.removed (contribution (·.bytesRead)) ≤
      entrySum s.removed (contribution (·.highestReceived)) :=
    entrySum_le fun id' => valueAt_contribution_le fun d hd => h.removed id' d hd
  unfold total at hread hhighest
  omega

/-! ## The operations -/

section

variable (h : s.Kept)
include h

/-- A change that adds the same to the counters of the stream and of the connection. -/
theorem Kept.modify {change : FlowController → FlowController} {added : Counter → Nat}
    (hc : s.manager.streamFlowController.lookup id = some c)
    (hcontributes : (change c).contributesToConnection = c.contributesToConnection)
    (hstream : (change c).Counts ∧ ∀ k : Counter, k.of (change c) = k.of c + added k)
    (hconn : c.contributesToConnection = true →
      (change s.manager.connFlowController).Counts ∧ ∀ k : Counter,
        k.of (change s.manager.connFlowController) =
          k.of s.manager.connFlowController + added k) :
    Kept ⟨s.manager.modify id change, s.removed⟩ := by
  rw [modify_of_some hc]
  split
  · next hpos =>
    refine h.insert hc hstream.1 (hconn hpos).1 fun k => ?_
    rw [(hconn hpos).2 k, contribution_pos hpos, contribution_pos (hcontributes.trans hpos),
      hstream.2 k]
    omega
  · next hneg =>
    refine h.insert hc hstream.1 h.conn fun k => ?_
    rw [contribution_neg hneg, contribution_neg (by rw [hcontributes]; exact hneg)]

theorem Kept.addBytesSent (hc : s.manager.streamFlowController.lookup id = some c)
    (hlt : c.bytesSent + n < 2 ^ 64) (hconn : c.contributesToConnection = true →
      s.manager.connFlowController.bytesSent + n < 2 ^ 64) :
    Kept ⟨s.manager.addBytesSent id n, s.removed⟩ := by
  have hadd {d : FlowController} (hd : d.Counts) (hlt : d.bytesSent + n < 2 ^ 64) :
      (d.addBytesSent n).Counts ∧ ∀ k : Counter,
        k.of (d.addBytesSent n) = k.of d + if k = .bytesSent then n else 0 := by
    refine ⟨⟨⟨hd.receives.read, hd.receives.received, Nat.zero_le _, hd.receives.lt⟩,
      hd.increment⟩, ?_⟩
    rintro ⟨⟩
    · rfl
    · rfl
    · exact add64_of_lt hlt
    · rfl
  exact h.modify hc rfl (hadd (h.stream id c hc).1 hlt) fun hpos => hadd h.conn (hconn hpos)

theorem Kept.addBytesRetrans (hc : s.manager.streamFlowController.lookup id = some c)
    (hlt : c.bytesRetrans + n < 2 ^ 64) (hconn : c.contributesToConnection = true →
      s.manager.connFlowController.bytesRetrans + n < 2 ^ 64) :
    Kept ⟨s.manager.addBytesRetrans id n, s.removed⟩ := by
  have hadd {d : FlowController} (hd : d.Counts) (hlt : d.bytesRetrans + n < 2 ^ 64) :
      (d.addBytesRetrans n).Counts ∧ ∀ k : Counter,
        k.of (d.addBytesRetrans n) = k.of d + if k = .bytesRetrans then n else 0 := by
    refine ⟨⟨⟨hd.receives.read, hd.receives.received, Nat.zero_le _, hd.receives.lt⟩,
      hd.increment⟩, ?_⟩
    rintro ⟨⟩
    · rfl
    · rfl
    · rfl
    · exact add64_of_lt hlt
  exact h.modify hc rfl (hadd (h.stream id c hc).1 hlt) fun hpos => hadd h.conn (hconn hpos)

theorem Kept.addBytesRead (hc : s.manager.streamFlowController.lookup id = some c)
    (hn : c.bytesRead + n ≤ c.highestReceived) (now : Int) :
    Kept ⟨s.manager.addBytesRead id n now, s.removed⟩ := by
  have hadd {d : FlowController} (hd : d.Counts) (hn : d.bytesRead + n ≤ d.highestReceived) :
      (d.addBytesRead n now).Counts ∧
      (d.addBytesRead n now).contributesToConnection = d.contributesToConnection ∧
      ∀ k : Counter, k.of (d.addBytesRead n now) = k.of d + if k = .bytesRead then n else 0 := by
    have hreceived := hd.receives.received
    have hlt := hd.receives.lt
    have hsum : add64 d.bytesRead n = d.bytesRead + n := add64_of_lt (by omega)
    unfold FlowController.addBytesRead
    dsimp only
    split
    all_goals
      refine ⟨⟨⟨?_, hreceived, Nat.zero_le _, hlt⟩, hd.increment⟩, rfl, ?_⟩
      · rwa [hsum]
      · rintro ⟨⟩
        · exact hsum
        · rfl
        · rfl
        · rfl
  obtain ⟨hcounts, hcontributes, hcounters⟩ := hadd (h.stream id c hc).1 hn
  refine h.modify hc hcontributes ⟨hcounts, hcounters⟩ fun hpos => ?_
  obtain ⟨hcounts, -, hcounters⟩ := hadd h.conn (h.conn_read_le hc hpos hn)
  exact ⟨hcounts, hcounters⟩

/-- `UpdateHighestReceived` and `ResetStream`. -/
theorem Kept.receive {id byteOffset : Nat} {r : FlowControlManager × Option Err}
    (hr : r = s.manager.updateHighestReceived id byteOffset ∨
      r = s.manager.resetStream id byteOffset) (hok : r.2 = none)
    (hlt : s.manager.connFlowController.highestReceived + byteOffset < 2 ^ 64) :
    Kept ⟨r.1, s.removed⟩ := by
  obtain ⟨c, hc, rfl⟩ := receive_ok hr hok
  obtain ⟨hstream, heq, hconn⟩ := countReceived_ok hok
  have hcounts := (h.stream id c hc).1
  have hread := hcounts.receives.read
  have hconnRead := h.conn.receives.read
  rw [heq]
  have hnew : FlowController.Counts
      { c with highestReceived := max c.highestReceived byteOffset } :=
    ⟨⟨by dsimp only; omega, hstream, Nat.zero_le _, hcounts.receives.lt⟩, hcounts.increment⟩
  split
  · next hpos =>
    have hsum : add64 s.manager.connFlowController.highestReceived
        (byteOffset - c.highestReceived) =
        s.manager.connFlowController.highestReceived + (byteOffset - c.highestReceived) :=
      add64_of_lt (by omega)
    have hwindow := hconn hpos
    refine h.insert hc hnew ?_ ?_
    · refine ⟨⟨?_, hwindow, Nat.zero_le _, h.conn.receives.lt⟩, h.conn.increment⟩
      unfold incrementHighestReceived
      dsimp only
      omega
    · intro k
      rw [contribution_pos (by exact hpos), contribution_pos (by exact hpos)]
      cases k
      · rfl
      · unfold incrementHighestReceived Counter.of
        dsimp only
        omega
      · rfl
      · rfl
  · next hneg =>
    refine h.insert hc hnew h.conn fun k => ?_
    rw [contribution_neg (by exact hneg), contribution_neg (by exact hneg)]

theorem Kept.newStream (hp : params.WindowsAllowed) (hremoved : s.removed.lookup id = none)
    (contributesToConnection : Bool) :
    Kept ⟨s.manager.newStream params id contributesToConnection, s.removed⟩ := by
  unfold FlowControlManager.newStream
  split
  · exact h
  · next hnone =>
    obtain ⟨hcounts, hzero⟩ := counts_new hp id contributesToConnection
    refine ⟨forall_lookup_insert ⟨hcounts, hremoved⟩ h.stream, h.removed, h.conn, fun k => ?_⟩
    rw [h.sums k, total, total, entrySum_insert_of_eq]
    rw [valueAt_of_none hnone, contribution, hzero k, ite_self]

end

/-- The counters of a stream that is removed move to the removed ones, and the totals stay the same.
-/
theorem Kept.removeStream {s : Accounts} (h : s.Kept) (id : Nat) :
    Kept ⟨s.manager.removeStream id, Op.removed s (.removeStream id)⟩ := by
  have herase : ∀ id' c, (s.manager.streamFlowController.erase id).lookup id' = some c →
      id' ≠ id ∧ s.manager.streamFlowController.lookup id' = some c := by
    intro id' c hc
    have hne : id' ≠ id := by
      rintro rfl
      simp at hc
    exact ⟨hne, by rwa [AList.lookup_erase_ne hne] at hc⟩
  unfold FlowControlManager.removeStream
  cases hc : s.manager.streamFlowController.lookup id with
  | none =>
    have hkept : Op.removed s (.removeStream id) = s.removed := by simp [Op.removed, hc]
    rw [hkept]
    refine ⟨fun id' c hc => h.stream id' c (herase id' c hc).2, h.removed, h.conn, fun k => ?_⟩
    have hsum := entrySum_erase s.manager.streamFlowController (contribution k.of) id
    rw [valueAt_of_none hc] at hsum
    refine (h.sums k).trans ?_
    unfold total
    dsimp only
    omega
  | some c =>
    have hmoved : Op.removed s (.removeStream id) = s.removed.insert id c := by
      simp [Op.removed, hc]
    rw [hmoved]
    obtain ⟨hcounts, hnone⟩ := h.stream id c hc
    refine ⟨?_, ?_, h.conn, fun k => ?_⟩
    · intro id' d hd
      obtain ⟨hne, hd⟩ := herase id' d hd
      obtain ⟨hd, hd'⟩ := h.stream id' d hd
      exact ⟨hd, by dsimp only; rwa [AList.lookup_insert_ne hne]⟩
    · exact forall_lookup_insert hcounts.receives.read h.removed
    · have hsum := entrySum_erase s.manager.streamFlowController (contribution k.of) id
      have hinsert := entrySum_insert s.removed (contribution k.of) id c
      rw [valueAt_of_lookup hc] at hsum
      rw [valueAt_of_none hnone] at hinsert
      refine (h.sums k).trans ?_
      unfold total
      dsimp only
      omega

/-- No window update exceeds 64 bits, whatever the increment becomes. -/
structure Room (f : FlowControlManager) : Prop where
  stream : ∀ id c, f.streamFlowController.lookup id = some c →
    c.bytesRead + 2 * c.maxReceiveWindowIncrement < 2 ^ 64
  conn : f.connFlowController.bytesRead + 2 * f.connFlowController.maxReceiveWindowIncrement <
    2 ^ 64

theorem Kept.getWindowUpdates (h : s.Kept) (hroom : Room s.manager) (rtt : Int)
    (remoteRTTs : List Int) (now : Int) (force : Bool) (order : List Nat) :
    Kept ⟨(s.manager.getWindowUpdates rtt remoteRTTs now force order).1, s.removed⟩ := by
  have hgrows {c : FlowController} (hc : c.Counts)
      (hlt : c.bytesRead + 2 * c.maxReceiveWindowIncrement < 2 ^ 64) : c.Grows := by
    have := hc.increment
    exact ⟨by omega, by omega⟩
  have hread : s.manager.ReadWithin :=
    ⟨fun id c hc => ((h.balanced.stream id c hc).1.trans (h.balanced.stream id c hc).2),
      h.balanced.conn.1.trans h.balanced.conn.2⟩
  have hupdates := (getWindowUpdates_updates (f := s.manager) hread
    ⟨fun id c hc => hgrows (h.stream id c hc).1 (hroom.stream id c hc), hgrows h.conn hroom.conn⟩
    rtt remoteRTTs now force order).1
  refine ⟨?_, h.removed, hupdates.conn.counts h.conn, fun k => ?_⟩
  · intro id c' hc'
    obtain ⟨c, hc, hupdated⟩ := hupdates.before hc'
    exact ⟨hupdated.counts (h.stream id c hc).1, (h.stream id c hc).2⟩
  · have hsum := hupdates.entrySum (g := contribution k.of) fun c c' hupdated => by
      rw [contribution, contribution, hupdated.contributes, hupdated.counter]
    rw [hupdates.conn.counter k, h.sums k, total, total, hsum]

/-! ## Runs -/

/-- No sum that the operation computes exceeds 64 bits. -/
def Fits (s : Accounts) : Op → Prop
  | .updateHighestReceived _ byteOffset | .resetStream _ byteOffset =>
    s.manager.connFlowController.highestReceived + byteOffset < 2 ^ 64
  | .addBytesSent id n => ∀ c, s.manager.streamFlowController.lookup id = some c →
    c.bytesSent + n < 2 ^ 64 ∧ s.manager.connFlowController.bytesSent + n < 2 ^ 64
  | .addBytesRetrans id n => ∀ c, s.manager.streamFlowController.lookup id = some c →
    c.bytesRetrans + n < 2 ^ 64 ∧ s.manager.connFlowController.bytesRetrans + n < 2 ^ 64
  | .getWindowUpdates .. => Room s.manager
  | .newStream .. | .removeStream _ | .addBytesRead .. => True

/-- One operation keeps the invariant. -/
theorem Kept.apply (h : s.Kept) (hp : params.WindowsAllowed) {op : Op} (hfits : Fits s op)
    (hallowed : op.Allowed s) (hok : (op.run params s.manager).2 = none) :
    (op.apply params s).Kept := by
  cases op with
  | newStream id contributesToConnection => exact h.newStream hp hallowed _
  | removeStream id => exact h.removeStream id
  | updateHighestReceived id byteOffset => exact h.receive (.inl rfl) hok hfits
  | resetStream id byteOffset => exact h.receive (.inr rfl) hok hfits
  | addBytesRead id n now =>
    obtain ⟨c, hc⟩ := lookup_of_mapAccess hok
    exact h.addBytesRead hc (hallowed c hc) now
  | addBytesSent id n =>
    obtain ⟨c, hc⟩ := lookup_of_mapAccess hok
    exact h.addBytesSent hc (hfits c hc).1 fun _ => (hfits c hc).2
  | addBytesRetrans id n =>
    obtain ⟨c, hc⟩ := lookup_of_mapAccess hok
    exact h.addBytesRetrans hc (hfits c hc).1 fun _ => (hfits c hc).2
  | getWindowUpdates rtt remoteRTTs now force order =>
    exact h.getWindowUpdates hfits rtt remoteRTTs now force order

/-- **The connection's counters are the sums over its streams**, and nothing is read or received
beyond what was received or allowed, in every run without error in which no sum exceeds
64 bits. -/
theorem connection_totals {params : ConnectionParameters} (hp : params.WindowsAllowed)
    {s : Accounts} (hr : (machine params).Reach Fits s) : s.Balanced := by
  refine Kept.balanced (Machine.Reach.invariant (P := Kept) hr ?_ ?_)
  · rintro _ rfl
    obtain ⟨hcounts, hzero⟩ := counts_new hp 0 false
    exact ⟨forall_lookup_empty, forall_lookup_empty, hcounts, hzero⟩
  · rintro s op _ h hfits ⟨hallowed, hok, rfl⟩
    exact h.apply hp hfits hallowed hok

/-! ## A window that wraps around -/

instance (s : Accounts) (op : Op) : Decidable (op.Allowed s) :=
  match op with
  | .newStream id _ => inferInstanceAs (Decidable (s.removed.lookup id = none))
  | .addBytesRead id n _ =>
    inferInstanceAs (Decidable (∀ c ∈ s.manager.streamFlowController.lookup id,
      c.bytesRead + n ≤ c.highestReceived))
  | .removeStream _ | .updateHighestReceived .. | .resetStream .. | .addBytesSent ..
  | .addBytesRetrans .. | .getWindowUpdates .. => isTrue trivial

/-- Operations on the crypto stream that use up the window at `byteOffset`, read the `n` bytes
not yet read and ask for a window update at once. -/
def drain (byteOffset n : Nat) : List Op :=
  [.updateHighestReceived 1 byteOffset, .addBytesRead 1 n 0,
    .getWindowUpdates (1000 * millisecond) [] 0 false [1]]

/-- The increment doubles from 32 kB to its maximum of `2 ^ 62`; two more rounds take the window
to the end of the 64 bits. -/
def drainAll : List Op :=
  .newStream 1 false ::
    (List.range 48).flatMap (fun k => drain (2 ^ 15 * (2 ^ (k + 1) - 1)) (2 ^ 15 * 2 ^ k)) ++
    drain (2 ^ 63 - 2 ^ 15 + 2 ^ 62) (2 ^ 62) ++ drain (2 ^ 64 - 2 ^ 15) (2 ^ 62)

/-- The parameters of a connection with a maximal window of `2 ^ 62` bytes. -/
def wideParameters : ConnectionParameters := .new (2 ^ 62) (2 ^ 62) 0

theorem windowsAllowed_wideParameters : wideParameters.WindowsAllowed :=
  ⟨by decide, by decide, by decide, by decide⟩

/-- All bytes of the window are received and read; the next window, `2 ^ 62` bytes further, wraps
around and is smaller than what was received. -/
theorem wrapped_window_below_received :
    ∃ s, (machine wideParameters).Reach Machine.Always s ∧
      (∃ c, s.manager.streamFlowController.lookup 1 = some c ∧
        c.receiveWindow < c.highestReceived) ∧ ¬ s.Balanced := by
  let s := drainAll.foldl (fun s op => op.apply wideParameters s)
    ({ manager := .new wideParameters } : Accounts)
  have hreach : (machine wideParameters).Reach Machine.Always s := by
    have hsteps : Machine.Meets (fun s op => op.Allowed s ∧
          (op.run wideParameters s.manager).2 = none)
        (fun s op => op.apply wideParameters s) { manager := .new wideParameters } drainAll := by
      decide +kernel
    exact .foldl (.init rfl) (fun _ _ h => ⟨trivial, h.1, h.2, rfl⟩) hsteps
  have hwrapped : ∃ c ∈ s.manager.streamFlowController.lookup 1,
      c.receiveWindow < c.highestReceived := by
    decide +kernel
  refine ⟨s, hreach, hwrapped, fun hbalanced => ?_⟩
  obtain ⟨c, hc, hlt⟩ := hwrapped
  exact absurd (hbalanced.stream 1 c hc).2 (not_le.mpr hlt)

instance (f : FlowControlManager) : Decidable (Room f) :=
  decidable_of_iff ((∀ e ∈ f.streamFlowController.entries,
      e.2.bytesRead + 2 * e.2.maxReceiveWindowIncrement < 2 ^ 64) ∧
      f.connFlowController.bytesRead + 2 * f.connFlowController.maxReceiveWindowIncrement < 2 ^ 64)
    ⟨fun h => ⟨fun id c hc => h.1 ⟨id, c⟩ (AList.mem_lookup_iff.mp hc), h.2⟩,
      fun h => ⟨fun e he => h.stream e.1 e.2 (AList.mem_lookup_iff.mpr he), h.conn⟩⟩

instance (s : Accounts) (op : Op) : Decidable (Fits s op) :=
  match op with
  | .updateHighestReceived _ byteOffset | .resetStream _ byteOffset =>
    inferInstanceAs (Decidable (s.manager.connFlowController.highestReceived + byteOffset < 2 ^ 64))
  | .addBytesSent id n =>
    inferInstanceAs (Decidable (∀ c ∈ s.manager.streamFlowController.lookup id,
      c.bytesSent + n < 2 ^ 64 ∧ s.manager.connFlowController.bytesSent + n < 2 ^ 64))
  | .addBytesRetrans id n =>
    inferInstanceAs (Decidable (∀ c ∈ s.manager.streamFlowController.lookup id,
      c.bytesRetrans + n < 2 ^ 64 ∧ s.manager.connFlowController.bytesRetrans + n < 2 ^ 64))
  | .getWindowUpdates .. => inferInstanceAs (Decidable (Room s.manager))
  | .newStream .. | .removeStream _ | .addBytesRead .. => isTrue trivial

/-- Two streams, one of which is removed after it was reset. -/
def sampleOps : List Op :=
  [.newStream 5 true, .newStream 7 true, .updateHighestReceived 5 1000, .addBytesRead 5 600 0,
    .addBytesSent 7 300, .addBytesRetrans 7 100, .resetStream 7 2000,
    .getWindowUpdates (1000 * millisecond) [] 0 false [5, 7], .removeStream 7]

/-- The removed stream still counts. -/
theorem removed_stream_counts :
    ∃ s, (machine wideParameters).Reach Fits s ∧
      s.manager.connFlowController.highestReceived = 3000 ∧ s.Balanced := by
  let s := sampleOps.foldl (fun s op => op.apply wideParameters s)
    ({ manager := .new wideParameters } : Accounts)
  have hreach : (machine wideParameters).Reach Fits s := by
    have hsteps : Machine.Meets (fun s op => Fits s op ∧ op.Allowed s ∧
          (op.run wideParameters s.manager).2 = none)
        (fun s op => op.apply wideParameters s) { manager := .new wideParameters } sampleOps := by
      decide +kernel
    exact .foldl (.init rfl) (fun _ _ h => ⟨h.1, h.2.1, h.2.2, rfl⟩) hsteps
  exact ⟨s, hreach, by decide +kernel, connection_totals windowsAllowed_wideParameters hreach⟩

end Accounts
end MpQuic
