import MpQuic.ConnectionActs
import MpQuic.FramerActs
import MpQuic.NilPointers
import MpQuic.StreamTable
import MpQuic.WriteCalls

/-!
# The crypto stream

Packets are composed with the crypto stream looked up as stream 1, and the garbage
collection removes every stream that is finished.  Reading alone does not finish a
stream.  As long as the peer does not reset stream 1, and nobody closes or resets it
on this side, it stays in the map.
-/
namespace MpQuic
open Systems

/-! ## A stream that cannot be finished -/

/-- The operations that end neither side of a stream. -/
def StreamOp.LeavesInUse : StreamOp → Prop
  | .addStreamFrame _ | .read .. | .write _ => True
  | _ => False

namespace Stream

/-- Neither has anything been done to end the sending side, nor has the peer reset the stream. -/
structure InUse (str : Stream) : Prop where
  cancelled : str.cancelled = false
  finishedWriting : str.finishedWriting = false
  resetRemotely : str.resetRemotely = false
  rstSent : str.rstSent = false

theorem inUse_new (id : Nat) : (Stream.new id).InUse := ⟨rfl, rfl, rfl, rfl⟩

variable {str str' : Stream}

theorem InUse.not_finished (h : str.InUse) : str.finished = false := by
  rw [finished, finishedWriteAndSentFin, h.cancelled, h.finishedWriting, h.resetRemotely, h.rstSent]
  simp

theorem InUse.of_readSide (h : str.InUse) (hsame : str'.readSide = str.readSide) : str'.InUse :=
  ⟨(congrArg Stream.cancelled hsame).trans h.cancelled,
    (congrArg Stream.finishedWriting hsame).trans h.finishedWriting,
    (congrArg Stream.resetRemotely hsame).trans h.resetRemotely,
    (congrArg Stream.rstSent hsame).trans h.rstSent⟩

theorem InUse.of_writeSide (h : str.InUse) (hsame : str'.writeSide = str.writeSide) : str'.InUse :=
  ⟨(congrArg Stream.cancelled hsame).trans h.cancelled,
    (congrArg Stream.finishedWriting hsame).trans h.finishedWriting,
    (congrArg Stream.resetRemotely hsame).trans h.resetRemotely,
    (congrArg Stream.rstSent hsame).trans h.rstSent⟩

theorem InUse.apply (h : str.InUse) {op : StreamOp} (hop : op.LeavesInUse) :
    (op.apply str).InUse := by
  cases op with
  | addStreamFrame frame => exact h.of_writeSide (str.addStreamFrame_writeSide frame)
  | read clock len => exact h.of_writeSide (str.read_writeSide clock len)
  | write p =>
    rw [StreamOp.apply, Stream.write]
    split
    · exact h
    · exact ⟨h.cancelled, h.finishedWriting, h.resetRemotely, h.rstSent⟩
  | registerRemoteError err => exact hop.elim
  | close => exact hop.elim
  | reset err => exact hop.elim

end Stream

/-! ## The framer -/

namespace StreamFramer
variable {f f' : StreamFramer}

/-- Stream 1 is in the map and cannot be finished. -/
def CryptoInUse (f : StreamFramer) : Prop :=
  ∃ str, f.streamsMap.streams.lookup 1 = some str ∧ str.InUse

theorem CryptoInUse.grows (h : f.CryptoInUse) (hgrows : f.streamsMap.Grows f'.streamsMap) :
    f'.CryptoInUse := by
  obtain ⟨str, hstr, huse⟩ := h
  exact ⟨str, hgrows.lookup_of_some hstr, huse⟩

theorem CryptoInUse.sendsData (h : f.CryptoInUse) (hsends : f.SendsData f') : f'.CryptoInUse := by
  obtain ⟨str, hstr, huse⟩ := h
  have hsame := hsends.streams.stream 1
  rw [hstr] at hsame
  obtain ⟨str', hstr', hread⟩ := Option.map_eq_some_iff.mp hsame
  exact ⟨str', hstr', huse.of_readSide hread⟩

theorem getOrOpenStream_grows (f : StreamFramer) (id : Nat) :
    f.streamsMap.Grows (f.getOrOpenStream id).1.streamsMap := by
  rw [streamsMap_getOrOpenStream]
  exact f.streamsMap.getOrOpenStream_grows _ id

/-- No act ends the crypto stream, if the operations on the stream itself leave it in use. -/
theorem CryptoInUse.change {κ : Type} {a : Act κ} (h : f.CryptoInUse)
    (hop : ∀ op, a = .stream 1 op → op.LeavesInUse) (hchange : FramerChange f a f') :
    f'.CryptoInUse := by
  cases hchange with
  | sends hsends => exact h.sendsData hsends
  | sendsCrypto hsends => exact (h.grows (f.getOrOpenStream_grows 1)).sendsData hsends
  | setParameters => exact h
  | flowControl => exact h
  | getOrOpenStream id => exact h.grows (f.getOrOpenStream_grows id)
  | openStream =>
    refine h.grows ?_
    rw [streamsMap_openStream]
    exact f.streamsMap.openStream_grows _
  | acceptStream =>
    refine h.grows (.of_streams ?_)
    rw [StreamsMap.acceptStream]
    split <;> rfl
  | @stream id str op hstr =>
    obtain ⟨crypto, hcrypto, huse⟩ := h
    by_cases hid : id = 1
    · subst hid
      rw [hcrypto] at hstr
      obtain rfl := Option.some.inj hstr
      exact ⟨_, AList.lookup_insert _, huse.apply (hop op rfl)⟩
    · exact ⟨crypto, (AList.lookup_insert_ne (Ne.symm hid)).trans hcrypto, huse⟩
  | @removeStream id str hstr hfinished =>
    obtain ⟨crypto, hcrypto, huse⟩ := h
    have hid : 1 ≠ id := by
      rintro rfl
      rw [hcrypto] at hstr
      obtain rfl := Option.some.inj hstr
      rw [huse.not_finished] at hfinished
      cases hfinished
    refine ⟨crypto, ?_, huse⟩
    rw [StreamsMap.streams_removeStream, AList.lookup_erase_ne hid]
    exact hcrypto

theorem CryptoInUse.getOrOpenStream (h : f.CryptoInUse) : (f.getOrOpenStream 1).1 = f := by
  obtain ⟨str, hstr, -⟩ := h
  have hsome : (f.streamsMap.streams.lookup 1).isSome := by rw [hstr]; rfl
  rw [StreamFramer.getOrOpenStream, StreamsMap.getOrOpenStream, if_pos hsome]
  rfl

/-- `HasCryptoStreamFrame` finds the crypto stream. -/
theorem CryptoInUse.hasCryptoStreamFrame (h : f.CryptoInUse) :
    ∃ cs hasFrame, f.hasCryptoStreamFrame = .ok (f, cs, hasFrame) := by
  have hopen := h.getOrOpenStream
  obtain ⟨str, hstr, -⟩ := h
  refine ⟨str, decide (0 < str.lenOfDataForWriting), ?_⟩
  rw [StreamFramer.hasCryptoStreamFrame]
  generalize f.getOrOpenStream 1 = opened at hopen
  obtain ⟨f', err⟩ := opened
  subst hopen
  dsimp only
  rw [hstr]

theorem newFramer_cryptoInUse (perspective : Perspective)
    (maxReceiveStreamWindow maxReceiveConnectionWindow : Nat) (idleTimeout : Int) :
    (Session.newFramer perspective
      (.new maxReceiveStreamWindow maxReceiveConnectionWindow idleTimeout)).CryptoInUse := by
  cases perspective with
  | client => exact ⟨.new 1, rfl, Stream.inUse_new 1⟩
  | server => exact ⟨.new 1, rfl, Stream.inUse_new 1⟩

end StreamFramer

/-! ## Runs -/

namespace Event
variable {κ : Type} [SendAlgorithm κ] {s : Session κ} {e : Event κ} {id : Nat} {op : StreamOp}

/-- A stream is ended by a RST_STREAM frame, or by the application. -/
theorem Acts.leavesInUse (h : Acts s e (.stream id op))
    (hrst : ∀ p env f, e = .receive p env → .rstStream f ∈ s.receivedFrames p → f.streamID ≠ id)
    (hclose : e ≠ .closeStream id) (hreset : ∀ err, e ≠ .resetStream id err) : op.LeavesInUse := by
  cases h with
  | receive h =>
    cases h with
    | frame hf h =>
      cases h with
      | streamAdd => trivial
      | rstError => exact absurd rfl (hrst _ _ _ rfl hf)
      | addAddress _ h => cases h
  | startSending h => cases h
  | sendRound h => cases h
  | runPathManager h => cases h
  | read => trivial
  | write => trivial
  | closeStream => exact absurd rfl hclose
  | resetStream => exact absurd rfl (hreset _)

end Event

namespace Connection
variable {κ : Type} [SendAlgorithm κ]

/-- Nothing ends the crypto stream: the peer does not reset it, and it is neither closed nor reset
on this side. -/
def LeavesCryptoStream (c : Connection κ) : Event κ → Prop
  | .receive p _ => ∀ f, .rstStream f ∈ c.session.receivedFrames p → f.streamID ≠ 1
  | .closeStream id => id ≠ 1
  | .resetStream id _ => id ≠ 1
  | _ => True

/-- The crypto stream can be used: it is in the map, `HasCryptoStreamFrame` finds it, and the
connection has not crashed on a nil stream. -/
structure HasCryptoStream (c : Connection κ) : Prop where
  mem : 1 ∈ c.session.streamsMap.streams
  found : ∃ cs hasFrame, c.session.streamFramer.hasCryptoStreamFrame =
    .ok (c.session.streamFramer, cs, hasFrame)
  error : c.error ≠ some (.panic .nilStream)

variable {c : Connection κ} {e : Event κ}

theorem cryptoInUse_apply (hkeyed : c.session.WellKeyed) (h : c.session.streamFramer.CryptoInUse)
    (hleaves : c.LeavesCryptoStream e) (henabled : c.Enabled e) :
    (c.apply e).session.streamFramer.CryptoInUse := by
  refine (c.apply_reaches hkeyed henabled).keeps
    (P := fun s => s.streamFramer.CryptoInUse) (fun s a s' _ hs hacts hdoes => ?_) h
  refine hs.change ?_ hdoes.framer
  rintro op rfl
  refine hacts.leavesInUse ?_ ?_ ?_
  · rintro p env f rfl hf
    exact hleaves f hf
  · rintro rfl
    exact hleaves rfl
  · rintro err rfl
    exact hleaves rfl

theorem error_apply_ne_nilStream (h : (c.apply e).session.streamFramer.CryptoInUse)
    (hc : c.error ≠ some (.panic .nilStream)) : (c.apply e).error ≠ some (.panic .nilStream) := by
  rcases c.apply_explained (e := e) (fun _ _ _ _ => trivial) with hsame | hexplains
  · rw [hsame]
    exact hc
  · intro hnil
    have hmissing := (hexplains _ hnil).nilStream rfl
    rw [PacketPacker.cryptoStreamMissing] at hmissing
    have hopen := h.getOrOpenStream
    obtain ⟨str, hstr, -⟩ := h
    rw [Session.streamFramer] at hopen hstr
    rw [hopen, hstr] at hmissing
    cases hmissing

/-- **The crypto stream survives**, in every run in which the peer does not reset it and it is
neither closed nor reset on this side. -/
theorem crypto_stream_survives {c : Connection κ} (h : (machine κ).Reach LeavesCryptoStream c) :
    c.HasCryptoStream := by
  have hinv : c.session.WellKeyed ∧ c.session.streamFramer.CryptoInUse ∧
      c.error ≠ some (.panic .nilStream) := by
    refine h.invariant (P := fun c => c.session.WellKeyed ∧ c.session.streamFramer.CryptoInUse ∧
      c.error ≠ some (.panic .nilStream)) ?_ ?_
    · intro c hinit
      refine ⟨hinit.wellKeyed, ?_⟩
      cases hinit with
      | new => exact ⟨StreamFramer.newFramer_cryptoInUse .., nofun⟩
    · rintro c e _ ⟨hkeyed, huse, herror⟩ hleaves ⟨henabled, rfl⟩
      have huse' := cryptoInUse_apply hkeyed huse hleaves henabled
      exact ⟨(c.apply_reaches hkeyed henabled).wellKeyed, huse',
        error_apply_ne_nilStream huse' herror⟩
  obtain ⟨-, huse, herror⟩ := hinv
  obtain ⟨str, hstr, -⟩ := id huse
  exact ⟨AList.lookup_isSome.mp (Option.isSome_iff_exists.mpr ⟨str, hstr⟩),
    huse.hasCryptoStreamFrame, herror⟩

/-! ## A client that sends crypto data, and peers that reset the crypto stream -/

/-- The client sends a byte of crypto data, and collects its streams. -/
def sendCryptoData : List (Event FixedWindow) :=
  [.write 1 [7], .startSending { now := 1 }, sendLowestRTT 2, sendLowestRTT 3, .garbageCollect]

theorem crypto_stream_survives_sendCryptoData :
    ∃ c : Connection FixedWindow, (machine FixedWindow).Reach LeavesCryptoStream c ∧
      c.session.packer.sealLog = [⟨.unencrypted, initialPathID, 1⟩] ∧ c.HasCryptoStream := by
  have henv : ∀ e ∈ sendCryptoData, ∀ env ∈ e.env, env.Valid := by
    simp [sendCryptoData, sendLowestRTT, Event.env, Env.Valid]
  have hreach : (machine FixedWindow).Reach LeavesCryptoStream
      (sendCryptoData.foldl apply (sample .client)) := by
    refine reach_foldl (.init (initial_sample .client)) (by decide +kernel) henv ?_
    simp [sendCryptoData, sendLowestRTT, LeavesCryptoStream]
  exact ⟨_, hreach, by decide +kernel, crypto_stream_survives hreach⟩

/-- An unencrypted packet with a RST_STREAM frame for stream 1. -/
def resetPacket : ReceivedPacket where
  pathID := initialPathID
  packetNumber := 1
  packetNumberLen := 1
  localAddr := Session.sampleAddr 1 443
  remoteAddr := Session.sampleAddr 2 443
  rcvTime := 1
  opened := some ([0x01, 0, 0, 0, 1, 0, 0, 0, 0, 0, 0, 0, 0, 0, 0, 0, 0], .unencrypted)

/-- The packet arrives, the streams are collected, and the session wants to send. -/
def receiveCryptoReset : List (Event FixedWindow) :=
  [ .receive resetPacket { now := 1 }, .garbageCollect, .startSending { now := 2 },
    sendLowestRTT 3 ]

theorem reach_receiveCryptoReset (perspective : Perspective)
    (hready : Machine.Meets (fun c e => c.ready e = true) apply (sample perspective)
      receiveCryptoReset) : Reachable (receiveCryptoReset.foldl apply (sample perspective)) := by
  have henv : ∀ e ∈ receiveCryptoReset, ∀ env ∈ e.env, env.Valid := by
    simp [receiveCryptoReset, sendLowestRTT, Event.env, Env.Valid]
  exact reach_foldl (.init (initial_sample perspective)) hready henv fun _ _ _ => trivial

/-- For both perspectives the next packet is composed with a nil stream. -/
theorem reset_crypto_stream_crashes :
    (∃ c : Connection FixedWindow, c.Reachable ∧ c.session.perspective = .client ∧
      1 ∉ c.session.streamsMap.streams ∧ c.error = some (.panic .nilStream)) ∧
    ∃ c : Connection FixedWindow, c.Reachable ∧ c.session.perspective = .server ∧
      1 ∉ c.session.streamsMap.streams ∧ c.error = some (.panic .nilStream) := by
  refine ⟨⟨_, reach_receiveCryptoReset .client (by decide +kernel), ?_⟩,
    ⟨_, reach_receiveCryptoReset .server (by decide +kernel), ?_⟩⟩
  · exact ⟨by decide +kernel, by decide +kernel, by decide +kernel⟩
  · exact ⟨by decide +kernel, by decide +kernel, by decide +kernel⟩

end Connection
end MpQuic
