import MpQuic.ConnectionParametersManager

/-!
# What the two sides agree on

The client's parameters go to the server in the CHLO and the server's to the client
in the SHLO.  Stream limits and windows always come out matching.  The idle timeout
does not: it travels in whole seconds, so a server that keeps a timeout with a
fraction of a second is heard by the client as one that keeps less.
-/
namespace MpQuic
open Systems AList ByteOrder

namespace ConnectionParametersManager

theorem uint32_writeUintN (v : Nat) :
    HandshakeMessage.uint32 (littleEndian.writeUintN 4 v) = v % 2 ^ 32 := by
  rw [HandshakeMessage.uint32, List.take_of_length_le (by simp),
    uintOf_writeUintN_mod, show 256 ^ 4 = 2 ^ 32 by decide]

variable {params : TagMap} {tag v : Nat} {h : ConnectionParametersManager} {d : Int}

section

variable (hv : params.lookup tag = some (littleEndian.writeUintN 4 v))
include hv

/-- A parameter that was written as a 32-bit integer. -/
theorem setParameter_written
    (set : ConnectionParametersManager → Nat → ConnectionParametersManager)
    (h : ConnectionParametersManager) :
    setParameter params tag set h = (set h (v % 2 ^ 32), none) := by
  rw [setParameter, hv]
  dsimp only
  rw [if_neg (by simp), uint32_writeUintN]

theorem setWindow_written (set : ConnectionParametersManager → Nat → ConnectionParametersManager)
    (hnew : h.flowControlNegotiated = false) :
    setWindow params tag set h = (set h (v % 2 ^ 32), none) := by
  rw [setWindow, hnew, Bool.and_false, if_neg (by simp), setParameter_written hv]

end

section GetHelloMap
variable (h : ConnectionParametersManager)

theorem lookup_TCID : h.getHelloMap.lookup tagTCID = none := by
  rw [getHelloMap, lookup_insert_ne (by decide), lookup_insert_ne (by decide),
    lookup_insert_ne (by decide), lookup_insert_ne (by decide),
    lookup_insert_ne (by decide), lookup_empty]

theorem lookup_ICSL : h.getHelloMap.lookup tagICSL =
    some (littleEndian.writeUintN 4 (inSeconds h.idleConnectionStateLifetime)) := by
  rw [getHelloMap, lookup_insert_ne (by decide), lookup_insert_ne (by decide),
    lookup_insert_ne (by decide), lookup_insert_ne (by decide), lookup_insert]

theorem lookup_MSPC : h.getHelloMap.lookup tagMSPC =
    some (littleEndian.writeUintN 4 h.maxStreamsPerConnection) := by
  rw [getHelloMap, lookup_insert_ne (by decide), lookup_insert_ne (by decide),
    lookup_insert_ne (by decide), lookup_insert]

theorem lookup_MIDS : h.getHelloMap.lookup tagMIDS = some (littleEndian.writeUintN 4
    MpQuic.maxIncomingDynamicStreamsPerConnection) := by
  rw [getHelloMap, lookup_insert_ne (by decide), lookup_insert_ne (by decide),
    lookup_insert]

theorem lookup_CFCW : h.getHelloMap.lookup tagCFCW =
    some (littleEndian.writeUintN 4 h.receiveConnectionFlowControlWindow) := by
  rw [getHelloMap, lookup_insert_ne (by decide), lookup_insert]

theorem lookup_SFCW : h.getHelloMap.lookup tagSFCW =
    some (littleEndian.writeUintN 4 h.receiveStreamFlowControlWindow) :=
  lookup_insert _

end GetHelloMap

/-- The parameters of the peer's hello, taken over for the first time. -/
theorem setFromMap_getHelloMap (peer : ConnectionParametersManager)
    (hnew : h.flowControlNegotiated = false) :
    h.setFromMap peer.getHelloMap = ({ h with
      flowControlNegotiated := true
      maxStreamsPerConnection :=
        min (peer.maxStreamsPerConnection % 2 ^ 32) MpQuic.maxStreamsPerConnection
      maxIncomingDynamicStreamsPerConnection := MpQuic.maxIncomingDynamicStreamsPerConnection
      idleConnectionStateLifetime := min
        (inSeconds peer.idleConnectionStateLifetime * second) h.idleConnectionStateLifetime
      sendStreamFlowControlWindow := peer.receiveStreamFlowControlWindow % 2 ^ 32
      sendConnectionFlowControlWindow := peer.receiveConnectionFlowControlWindow % 2 ^ 32 },
      none) := by
  have hseconds : inSeconds peer.idleConnectionStateLifetime < 2 ^ 32 := by
    unfold inSeconds
    omega
  have hfirst : setTCID peer.getHelloMap h = (h, none) := by
    unfold setTCID setParameter
    rw [lookup_TCID]
    cases h.perspective <;> rfl
  have hwindows : negotiatesFlowControl peer.getHelloMap = true := by
    rw [negotiatesFlowControl, lookup_CFCW, Option.isSome_some, Bool.true_or]
  simp only [setFromMap, hfirst, setMSPC, setMIDS, setICSL, setSFCW, setCFCW,
    setParameter_written (lookup_MSPC peer), setParameter_written (lookup_MIDS peer),
    setParameter_written (lookup_ICSL peer), setWindow_written (lookup_SFCW peer),
    setWindow_written (lookup_CFCW peer), hnew, Outcome.andThen_none, hwindows, if_true,
    Nat.mod_eq_of_lt hseconds]
  rfl

/-- The exchange of the handshake: the client's CHLO and the server's SHLO. -/
def exchange (client server : ConnectionParametersManager) :
    Except HandshakeError (ConnectionParametersManager × ConnectionParametersManager) :=
  match server.setFromMap client.getHelloMap with
  | (_, some e) => .error e
  | (server, none) =>
    match client.setFromMap server.getHelloMap with
    | (_, some e) => .error e
    | (client, none) => .ok (client, server)

/-- The initial windows of a sender are those of its peer's receiver, and it may not open more
streams than the peer accepts. -/
structure Matches (h peer : ConnectionParametersManager) : Prop where
  streamWindow :
    h.parameters.sendStreamFlowControlWindow = peer.parameters.receiveStreamFlowControlWindow
  connectionWindow : h.parameters.sendConnectionFlowControlWindow =
    peer.parameters.receiveConnectionFlowControlWindow
  streams : h.parameters.maxOutgoingStreams ≤ peer.parameters.maxIncomingStreams

/-- The two sides agree on the parameters of the connection. -/
structure Agree (client server : ConnectionParametersManager) : Prop where
  idleTimeout : client.parameters.idleConnectionStateLifetime =
    server.parameters.idleConnectionStateLifetime
  maxStreams : client.maxStreamsPerConnection = server.maxStreamsPerConnection
  toServer : client.Matches server
  toClient : server.Matches client

/-- When the idle timeout survives the exchange: the client's, rounded down to a second, is not
above the server's, or the server's is a whole number of seconds.  Negative timeouts have to
be equal from the start. -/
def TimeoutsExchangeable (client server : Int) : Prop :=
  if client < 0 then server = client
  else inSeconds client * second ≤ server ∨ (0 ≤ server ∧ second ∣ server)

instance (client server : Int) : Decidable (TimeoutsExchangeable client server) := by
  unfold TimeoutsExchangeable
  infer_instance

theorem inSeconds_le (h : 0 ≤ d) : inSeconds d * second ≤ d := by
  unfold inSeconds second millisecond
  rw [Int.tdiv_eq_ediv_of_nonneg h]
  omega

/-- A duration is written as it is if it is a whole number of seconds of 32 bits. -/
theorem inSeconds_eq_iff {n : Nat} (hn : n < 2 ^ 32) (h : d ≤ n * second) :
    inSeconds d * second = d ↔ 0 ≤ d ∧ second ∣ d := by
  unfold inSeconds
  unfold second millisecond at *
  constructor
  · intro he
    omega
  · rintro ⟨hd, hs⟩
    rw [Int.tdiv_eq_ediv_of_nonneg hd]
    omega

/-- The idle timeouts after the exchange are the same, the client's on the left. -/
theorem timeouts_agree_iff (client server : Int) :
    min (inSeconds (min (inSeconds client * second) server) * second) client =
        min (inSeconds client * second) server ↔
      TimeoutsExchangeable client server := by
  have hbound : inSeconds client < 2 ^ 32 := by
    unfold inSeconds
    omega
  have hnonneg : ∀ d, 0 ≤ inSeconds d * second := by
    intro d
    unfold second millisecond
    omega
  unfold TimeoutsExchangeable
  rcases le_or_gt (inSeconds client * second) server with hle | hlt
  · -- the server takes over the client's timeout in whole seconds
    have hwhole : inSeconds (inSeconds client * second) * second = inSeconds client * second :=
      (inSeconds_eq_iff hbound le_rfl).mpr ⟨hnonneg client, Dvd.intro_left _ rfl⟩
    rw [min_eq_left hle, hwhole]
    have := hnonneg client
    split
    · omega
    · have := inSeconds_le (d := client) (by omega)
      omega
  · -- the server keeps its own, and the client hears it in whole seconds
    rw [min_eq_right hlt.le]
    have := hnonneg server
    split
    · omega
    · have := inSeconds_le (d := client) (by omega)
      rw [← inSeconds_eq_iff hbound hlt.le]
      omega

/-- **Both peers end up with the same parameters** after an exchange, which never fails, exactly if
their idle timeouts survive it: the client's, in whole seconds, is not above the server's, or the
server's has no fraction of a second. -/
theorem negotiated_parameters_agree_iff (clientStreamWindow clientConnectionWindow
    serverStreamWindow serverConnectionWindow : Nat) (clientTimeout serverTimeout : Int) :
    ∃ client server,
      exchange (new .client clientStreamWindow clientConnectionWindow clientTimeout)
        (new .server serverStreamWindow serverConnectionWindow serverTimeout) =
          .ok (client, server) ∧
      (Agree client server ↔ TimeoutsExchangeable clientTimeout serverTimeout) := by
  simp only [exchange, setFromMap_getHelloMap, new]
  refine ⟨_, _, rfl, ?_⟩
  rw [← timeouts_agree_iff]
  constructor
  · intro h
    exact h.idleTimeout
  · intro h
    have hstreams : MpQuic.maxIncomingDynamicStreamsPerConnection ≤ getMaxIncomingStreams := by
      decide
    exact ⟨h, rfl, ⟨rfl, rfl, hstreams⟩, ⟨rfl, rfl, hstreams⟩⟩

/-- A client with 30 seconds and a server with 20.7 seconds: the client ends up with 20. -/
theorem fraction_of_second_lost :
    ∃ client server,
      exchange (new .client 0 0 (30 * second)) (new .server 0 0 (20700 * millisecond)) =
        .ok (client, server) ∧
      client.parameters.idleConnectionStateLifetime = 20 * second ∧
      server.parameters.idleConnectionStateLifetime = 20700 * millisecond ∧
      ¬ Agree client server := by
  refine ⟨_, _, rfl, rfl, rfl, ?_⟩
  intro h
  exact absurd h.idleTimeout (by decide)

end ConnectionParametersManager
end MpQuic
