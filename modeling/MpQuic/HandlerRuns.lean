import MpQuic.ConnectionActs
import MpQuic.PathActs
import MpQuic.RewardedActions

/-!
# The handlers of the paths of a connection

Whatever happens to a session, the handler of the packets sent on a path only goes
through the operations of its interface.  What holds in every run of a handler
therefore holds for the paths of every connection.
-/
namespace MpQuic
open Systems

namespace Act
variable {κ : Type} [SendAlgorithm κ]
open Session PacketPacker

/-- The operation that an act performs on the handler of a path. -/
inductive OpOn : Act κ → Nat → SentPacketHandler.Op κ → Prop
  | handler (pathID : Nat) (op : SentPacketHandler.Op κ) (hquiet : op.Quiet) :
      OpOn (.handler pathID op) pathID op
  | retransmit (pathID : Nat) (packet : Packet) :
      OpOn (.retransmit pathID packet) pathID .dequeuePacketForRetransmission
  | drop (pathID : Nat) (packet : Packet) :
      OpOn (.drop pathID packet) pathID .dequeuePacketForRetransmission
  | take (pathID : Nat) (packet : Packet) :
      OpOn (.take pathID packet) pathID .dequeuePacketForRetransmission
  | duplicate (pathID : Nat) (packet : Packet) :
      OpOn (.duplicate pathID packet) pathID (.duplicatePacket packet)
  | send (call : Call) (pathID : Nat) (packet : PackedPacket) (now : Int) :
      OpOn (.send call pathID packet) pathID (.sentPacket ⟨packet.number, packet.frames,
        packet.length, packet.encryptionLevel, 0, packet.written⟩ now)

/-- How the handler of a path comes about in an act: it is the one there was, a new one, or what
an operation of the act makes of it. -/
inductive HandlerStep (s : Session κ) (a : Act κ) (id : Nat) (h' : SentPacketHandler κ) : Prop
  | same {pth : Path κ} (hpth : s.paths.lookup id = some pth) (heq : h' = pth.sentPacketHandler)
  | new (congestion : κ) (heq : h' = .new congestion)
  | op {pth : Path κ} {op : SentPacketHandler.Op κ} (hpth : s.paths.lookup id = some pth)
      (hop : a.OpOn id op) (heq : h' = op.apply pth.sentPacketHandler)

variable {a : Act κ} {s s' : Session κ} {pathID id : Nat} {pth pth' : Path κ}

theorem HandlerStep.of_paths (hpaths : s'.paths = s.paths)
    (hpth' : s'.paths.lookup id = some pth') : HandlerStep s a id pth'.sentPacketHandler := by
  rw [hpaths] at hpth'
  exact .same hpth' rfl

/-- One entry of the table is replaced. -/
theorem HandlerStep.of_insert (hpaths : s'.paths = s.paths.insert pathID pth)
    (h : HandlerStep s a pathID pth.sentPacketHandler) (hpth' : s'.paths.lookup id = some pth') :
    HandlerStep s a id pth'.sentPacketHandler := by
  rw [hpaths] at hpth'
  exact forall_lookup_insert (P := fun id pth => HandlerStep s a id pth.sentPacketHandler) h
    (fun _ _ hpth => .same hpth rfl) id pth' hpth'

theorem HandlerStep.dequeue {s'' : Session κ} {packet : Packet}
    (h : s.dequeueFrom pathID = some (s'', pathID, packet)) (hpaths : s'.paths = s''.paths)
    (hop : a.OpOn pathID .dequeuePacketForRetransmission)
    (hpth' : s'.paths.lookup id = some pth') : HandlerStep s a id pth'.sentPacketHandler := by
  obtain ⟨-, pth, rest, hpth, hqueue, rfl⟩ := dequeueFrom_eq h
  refine .of_insert hpaths (.op hpth hop ?_) hpth'
  rw [SentPacketHandler.Op.apply, SentPacketHandler.dequeuePacketForRetransmission, hqueue]

/-- **What an act does to the handlers of the paths.** -/
theorem Does.handlerStep (h : a.Does s s') (hpth' : s'.paths.lookup id = some pth') :
    HandlerStep s a id pth'.sentPacketHandler := by
  cases h with
  | note h => exact .of_paths h.paths hpth'
  | createPath => exact .of_insert rfl (.new _ rfl) hpth'
  | createPathFromRemote => exact .of_insert rfl (.new _ rfl) hpth'
  | path h hsame => exact .of_insert rfl (.same h hsame.handler) hpth'
  | handler h hquiet => exact .of_insert rfl (.op h (.handler _ _ hquiet) rfl) hpth'
  | retransmit h => exact .dequeue h (paths_foldl_requeueFrame _ _ _ _) (.retransmit _ _) hpth'
  | drop h => exact .dequeue h rfl (.drop _ _) hpth'
  | take h => exact .dequeue h rfl (.take _ _) hpth'
  | duplicate h => exact .of_insert rfl (.op h (.duplicate _ _) rfl) hpth'
  | @send _ call pth pth₁ packer packet now random h hrun env =>
    have hof := (Call.run_sealing hrun).path
    rw [sendPackedPacket, hof.pathID, hof.handler] at hpth'
    split at hpth'
    · exact .of_insert rfl (.same h hof.handler) hpth'
    · next handler hsent =>
      refine .of_insert rfl (.op h (.send call pth.pathID packet env.now) ?_) hpth'
      rw [SentPacketHandler.Op.apply, hsent]
      rfl
  | sealOnly h hrun =>
    have hof := (Call.run_sealing (run_packConnectionClose hrun)).path
    exact .of_insert rfl (.same h hof.handler) hpth'
  | _ => exact .of_paths rfl hpth'

end Act

namespace Session
variable {κ : Type} [SendAlgorithm κ]

/-- Every path of the session has a handler with the property. -/
def Handlers (P : SentPacketHandler κ → Prop) (s : Session κ) : Prop :=
  ∀ id pth, s.paths.lookup id = some pth → P pth.sentPacketHandler

/-- A property of new handlers that the operations of the acts keep is kept for all paths. -/
theorem Handlers.does {P : SentPacketHandler κ → Prop} {s s' : Session κ} {a : Act κ}
    (hs : s.Handlers P) (hnew : ∀ congestion, P (.new congestion))
    (hop : ∀ id op h, a.OpOn id op → P h → P (op.apply h)) (hdoes : a.Does s s') :
    s'.Handlers P := by
  intro id pth' hpth'
  cases hdoes.handlerStep hpth' with
  | same hpth heq => exact heq ▸ hs id _ hpth
  | new congestion heq => exact heq ▸ hnew congestion
  | op hpth hopOn heq => exact heq ▸ hop id _ _ hopOn (hs id _ hpth)

/-- What holds of the sessions of all runs. -/
structure Sound (s : Session κ) : Prop where
  keyed : s.WellKeyed
  handlers : s.Handlers SentPacketHandler.Reachable

theorem Sound.reaches {K : Act κ → Prop} {s s' : Session κ} (hs : s.Sound)
    (h : Reaches K s s') : s'.Sound := by
  refine ⟨h.wellKeyed, h.keeps (P := Handlers SentPacketHandler.Reachable) ?_ hs.handlers⟩
  intro s a s' _ hs _ hdoes
  exact hs.does (fun _ => .init ⟨_, rfl⟩) (fun _ op _ _ hh => hh.apply op) hdoes

end Session

namespace Connection
variable {κ : Type} [SendAlgorithm κ]
open Session

theorem Initial.handlers {P : SentPacketHandler κ → Prop} {c : Connection κ} (h : Initial c)
    (hnew : ∀ congestion, P (.new congestion)) : c.session.Handlers P := by
  cases h with
  | new =>
    intro id pth hpth
    cases List.mem_singleton.mp (List.of_mem_dlookup hpth)
    exact hnew _

theorem Initial.sound {c : Connection κ} (h : Initial c) : c.session.Sound :=
  ⟨h.wellKeyed, h.handlers fun _ => .init ⟨_, rfl⟩⟩

/-- **Every path of a connection has a handler in a state of its runs.** -/
theorem handlers_sound {c : Connection κ} (h : c.Reachable) :
    c.session.Handlers SentPacketHandler.Reachable := by
  refine (Machine.Reach.invariant (P := fun c : Connection κ => c.session.Sound) h
    (fun _ hinit => hinit.sound) ?_).handlers
  rintro c e _ hc - ⟨henabled, rfl⟩
  exact hc.reaches (c.apply_reaches hc.keyed henabled)

/-- The client sends a packet with crypto data, and gets an ACK for it. -/
def sendAndAcknowledge : List (Event FixedWindow) :=
  [.write 1 [1], .startSending { now := 1 }, sendLowestRTT 1, sendLowestRTT 1,
    receiveFrames 0 1 [0x50, 0, 1, 0, 0, 1, 0] 10]

/-- The handler of the initial path, after its packet has left the history. -/
theorem handlers_sound_acknowledged :
    let c := sendAndAcknowledge.foldl apply (sample .client)
    ((c.session.paths.lookup 0).map fun pth => (pth.sentPacketHandler.sent,
      pth.sentPacketHandler.largestAcked, pth.sentPacketHandler.packetHistory.length)) =
        some ([1], 1, 0) ∧
      c.session.Handlers SentPacketHandler.Reachable := by
  refine ⟨by decide +kernel, handlers_sound (reach_foldl (.init (initial_sample .client))
    (by decide +kernel) ?_ fun _ _ _ => trivial)⟩
  simp [sendAndAcknowledge, receiveFrames, sendLowestRTT, Event.env, Env.Valid]

end Connection

namespace Learning
variable {κ σ : Type} [SendAlgorithm κ]
open Session

/-- **With learning, an event is still made of acts.** -/
theorem apply_reaches (l : Learning κ σ) (h : l.connection.session.WellKeyed)
    {e : LearningEvent κ σ} (henabled : l.Enabled e) :
    Reaches (fun _ => True) l.connection.session (l.apply e).connection.session := by
  have hstart : Reaches (fun _ => True) l.connection.session l.connection.session := .refl h
  cases e with
  | receive p env =>
    rw [connection_apply_receive]
    exact (l.connection.apply_reaches (e := .receive p env) h henabled).mono fun _ _ => trivial
  | sendRound draw stateData env =>
    have hgot := getRetransmissionLoop_reaches (fun _ _ => trivial) env
      l.connection.session.queuedPackets (r := { session := l.connection.session }) hstart
    rw [apply, sendRound]
    dsimp only
    split <;> exact sendSelected_reaches (fun _ _ => trivial) hgot _ _ env
  | event e => exact (l.connection.apply_reaches h henabled.1).mono fun _ _ => trivial
  | action i probability => exact hstart
  | others rewards => exact hstart

/-- **So has every path of a connection that learns.** -/
theorem handlers_reachable {l : Learning κ σ} (h : (machine κ σ).Reach Machine.Always l) :
    l.connection.session.Handlers SentPacketHandler.Reachable := by
  refine (h.invariant (P := fun l : Learning κ σ => l.connection.session.Sound) ?_ ?_).handlers
  · rintro _ ⟨hinit⟩
    exact hinit.sound
  · rintro l e _ hl - ⟨henabled, rfl⟩
    exact hl.reaches (l.apply_reaches hl.keyed henabled)

theorem handlers_reachable_sent : sent.connection.session.Handlers SentPacketHandler.Reachable :=
  handlers_reachable (reach_sent _ fun _ _ _ => trivial)

end Learning
end MpQuic
