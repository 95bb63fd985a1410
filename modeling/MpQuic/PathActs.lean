import MpQuic.SessionActs

/-!
# What acts do to the paths of a session

An act leaves the paths and the log of sealed packets alone, adds a new path, changes
one path without sealing a packet on it, or seals a packet on one path (`PathsChange`).
No act changes the side of the session or what its AEADs add to a packet.
-/
namespace MpQuic
open Systems

/-! ## Tables of paths -/

namespace Session
variable {κ : Type}

/-- What an act does to the paths of a session and to the packets that have been sealed. -/
inductive PathsChange (s s' : Session κ) (a : Act κ) : Prop
  | same (hpaths : s'.paths = s.paths) (hlog : s'.packer.sealLog = s.packer.sealLog)
  | creates {id : Nat} {pth : Path κ} (hpaths : s'.paths = s.paths.insert id pth)
      (hact : a = .createPath id ∧ s.CreatesPaths ∨
        a = .createPathFromRemote id ∧ s.paths.lookup id = none)
      (hlog : s'.packer.sealLog = s.packer.sealLog)
  | changes {id : Nat} {pth pth' : Path κ} (hpth : s.paths.lookup id = some pth)
      (hpaths : s'.paths = s.paths.insert id pth')
      (hgenerator : pth'.packetNumberGenerator = pth.packetNumberGenerator)
      (hlog : s'.packer.sealLog = s.packer.sealLog)
  | seals {id : Nat} {pth pth' : Path κ} {encLevel : EncryptionLevel} {random : Option UInt16}
      (hpth : s.paths.lookup id = some pth) (hpaths : s'.paths = s.paths.insert id pth')
      (hgenerator : pth'.packetNumberGenerator = (pth.packetNumberGenerator.pop random).2)
      (hlog : s'.packer.sealLog =
        s.packer.sealLog ++ [⟨encLevel, id, pth.packetNumberGenerator.next⟩])

theorem queueControlFrame_sameKeys (s : Session κ) (frame : ControlFrame) (pathID : Nat) :
    PacketPacker.SameKeys s.packer (s.queueControlFrame frame pathID).packer := by
  cases frame <;> exact ⟨rfl, rfl, rfl⟩

theorem requeueFrame_sameKeys (pathID : Nat) (env : Env) (s : Session κ) (frame : Frame FrameRef) :
    PacketPacker.SameKeys s.packer (requeueFrame pathID env s frame).packer := by
  rw [requeueFrame]
  split
  · exact ⟨rfl, rfl, rfl⟩
  · split
    · exact ⟨rfl, rfl, rfl⟩
    · split_ifs
      · exact queueControlFrame_sameKeys ..
      · exact ⟨rfl, rfl, rfl⟩
  · exact ⟨rfl, rfl, rfl⟩
  · exact queueControlFrame_sameKeys ..

theorem foldl_requeueFrame_sameKeys (pathID : Nat) (env : Env) (frames : List (Frame FrameRef))
    (s : Session κ) :
    PacketPacker.SameKeys s.packer (frames.foldl (requeueFrame pathID env) s).packer :=
  List.foldlRecOn frames _ (motive := fun s' : Session κ =>
    PacketPacker.SameKeys s.packer s'.packer) ⟨rfl, rfl, rfl⟩ fun s' h frame _ =>
      h.trans (requeueFrame_sameKeys pathID env s' frame)

/-- A packet taken from a retransmission queue. -/
theorem PathsChange.dequeue {s s' s'' : Session κ} {a : Act κ} {pathID id : Nat} {packet : Packet}
    (h : s.dequeueFrom pathID = some (s', id, packet)) (hpaths : s''.paths = s'.paths)
    (hlog : s''.packer.sealLog = s'.packer.sealLog) : PathsChange s s'' a := by
  obtain ⟨-, pth, rest, hpth, -, rfl⟩ := dequeueFrom_eq h
  exact .changes hpth hpaths rfl hlog

end Session

namespace Act
variable {κ : Type} [SendAlgorithm κ]
open Session PacketPacker

/-- **What the acts do to the paths.** -/
theorem Does.pathsChange {a : Act κ} {s s' : Session κ} (h : a.Does s s') :
    PathsChange s s' a := by
  cases h with
  | note h => exact .same h.paths (congrArg (·.sealLog) h.packer)
  | queueFrame frame pathID => exact .same rfl (queueControlFrame_sameKeys ..).sealLog
  | createPath h hcreates => exact .creates rfl (.inl ⟨rfl, hcreates⟩) rfl
  | createPathFromRemote h hnew => exact .creates rfl (.inr ⟨rfl, hnew⟩) rfl
  | path h hsame => exact .changes h rfl hsame.generator rfl
  | handler h => exact .changes h rfl rfl rfl
  | retransmit h =>
    exact .dequeue h (paths_foldl_requeueFrame _ _ _ _)
      (foldl_requeueFrame_sameKeys _ _ _ _).sealLog
  | drop h => exact .dequeue h rfl rfl
  | take h => exact .dequeue h rfl rfl
  | duplicate h => exact .changes h rfl rfl rfl
  | packNothing h hrun =>
    exact .same rfl ((Call.run_sealing hrun).nothing rfl)
  | send h hrun env =>
    obtain ⟨hseals, -⟩ := (Call.run_sealing hrun).packet _ rfl
    obtain ⟨random, hgenerator⟩ := hseals.generator
    rw [sendPackedPacket, hseals.pathID]
    split
    · exact .seals h rfl hgenerator hseals.log
    · exact .seals h rfl hgenerator hseals.log
  | sealOnly h hrun =>
    obtain ⟨hseals, -⟩ := (Call.run_sealing (run_packConnectionClose hrun)).packet _ rfl
    obtain ⟨random, hgenerator⟩ := hseals.generator
    exact .seals h rfl hgenerator hseals.log
  | _ => exact .same rfl rfl

end Act

/-! ## What is fixed of the packer -/

namespace PacketPacker

/-- The part of a packer that is fixed when it is set up. -/
def config (p : PacketPacker) : Perspective × Perspective × (EncryptionLevel → Nat) :=
  (p.perspective, p.cryptoSetup.perspective, p.cryptoSetup.overhead)

theorem SameKeys.config {p p' : PacketPacker} (h : SameKeys p p') : p'.config = p.config := by
  rw [PacketPacker.config, h.perspective, h.cryptoSetup]
  rfl

theorem Sealing.config {κ : Type} {p : PacketPacker} {pth : Path κ}
    {r : PacketPacker × Path κ × Option PackedPacket} (h : Sealing p pth r) :
    r.1.config = p.config := by
  rw [PacketPacker.config, h.perspective, h.cryptoSetup]
  rfl

end PacketPacker

namespace Act
variable {κ : Type} [SendAlgorithm κ]
open Session PacketPacker

/-- The acts change neither the perspective nor the overhead of sealing. -/
theorem Does.packerConfig {a : Act κ} {s s' : Session κ} (h : a.Does s s') :
    s'.packer.config = s.packer.config := by
  cases h with
  | note h => rw [h.packer]
  | queueFrame frame pathID => exact (queueControlFrame_sameKeys ..).config
  | retransmit h =>
    obtain ⟨-, pth, rest, hpth, -, rfl⟩ := dequeueFrom_eq h
    exact (foldl_requeueFrame_sameKeys _ _ _ _).config
  | drop h =>
    obtain ⟨-, pth, rest, hpth, -, rfl⟩ := dequeueFrom_eq h
    rfl
  | take h =>
    obtain ⟨-, pth, rest, hpth, -, rfl⟩ := dequeueFrom_eq h
    rfl
  | packNothing h hrun => exact (Call.run_sealing hrun).config
  | send h hrun env =>
    rw [sendPackedPacket]
    split
    · exact (Call.run_sealing hrun).config
    · exact (Call.run_sealing hrun).config
  | sealOnly h hrun => exact (Call.run_sealing (run_packConnectionClose hrun)).config
  | _ => rfl

end Act
end MpQuic
