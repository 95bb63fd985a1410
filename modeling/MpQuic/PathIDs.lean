import MpQuic.ConnectionActs

/-!
# Path identifiers

A client gives its own paths the odd IDs 1, 3, ... and a server the even ones from 2 on;
`createPathFromRemote` refuses the IDs of the own parity.  So a new path only replaces an
old one when `nxtPathID`, a byte, has wrapped around: the client's 129th path takes the ID
1 again, in the table of paths and in that of the OLIA senders.

The paths are created here in any order, between any other acts of the session.
-/
namespace MpQuic
open Systems Outcome List AList Option

namespace Session
variable {κ : Type}

/-! ## The tables -/

/-- The parity of the IDs of the paths created locally. -/
def pathParity (s : Session κ) : Nat :=
  match s.perspective with
  | .client => 1
  | .server => 0

/-- The OLIA senders registered. -/
def oliaIDs (s : Session κ) : List Nat := (s.pathManager.map (·.oliaSenders)).getD []

/-- No path and no OLIA sender is added, and no ID given out. -/
structure SameIDs (s s' : Session κ) : Prop where
  perspective : s'.perspective = s.perspective
  ids : s'.pathManager.map PathManager.ids = s.pathManager.map PathManager.ids
  paths : ∀ id, id ∈ s'.paths ↔ id ∈ s.paths

variable {s s' : Session κ} {pathID : Nat} {pth : Path κ}

theorem SameIDs.of_eq (hpers : s'.perspective = s.perspective)
    (hpm : s'.pathManager = s.pathManager) (hpaths : s'.paths = s.paths) : s.SameIDs s' :=
  ⟨hpers, by rw [hpm], fun id => by rw [hpaths]⟩

theorem SameIDs.refl (s : Session κ) : s.SameIDs s := .of_eq rfl rfl rfl

theorem SameIDs.trans {s s' s'' : Session κ} (h : s.SameIDs s') (h' : s'.SameIDs s'') :
    s.SameIDs s'' :=
  ⟨h'.perspective.trans h.perspective, h'.ids.trans h.ids,
    fun id => (h'.paths id).trans (h.paths id)⟩

/-- A path of the table changes. -/
theorem sameIDs_setPath (h : pathID ∈ s.paths) (pth : Path κ) :
    s.SameIDs (s.setPath pathID pth) := by
  refine ⟨rfl, rfl, fun id => ?_⟩
  rw [setPath, mem_insert]
  constructor
  · rintro (rfl | hid)
    · exact h
    · exact hid
  · exact Or.inr

theorem mem_of_lookup (h : s.paths.lookup pathID = some pth) : pathID ∈ s.paths :=
  lookup_isSome.mp (by rw [h]; rfl)

theorem sameIDs_requeueFrame (pathID : Nat) (env : Env) (s : Session κ) (frame : Frame FrameRef) :
    s.SameIDs (requeueFrame pathID env s frame) := by
  rw [requeueFrame]
  split
  · exact .of_eq rfl rfl rfl
  · split
    · exact .refl s
    · split_ifs <;> exact .of_eq rfl rfl rfl
  · exact .of_eq rfl rfl rfl
  · exact .of_eq rfl rfl rfl

theorem sameIDs_dequeueFrom {pathID id : Nat} {packet : Packet}
    (h : s.dequeueFrom pathID = some (s', id, packet)) : s.SameIDs s' := by
  obtain ⟨-, pth, rest, hpth, -, rfl⟩ := dequeueFrom_eq h
  exact sameIDs_setPath (mem_of_lookup hpth) _

variable [SendAlgorithm κ]

theorem sameIDs_sendPackedPacket (h : pth.pathID ∈ s.paths) (packer : PacketPacker)
    (packet : PackedPacket) (env : Env) :
    s.SameIDs (s.sendPackedPacket packer pth packet env).1 := by
  have hpacker : s.SameIDs { s with packer } := .of_eq rfl rfl rfl
  have hset (pth' : Path κ) : s.SameIDs ({ s with packer }.setPath pth.pathID pth') :=
    hpacker.trans (sameIDs_setPath (by exact h) pth')
  rw [sendPackedPacket]
  split
  · exact hset _
  · exact hset _

end Session

/-! ## The other acts -/

namespace Act
variable {κ : Type}
open Session

/-- The acts that create a path. -/
def IsCreation : Act κ → Prop
  | .createPath _ | .createPathFromRemote _ => True
  | _ => False

variable [SendAlgorithm κ]

/-- The other acts add no path. -/
theorem Does.sameIDs {a : Act κ} {s s' : Session κ} (h : a.Does s s') (hother : ¬ a.IsCreation) :
    s.SameIDs s' := by
  cases h with
  | note h => exact ⟨h.perspective, h.pathManager, fun id => by rw [h.paths]⟩
  | createPath => exact absurd trivial hother
  | createPathFromRemote => exact absurd trivial hother
  | path h => exact sameIDs_setPath (mem_of_lookup h) _
  | handler h => exact sameIDs_setPath (mem_of_lookup h) _
  | @retransmit _ s₁ pathID packet h _ env =>
    refine (sameIDs_dequeueFrom h).trans ?_
    exact foldlRecOn _ _ (motive := fun s' : Session κ => s₁.SameIDs s') (.refl s₁)
      fun s' hs frame _ => hs.trans (sameIDs_requeueFrame pathID env s' frame)
  | drop h => exact sameIDs_dequeueFrom h
  | take h => exact sameIDs_dequeueFrom h
  | duplicate h => exact sameIDs_setPath (mem_of_lookup h) _
  | @send _ call pth pth' packer packet now random h hrun env =>
    have hid := (PacketPacker.Call.run_sealing hrun).path.pathID
    exact sameIDs_sendPackedPacket (by rw [hid]; exact mem_of_lookup h) ..
  | @sealOnly _ ccf pth pth' packer packet now random h hrun =>
    have hpacker : s.SameIDs { s with packer } := .of_eq rfl rfl rfl
    exact hpacker.trans (sameIDs_setPath (by exact mem_of_lookup h) _)
  | _ => exact .of_eq rfl rfl rfl

end Act

/-! ## Creating a path -/

namespace Session
variable {κ : Type}

/-- A path is put into the table under `id`, and the next local one will get the ID `nxt`. -/
structure Puts (s : Session κ) (id nxt : Nat) (s' : Session κ) : Prop where
  perspective : s'.perspective = s.perspective
  pathManager : ∃ senders, s'.pathManager.map PathManager.ids = some (nxt, senders) ∧
    s.oliaIDs ⊆ senders ∧ senders ⊆ id :: s.oliaIDs
  put : id ∈ s'.paths
  others : ∀ id', id' ≠ id → s'.paths.lookup id' = s.paths.lookup id'

variable {s : Session κ}

theorem oliaIDs_of_ids {nxt : Nat} {senders : List Nat}
    (h : s.pathManager.map PathManager.ids = some (nxt, senders)) : s.oliaIDs = senders := by
  cases hpm : s.pathManager with
  | none => rw [hpm] at h; cases h
  | some pm =>
    rw [hpm, map_some, some.injEq, PathManager.ids, Prod.mk.injEq] at h
    rw [oliaIDs, hpm]
    exact h.2

theorem SameIDs.oliaIDs {s s' : Session κ} (h : s.SameIDs s') : s'.oliaIDs = s.oliaIDs := by
  cases hpm : s.pathManager with
  | none =>
    have hids := h.ids
    rw [hpm, map_none, map_eq_none_iff] at hids
    rw [Session.oliaIDs, Session.oliaIDs, hpm, hids]
  | some pm =>
    have hids : s'.pathManager.map PathManager.ids = some (pm.nxtPathID, pm.oliaSenders) := by
      rw [h.ids, hpm]
      rfl
    rw [oliaIDs_of_ids hids, Session.oliaIDs, hpm]
    rfl

/-- Afterwards only the new path changes. -/
theorem Puts.then {s s' s'' : Session κ} {id nxt : Nat} (h : s.Puts id nxt s')
    (hids : s'.SameIDs s'')
    (hothers : ∀ id', id' ≠ id → s''.paths.lookup id' = s'.paths.lookup id') :
    s.Puts id nxt s'' := by
  obtain ⟨senders, hpm, hsub⟩ := h.pathManager
  exact ⟨hids.perspective.trans h.perspective, ⟨senders, hids.ids.trans hpm, hsub⟩,
    (hids.paths id).mpr h.put, fun id' hne => (hothers id' hne).trans (h.others id' hne)⟩

variable [SendAlgorithm κ]

theorem puts_addPath {pm : PathManager} (hpm : s.pathManager = some pm) (pm' : PathManager)
    (hsenders : pm'.oliaSenders = pm.oliaSenders) (pathID : Nat) (localAddr remoteAddr : UDPAddr)
    (env : Env) : s.Puts pathID pm'.nxtPathID (s.addPath pm' pathID localAddr remoteAddr env) := by
  have holia : s.oliaIDs = pm'.oliaSenders := by
    rw [oliaIDs, hpm, hsenders]
    rfl
  refine ⟨rfl, ⟨_, rfl, ?_, ?_⟩, ?_, ?_⟩
  · rw [holia]
    split
    · exact fun id hid => mem_insert_of_mem hid
    · exact List.Subset.refl _
  · rw [holia]
    split
    · intro id hid
      rcases mem_insert_iff.mp hid with rfl | hid
      · exact mem_cons_self
      · exact mem_cons_of_mem _ hid
    · exact subset_cons_self ..
  · exact lookup_isSome.mp (s.isSome_lookup_addPath ..)
  · intro id' hne
    exact lookup_insert_ne hne

/-- A PING changes its path only. -/
theorem sendPing_others {pth : Path κ} (h : pth.pathID ∈ s.paths) (env : Env) :
    s.SameIDs (s.sendPing pth env).1 ∧
      ∀ id', id' ≠ pth.pathID → (s.sendPing pth env).1.paths.lookup id' = s.paths.lookup id' := by
  rw [sendPing]
  cases hpack : s.packer.packPing s.handshakeComplete pth env.now (env.randomFor pth) with
  | error e => exact ⟨.refl s, fun _ _ => rfl⟩
  | ok r =>
    obtain ⟨packer, pth', packet⟩ := r
    have hid : pth'.pathID = pth.pathID :=
      (PacketPacker.Call.run_sealing (PacketPacker.run_packPing hpack)).path.pathID
    cases packet with
    | none => exact ⟨.of_eq rfl rfl rfl, fun _ _ => rfl⟩
    | some packet =>
      refine ⟨sameIDs_sendPackedPacket (by rw [hid]; exact h) .., fun id' hne => ?_⟩
      rw [← hid] at hne
      change (s.sendPackedPacket packer pth' packet env).1.paths.lookup id' = _
      rw [sendPackedPacket]
      split <;> exact lookup_insert_ne hne

/-- `createPath` does nothing, or puts a path under the next ID. -/
theorem createPath_puts (s : Session κ) (locAddr remAddr : UDPAddr) (env : Env) :
    (s.createPath locAddr remAddr env).1 = s ∨
      ∃ pm, s.pathManager = some pm ∧ s.hasPath locAddr remAddr = false ∧
        s.Puts pm.nxtPathID ((pm.nxtPathID + 2) % 2 ^ 8) (s.createPath locAddr remAddr env).1 := by
  rw [createPath]
  cases hpm : s.pathManager with
  | none => exact Or.inl rfl
  | some pm =>
    cases hhas : s.hasPath locAddr remAddr with
    | true => exact Or.inl rfl
    | false =>
      refine Or.inr ⟨pm, rfl, rfl, ?_⟩
      have hput : s.Puts pm.nxtPathID ((pm.nxtPathID + 2) % 2 ^ 8)
          (s.addPath { pm with nxtPathID := (pm.nxtPathID + 2) % 2 ^ 8 } pm.nxtPathID locAddr
            remAddr env) :=
        puts_addPath hpm { pm with nxtPathID := (pm.nxtPathID + 2) % 2 ^ 8 } rfl ..
      obtain ⟨pth, hpth, hid⟩ :
          ∃ pth, (s.addPath { pm with nxtPathID := (pm.nxtPathID + 2) % 2 ^ 8 }
          pm.nxtPathID locAddr remAddr env).paths.lookup pm.nxtPathID = some pth ∧
            pth.pathID = pm.nxtPathID := ⟨_, lookup_insert _, rfl⟩
      simp only [Bool.false_eq_true, if_false, hpth]
      obtain ⟨hids, hothers⟩ := sendPing_others (by rw [hid]; exact mem_of_lookup hpth) env
      rw [hid] at hothers
      exact hput.then hids hothers

/-- `createPathFromRemote` does nothing, or puts a path under a new ID of the other parity. -/
theorem createPathFromRemote_puts (s : Session κ) (p : ReceivedPacket) (env : Env) :
    (s.createPathFromRemote p env).1 = s ∨
      ∃ pm, s.pathManager = some pm ∧ p.pathID ∉ s.paths ∧ p.pathID % 2 ≠ s.pathParity ∧
        s.Puts p.pathID pm.nxtPathID (s.createPathFromRemote p env).1 := by
  rw [createPathFromRemote]
  cases hpm : s.pathManager with
  | none => exact Or.inl rfl
  | some pm =>
    split_ifs with hsome hclient hserver
    · exact Or.inl rfl
    · exact Or.inl rfl
    · exact Or.inl rfl
    · refine Or.inr ⟨pm, rfl, ?_, ?_, puts_addPath hpm pm rfl ..⟩
      · exact fun hmem => hsome (lookup_isSome.mpr hmem)
      · rw [pathParity]
        cases hpers : s.perspective with
        | client =>
          simp only [hpers, true_and, not_not] at hclient
          rw [hclient]
          exact zero_ne_one
        | server =>
          simp only [hpers, true_and] at hserver
          exact hserver

end Session

/-! ## The invariant -/

namespace Session
variable {κ : Type}

/-- The number of paths whose ID has the parity of the local ones.  On the server the initial path
is among them. -/
def localPaths (s : Session κ) : Nat := s.paths.keys.countP (· % 2 == s.pathParity)

/-- The local IDs are given out in order, and every OLIA sender belongs to a path. -/
structure InTurn (s : Session κ) : Prop where
  next : ∀ pm, s.pathManager = some pm → pm.nxtPathID = (s.pathParity + 2 * s.localPaths) % 2 ^ 8
  below : ∀ id ∈ s.paths, id % 2 = s.pathParity → id < s.pathParity + 2 * s.localPaths
  senders : ∀ id ∈ s.oliaIDs, id ∈ s.paths

/-- A new path under `id` replaces neither a path nor an OLIA sender. -/
structure Adds (s : Session κ) (id : Nat) (s' : Session κ) : Prop where
  newPath : id ∉ s.paths
  newSender : id ∉ s.oliaIDs
  added : id ∈ s'.paths
  kept : ∀ id' ∈ s.paths, s'.paths.lookup id' = s.paths.lookup id'
  senders : ∀ id' ∈ s.oliaIDs, id' ∈ s'.oliaIDs

variable {s s' : Session κ} {id nxt : Nat}

theorem pathParity_eq (h : s'.perspective = s.perspective) : s'.pathParity = s.pathParity := by
  rw [pathParity, pathParity, h]

theorem pathParity_lt (s : Session κ) : s.pathParity < 2 := by
  rw [pathParity]
  split <;> decide

/-- Tables with the same keys have as many local paths. -/
theorem SameIDs.localPaths (h : s.SameIDs s') : s'.localPaths = s.localPaths := by
  have hperm : s'.paths.keys.Perm s.paths.keys :=
    (List.perm_ext_iff_of_nodup s'.paths.keys_nodup s.paths.keys_nodup).mpr fun id => by
      rw [← AList.mem_keys, ← AList.mem_keys, h.paths]
  rw [Session.localPaths, Session.localPaths, pathParity_eq h.perspective]
  exact hperm.countP_eq _

theorem InTurn.sameIDs (h : s.InTurn) (hs : s.SameIDs s') : s'.InTurn := by
  have hparity := pathParity_eq hs.perspective
  refine ⟨?_, ?_, ?_⟩
  · intro pm' hpm'
    have heq := hs.ids
    rw [hpm', map_some, eq_comm, map_eq_some_iff] at heq
    obtain ⟨pm, hpm, heq⟩ := heq
    rw [← (Prod.mk.inj heq).1, hparity, hs.localPaths]
    exact h.next pm hpm
  · rw [hparity, hs.localPaths]
    exact fun id hid => h.below id ((hs.paths id).mp hid)
  · intro id hid
    rw [hs.oliaIDs] at hid
    exact (hs.paths id).mpr (h.senders id hid)

/-- A path put under a new ID replaces nothing. -/
theorem InTurn.adds (h : s.InTurn) (hput : s.Puts id nxt s') (hnew : id ∉ s.paths) :
    s.Adds id s' := by
  obtain ⟨senders, hpm, hsub, -⟩ := hput.pathManager
  refine ⟨hnew, fun hid => hnew (h.senders id hid), hput.put, ?_, ?_⟩
  · intro id' hid'
    exact hput.others id' (fun heq => hnew (heq ▸ hid'))
  · rw [oliaIDs_of_ids hpm]
    exact fun id' hid' => hsub hid'

theorem Puts.mem_paths (h : s.Puts id nxt s') (id' : Nat) :
    id' ∈ s'.paths ↔ id' = id ∨ id' ∈ s.paths := by
  by_cases heq : id' = id
  · rw [heq]
    exact ⟨fun _ => Or.inl rfl, fun _ => h.put⟩
  · rw [← lookup_isSome, h.others id' heq, lookup_isSome]
    exact ⟨Or.inr, fun hor => hor.resolve_left heq⟩

theorem Puts.localPaths (h : s.Puts id nxt s') (hnew : id ∉ s.paths) :
    s'.localPaths = s.localPaths + if id % 2 = s.pathParity then 1 else 0 := by
  have hkeys : id ∉ s.paths.keys := fun hmem => hnew (mem_keys.mpr hmem)
  have hperm : s'.paths.keys.Perm (id :: s.paths.keys) :=
    (perm_ext_iff_of_nodup s'.paths.keys_nodup
      (List.nodup_cons.mpr ⟨hkeys, s.paths.keys_nodup⟩)).mpr fun id' => by
        rw [← AList.mem_keys, h.mem_paths, List.mem_cons, AList.mem_keys]
  rw [Session.localPaths, Session.localPaths, pathParity_eq h.perspective, hperm.countP_eq,
    countP_cons]
  simp only [beq_iff_eq]

/-- A path is put under the next local ID, or under one of the other parity. -/
theorem InTurn.puts (h : s.InTurn) (hput : s.Puts id nxt s') (hnew : id ∉ s.paths)
    (hnxt : nxt = (s.pathParity + 2 * s'.localPaths) % 2 ^ 8)
    (hid : id % 2 = s.pathParity → id = s.pathParity + 2 * s.localPaths) : s'.InTurn := by
  obtain ⟨senders, hpm, -, hsub⟩ := hput.pathManager
  have hcount := hput.localPaths hnew
  have hparity := pathParity_eq hput.perspective
  refine ⟨?_, ?_, ?_⟩
  · intro pm' hpm'
    rw [hpm', map_some, some.injEq] at hpm
    rw [hparity, ← hnxt]
    exact (Prod.mk.inj hpm).1
  · intro id' hid' hpar'
    rw [hparity] at hpar' ⊢
    rcases (hput.mem_paths id').mp hid' with rfl | hold
    · rw [if_pos hpar'] at hcount
      omega
    · have := h.below id' hold hpar'
      omega
  · rw [oliaIDs_of_ids hpm]
    intro id' hid'
    rcases mem_cons.mp (hsub hid') with rfl | hold
    · exact hput.put
    · exact (hput.mem_paths id').mpr (Or.inr (h.senders id' hold))

end Session

/-! ## Runs -/

/-- The creations of paths, and the other acts of a session. -/
inductive PathOp (κ : Type)
  | createPath (locAddr remAddr : UDPAddr) (env : Env)
  | createPathFromRemote (p : ReceivedPacket) (env : Env)
  | other (a : Act κ)

namespace PathOp
variable {κ : Type} [SendAlgorithm κ]
open Session

/-- One step. -/
def Step (s : Session κ) : PathOp κ → Session κ → Prop
  | .createPath locAddr remAddr env, s' => s' = (s.createPath locAddr remAddr env).1
  | .createPathFromRemote p env, s' => s' = (s.createPathFromRemote p env).1
  | .other a, s' => ¬ a.IsCreation ∧ a.Does s s'

/-- A session that starts with its initial path. -/
def machine (κ : Type) [SendAlgorithm κ] : Machine (Session κ) (PathOp κ) where
  init s := ∃ perspective version connectionID createPaths params overhead localAddr remoteAddr
    localAddrs now, s = .new perspective version connectionID createPaths params overhead localAddr
      remoteAddr localAddrs now
  step := Step

/-- What the step does to the tables: a creation replaces nothing and takes an ID of the parity
of its side, and the other acts add nothing. -/
def NeverReplaces (s : Session κ) : PathOp κ → Session κ → Prop
  | .createPath .., s' => s' = s ∨ ∃ id, s.Adds id s' ∧ id % 2 = s.pathParity
  | .createPathFromRemote .., s' => s' = s ∨ ∃ id, s.Adds id s' ∧ id % 2 ≠ s.pathParity
  | .other _, s' => s.SameIDs s'

/-- A path is created locally only while an ID is left. -/
def IDLeft (s : Session κ) : PathOp κ → Prop
  | .createPath locAddr remAddr _ => s.hasPath locAddr remAddr = false → s.localPaths < 128
  | _ => True

variable {s : Session κ}

theorem inTurn_init (h : (machine κ).init s) : s.InTurn := by
  obtain ⟨perspective, version, connectionID, createPaths, params, overhead, localAddr, remoteAddr,
    localAddrs, now, rfl⟩ := h
  refine ⟨?_, ?_, ?_⟩
  · intro pm hpm
    obtain ⟨addrs, -, rfl⟩ := map_eq_some_iff.mp hpm
    cases perspective <;> rfl
  · intro id hid hpar
    obtain rfl : id = initialPathID := mem_singleton.mp (mem_keys.mp hid)
    cases perspective with
    | client => exact absurd hpar zero_ne_one
    | server => exact Nat.two_pos
  · intro id hid
    cases localAddrs <;> cases hid

/-- One step keeps the IDs in turn and replaces nothing. -/
theorem inTurn_step {s s' : Session κ} {op : PathOp κ} (h : s.InTurn) (hcond : IDLeft s op)
    (hstep : Step s op s') : s'.InTurn ∧ NeverReplaces s op s' := by
  cases op with
  | createPath locAddr remAddr env =>
    obtain rfl := hstep
    rcases s.createPath_puts locAddr remAddr env with heq | ⟨pm, hpm, hhas, hput⟩
    · rw [heq]
      exact ⟨h, Or.inl rfl⟩
    · have hleft : s.localPaths < 128 := hcond hhas
      have hlt := s.pathParity_lt
      have hid : pm.nxtPathID = s.pathParity + 2 * s.localPaths :=
        (h.next pm hpm).trans (Nat.mod_eq_of_lt (by omega))
      have hparity : pm.nxtPathID % 2 = s.pathParity := by omega
      have hnew : pm.nxtPathID ∉ s.paths := by
        intro hmem
        have := h.below _ hmem hparity
        omega
      have hcount := hput.localPaths hnew
      rw [if_pos hparity] at hcount
      refine ⟨h.puts hput hnew ?_ (fun _ => hid), Or.inr ⟨_, h.adds hput hnew, hparity⟩⟩
      rw [hid, hcount, Nat.mul_add, Nat.add_assoc]
  | createPathFromRemote p env =>
    obtain rfl := hstep
    rcases s.createPathFromRemote_puts p env with heq | ⟨pm, hpm, hnew, hparity, hput⟩
    · rw [heq]
      exact ⟨h, Or.inl rfl⟩
    · have hcount := hput.localPaths hnew
      rw [if_neg hparity] at hcount
      refine ⟨h.puts hput hnew ?_ (fun hpar => absurd hpar hparity),
        Or.inr ⟨_, h.adds hput hnew, hparity⟩⟩
      rw [hcount]
      exact h.next pm hpm
  | other a =>
    have hsame := hstep.2.sameIDs hstep.1
    exact ⟨h.sameIDs hsame, hsame⟩

/-- As long as an ID is left whenever a path is created locally, no creation replaces a path or an
OLIA sender, and the IDs have the parities of their sides. -/
theorem path_ids_never_reused {s s' : Session κ} {op : PathOp κ}
    (h : (machine κ).Reach IDLeft s) (hcond : IDLeft s op) (hstep : Step s op s') :
    NeverReplaces s op s' := by
  have hturn : s.InTurn :=
    h.invariant (P := InTurn) (fun _ hinit => inTurn_init hinit)
      fun _ _ _ hs hc hstep => (inTurn_step hs hc hstep).1
  exact (inTurn_step hturn hcond hstep).2

/-- The loop of `createPaths` over pairs of addresses. -/
theorem reach_createPaths (h : (machine κ).Reach Machine.Always s)
    (addrs : List (UDPAddr × UDPAddr)) (env : Env) : (machine κ).Reach Machine.Always
      (forEach (fun addrs s => s.createPath addrs.1 addrs.2 env) addrs s).1 := by
  refine state_forEach (P := (machine κ).Reach Machine.Always) ?_ h
  intro addrs _ s hs
  exact .step (l := .createPath addrs.1 addrs.2 env) hs trivial rfl

/-! ## Examples -/

/-- A client whose handshake is complete. -/
def readyClient : Session FixedWindow :=
  { (Session.sample .client).installKeys .forwardSecure [] with handshakeComplete := true }

theorem reach_readyClient (C : Session FixedWindow → PathOp FixedWindow → Prop)
    (hC : ∀ s a, C s (.other a)) : (machine FixedWindow).Reach C readyClient := by
  have h₀ : (machine FixedWindow).Reach C (Session.sample .client) :=
    .init ⟨_, _, _, _, _, _, _, _, _, _, rfl⟩
  have h₁ := h₀.step (hC _ (.installKeys .forwardSecure []))
    (by exact ⟨id, .installKeys _ .forwardSecure []⟩)
  exact .step h₁ (hC _ .handshakeCompleted) (by exact ⟨id, .handshakeCompleted _⟩)

/-- A path to an address the server has advertised. -/
def toPort (port : Nat) : PathOp FixedWindow :=
  .createPath (sampleAddr 1 443) (sampleAddr 2 port) { now := 0 }

/-- The client after the creation. -/
def afterPort (s : Session FixedWindow) (port : Nat) : Session FixedWindow :=
  (s.createPath (sampleAddr 1 443) (sampleAddr 2 port) { now := 0 }).1

/-- The client's second path gets the ID 3. -/
theorem second_path_is_new :
    ∃ s, (machine FixedWindow).Reach IDLeft s ∧ s.paths.keys = [1, 0] ∧
      NeverReplaces s (toPort 445) (afterPort s 445) ∧ (afterPort s 445).paths.keys =
        [3, 1, 0] := by
  let s := afterPort readyClient 444
  have h : (machine FixedWindow).Reach IDLeft s :=
    .step (l := toPort 444) (reach_readyClient IDLeft fun _ _ => trivial) (fun _ => by decide) rfl
  exact ⟨s, h, by decide +kernel, path_ids_never_reused h (fun _ => by decide +kernel) rfl,
    by decide +kernel⟩

/-- The server advertises addresses until the client has 128 paths of its own.  The next one gets
the ID 1 again and takes the place of the first. -/
theorem path_129_replaces_path_1 :
    ∃ s, (machine FixedWindow).Reach Machine.Always s ∧
      ¬ NeverReplaces s (toPort 128) (afterPort s 128) := by
  let addrs := (range 128).map fun port => (sampleAddr 1 443, sampleAddr 2 port)
  let s := (forEach (fun addrs s => s.createPath addrs.1 addrs.2 { now := 0 }) addrs readyClient).1
  have hreach : (machine FixedWindow).Reach Machine.Always s :=
    reach_createPaths (reach_readyClient _ fun _ _ => trivial) addrs _
  have hport : (s.paths.lookup 1).map (·.remoteAddr.port) = some 0 ∧
      ((afterPort s 128).paths.lookup 1).map (·.remoteAddr.port) = some 128 := by decide +kernel
  refine ⟨s, hreach, ?_⟩
  rintro (heq | ⟨id, hadds, -⟩)
  · rw [heq, hport.1] at hport
    exact absurd hport.2 (by decide)
  · have hmem : 1 ∈ s.paths := by
      rw [← lookup_isSome, ← isSome_map, hport.1]
      rfl
    rw [hadds.kept 1 hmem, hport.1] at hport
    exact absurd hport.2 (by decide)

end PathOp
end MpQuic
