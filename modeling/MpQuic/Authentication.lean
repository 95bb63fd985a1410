import MpQuic.HandlePacket

/-!
# Packets that fail authentication

A packet whose payload `aead.Open` rejects can come from anyone, so handling it
should leave the session as it was.  It does not always: a packet for a path ID
that the peer is allowed to open creates the path before anything is decrypted,
and a packet for an open path clears the path's `potentiallyFailed` flag.

`Inert` says what has to stay, and `inertWhen` is the exact condition on the
session and the packet under which it does.
-/
namespace MpQuic
open Systems Outcome Option

/-- What of a path only an authenticated packet may change. -/
structure Path.Guarded where
  remoteAddr : UDPAddr
  potentiallyFailed : Bool
  largestRcvdPacketNumber : Nat
  lastRcvdPacketNumber : Nat
  receivedPacketHandler : ReceivedPacketHandler

/-- The guarded part of a path. -/
def Path.guarded {κ : Type} (pth : Path κ) : Path.Guarded where
  remoteAddr := pth.remoteAddr
  potentiallyFailed := pth.potentiallyFailed
  largestRcvdPacketNumber := pth.largestRcvdPacketNumber
  lastRcvdPacketNumber := pth.lastRcvdPacketNumber
  receivedPacketHandler := pth.receivedPacketHandler

namespace Session
variable {κ : Type}

/-- The keys of the table of OLIA senders. -/
def oliaSenders (s : Session κ) : Option (List Nat) := s.pathManager.map (·.oliaSenders)

/-- The paths and their guarded parts, the OLIA senders and the streams are the same, and nothing
has panicked. -/
structure Inert (s : Session κ) (handled : Outcome (Session κ) Err) : Prop where
  paths : ∀ id, (handled.1.paths.lookup id).map Path.guarded = (s.paths.lookup id).map Path.guarded
  oliaSenders : handled.1.oliaSenders = s.oliaSenders
  streams : handled.1.streamsMap = s.streamsMap
  returns : ∀ reason, handled.2 ≠ some (.panic reason)

/-- The path manager does not let the peer open the path of the packet. -/
def refusesPath (s : Session κ) (pathID : Nat) : Prop :=
  s.pathManager.isSome = true ∧ ((s.perspective = .client ∧ pathID % 2 ≠ 0) ∨
    (s.perspective = .server ∧ pathID % 2 = 0))

/-- The path of the packet exists and is closed or not marked as failed, or it does not exist
and the peer may not open it. -/
def inertWhen (s : Session κ) (p : ReceivedPacket) : Prop :=
  match s.paths.lookup p.pathID with
  | some pth => pth.isOpen = false ∨ pth.potentiallyFailed = false
  | none => s.refusesPath p.pathID

variable {s : Session κ} {pth : Path κ} {p : ReceivedPacket} {err : Option Err}

theorem Inert.refl (s : Session κ) (herr : ∀ reason, err ≠ some (.panic reason)) :
    Inert s (s, err) :=
  ⟨fun _ => rfl, rfl, rfl, herr⟩

/-- Replacing a path changes nothing but its guarded part. -/
theorem inert_setPath_iff {pathID : Nat} (pth' : Path κ) (h : s.paths.lookup pathID = some pth)
    (herr : ∀ reason, err ≠ some (.panic reason)) :
    Inert s (s.setPath pathID pth', err) ↔ pth'.guarded = pth.guarded := by
  constructor
  · intro hi
    simpa [h] using hi.paths pathID
  · intro hg
    refine ⟨?_, rfl, rfl, herr⟩
    intro id
    by_cases hid : id = pathID
    · subst hid
      simp [h, hg]
    · rw [lookup_setPath_of_ne s pth' hid]

/-- The activity time of the session and its keep alive flag are not among what has to stay. -/
theorem inert_activity_iff {handled : Outcome (Session κ) Err} {t : Int} {b : Bool} :
    Inert { s with lastNetworkActivityTime := t, keepAlivePingSent := b } handled ↔
      Inert s handled :=
  ⟨fun h => ⟨h.paths, h.oliaSenders, h.streams, h.returns⟩,
    fun h => ⟨h.paths, h.oliaSenders, h.streams, h.returns⟩⟩

variable [SendAlgorithm κ]

/-- What a packet for an existing path does that does not open. -/
theorem handlePathPacket_unopened (env : Env) (hopen : p.opened = none)
    (h : s.paths.lookup p.pathID = some pth) :
    s.handlePathPacket p env =
      if pth.isOpen then
        (s.setPath p.pathID
          { pth with lastNetworkActivityTime := p.rcvTime, potentiallyFailed := false },
          some .decryptionFailure)
      else (s, none) := by
  cases hp : pth.isOpen <;>
    simp [handlePathPacket, openPacket, handleFrames, forEach, h, hopen, hp, unpack]

/-- A packet for an existing path is inert unless it clears the flag. -/
theorem inert_handlePathPacket_iff (env : Env) (hopen : p.opened = none)
    (h : s.paths.lookup p.pathID = some pth) :
    Inert s (s.handlePathPacket p env) ↔ pth.isOpen = false ∨ pth.potentiallyFailed = false := by
  rw [handlePathPacket_unopened env hopen h]
  cases hp : pth.isOpen
  · simp [Inert.refl]
  · rw [if_pos rfl, inert_setPath_iff _ h (by simp)]
    simp only [Path.guarded, Path.Guarded.mk.injEq, true_and, and_true, reduceCtorEq, false_or]
    exact eq_comm

theorem createPathFromRemote_refused (env : Env) (h : s.paths.lookup p.pathID = none)
    (hr : s.refusesPath p.pathID) :
    ∃ e, (∀ reason, e ≠ .panic reason) ∧ s.createPathFromRemote p env = (s, some e) := by
  obtain ⟨hpm, hr⟩ := hr
  obtain ⟨pm, hpm⟩ := isSome_iff_exists.mp hpm
  rcases hr with hr | hr
  · exact ⟨.serverCreatesOddPath, by simp, by simp [createPathFromRemote, hpm, h, hr]⟩
  · exact ⟨.clientCreatesEvenPath, by simp, by simp [createPathFromRemote, hpm, h, hr]⟩

/-- A path the peer may open is in the table before the packet is decrypted, and without a path
manager there is a nil pointer. -/
theorem createPathFromRemote_accepted (env : Env) (h : s.paths.lookup p.pathID = none)
    (hr : ¬ s.refusesPath p.pathID) :
    (∃ s' pth, s.createPathFromRemote p env = (s', none) ∧
      s'.paths.lookup p.pathID = some pth) ∨
    ∃ reason, s.createPathFromRemote p env = (s, some (.panic reason)) := by
  cases hpm : s.pathManager with
  | none => exact .inr ⟨_, by rw [createPathFromRemote, hpm]⟩
  | some pm =>
    simp only [refusesPath, hpm, isSome_some, true_and, not_or] at hr
    obtain ⟨pth, hpth⟩ := isSome_iff_exists.mp
      (s.isSome_lookup_addPath pm p.pathID p.localAddr p.remoteAddr env)
    refine .inl ⟨_, pth, ?_, hpth⟩
    simp only [createPathFromRemote, hpm, h, isSome_none, Bool.false_eq_true, if_false]
    rw [if_neg hr.1, if_neg hr.2]

/-- Handling a packet for an existing path does not remove it. -/
theorem handlePathPacket_keeps_path (env : Env) (hopen : p.opened = none)
    (h : s.paths.lookup p.pathID = some pth) :
    ((s.handlePathPacket p env).1.paths.lookup p.pathID).isSome := by
  rw [handlePathPacket_unopened env hopen h]
  split <;> simp [h]

/-- The path is looked up or created, and then handles the packet. -/
theorem inert_route_iff (s : Session κ) (env : Env) (hopen : p.opened = none) :
    Inert s (andThen (if (s.paths.lookup p.pathID).isSome then (s, none)
      else s.createPathFromRemote p env) fun s => s.handlePathPacket p env) ↔ s.inertWhen p := by
  unfold inertWhen
  cases h : s.paths.lookup p.pathID with
  | some pth => simpa using inert_handlePathPacket_iff env hopen h
  | none =>
    simp only [isSome_none, Bool.false_eq_true, if_false]
    by_cases hr : s.refusesPath p.pathID
    · obtain ⟨e, hne, he⟩ := createPathFromRemote_refused env h hr
      rw [he]
      exact iff_of_true (Inert.refl s (by simpa using hne)) hr
    · refine iff_of_false (fun hi => ?_) hr
      rcases createPathFromRemote_accepted env h hr with ⟨s', pth, hs', hpth⟩ | ⟨reason, hpanic⟩
      · have hkept := handlePathPacket_keeps_path env hopen hpth
        have hsame := hi.paths p.pathID
        rw [hs', andThen_none, h, map_none, map_eq_none_iff] at hsame
        simp [hsame] at hkept
      · exact hi.returns reason (by rw [hpanic]; rfl)

/-- **A packet that fails authentication is inert exactly when** its path exists and is closed or
not marked as potentially failed, or does not exist and may not be opened by the peer. -/
theorem unopened_packet_inert_iff (s : Session κ) (p : ReceivedPacket) (env : Env)
    (hopen : p.opened = none) : Inert s (s.handlePacketImpl p env) ↔ s.inertWhen p :=
  inert_activity_iff.symm.trans
    (inert_route_iff { s with lastNetworkActivityTime := p.rcvTime, keepAlivePingSent := false }
      env hopen)

/-- A packet of an attacker. -/
def forgedPacket (pathID : Nat) : ReceivedPacket where
  pathID := pathID
  packetNumber := 1
  packetNumberLen := 1
  localAddr := sampleAddr 1 443
  remoteAddr := sampleAddr 66 6666
  rcvTime := 1
  opened := none

/-- A forged packet for the initial path, which is open. -/
theorem unopened_packet_inert_open_path :
    (sample .server).inertWhen (forgedPacket 0) ∧
      ((sample .server).handlePacketImpl (forgedPacket 0) { now := 1 }).2 =
        some .decryptionFailure ∧
      Inert (sample .server) ((sample .server).handlePacketImpl (forgedPacket 0) { now := 1 }) := by
  have hopen : (sample .server).inertWhen (forgedPacket 0) := .inr rfl
  exact ⟨hopen, by decide, (unopened_packet_inert_iff _ _ _ rfl).mpr hopen⟩

/-- A packet that does not open, sent to a server for path 1, creates the path. -/
theorem forged_packet_creates_path :
    (forgedPacket 1).opened = none ∧
      ((sample .server).handlePacketImpl (forgedPacket 1) { now := 1 }).1.paths.keys = [1, 0] ∧
      ¬ Inert (sample .server)
        ((sample .server).handlePacketImpl (forgedPacket 1) { now := 1 }) := by
  refine ⟨rfl, by decide, ?_⟩
  intro hi
  have hsame := hi.paths 1
  have hnone : (sample .server).paths.lookup 1 = none := by decide
  have hsome : (((sample .server).handlePacketImpl (forgedPacket 1) { now := 1 }).1.paths.lookup
      1).isSome := by decide
  rw [hnone, map_none, map_eq_none_iff] at hsame
  simp [hsame] at hsome

end Session
end MpQuic
