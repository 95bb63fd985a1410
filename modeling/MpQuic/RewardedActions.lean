import MpQuic.Connection
import MpQuic.SacLearning

/-!
# Actions and the acknowledgements that reward them

A connection with the scheduler `sac` or `sacmulti`, the table of rewards it shares with
other sessions, and two histories: the actions recorded for packets, and the actions
credited for ACK frames.  `sendPacket` records an action under the number of the packet
sent; `handleAckFrame` looks for one under the number of the packet that brought the ACK,
which the peer has chosen.
-/
namespace MpQuic
open Systems Outcome Option Session

namespace Session
variable {κ : Type} [SendAlgorithm κ]

/-! ## Parts of receiving and sending -/

/-- The beginning of `session.handlePacketImpl`: the path of the packet is looked up or created. -/
def findPath (s : Session κ) (p : ReceivedPacket) (env : Env) : Outcome (Session κ) Err :=
  let s := { s with lastNetworkActivityTime := p.rcvTime, keepAlivePingSent := false }
  if (s.paths.lookup p.pathID).isSome then (s, none) else s.createPathFromRemote p env

/-- `session.handlePacketImpl` up to the frames. -/
def acceptPacket (s : Session κ) (p : ReceivedPacket) (env : Env) :
    Outcome (Session κ) Err × List (Frame StreamFrame) :=
  match s.findPath p env with
  | (s, some e) => ((s, some e), [])
  | (s, none) => s.openPacket p env

theorem handlePacketImpl_eq (s : Session κ) (p : ReceivedPacket) (env : Env) :
    s.handlePacketImpl p env = (s.acceptPacket p env).1.andThen fun s' =>
      s'.handleFrames (s.acceptPacket p env).2 p.pathID env := by
  change (s.findPath p env).andThen (fun s => s.handlePathPacket p env) = _
  rw [acceptPacket]
  generalize s.findPath p env = found
  obtain ⟨s', _ | e⟩ := found
  · rfl
  · rfl

/-- The packet that a round of `sendPacket` has sent on the path selected. -/
def sentOn (s : Session κ) (windowUpdateFrames : List WindowUpdateFrame) (r : Retransmission)
    (pth : Path κ) (env : Env) : Option Packet :=
  match pth.getAckFrame env.now with
  | .error _ => none
  | .ok (pth, ack) =>
    let (s, pth) := s.queueAck pth ack r.hasStreamRetransmission
    match s.queueFramerFrames.performPacketSending windowUpdateFrames pth env with
    | ((_, none), pkt) => pkt
    | ((_, some _), _) => none

/-- The path and the number of the packet that a round of `sendPacket` has sent, if it gets to the
end of the loop. -/
def sentSelected (got : Dequeued κ) (windowUpdateFrames : List WindowUpdateFrame)
    (selected : Selected) (env : Env) : Option (Nat × Nat) :=
  match selected with
  | .ok (some pathID) =>
    match got.session.paths.lookup pathID, got.retransmitPacket with
    | some pth, none =>
      (got.session.sentOn windowUpdateFrames got.retransmission pth env).map fun pkt =>
        (pth.pathID, pkt.packetNumber)
    | _, _ => none
  | _ => none

/-- An ACK frame changes neither the path's ID nor the number of the packet it came in. -/
theorem lookup_handleAckFrame {s : Session κ} {f : AckFrame} {env : Env} {pth' : Path κ}
    (h : (s.handleAckFrame f env).1.paths.lookup f.pathID = some pth') :
    ∃ pth, s.paths.lookup f.pathID = some pth ∧ pth'.pathID = pth.pathID ∧
      pth'.lastRcvdPacketNumber = pth.lastRcvdPacketNumber := by
  rw [handleAckFrame] at h
  split at h
  · next hnone =>
    rw [hnone] at h
    cases h
  next pth hpth =>
  refine ⟨pth, hpth, ?_⟩
  dsimp only at h
  split at h
  · rw [updateSessionRTT] at h
    split at h
    · rw [lookup_setPath_self] at h
      cases h
      exact ⟨rfl, rfl⟩
    · next pth₀ hpth₀ =>
      by_cases hid : f.pathID = initialPathID
      · rw [hid, lookup_setPath_self] at hpth₀ h
        cases hpth₀
        cases h
        exact ⟨rfl, rfl⟩
      · rw [lookup_setPath_of_ne _ _ hid, lookup_setPath_self] at h
        cases h
        exact ⟨rfl, rfl⟩
  · rw [lookup_setPath_self] at h
    cases h
    exact ⟨rfl, rfl⟩

end Session

/-! ## Connections that learn -/

/-- An action recorded for a packet. -/
structure Recorded where
  pathID : Nat
  packetNumber : Nat
  action : ℚ
  deriving DecidableEq

/-- An action credited with a reward, and the ACK frame that has brought it. -/
structure Credit where
  frame : AckFrame
  pathID : Nat
  action : ℚ
  deriving DecidableEq

/-- A connection and what its scheduler learns.  The last two fields are not part of the source:
all actions recorded and credited. -/
structure Learning (κ σ : Type) where
  connection : Connection κ
  scheduler : SacScheduler σ
  rewards : RewardTable σ
  sessionCreationTime : Int
  recorded : List Recorded := []
  credits : List Credit := []

/-- What happens next: a packet is received, a packet is sent, something else happens to the
connection, the model server answers a request, or other sessions change the table. -/
inductive LearningEvent (κ σ : Type)
  | receive (p : ReceivedPacket) (env : Env)
  | sendRound (draw : ℚ) (stateData : σ) (env : Env)
  | event (e : Event κ)
  | action (i : Nat) (probability : Option ℚ)
  | others (rewards : RewardTable σ)

/-- The events that the schedulers learn from. -/
def Event.learnsFrom {κ : Type} : Event κ → Bool
  | .receive .. | .sendRound .. => true
  | _ => false

namespace Learning
variable {κ σ : Type} [SendAlgorithm κ]

/-- A change of the session. -/
def withSession (l : Learning κ σ) (session : Session κ) : Learning κ σ :=
  { l with connection := l.connection.withSession session }

omit [SendAlgorithm κ] in
theorem scheduler_withSession (l : Learning κ σ) (session : Session κ) :
    (l.withSession session).scheduler = l.scheduler := rfl

/-- The end of `handleAckFrame`: the reward for the path of the frame. -/
def rewardAction (l : Learning κ σ) (frame : AckFrame) (env : Env) : Learning κ σ :=
  match l.connection.session.paths.lookup frame.pathID with
  | none => l
  | some pth =>
    if pth.pathID = initialPathID then l
    else
      let reward := sacReward (env.now - l.sessionCreationTime) pth
      let action := l.scheduler.oldAction pth.pathID pth.lastRcvdPacketNumber
      let credited := (l.scheduler.ownPayload l.rewards action).isSome
      { l with
        rewards := (l.scheduler.getStateAndReward l.rewards pth.pathID pth.lastRcvdPacketNumber
          reward).1
        credits := if credited then { frame, pathID := pth.pathID, action } :: l.credits
          else l.credits }

/-- A case of `handleFrames`. -/
def handleFrame (pathID : Nat) (env : Env) (frame : Frame StreamFrame) (l : Learning κ σ) :
    Outcome (Learning κ σ) Err :=
  let (session, err) := l.connection.session.handleFrame pathID env frame
  let l := l.withSession session
  match frame, err with
  | .ack f, none => (l.rewardAction f env, none)
  | _, _ => (l, err)

/-- `handleFrames`. -/
def handleFrames (l : Learning κ σ) (fs : List (Frame StreamFrame)) (pathID : Nat) (env : Env) :
    Outcome (Learning κ σ) Err :=
  forEach (fun f l => (l.handleFrame pathID env f).ignoring ignoredError) fs l

/-- `session.handlePacketImpl`. -/
def handlePacketImpl (l : Learning κ σ) (p : ReceivedPacket) (env : Env) :
    Outcome (Learning κ σ) Err :=
  match l.connection.session.acceptPacket p env with
  | ((s, some e), _) => (l.withSession s, some e)
  | ((s, none), fs) => (l.withSession s).handleFrames fs p.pathID env

/-- The end of a round of `sendPacket`: the action of the packet sent. -/
def record (l : Learning κ σ) (pathID packetNumber : Nat) : Learning κ σ :=
  { l with
    scheduler := l.scheduler.record pathID packetNumber
    recorded := if 0 < pathID ∧ 0 < packetNumber then
      { pathID, packetNumber, action := l.scheduler.currentProb } :: l.recorded else l.recorded }

/-- A round of `sendPacket`. -/
def sendRound (l : Learning κ σ) (draw : ℚ) (stateData : σ) (env : Env) : Learning κ σ :=
  let c := l.connection
  let windowUpdateFrames := c.sending.getD []
  let got := c.session.getRetransmission env
  let (selected, scheduler, rewards) :=
    l.scheduler.selectPath l.rewards draw stateData got.session got.retransmission env
  let (sent, next) := sendSelected got windowUpdateFrames selected env
  let connection := { c.after sent with sending := if sent.2.isSome then none else next }
  let l := { l with connection, scheduler, rewards }
  match sentSelected got windowUpdateFrames selected env with
  | none => l
  | some (pathID, packetNumber) => l.record pathID packetNumber

/-- The state after an event. -/
def apply (l : Learning κ σ) : LearningEvent κ σ → Learning κ σ
  | .receive p env =>
    let (l, err) := (l.handlePacketImpl p env).ignoring (· == .decryptionFailure)
    { l with connection := { l.connection with error := err } }
  | .sendRound draw stateData env => l.sendRound draw stateData env
  | .event e => { l with connection := l.connection.apply e }
  | .action i probability =>
    let (scheduler, rewards) := l.scheduler.receiveAction l.rewards i probability
    { l with scheduler, rewards }
  | .others rewards => { l with rewards }

/-- When an event is possible. -/
def Enabled (l : Learning κ σ) : LearningEvent κ σ → Prop
  | .receive p env => l.connection.Enabled (.receive p env)
  | .sendRound _ _ env => l.connection.Running ∧ l.connection.sending.isSome ∧ env.Valid
  | .event e => l.connection.Enabled e ∧ e.learnsFrom = false
  | .action .. | .others _ => True

/-- A new connection with a new scheduler; other sessions may have filled the table. -/
inductive Initial : Learning κ σ → Prop
  | new {connection : Connection κ} (h : connection.Initial) (kind : RewardPayload) (modelID : Nat)
      (rewards : RewardTable σ) (sessionCreationTime : Int) :
      Initial { connection, scheduler := { kind, modelID }, rewards, sessionCreationTime }

/-- The connections with the scheduler `sac` or `sacmulti`. -/
def machine (κ σ : Type) [SendAlgorithm κ] : Machine (Learning κ σ) (LearningEvent κ σ) where
  init := Initial
  step l e l' := l.Enabled e ∧ l' = l.apply e

/-! ## Learning changes nothing else -/

omit [SendAlgorithm κ] in
theorem connection_rewardAction (l : Learning κ σ) (frame : AckFrame) (env : Env) :
    (l.rewardAction frame env).connection = l.connection := by
  rw [rewardAction]
  split
  · rfl
  · split <;> rfl

/-- A session that handles a frame, inside its connection. -/
theorem handleFrame_connection (l : Learning κ σ) (pathID : Nat) (env : Env)
    (frame : Frame StreamFrame) :
    (l.handleFrame pathID env frame).1.connection =
        l.connection.withSession (l.connection.session.handleFrame pathID env frame).1 ∧
      (l.handleFrame pathID env frame).2 =
        (l.connection.session.handleFrame pathID env frame).2 := by
  rw [handleFrame]
  generalize l.connection.session.handleFrame pathID env frame = handled
  obtain ⟨session, err⟩ := handled
  dsimp only
  split
  · exact ⟨connection_rewardAction .., rfl⟩
  · exact ⟨rfl, rfl⟩

theorem handleFrames_connection (l : Learning κ σ) (fs : List (Frame StreamFrame)) (pathID : Nat)
    (env : Env) :
    (l.handleFrames fs pathID env).1.connection =
        l.connection.withSession (l.connection.session.handleFrames fs pathID env).1 ∧
      (l.handleFrames fs pathID env).2 = (l.connection.session.handleFrames fs pathID env).2 := by
  induction fs generalizing l with
  | nil => exact ⟨rfl, rfl⟩
  | cons f fs ih =>
    obtain ⟨hconnection, herr⟩ := l.handleFrame_connection pathID env f
    rw [handleFrames, Session.handleFrames, forEach, forEach]
    generalize l.handleFrame pathID env f = learned at hconnection herr
    generalize l.connection.session.handleFrame pathID env f = handled at hconnection herr
    obtain ⟨l', err⟩ := learned
    obtain ⟨s', err'⟩ := handled
    obtain rfl : err = err' := herr
    rw [ignoring, ignoring, andThen, andThen]
    cases err.filter fun e => !ignoredError e with
    | none =>
      have hrest := ih l'
      rw [show l'.connection = l.connection.withSession s' from hconnection] at hrest
      exact hrest
    | some e => exact ⟨hconnection, rfl⟩

/-- **Receiving a packet with learning is receiving it.** -/
theorem connection_apply_receive (l : Learning κ σ) (p : ReceivedPacket) (env : Env) :
    (l.apply (.receive p env)).connection = l.connection.apply (.receive p env) := by
  have hhandled : (l.handlePacketImpl p env).1.connection =
      l.connection.withSession (l.connection.session.handlePacketImpl p env).1 ∧
      (l.handlePacketImpl p env).2 = (l.connection.session.handlePacketImpl p env).2 := by
    rw [handlePacketImpl, handlePacketImpl_eq]
    generalize l.connection.session.acceptPacket p env = accepted
    obtain ⟨⟨s, _ | e⟩, fs⟩ := accepted
    · exact handleFrames_connection (l.withSession s) fs p.pathID env
    · exact ⟨rfl, rfl⟩
  rw [apply, Connection.apply, Connection.after, ignoring, ignoring]
  dsimp only
  rw [hhandled.1, hhandled.2]
  rfl

/-! ## The condition -/

/-- For the path of an ACK frame the number of the last packet received is one of ours that the
frame acknowledges, or at least no action with a reward is recorded under it.  A number without an
action stands for the action 0. -/
def AckFits (l : Learning κ σ) (frame : AckFrame) : Prop :=
  ∀ pth, l.connection.session.paths.lookup frame.pathID = some pth →
    pth.pathID ≠ initialPathID →
    match l.scheduler.listAction pth.pathID pth.lastRcvdPacketNumber with
    | none => l.scheduler.ownPayload l.rewards 0 = none
    | some action => (l.scheduler.ownPayload l.rewards action).isSome →
        frame.acksPacket pth.lastRcvdPacketNumber = true

/-- Every ACK frame that `handleFrames` gets to fits. -/
def FramesFit (pathID : Nat) (env : Env) : List (Frame StreamFrame) → Learning κ σ → Prop
  | [], _ => True
  | f :: fs, l => (∀ frame, f = .ack frame → l.AckFits frame) ∧
      ∀ l', (l.handleFrame pathID env f).ignoring ignoredError = (l', none) →
        FramesFit pathID env fs l'

/-- The ACK frames of a packet received fit. -/
def AcksFit (l : Learning κ σ) : LearningEvent κ σ → Prop
  | .receive p env => ∀ s fs, l.connection.session.acceptPacket p env = ((s, none), fs) →
      FramesFit p.pathID env fs (l.withSession s)
  | _ => True

/-! ## What a run keeps -/

/-- A credited action is one recorded for a packet of the path that the frame acknowledges. -/
def Earned (recorded : List Recorded) (credit : Credit) : Prop :=
  ∃ packetNumber, ⟨credit.pathID, packetNumber, credit.action⟩ ∈ recorded ∧
    credit.frame.acksPacket packetNumber = true

/-- The scheduler's table holds actions that were recorded, and all credits are earned. -/
structure Sound (l : Learning κ σ) : Prop where
  listAction : ∀ pathID packetNumber action,
    l.scheduler.listAction pathID packetNumber = some action →
      ⟨pathID, packetNumber, action⟩ ∈ l.recorded
  credits : ∀ credit ∈ l.credits, Earned l.recorded credit

omit [SendAlgorithm κ] in
theorem Earned.mono {recorded recorded' : List Recorded} {credit : Credit}
    (h : Earned recorded credit) (hsub : recorded ⊆ recorded') : Earned recorded' credit := by
  obtain ⟨n, hn, hacks⟩ := h
  exact ⟨n, hsub hn, hacks⟩

omit [SendAlgorithm κ] in
/-- Soundness only depends on what is recorded and credited. -/
theorem Sound.congr {l l' : Learning κ σ} (h : l.Sound)
    (hlist : l'.scheduler.listAction = l.scheduler.listAction)
    (hrecorded : l'.recorded = l.recorded)
    (hcredits : l'.credits = l.credits) : l'.Sound := by
  constructor
  · rw [hlist, hrecorded]
    exact h.listAction
  · rw [hrecorded, hcredits]
    exact h.credits

variable {l : Learning κ σ} {env : Env} {pathID : Nat}

omit [SendAlgorithm κ] in
theorem Sound.record (h : l.Sound) (pathID packetNumber : Nat) :
    (l.record pathID packetNumber).Sound := by
  rw [Learning.record]
  by_cases hpos : 0 < pathID ∧ 0 < packetNumber
  · constructor
    · intro id n action haction
      rw [SacScheduler.record, if_pos hpos] at haction
      dsimp only at haction ⊢
      rw [if_pos hpos]
      by_cases hid : id = pathID
      · subst hid
        rw [Function.update_self] at haction
        by_cases hn : n = packetNumber
        · subst hn
          rw [Function.update_self, some_inj] at haction
          rw [haction]
          exact List.mem_cons_self
        · rw [Function.update_of_ne hn] at haction
          exact List.mem_cons_of_mem _ (h.listAction id n action haction)
      · rw [Function.update_of_ne hid] at haction
        exact List.mem_cons_of_mem _ (h.listAction id n action haction)
    · intro credit hcredit
      dsimp only
      rw [if_pos hpos]
      exact (h.credits credit hcredit).mono (List.subset_cons_self _ _)
  · refine h.congr ?_ (if_neg hpos) rfl
    rw [SacScheduler.record, if_neg hpos]

omit [SendAlgorithm κ] in
/-- The reward of an ACK frame that fits is earned. -/
theorem Sound.rewardAction (h : l.Sound) {frame : AckFrame} (hfits : l.AckFits frame) :
    (l.rewardAction frame env).Sound := by
  rw [Learning.rewardAction]
  split
  · exact h
  next pth hpth =>
  split
  · exact h
  next hid =>
  refine ⟨h.listAction, ?_⟩
  have hfits := hfits pth hpth hid
  intro credit hcredit
  dsimp only at hcredit ⊢
  rw [SacScheduler.oldAction] at hcredit
  cases haction : l.scheduler.listAction pth.pathID pth.lastRcvdPacketNumber with
  | none =>
    rw [haction] at hfits hcredit
    rw [getD_none, hfits] at hcredit
    exact h.credits credit hcredit
  | some action =>
    rw [haction] at hfits hcredit
    rw [getD_some] at hcredit
    by_cases hcredited : (l.scheduler.ownPayload l.rewards action).isSome
    · rw [if_pos hcredited] at hcredit
      rcases List.mem_cons.mp hcredit with rfl | hold
      · exact ⟨pth.lastRcvdPacketNumber, h.listAction _ _ _ haction, hfits hcredited⟩
      · exact h.credits credit hold
    · rw [if_neg hcredited] at hcredit
      exact h.credits credit hcredit

/-- One frame. -/
theorem Sound.handleFrame (h : l.Sound) {f : Frame StreamFrame}
    (hfits : ∀ frame, f = .ack frame → l.AckFits frame) : (l.handleFrame pathID env f).1.Sound := by
  rw [Learning.handleFrame]
  generalize hhandled : l.connection.session.handleFrame pathID env f = handled
  obtain ⟨session, err⟩ := handled
  have hsession : (l.withSession session).Sound := h.congr rfl rfl rfl
  dsimp only
  split
  · next frame =>
    refine hsession.rewardAction ?_
    -- the path of the frame is the one it was before, but for what it has sent
    intro pth' hpth' hid
    have hlookup : (l.connection.session.handleAckFrame frame env).1.paths.lookup frame.pathID =
        some pth' := by
      rw [show l.connection.session.handleAckFrame frame env = (session, none) from hhandled]
      exact hpth'
    obtain ⟨pth, hpth, hsame, hlast⟩ := lookup_handleAckFrame hlookup
    rw [hsame, hlast]
    exact hfits frame rfl pth hpth (hsame ▸ hid)
  · exact hsession

theorem Sound.handleFrames {fs : List (Frame StreamFrame)} (h : l.Sound)
    (hfits : FramesFit pathID env fs l) : (l.handleFrames fs pathID env).1.Sound := by
  induction fs generalizing l with
  | nil => exact h
  | cons f fs ih =>
    have hframe : (l.handleFrame pathID env f).1.Sound := h.handleFrame hfits.1
    rw [Learning.handleFrames, forEach, andThen]
    cases hresult : ((l.handleFrame pathID env f).ignoring ignoredError).2 with
    | some e => exact hframe
    | none => exact ih hframe (hfits.2 _ (Prod.ext rfl hresult))

omit [SendAlgorithm κ] in
theorem listAction_observe (sch : SacScheduler σ) (rewards : RewardTable σ) (stateData : σ) :
    (sch.observe rewards stateData).1.listAction = sch.listAction := by
  rw [SacScheduler.observe]
  split_ifs
  · rfl
  · rfl
  · cases rewards sch.currentProb with
    | none => rfl
    | some rewardPayload =>
      dsimp only
      split_ifs <;> rfl
  · rfl

omit [SendAlgorithm κ] in
theorem listAction_receiveAction (sch : SacScheduler σ) (rewards : RewardTable σ) (i : Nat)
    (probability : Option ℚ) :
    (sch.receiveAction rewards i probability).1.listAction = sch.listAction := by
  rw [SacScheduler.receiveAction]
  cases sch.requests[i]? with
  | none => rfl
  | some state => cases probability <;> rfl

theorem Sound.sendRound (h : l.Sound) (draw : ℚ) (stateData : σ) (env : Env) :
    (l.sendRound draw stateData env).Sound := by
  rw [Learning.sendRound]
  dsimp only
  generalize l.connection.session.getRetransmission env = got
  have hlist : (l.scheduler.selectPath l.rewards draw stateData got.session got.retransmission
      env).2.1.listAction = l.scheduler.listAction := by
    rw [SacScheduler.selectPath]
    split
    · exact listAction_observe ..
    · rfl
  split
  · exact h.congr hlist rfl rfl
  · refine Sound.record ?_ _ _
    exact h.congr hlist rfl rfl

/-- One event. -/
theorem Sound.apply (h : l.Sound) {e : LearningEvent κ σ} (hfits : l.AcksFit e) :
    (l.apply e).Sound := by
  cases e with
  | receive p env =>
    suffices hhandled : (l.handlePacketImpl p env).1.Sound from hhandled.congr rfl rfl rfl
    rw [handlePacketImpl]
    split
    · exact h.congr rfl rfl rfl
    · next s fs haccepted =>
      have hsession : (l.withSession s).Sound := h.congr rfl rfl rfl
      exact hsession.handleFrames (hfits s fs haccepted)
  | sendRound draw stateData env => exact h.sendRound draw stateData env
  | event e => exact h.congr rfl rfl rfl
  | action i probability =>
    exact h.congr (listAction_receiveAction l.scheduler l.rewards i probability) rfl rfl
  | others rewards => exact h.congr rfl rfl rfl

theorem Initial.sound (h : Initial l) : l.Sound := by
  obtain ⟨_, kind, modelID, rewards, time⟩ := h
  constructor
  · intro pathID n action haction
    cases haction
  · intro credit hcredit
    cases hcredit

/-- **Rewards go to acknowledged actions**, in every run in which the number of a packet that brings
an ACK is the number of a packet the ACK acknowledges, wherever an action with a reward is recorded
under that number. -/
theorem credits_earned {l : Learning κ σ} (h : (machine κ σ).Reach AcksFit l) :
    ∀ credit ∈ l.credits, Earned l.recorded credit := by
  have hsound : l.Sound := by
    refine h.invariant (P := Sound) (fun l hinit => hinit.sound) ?_
    intro l e l' hl hfits hstep
    rw [hstep.2]
    exact hl.apply hfits
  exact hsound.credits

/-! ## Two runs -/

/-- A client that uses `sac`. -/
def client : Learning FixedWindow Unit :=
  { connection := ⟨sample .client, none, none, false⟩
    scheduler := { kind := .dqn, modelID := 1 }
    rewards := fun _ => none
    sessionCreationTime := 0 }

/-- The surroundings at a point in time. -/
def atTime (now : Int) : Env := { now }

/-- The client opens the paths 1 and 3 and sends data on both.  The model server then answers its
request with the probability 1/4, and the client sends data again. -/
def sending : List (LearningEvent FixedWindow Unit) :=
  let addrs := [sampleAddr 1 443, sampleAddr 3 443, sampleAddr 5 443]
  [ .event (.installKeys .forwardSecure []), .event .handshakeCompleted,
    .event (.runPathManager addrs true (atTime 1)), .event .openStream, .event (.write 3 [1]),
    .event (.startSending (atTime 2)), .sendRound 0 () (atTime 3), .sendRound 0 () (atTime 4),
    .sendRound 0 () (atTime 5), .action 0 (some (1 / 4)), .event (.write 3 [2]),
    .event (.startSending (atTime 6)), .sendRound (1 / 2) () (atTime 7),
    .sendRound (1 / 2) () (atTime 8), .sendRound (1 / 2) () (atTime 9) ]

/-- The surroundings of an event. -/
def env? : LearningEvent FixedWindow Unit → Option Env
  | .receive _ env | .sendRound _ _ env => some env
  | .event e => e.env
  | _ => none

/-- An event is possible, whatever it finds in its surroundings. -/
def ready (l : Learning FixedWindow Unit) : LearningEvent FixedWindow Unit → Bool
  | .receive p env => l.connection.ready (.receive p env)
  | .sendRound .. => l.connection.error.isNone && !l.connection.closed &&
      l.connection.sending.isSome
  | .event e => l.connection.ready e && !e.learnsFrom
  | _ => true

theorem enabled_of_ready {l : Learning FixedWindow Unit} {e : LearningEvent FixedWindow Unit}
    (h : l.ready e = true) (henv : ∀ env ∈ env? e, env.Valid) : l.Enabled e := by
  cases e with
  | receive p env =>
    have hready : l.connection.ready (.receive p env) = true := h
    exact Connection.enabled_of_ready hready henv
  | sendRound draw stateData env =>
    rw [ready, Bool.and_eq_true, Bool.and_eq_true, isNone_iff_eq_none, Bool.not_eq_true'] at h
    exact ⟨⟨h.1.1, h.1.2⟩, h.2, henv env rfl⟩
  | event e =>
    rw [ready, Bool.and_eq_true, Bool.not_eq_true'] at h
    exact ⟨Connection.enabled_of_ready h.1 henv, h.2⟩
  | action i probability => trivial
  | others rewards => trivial

/-- The client after sending. -/
def sent : Learning FixedWindow Unit := sending.foldl apply client

theorem reach_sent (C : Learning FixedWindow Unit → LearningEvent FixedWindow Unit → Prop)
    (hC : ∀ l, ∀ e ∈ sending, C l e) : (machine FixedWindow Unit).Reach C sent := by
  have hstart : (machine FixedWindow Unit).Reach C client :=
    .init (.new (.new _ _ _ _ _ _ _ (fun _ => by decide) ..) .dqn 1 (fun _ => none) 0)
  have henv : ∀ e ∈ sending, ∀ env ∈ env? e, env.Valid := by
    simp [sending, env?, Event.env, Env.Valid, atTime]
  refine hstart.foldl_of_mem (P := fun l e => l.ready e = true) ?_ (by decide +kernel)
  intro l e he hready
  exact ⟨hC l e he, enabled_of_ready hready (henv e he), rfl⟩

/-- A packet with the number 3 on path 1, with an ACK for all packets of that path up to one. -/
def packetWithAck (largestAcked : Byte) : ReceivedPacket where
  pathID := 1
  packetNumber := 3
  packetNumberLen := 1
  localAddr := sampleAddr 3 443
  remoteAddr := sampleAddr 2 443
  rcvTime := 10
  opened := some ([0x50, 1, largestAcked, 0, 0, largestAcked, 0], .forwardSecure)

/-- The ACK frame in it. -/
def ackOf (largestAcked : Nat) : AckFrame :=
  { pathID := 1, largestAcked, lowestAcked := 1, ackRanges := []
    packetReceivedTime := 0, delayTime := 0 }

/-- The client when it has received the packet. -/
def acked (largestAcked : Byte) : Learning FixedWindow Unit :=
  sent.apply (.receive (packetWithAck largestAcked) (atTime 10))

theorem reach_acked {C : Learning FixedWindow Unit → LearningEvent FixedWindow Unit → Prop}
    (hC : ∀ l, ∀ e ∈ sending, C l e) (largestAcked : Byte)
    (hreceive : C sent (.receive (packetWithAck largestAcked) (atTime 10))) :
    (machine FixedWindow Unit).Reach C (acked largestAcked) := by
  have hready : sent.ready (.receive (packetWithAck largestAcked) (atTime 10)) = true := by
    change sent.connection.ready (.receive (packetWithAck largestAcked) (atTime 10)) = true
    rw [Connection.ready]
    decide +kernel
  refine .step (reach_sent C hC) hreceive ⟨enabled_of_ready hready ?_, rfl⟩
  rintro env ⟨⟩
  exact fun _ _ => .refl _

/-- The action of packet 3 is rewarded for an ACK of the packets 1 to 3. -/
theorem acknowledged_action_rewarded :
    (acked 3).credits = [⟨ackOf 3, 1, 1 / 4⟩] ∧
      ∀ credit ∈ (acked 3).credits, Earned (acked 3).recorded credit := by
  refine ⟨by decide +kernel, credits_earned (reach_acked ?_ 3 ?_)⟩
  · have hother : ∀ e ∈ sending, ∀ p env, e ≠ .receive p env := by simp [sending]
    intro l e he
    cases e with
    | receive p env => exact absurd rfl (hother _ he p env)
    | _ => trivial
  · intro s fs haccepted
    have hpath : ((sent.connection.session.acceptPacket (packetWithAck 3)
        (atTime 10)).1.1.paths.lookup 1).map (fun pth => (pth.pathID, pth.lastRcvdPacketNumber)) =
          some (1, 3) := by decide +kernel
    have hfs : (sent.connection.session.acceptPacket (packetWithAck 3) (atTime 10)).2 =
        [.ack (ackOf 3)] := by decide +kernel
    have haction : sent.scheduler.listAction 1 3 = some (1 / 4) := by decide +kernel
    rw [haccepted] at hpath hfs
    obtain rfl : fs = [.ack (ackOf 3)] := hfs
    refine ⟨?_, fun _ _ => trivial⟩
    rintro frame ⟨⟩ pth hpth -
    change s.paths.lookup 1 = some pth at hpth
    rw [hpth, map_some, some_inj, Prod.mk.injEq] at hpath
    have hlist : (sent.withSession s).scheduler.listAction pth.pathID pth.lastRcvdPacketNumber =
        some (1 / 4) := by
      rw [scheduler_withSession, hpath.1, hpath.2]
      exact haction
    rw [hlist, hpath.2]
    intro _
    decide

/-- If packet 3 brings an ACK of the packets 1 and 2, the action of packet 3 is rewarded, although
packet 2 was sent with another action and packet 1 with none. -/
theorem unacknowledged_action_rewarded :
    (machine FixedWindow Unit).Reach Machine.Always (acked 2) ∧
      (acked 2).connection.error = none ∧ ⟨1, 2, 1⟩ ∈ (acked 2).recorded ∧
      ∃ credit ∈ (acked 2).credits, ¬ Earned (acked 2).recorded credit := by
  have hcredits : (acked 2).credits = [⟨ackOf 2, 1, 1 / 4⟩] := by decide +kernel
  have hrecorded : (acked 2).recorded =
      [⟨1, 3, 1 / 4⟩, ⟨3, 3, 1 / 4⟩, ⟨1, 2, 1⟩, ⟨3, 2, 1⟩] := by decide +kernel
  refine ⟨reach_acked (fun _ _ _ => trivial) 2 trivial, by decide +kernel, ?_, ?_⟩
  · rw [hrecorded]
    decide
  · rw [hcredits, hrecorded]
    refine ⟨_, List.mem_singleton_self _, ?_⟩
    rintro ⟨n, hn, hacks⟩
    have hother : ¬ (1 / 4 : ℚ) = 1 := by decide +kernel
    obtain rfl : n = 3 := by simpa [hother] using hn
    exact absurd hacks (by decide)

end Learning
end MpQuic
