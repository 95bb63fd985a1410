import MpQuic.SendWindows

/-!
# The receiving side of flow control

The receiver counts what it gets and what is read of it; the connection's counters are
the sums over the streams that contribute to it.  `MaybeUpdateWindow` takes a window back
only if half the increment is more than the maximum it is then cut to
(`maybeUpdateWindow_updates`), so otherwise every window that was announced stays valid.
-/
namespace MpQuic
open Systems Option FlowControlManager FlowController

/-! ## Windows that grow -/

namespace FlowController

/-- Cutting the increment to its maximum does not make it smaller than what is left of the
window when it is updated, and no sum exceeds 64 bits. -/
structure Grows (c : FlowController) : Prop where
  increment : c.receiveWindowIncrement / 2 ≤ c.maxReceiveWindowIncrement + 1
  room : c.bytesRead + 2 * max c.receiveWindowIncrement c.maxReceiveWindowIncrement < 2 ^ 64

instance (c : FlowController) : Decidable c.Grows :=
  decidable_of_iff (c.receiveWindowIncrement / 2 ≤ c.maxReceiveWindowIncrement + 1 ∧
      c.bytesRead + 2 * max c.receiveWindowIncrement c.maxReceiveWindowIncrement < 2 ^ 64)
    ⟨fun h => ⟨h.1, h.2⟩, fun h => ⟨h.increment, h.room⟩⟩

/-- The receiving side of a controller whose window was at first `initial`. -/
structure Receives (initial : Nat) (c : FlowController) : Prop where
  read : c.bytesRead ≤ c.highestReceived
  received : c.highestReceived ≤ c.receiveWindow
  window : initial ≤ c.receiveWindow
  lt : c.receiveWindow < 2 ^ 64

/-- A controller after its window has been updated. -/
structure Updates (c c' : FlowController) : Prop where
  streamID : c'.streamID = c.streamID
  contributes : c'.contributesToConnection = c.contributesToConnection
  bytesRead : c'.bytesRead = c.bytesRead
  highestReceived : c'.highestReceived = c.highestReceived
  bytesSent : c'.bytesSent = c.bytesSent
  bytesRetrans : c'.bytesRetrans = c.bytesRetrans
  increment : c.receiveWindowIncrement ≤ c.maxReceiveWindowIncrement →
    c'.receiveWindowIncrement ≤ c'.maxReceiveWindowIncrement
  window : c.receiveWindow ≤ c'.receiveWindow
  lt : c.receiveWindow < 2 ^ 64 → c'.receiveWindow < 2 ^ 64
  grows : c'.Grows

theorem Updates.receives {c c' : FlowController} {initial : Nat} (h : c.Updates c')
    (hc : c.Receives initial) : c'.Receives initial where
  read := by rw [h.bytesRead, h.highestReceived]; exact hc.read
  received := by rw [h.highestReceived]; exact hc.received.trans h.window
  window := hc.window.trans h.window
  lt := h.lt hc.lt

theorem maybeAdjustWindowIncrement_cases (c : FlowController) (rtt : Int) (remoteRTTs : List Int)
    (now : Int) :
    c.maybeAdjustWindowIncrement rtt remoteRTTs now = c ∨
      c.maybeAdjustWindowIncrement rtt remoteRTTs now = { c with
        receiveWindowIncrement :=
          min (2 * c.receiveWindowIncrement % 2 ^ 64) c.maxReceiveWindowIncrement } := by
  unfold maybeAdjustWindowIncrement
  split
  · exact .inl rfl
  split
  · exact .inl rfl
  dsimp only
  split
  · exact .inl rfl
  · exact .inr rfl

variable {c : FlowController}

/-- `MaybeUpdateWindow` announces a window that is not smaller. -/
theorem maybeUpdateWindow_updates (hread : c.bytesRead ≤ c.receiveWindow) (h : c.Grows)
    (rtt : Int) (remoteRTTs : List Int) (now : Int) :
    c.Updates (c.maybeUpdateWindow rtt remoteRTTs now).1 ∧
      (c.maybeUpdateWindow rtt remoteRTTs now).2.2.2 =
        (c.maybeUpdateWindow rtt remoteRTTs now).1.receiveWindow := by
  have hinc := h.increment
  have hroom := h.room
  unfold maybeUpdateWindow
  rw [sub64_of_le hread]
  dsimp only
  split
  · next hdiff =>
    rcases c.maybeAdjustWindowIncrement_cases rtt remoteRTTs now with heq | heq
    · rw [heq]
      rw [add64_of_lt (by omega)]
      exact ⟨⟨rfl, rfl, rfl, rfl, rfl, rfl, id, by dsimp only; omega, by dsimp only; omega, hinc,
        hroom⟩, rfl⟩
    · rw [heq]
      dsimp only
      rw [Nat.mod_eq_of_lt (by omega), add64_of_lt (by omega)]
      exact ⟨⟨rfl, rfl, rfl, rfl, rfl, rfl, by dsimp only; omega, by dsimp only; omega,
        by dsimp only; omega, ⟨by dsimp only; omega, by dsimp only; omega⟩⟩, rfl⟩
  · exact ⟨⟨rfl, rfl, rfl, rfl, rfl, rfl, id, le_rfl, id, h⟩, rfl⟩

theorem ensureMinimumWindowIncrement_updates (h : c.Grows) (inc : Nat) :
    c.Updates (c.ensureMinimumWindowIncrement inc) := by
  have hroom := h.room
  unfold ensureMinimumWindowIncrement
  split
  · exact ⟨rfl, rfl, rfl, rfl, rfl, rfl, by dsimp only; omega, le_rfl, id,
      ⟨by dsimp only; omega, by dsimp only; omega⟩⟩
  · exact ⟨rfl, rfl, rfl, rfl, rfl, rfl, id, le_rfl, id, h⟩

theorem Updates.refl (h : c.Grows) : c.Updates c :=
  ⟨rfl, rfl, rfl, rfl, rfl, rfl, id, le_rfl, id, h⟩

theorem Updates.trans {c c' c'' : FlowController} (h : c.Updates c') (h' : c'.Updates c'') :
    c.Updates c'' where
  streamID := h'.streamID.trans h.streamID
  contributes := h'.contributes.trans h.contributes
  bytesRead := h'.bytesRead.trans h.bytesRead
  highestReceived := h'.highestReceived.trans h.highestReceived
  bytesSent := h'.bytesSent.trans h.bytesSent
  bytesRetrans := h'.bytesRetrans.trans h.bytesRetrans
  increment := h'.increment ∘ h.increment
  window := h.window.trans h'.window
  lt := h'.lt ∘ h.lt
  grows := h'.grows

/-- The stream's counter jumps to the offset if that is larger; a smaller offset is reported. -/
theorem updateHighestReceived_eq (c : FlowController) (byteOffset : Nat) :
    c.updateHighestReceived byteOffset =
      ({ c with highestReceived := max c.highestReceived byteOffset },
        if byteOffset < c.highestReceived then none
        else some (byteOffset - c.highestReceived)) := by
  unfold updateHighestReceived
  split
  · next heq =>
    rw [heq, max_self, if_neg (lt_irrefl _), Nat.sub_self]
  split
  · next hlt =>
    rw [max_eq_right hlt.le, if_neg hlt.not_gt]
  · next hne hge =>
    have hsmaller : byteOffset < c.highestReceived := by omega
    rw [max_eq_left hsmaller.le, if_pos hsmaller]

end FlowController

/-! ## The receiving side -/

namespace FlowControlManager
open FlowController

/-- What the counters of the receiving side have to do with each other. -/
structure Receives (params : ConnectionParameters) (f : FlowControlManager) : Prop where
  stream : ∀ id c, f.streamFlowController.lookup id = some c →
    c.Receives params.receiveStreamFlowControlWindow ∧
      c.contributesToConnection = contributes id ∧ id ≠ 0
  conn : f.connFlowController.Receives params.receiveConnectionFlowControlWindow
  highest : f.connFlowController.highestReceived =
    entrySum f.streamFlowController (contribution (·.highestReceived))
  read : f.connFlowController.bytesRead =
    entrySum f.streamFlowController (contribution (·.bytesRead))

/-- Nothing has been read beyond a window. -/
structure ReadWithin (f : FlowControlManager) : Prop where
  stream : ∀ id c, f.streamFlowController.lookup id = some c → c.bytesRead ≤ c.receiveWindow
  conn : f.connFlowController.bytesRead ≤ f.connFlowController.receiveWindow

variable {params : ConnectionParameters} {f f' : FlowControlManager}

theorem Receives.readWithin (h : f.Receives params) : f.ReadWithin where
  stream id c hc := (h.stream id c hc).1.read.trans (h.stream id c hc).1.received
  conn := h.conn.read.trans h.conn.received

/-- The window a stream has, or will have when it is opened. -/
def receiveWindowOn (params : ConnectionParameters) (f : FlowControlManager) (id : Nat) : Nat :=
  (f.streamFlowController.lookup id).elim params.receiveStreamFlowControlWindow (·.receiveWindow)

/-- Every window can be updated without being taken back. -/
structure Grows (f : FlowControlManager) : Prop where
  stream : ∀ id c, f.streamFlowController.lookup id = some c → c.Grows
  conn : f.connFlowController.Grows

instance (f : FlowControlManager) : Decidable f.Grows :=
  decidable_of_iff ((∀ e ∈ f.streamFlowController.entries, e.2.Grows) ∧ f.connFlowController.Grows)
    ⟨fun h => ⟨fun id c hc => h.1 ⟨id, c⟩ (AList.mem_lookup_iff.mp hc), h.2⟩,
      fun h => ⟨fun e he => h.stream e.1 e.2 (AList.mem_lookup_iff.mpr he), h.conn⟩⟩

/-- The windows after updates. -/
structure Updates (f f' : FlowControlManager) : Prop where
  stream : ∀ id c, f.streamFlowController.lookup id = some c →
    ∃ c', f'.streamFlowController.lookup id = some c' ∧ c.Updates c'
  missing : ∀ id, f.streamFlowController.lookup id = none →
    f'.streamFlowController.lookup id = none
  conn : f.connFlowController.Updates f'.connFlowController

theorem Updates.refl (h : f.Grows) : f.Updates f :=
  ⟨fun id c hc => ⟨c, hc, .refl (h.stream id c hc)⟩, fun _ => id, .refl h.conn⟩

theorem Updates.trans {f'' : FlowControlManager} (h : f.Updates f') (h' : f'.Updates f'') :
    f.Updates f'' where
  stream := by
    intro id c hc
    obtain ⟨c', hc', hupdates⟩ := h.stream id c hc
    obtain ⟨c'', hc'', hupdates'⟩ := h'.stream id c' hc'
    exact ⟨c'', hc'', hupdates.trans hupdates'⟩
  missing id hnone := h'.missing id (h.missing id hnone)
  conn := h.conn.trans h'.conn

variable {id byteOffset n : Nat} {c' c : FlowController} {g : FlowController → Nat} {u : Nat × Nat}

/-- The controller of a stream after an update comes from the one before. -/
theorem Updates.before (h : f.Updates f') (hc' : f'.streamFlowController.lookup id = some c') :
    ∃ c, f.streamFlowController.lookup id = some c ∧ c.Updates c' := by
  cases hc : f.streamFlowController.lookup id with
  | none =>
    rw [h.missing id hc] at hc'
    cases hc'
  | some c =>
    obtain ⟨d, hd, hupdates⟩ := h.stream id c hc
    obtain rfl := some.inj (hd.symm.trans hc')
    exact ⟨c, rfl, hupdates⟩

theorem Updates.grows (h : f.Updates f') : f'.Grows where
  stream id c' hc' := by
    obtain ⟨c, -, hupdates⟩ := h.before hc'
    exact hupdates.grows
  conn := h.conn.grows

theorem Updates.valueAt (h : f.Updates f')
    (hg : ∀ c c' : FlowController, c.Updates c' → g c' = g c) (id : Nat) :
    valueAt f'.streamFlowController g id = valueAt f.streamFlowController g id := by
  cases hc : f.streamFlowController.lookup id with
  | none => rw [valueAt_of_none hc, valueAt_of_none (h.missing id hc)]
  | some c =>
    obtain ⟨c', hc', hupdates⟩ := h.stream id c hc
    rw [valueAt_of_lookup hc, valueAt_of_lookup hc', hg c c' hupdates]

theorem Updates.entrySum (h : f.Updates f')
    (hg : ∀ c c' : FlowController, c.Updates c' → g c' = g c) :
    entrySum f'.streamFlowController g = entrySum f.streamFlowController g :=
  le_antisymm (entrySum_le fun id => (h.valueAt hg id).le)
    (entrySum_le fun id => (h.valueAt hg id).ge)

theorem Updates.receives (h : f.Updates f') (hf : f.Receives params) : f'.Receives params where
  stream := by
    intro id c' hc'
    obtain ⟨c, hc, hupdates⟩ := h.before hc'
    obtain ⟨hreceives, hcontributes, hid⟩ := hf.stream id c hc
    exact ⟨hupdates.receives hreceives, hupdates.contributes.trans hcontributes, hid⟩
  conn := h.conn.receives hf.conn
  highest := by
    rw [h.conn.highestReceived, hf.highest, h.entrySum]
    intro c c' hupdates
    rw [contribution, contribution, hupdates.contributes, hupdates.highestReceived]
  read := by
    rw [h.conn.bytesRead, hf.read, h.entrySum]
    intro c c' hupdates
    rw [contribution, contribution, hupdates.contributes, hupdates.bytesRead]

theorem Updates.readWithin (h : f.Updates f') (hf : f.ReadWithin) : f'.ReadWithin where
  stream := by
    intro id c' hc'
    obtain ⟨c, hc, hupdates⟩ := h.before hc'
    rw [hupdates.bytesRead]
    exact (hf.stream id c hc).trans hupdates.window
  conn := by
    rw [h.conn.bytesRead]
    exact hf.conn.trans h.conn.window

theorem Updates.receiveWindowOn (h : f.Updates f') (params : ConnectionParameters) (id : Nat) :
    f.receiveWindowOn params id ≤ f'.receiveWindowOn params id := by
  unfold FlowControlManager.receiveWindowOn
  cases hc : f.streamFlowController.lookup id with
  | none => rw [h.missing id hc]
  | some c =>
    obtain ⟨c', hc', hupdates⟩ := h.stream id c hc
    rw [hc']
    exact hupdates.window

theorem Receives.initial_le (h : f.Receives params) (id : Nat) :
    params.receiveStreamFlowControlWindow ≤ f.receiveWindowOn params id := by
  unfold receiveWindowOn
  cases hc : f.streamFlowController.lookup id with
  | none => exact le_rfl
  | some c => exact (h.stream id c hc).1.window

variable {conn : FlowController}

theorem Updates.insert (hf : f.Grows) (hc : f.streamFlowController.lookup id = some c)
    (hupdates : c.Updates c') (hconn : f.connFlowController.Updates conn) :
    f.Updates ⟨f.streamFlowController.insert id c', conn⟩ where
  stream := by
    refine exists_lookup_insert ?_ fun id' d hd => .refl (hf.stream id' d hd)
    intro d hd
    exact some.inj (hc.symm.trans hd) ▸ hupdates
  missing := by
    intro id' hnone
    have hne : id' ≠ id := by
      rintro rfl
      rw [hc] at hnone
      cases hnone
    rw [← hnone]
    exact AList.lookup_insert_ne hne
  conn := hconn

/-- The windows a manager has announced: not below the initial ones, and not above its own. -/
def Announced (params : ConnectionParameters) (f : FlowControlManager) (u : Nat × Nat) : Prop :=
  if u.1 = 0 then params.receiveConnectionFlowControlWindow ≤ u.2 ∧
    u.2 ≤ f.connFlowController.receiveWindow
  else params.receiveStreamFlowControlWindow ≤ u.2 ∧ u.2 ≤ f.receiveWindowOn params u.1

theorem Announced.mono (h : f.Announced params u)
    (hconn : f.connFlowController.receiveWindow ≤ f'.connFlowController.receiveWindow)
    (hstream : f.receiveWindowOn params u.1 ≤ f'.receiveWindowOn params u.1) :
    f'.Announced params u := by
  unfold Announced at *
  by_cases h0 : u.1 = 0
  · rw [if_pos h0] at *
    exact ⟨h.1, h.2.trans hconn⟩
  · rw [if_neg h0] at *
    exact ⟨h.1, h.2.trans hstream⟩

theorem Updates.announced (h : f.Updates f') (hu : f.Announced params u) : f'.Announced params u :=
  hu.mono h.conn.window (h.receiveWindowOn params u.1)

/-- One iteration of `GetWindowUpdates`: a stream is left alone, or its new window announced. -/
theorem streamWindowUpdate_updates (hf : f.ReadWithin) (hgrows : f.Grows) (rtt : Int)
    (remoteRTTs : List Int) (now : Int) (force : Bool) (id : Nat) :
    f.Updates (streamWindowUpdate rtt remoteRTTs now force f id).1 ∧
      (∀ params, f.Receives params → ∀ u ∈ (streamWindowUpdate rtt remoteRTTs now force f id).2,
        (streamWindowUpdate rtt remoteRTTs now force f id).1.Announced params u) := by
  unfold streamWindowUpdate
  split
  · exact ⟨.refl hgrows, by simp⟩
  · next c hc =>
    obtain ⟨hupdates, hoffset⟩ := maybeUpdateWindow_updates (hf.stream id c hc)
      (hgrows.stream id c hc) rtt remoteRTTs now
    generalize c.maybeUpdateWindow rtt remoteRTTs now = r at hupdates hoffset
    obtain ⟨c', necessary, newIncrement, offset⟩ := r
    dsimp only at hupdates hoffset ⊢
    split
    · have hconn : f.connFlowController.Updates (if c'.contributesToConnection && newIncrement != 0
          then f.connFlowController.ensureMinimumWindowIncrement
            (Float.ofNat newIncrement * 1.5).toUInt64.toNat else f.connFlowController) := by
        split
        · exact ensureMinimumWindowIncrement_updates hgrows.conn _
        · exact .refl hgrows.conn
      refine ⟨.insert hgrows hc hupdates hconn, ?_⟩
      intro params hreceives u hu
      obtain ⟨hreceives, -, hid⟩ := hreceives.stream id c hc
      obtain rfl := List.mem_singleton.mp hu
      have hwindow := (hupdates.receives hreceives).window
      rw [Announced, if_neg hid, hoffset]
      refine ⟨hwindow, ?_⟩
      rw [receiveWindowOn]
      rw [AList.lookup_insert]
      exact le_rfl
    · exact ⟨.insert hgrows hc hupdates (.refl hgrows.conn), by simp⟩

/-- `GetWindowUpdates` takes no window back and announces the windows there are. -/
theorem getWindowUpdates_updates (hf : f.ReadWithin) (hgrows : f.Grows) (rtt : Int)
    (remoteRTTs : List Int) (now : Int) (force : Bool) (order : List Nat) :
    f.Updates (f.getWindowUpdates rtt remoteRTTs now force order).1 ∧
      (∀ params, f.Receives params → ∀ u ∈ (f.getWindowUpdates rtt remoteRTTs now force order).2,
        (f.getWindowUpdates rtt remoteRTTs now force order).1.Announced params u) := by
  unfold getWindowUpdates
  dsimp only
  generalize hr : order.foldl _ (f, []) = r
  obtain ⟨hupdates, hres⟩ :
      f.Updates r.1 ∧ (∀ params, f.Receives params → ∀ u ∈ r.2, r.1.Announced params u) := by
    rw [← hr]
    refine List.foldlRecOn (motive := fun r : FlowControlManager × List (Nat × Nat) =>
      f.Updates r.1 ∧ (∀ params, f.Receives params → ∀ u ∈ r.2, r.1.Announced params u)) order _
      ⟨.refl hgrows, by simp⟩ ?_
    rintro ⟨f₁, res⟩ ⟨hupdates, hres⟩ id -
    obtain ⟨hstep, hnew⟩ := streamWindowUpdate_updates (hupdates.readWithin hf) hupdates.grows rtt
      remoteRTTs now force id
    refine ⟨hupdates.trans hstep, ?_⟩
    intro params hreceives u hu
    rcases List.mem_append.mp hu with hu | hu
    · exact hstep.announced (hres params hreceives u hu)
    · exact hnew params (hupdates.receives hreceives) u hu
  obtain ⟨hconn, hoffset⟩ := maybeUpdateWindow_updates (hupdates.readWithin hf).conn
    hupdates.grows.conn rtt remoteRTTs now
  generalize r.1.connFlowController.maybeUpdateWindow rtt remoteRTTs now = updated
    at hconn hoffset ⊢
  have hlast : r.1.Updates { r.1 with connFlowController := updated.1 } :=
    ⟨(Updates.refl hupdates.grows).stream, fun _ => id, hconn⟩
  refine ⟨hupdates.trans hlast, ?_⟩
  intro params hreceives u hu
  have hold : u ∈ r.2 → FlowControlManager.Announced params
      { r.1 with connFlowController := updated.1 } u :=
    fun hu => hlast.announced (hres params hreceives u hu)
  split at hu
  · rcases List.mem_append.mp hu with hu | hu
    · exact hold hu
    · obtain rfl := List.mem_singleton.mp hu
      rw [Announced, if_pos rfl, hoffset]
      exact ⟨(hconn.receives (hupdates.receives hreceives).conn).window, le_rfl⟩
  · exact hold hu

/-- A controller that is put in the place of another. -/
theorem Receives.insert (h : f.Receives params) (hc : f.streamFlowController.lookup id = some c)
    (hreceives : c'.Receives params.receiveStreamFlowControlWindow)
    (hcontributes : c'.contributesToConnection = c.contributesToConnection)
    (hconn : conn.Receives params.receiveConnectionFlowControlWindow)
    (hhighest : conn.highestReceived + contribution (·.highestReceived) c =
      f.connFlowController.highestReceived + contribution (·.highestReceived) c')
    (hread : conn.bytesRead + contribution (·.bytesRead) c =
      f.connFlowController.bytesRead + contribution (·.bytesRead) c') :
    Receives params ⟨f.streamFlowController.insert id c', conn⟩ where
  stream := by
    obtain ⟨-, hcontributes', hid⟩ := h.stream _ c hc
    exact forall_lookup_insert ⟨hreceives, hcontributes.trans hcontributes', hid⟩ h.stream
  conn := hconn
  highest := by
    have hinsert := entrySum_insert f.streamFlowController (contribution (·.highestReceived)) id c'
    rw [valueAt_of_lookup hc, ← h.highest] at hinsert
    dsimp only
    omega
  read := by
    have hinsert := entrySum_insert f.streamFlowController (contribution (·.bytesRead)) id c'
    rw [valueAt_of_lookup hc, ← h.read] at hinsert
    dsimp only
    omega

theorem receiveWindowOn_insert (hc : f.streamFlowController.lookup id = some c)
    (hwindow : c'.receiveWindow = c.receiveWindow) (params : ConnectionParameters)
    (conn : FlowController) (id' : Nat) :
    receiveWindowOn params ⟨f.streamFlowController.insert id c', conn⟩ id' =
      f.receiveWindowOn params id' :=
  congr_lookup_insert (F := (·.elim _ receiveWindow)) (by rw [hc]; exact hwindow) id'

/-- `UpdateHighestReceived` counts what is new; a smaller offset is not an error. -/
theorem updateHighestReceived_of_lookup (hc : f.streamFlowController.lookup id = some c)
    (byteOffset : Nat) :
    f.updateHighestReceived id byteOffset = f.countReceived id
      { c with highestReceived := max c.highestReceived byteOffset }
      (byteOffset - c.highestReceived) := by
  have hincrement : (if byteOffset < c.highestReceived then none
      else some (byteOffset - c.highestReceived)).getD 0 = byteOffset - c.highestReceived := by
    split
    · rw [getD_none]
      omega
    · rfl
  rw [updateHighestReceived, hc]
  dsimp only
  rw [updateHighestReceived_eq, hincrement]

/-- `ResetStream` counts what is new, unless the offset is smaller. -/
theorem resetStream_of_lookup (hc : f.streamFlowController.lookup id = some c) (byteOffset : Nat) :
    f.resetStream id byteOffset =
      if byteOffset < c.highestReceived then (f, some .streamDataAfterTermination)
      else f.countReceived id { c with highestReceived := max c.highestReceived byteOffset }
        (byteOffset - c.highestReceived) := by
  rw [resetStream, hc]
  dsimp only
  rw [updateHighestReceived_eq]
  split_ifs <;> rfl

/-- Data within the windows is counted. -/
theorem updateHighestReceived_eq (hc : f.streamFlowController.lookup id = some c)
    (hreceived : c.highestReceived ≤ c.receiveWindow) (hle : byteOffset ≤ c.receiveWindow)
    (hconn : c.contributesToConnection = true → f.connFlowController.highestReceived +
      (byteOffset - c.highestReceived) ≤ f.connFlowController.receiveWindow)
    (hlt : f.connFlowController.receiveWindow < 2 ^ 64) :
    f.updateHighestReceived id byteOffset =
      (⟨f.streamFlowController.insert id
          { c with highestReceived := max c.highestReceived byteOffset },
        if c.contributesToConnection then { f.connFlowController with
          highestReceived := f.connFlowController.highestReceived +
            (byteOffset - c.highestReceived) }
        else f.connFlowController⟩, none) := by
  have hstream : ¬c.receiveWindow < max c.highestReceived byteOffset := by omega
  rw [updateHighestReceived_of_lookup hc]
  unfold countReceived checkFlowControlViolation incrementHighestReceived
  dsimp only
  rw [decide_eq_false hstream, if_neg Bool.false_ne_true]
  split
  · next hcontributes =>
    have hsum := hconn hcontributes
    rw [add64_of_lt (by omega), decide_eq_false (by omega), if_neg Bool.false_ne_true]
  · rfl

theorem Receives.newStream (h : f.Receives params) (hid : id ≠ 0)
    (hlt : params.receiveStreamFlowControlWindow < 2 ^ 64) :
    (f.newStream params id (contributes id)).Receives params ∧
      ∀ id', (f.newStream params id (contributes id)).receiveWindowOn params id' =
        f.receiveWindowOn params id' := by
  unfold FlowControlManager.newStream
  split
  · exact ⟨h, fun _ => rfl⟩
  · next hnone =>
    have hnew : FlowController.new params id (contributes id) = _ := if_neg hid
    have hzero (g : FlowController → Nat)
        (hg : g (FlowController.new params id (contributes id)) = 0) :
        entrySum (f.streamFlowController.insert id (FlowController.new params id (contributes id)))
          (contribution g) = entrySum f.streamFlowController (contribution g) := by
      refine entrySum_insert_of_eq ?_
      rw [valueAt_of_none hnone, contribution, hg, ite_self]
    refine ⟨⟨?_, h.conn, ?_, ?_⟩, ?_⟩
    · refine forall_lookup_insert ?_ h.stream
      rw [hnew]
      exact ⟨⟨le_rfl, Nat.zero_le _, le_rfl, hlt⟩, rfl, hid⟩
    · exact h.highest.trans (hzero _ (by rw [hnew])).symm
    · exact h.read.trans (hzero _ (by rw [hnew])).symm
    · refine congr_lookup_insert (F := (·.elim _ receiveWindow)) ?_
      rw [hnone, hnew]
      rfl

/-- What `AddBytesRead` does to a controller that has the bytes. -/
theorem addBytesRead_fields (hlt : c.bytesRead + n < 2 ^ 64) (now : Int) :
    (c.addBytesRead n now).bytesRead = c.bytesRead + n ∧
      (c.addBytesRead n now).highestReceived = c.highestReceived ∧
      (c.addBytesRead n now).receiveWindow = c.receiveWindow ∧
      (c.addBytesRead n now).contributesToConnection = c.contributesToConnection := by
  unfold FlowController.addBytesRead
  split <;> exact ⟨add64_of_lt hlt, rfl, rfl, rfl⟩

/-- No more is read of the connection than of its streams. -/
theorem Receives.conn_read_le (h : f.Receives params)
    (hc : f.streamFlowController.lookup id = some c)
    (hcontributes : c.contributesToConnection = true) (hn : c.bytesRead + n ≤ c.highestReceived) :
    f.connFlowController.bytesRead + n ≤ f.connFlowController.highestReceived := by
  rw [h.read, h.highest]
  refine entrySum_add_le (a := id) ?_ fun id' _ =>
    valueAt_contribution_le fun d hd => (h.stream id' d hd).1.read
  rwa [valueAt_of_lookup hc, valueAt_of_lookup hc, contribution_pos hcontributes,
    contribution_pos hcontributes]

/-- Bytes that are read count for the stream, and for the connection if the stream contributes. -/
theorem Receives.addBytesRead (h : f.Receives params)
    (hc : f.streamFlowController.lookup id = some c) (hn : c.bytesRead + n ≤ c.highestReceived)
    (now : Int) :
    ∃ c' conn', f.addBytesRead id n now = ⟨f.streamFlowController.insert id c', conn'⟩ ∧
      (f.addBytesRead id n now).Receives params ∧ c'.receiveWindow = c.receiveWindow ∧
      c'.highestReceived = c.highestReceived ∧
      conn'.receiveWindow = f.connFlowController.receiveWindow := by
  obtain ⟨hreceives, -, -⟩ := h.stream id c hc
  have hreceived := hreceives.received
  have hlt := hreceives.lt
  obtain ⟨hbytes, hhighest, hwindow, hcontributes⟩ :=
    addBytesRead_fields (c := c) (n := n) (by omega) now
  have hnew : (c.addBytesRead n now).Receives params.receiveStreamFlowControlWindow :=
    ⟨by omega, by omega, hwindow ▸ hreceives.window, hwindow ▸ hlt⟩
  unfold FlowControlManager.addBytesRead
  rw [modify_of_some hc]
  split
  · next hpos =>
    have hconn := h.conn_read_le hc hpos hn
    have hconnReceived := h.conn.received
    have hconnLt := h.conn.lt
    obtain ⟨hbytes', hhighest', hwindow', -⟩ :=
      addBytesRead_fields (c := f.connFlowController) (n := n) (by omega) now
    refine ⟨_, _, rfl, h.insert hc hnew hcontributes ?_ ?_ ?_, hwindow, hhighest, hwindow'⟩
    · exact ⟨by omega, by omega, hwindow' ▸ h.conn.window, hwindow' ▸ hconnLt⟩
    · rw [contribution_pos hpos, contribution_pos (hcontributes.trans hpos), hhighest, hhighest']
    · rw [contribution_pos hpos, contribution_pos (hcontributes.trans hpos), hbytes, hbytes']
      omega
  · next hneg =>
    refine ⟨_, _, rfl, h.insert hc hnew hcontributes h.conn ?_ ?_, hwindow, hhighest, rfl⟩
    all_goals rw [contribution_neg hneg, contribution_neg (by rw [hcontributes]; exact hneg)]

/-- Data that a stream may send is counted without a violation. -/
theorem Receives.updateHighestReceived (h : f.Receives params)
    (hc : f.streamFlowController.lookup id = some c) (hle : byteOffset ≤ c.receiveWindow)
    (hconn : c.contributesToConnection = true → f.connFlowController.highestReceived +
      (byteOffset - c.highestReceived) ≤ f.connFlowController.receiveWindow) :
    ∃ c' conn', f.updateHighestReceived id byteOffset =
        (⟨f.streamFlowController.insert id c', conn'⟩, none) ∧
      Receives params ⟨f.streamFlowController.insert id c', conn'⟩ ∧
      c'.receiveWindow = c.receiveWindow ∧
      c'.highestReceived = max c.highestReceived byteOffset ∧
      conn'.receiveWindow = f.connFlowController.receiveWindow := by
  obtain ⟨hreceives, -, -⟩ := h.stream id c hc
  have hread := hreceives.read
  have hreceived := hreceives.received
  have hconnRead := h.conn.read
  rw [updateHighestReceived_eq hc hreceived hle hconn h.conn.lt]
  have hnew : FlowController.Receives params.receiveStreamFlowControlWindow
      { c with highestReceived := max c.highestReceived byteOffset } :=
    ⟨by dsimp only; omega, by dsimp only; omega, hreceives.window, hreceives.lt⟩
  split
  · next hpos =>
    have hsum := hconn hpos
    refine ⟨_, _, rfl, h.insert hc hnew rfl ?_ ?_ ?_, rfl, rfl, rfl⟩
    · exact ⟨by dsimp only; omega, hsum, h.conn.window, h.conn.lt⟩
    · rw [contribution_pos hpos, contribution_pos (by exact hpos)]
      dsimp only
      omega
    · rw [contribution_pos hpos, contribution_pos (by exact hpos)]
  · next hneg =>
    refine ⟨_, _, rfl, h.insert hc hnew rfl h.conn ?_ ?_, rfl, rfl, rfl⟩
    all_goals rw [contribution_neg hneg, contribution_neg (by exact hneg)]

theorem receives_new (params : ConnectionParameters)
    (hlt : params.receiveConnectionFlowControlWindow < 2 ^ 64) :
    (new params).Receives params := by
  have hnew : FlowController.new params 0 false = _ := if_pos rfl
  refine ⟨?_, ?_, ?_, ?_⟩
  · exact forall_lookup_empty
  · unfold new
    rw [hnew]
    exact ⟨le_rfl, Nat.zero_le _, le_rfl, hlt⟩
  · exact congrArg highestReceived hnew
  · exact congrArg bytesRead hnew

/-! ## The sender's windows -/

/-- No effective send window is taken back. -/
structure SendWindowsGrow (params : ConnectionParameters) (f f' : FlowControlManager) : Prop where
  stream : ∀ id c, f.streamFlowController.lookup id = some c →
    ∃ c', f'.streamFlowController.lookup id = some c' ∧
      c.getSendWindow params ≤ c'.getSendWindow params
  conn : f.connFlowController.getSendWindow params ≤ f'.connFlowController.getSendWindow params

/-- The effective send windows are within those of a receiver. -/
structure Within (params params' : ConnectionParameters) (f receiver : FlowControlManager) :
    Prop where
  stream : ∀ id c, f.streamFlowController.lookup id = some c →
    c.getSendWindow params ≤ receiver.receiveWindowOn params' id
  conn : f.connFlowController.getSendWindow params ≤ receiver.connFlowController.receiveWindow

theorem SendWindowsGrow.refl (params : ConnectionParameters) (f : FlowControlManager) :
    SendWindowsGrow params f f :=
  ⟨fun _ c hc => ⟨c, hc, le_rfl⟩, le_rfl⟩

variable {params' : ConnectionParameters} {receiver : FlowControlManager}

theorem SameWindows.grow (h : SameWindows params f f') : SendWindowsGrow params f f' where
  stream := by
    intro id c hc
    have hsame := h.stream id
    rw [hc] at hsame
    obtain ⟨c', hc', hwindow⟩ := map_eq_some_iff.mp hsame
    exact ⟨c', hc', hwindow.ge⟩
  conn := h.conn.ge

theorem SameWindows.within (h : SameWindows params f f') (hf : f.Within params params' receiver) :
    f'.Within params params' receiver where
  stream := by
    intro id c' hc'
    have hsame := h.stream id
    rw [hc'] at hsame
    obtain ⟨c, hc, hwindow⟩ := map_eq_some_iff.mp hsame.symm
    exact hwindow.ge.trans (hf.stream id c hc)
  conn := h.conn.le.trans hf.conn

section
variable (hf : f.Within params params' receiver)
include hf

/-- The receiver's windows have grown. -/
theorem Within.mono {receiver' : FlowControlManager}
    (hstream : ∀ id, receiver.receiveWindowOn params' id ≤ receiver'.receiveWindowOn params' id)
    (hconn : receiver.connFlowController.receiveWindow ≤
      receiver'.connFlowController.receiveWindow) : f.Within params params' receiver' :=
  ⟨fun id c hc => (hf.stream id c hc).trans (hstream id), hf.conn.trans hconn⟩

theorem Within.newStream (hid : id ≠ 0)
    (hinitial : params.sendStreamFlowControlWindow ≤ receiver.receiveWindowOn params' id) :
    (f.newStream params id (contributes id)).Within params params' receiver ∧
      SendWindowsGrow params f (f.newStream params id (contributes id)) := by
  unfold FlowControlManager.newStream
  split
  · exact ⟨hf, .refl _ _⟩
  · next hnone =>
    have hnew : FlowController.new params id (contributes id) = _ := if_neg hid
    refine ⟨⟨forall_lookup_insert ?_ hf.stream, hf.conn⟩,
      exists_lookup_insert ?_ fun _ _ _ => le_rfl, le_rfl⟩
    · rw [hnew, getSendWindow, if_pos rfl, if_neg hid]
      exact hinitial
    · intro c hc
      cases hnone.symm.trans hc

/-- A WINDOW_UPDATE frame the receiver has sent. -/
theorem Within.updateWindow (hsends : f.Sends params) {id offset : Nat}
    (hoffset : initialSendWindow params id ≤ offset)
    (hconn : id = 0 → offset ≤ receiver.connFlowController.receiveWindow)
    (hstream : id ≠ 0 → offset ≤ receiver.receiveWindowOn params' id) :
    (f.updateWindow id offset).1.Within params params' receiver ∧
      SendWindowsGrow params f (f.updateWindow id offset).1 := by
  have hinitial {c : FlowController} (hid : c.streamID = id) :
      c.sendWindow = 0 → c.getSendWindow params ≤ offset := by
    intro h0
    rw [getSendWindow, if_pos h0, hid]
    exact hoffset
  unfold FlowControlManager.updateWindow
  split
  · next h0 =>
    obtain ⟨hgrows, hmax⟩ :=
      getSendWindow_updateSendWindow (hinitial (hsends.conn.2.trans h0.symm))
    exact ⟨⟨hf.stream, hmax.trans (max_le hf.conn (hconn h0))⟩,
      fun _ c hc => ⟨c, hc, le_rfl⟩, hgrows⟩
  · next h0 =>
    split
    · exact ⟨hf, .refl _ _⟩
    · next c hc =>
      obtain ⟨hgrows, hmax⟩ :=
        getSendWindow_updateSendWindow (hinitial (hsends.stream id c hc).2.1)
      refine ⟨⟨forall_lookup_insert ?_ hf.stream, hf.conn⟩,
        exists_lookup_insert ?_ fun _ _ _ => le_rfl, le_rfl⟩
      · exact hmax.trans (max_le (hf.stream _ c hc) (hstream h0))
      · intro d hd
        exact some.inj (hc.symm.trans hd) ▸ hgrows

end

end FlowControlManager
end MpQuic
