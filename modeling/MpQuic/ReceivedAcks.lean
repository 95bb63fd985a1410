import MpQuic.AckRoundTrip
import MpQuic.ReceivedPacketHandler

/-!
# What a receiver acknowledges

A `Receiver` is the handler of one path together with the numbers of all packets it
has handled and all lower limits that STOP_WAITING frames have set.  The intervals of
the history cover exactly the packets above the current limit that have arrived
(`Tracks`), and an ACK frame reports these intervals, with the largest packet ever
observed as `LargestAcked`.

`SetLowerLimit` overwrites the limit.  A packet that was overtaken by a newer one may
carry an older STOP_WAITING frame; it takes the limit back, and packets between the
two limits that arrive afterwards are acknowledged although they were given up.
-/
namespace MpQuic
open Systems List Option ReceivedPacketHandler

/-! ## The history -/

namespace ReceivedPacketHistory

/-- The packets in some intervals. -/
def Covers (rs : List AckRange) (n : Nat) : Prop := ∃ r ∈ rs, r.first ≤ n ∧ n ≤ r.last

@[simp] theorem covers_nil (n : Nat) : ¬ Covers [] n := by simp [Covers]

@[simp] theorem covers_cons (r : AckRange) (rs : List AckRange) (n : Nat) :
    Covers (r :: rs) n ↔ r.first ≤ n ∧ n ≤ r.last ∨ Covers rs n := by
  simp [Covers]

/-- A nonempty interval of packet numbers. -/
structure IsInterval (r : AckRange) : Prop where
  pos : 1 ≤ r.first
  le : r.first ≤ r.last
  lt : r.last < 2 ^ 64

/-- Intervals, the highest first, with a missing packet between neighbours. -/
structure Descending (rs : List AckRange) : Prop where
  ordered : rs.Pairwise fun r r' => r'.last + 1 < r.first
  interval : ∀ r ∈ rs, IsInterval r

theorem descending_nil : Descending [] := ⟨.nil, by simp⟩

variable {r : AckRange} {rs : List AckRange} {p : Nat}

theorem descending_cons :
    Descending (r :: rs) ↔
      (∀ r' ∈ rs, r'.last + 1 < r.first) ∧ IsInterval r ∧ Descending rs := by
  constructor
  · rintro ⟨ho, hi⟩
    obtain ⟨hlt, ho⟩ := pairwise_cons.mp ho
    exact ⟨hlt, hi r (by simp), ho, fun r' hr' => hi r' (by simp [hr'])⟩
  · rintro ⟨hlt, hr, ho, hi⟩
    exact ⟨pairwise_cons.mpr ⟨hlt, ho⟩, by simpa using ⟨hr, hi⟩⟩

/-- An interval that may touch the next one below. -/
theorem mergeWithPrev_spec (el : AckRange) (hel : IsInterval el) (hrs : Descending rs)
    (hlt : ∀ r ∈ rs, r.last < el.first) :
    Descending (mergeWithPrev el rs) ∧
      ∀ n, Covers (mergeWithPrev el rs) n ↔ el.first ≤ n ∧ n ≤ el.last ∨ Covers rs n := by
  have hle := hel.le
  have hmax := hel.lt
  cases rs with
  | nil =>
    exact ⟨descending_cons.mpr ⟨by simp, hel, descending_nil⟩, fun n => by simp [mergeWithPrev]⟩
  | cons prev rest =>
    obtain ⟨hbelow, hprev, hrest⟩ := descending_cons.mp hrs
    have hprevlt := hlt prev (by simp)
    have hprevle := hprev.le
    have hsucc : add64 prev.last 1 = prev.last + 1 := add64_of_lt (by omega)
    by_cases htouch : prev.last + 1 = el.first
    · simp only [mergeWithPrev, hsucc, if_pos htouch]
      refine ⟨descending_cons.mpr ⟨hbelow, ⟨hprev.pos, by dsimp only; omega, hmax⟩, hrest⟩, ?_⟩
      intro n
      simp only [covers_cons]
      constructor
      · rintro (h | h)
        · by_cases hn : el.first ≤ n
          · exact .inl ⟨hn, h.2⟩
          · exact .inr (.inl ⟨h.1, by omega⟩)
        · exact .inr (.inr h)
      · rintro (h | h | h)
        · exact .inl ⟨by omega, h.2⟩
        · exact .inl ⟨h.1, by omega⟩
        · exact .inr h
    · simp only [mergeWithPrev, hsucc, if_neg htouch]
      refine ⟨descending_cons.mpr ⟨?_, hel, hrs⟩, fun n => covers_cons el _ n⟩
      intro r hr
      rcases mem_cons.mp hr with rfl | hr
      · omega
      · have := hbelow r hr
        omega

/-- Recording a packet adds it to the intervals, and nothing else. -/
theorem insertPacket_spec (hp : 1 ≤ p) (hlt : p < 2 ^ 64) (hrs : Descending rs) :
    Descending (insertPacket p rs) ∧
      ∀ n, Covers (insertPacket p rs) n ↔ n = p ∨ Covers rs n := by
  have hone : ∀ n, p ≤ n ∧ n ≤ p ↔ n = p := by omega
  induction rs with
  | nil =>
    exact ⟨descending_cons.mpr ⟨by simp, ⟨hp, le_refl p, hlt⟩, descending_nil⟩,
      fun n => by simp [insertPacket, hone]⟩
  | cons el rest ih =>
    obtain ⟨hbelow, hel, hrest⟩ := descending_cons.mp hrs
    have hpos := hel.pos
    have hle := hel.le
    have hpred : sub64 p 1 = p - 1 := sub64_of_le hp
    have hnone : ∀ r ∈ rest, r.last < el.first := fun r hr => by have := hbelow r hr; omega
    unfold insertPacket
    split
    · next hin =>
      refine ⟨hrs, fun n => ?_⟩
      simp only [covers_cons]
      constructor
      · exact .inr
      · rintro (rfl | h)
        · exact .inl hin
        · exact h
    split
    · next hend =>
      -- the packet follows the interval
      rw [hpred] at hend
      obtain ⟨hd, hc⟩ := mergeWithPrev_spec { el with last := p }
        ⟨hpos, by dsimp only; omega, hlt⟩ hrest hnone
      refine ⟨hd, fun n => (hc n).trans ?_⟩
      simp only [covers_cons]
      grind
    split
    · next hbegin =>
      -- the packet precedes the interval, and may close the gap to the next one
      have hsucc : el.first = p + 1 := by
        unfold add64 at hbegin
        omega
      obtain ⟨hd, hc⟩ := mergeWithPrev_spec { el with first := p }
        ⟨hp, by dsimp only; omega, hel.lt⟩ hrest
        (fun r hr => by have := hbelow r hr; dsimp only; omega)
      refine ⟨hd, fun n => (hc n).trans ?_⟩
      simp only [covers_cons]
      grind
    split
    · next hin hend _ habove =>
      rw [hpred] at hend
      refine ⟨descending_cons.mpr ⟨?_, ⟨hp, le_refl p, hlt⟩, hrs⟩, fun n => ?_⟩
      · intro r hr
        rcases mem_cons.mp hr with rfl | hr
        · dsimp only; omega
        · have := hbelow r hr
          dsimp only; omega
      · simp [hone]
    · next hin _ hbegin habove =>
      have hsucc : p + 1 < el.first := by
        have : add64 p 1 = p + 1 := add64_of_lt (by have := hel.lt; omega)
        omega
      obtain ⟨hd, hc⟩ := ih hrest
      refine ⟨descending_cons.mpr ⟨?_, hel, hd⟩, fun n => ?_⟩
      · -- the last packet of an interval is one that was there or the new one
        intro r hr
        have hr' := (hc r.last).mp ⟨r, hr, (hd.interval r hr).le, le_refl _⟩
        rcases hr' with h | ⟨r', hr', -, h⟩
        · omega
        · have := hbelow r' hr'
          omega
      · simp only [covers_cons, hc n]
        grind

theorem eq_insertPacket_of_ok {rs rs' : List AckRange} (h : receivedPacket rs p = .ok rs') :
    rs' = insertPacket p rs := by
  unfold receivedPacket at h
  split at h
  · simp at h
  · exact (Except.ok.inj h).symm

/-- The loop of `DeleteUpTo` on intervals with the lowest first. -/
theorem deleteFromLowest_spec (p : Nat) (rs : List AckRange)
    (ho : rs.Pairwise fun r r' => r.last + 1 < r'.first) (hi : ∀ r ∈ rs, IsInterval r) :
    ((deleteFromLowest p rs).Pairwise fun r r' => r.last + 1 < r'.first) ∧
      (∀ r ∈ deleteFromLowest p rs, IsInterval r) ∧
      ∀ n, Covers (deleteFromLowest p rs) n ↔ p < n ∧ Covers rs n := by
  induction rs with
  | nil => simp [deleteFromLowest]
  | cons el rest ih =>
    obtain ⟨habove, ho'⟩ := pairwise_cons.mp ho
    have hel := hi el (by simp)
    obtain ⟨hpair, hint, hcov⟩ := ih ho' fun r hr => hi r (by simp [hr])
    have hmax := hel.lt
    unfold deleteFromLowest
    split
    · next hin =>
      have hsucc : add64 p 1 = p + 1 := add64_of_lt (by omega)
      refine ⟨pairwise_cons.mpr ⟨?_, hpair⟩, ?_, fun n => ?_⟩
      · intro r hr
        obtain ⟨-, r', hr', h, -⟩ := (hcov r.first).mp ⟨r, hr, le_refl _, (hint r hr).le⟩
        have := habove r' hr'
        dsimp only
        omega
      · intro r hr
        rcases mem_cons.mp hr with rfl | hr
        · exact ⟨by dsimp only; omega, by dsimp only; omega, hel.lt⟩
        · exact hint r hr
      · simp only [covers_cons, hcov n, hsucc]
        grind
    split
    · next hbelow =>
      refine ⟨hpair, hint, fun n => ?_⟩
      simp only [covers_cons, hcov n]
      grind
    · next hin hout =>
      refine ⟨ho, hi, fun n => ?_⟩
      constructor
      · intro hn
        refine ⟨?_, hn⟩
        obtain ⟨r, hr, hrn, -⟩ := hn
        rcases mem_cons.mp hr with rfl | hr
        · omega
        · have := habove r hr
          omega
      · exact And.right

/-- Deleting up to a packet leaves exactly the packets above it. -/
theorem deleteUpTo_spec (p : Nat) (hrs : Descending rs) :
    Descending (deleteUpTo rs p) ∧ ∀ n, Covers (deleteUpTo rs p) n ↔ p < n ∧ Covers rs n := by
  obtain ⟨hpair, hint, hcov⟩ := deleteFromLowest_spec p rs.reverse
    (pairwise_reverse.mpr hrs.ordered) (by simpa using hrs.interval)
  refine ⟨⟨pairwise_reverse.mpr hpair, by simpa [deleteUpTo] using hint⟩, fun n => ?_⟩
  simpa [Covers, deleteUpTo] using hcov n

/-- The topmost interval ends with the largest packet. -/
theorem Descending.last_of_largest (hrs : Descending (r :: rs)) {m : Nat}
    (hmax : ∀ n, Covers (r :: rs) n → n ≤ m) (hm : Covers (r :: rs) m) : r.last = m := by
  obtain ⟨hbelow, hr, -⟩ := descending_cons.mp hrs
  have hle := hr.le
  have htop := hmax r.last ((covers_cons ..).mpr (.inl ⟨hle, le_refl _⟩))
  rcases (covers_cons ..).mp hm with h | ⟨r', hr', -, h⟩
  · omega
  · have := hbelow r' hr'
    omega

/-- The last interval starts with the lowest packet. -/
theorem Descending.first_le {lowest : AckRange} (hrs : Descending rs)
    (hlast : rs.getLast? = some lowest) {n : Nat} (hn : Covers rs n) : lowest.first ≤ n := by
  obtain ⟨init, rfl⟩ := getLast?_eq_some_iff.mp hlast
  obtain ⟨r, hr, hfirst, -⟩ := hn
  rcases mem_append.mp hr with hr | hr
  · have hlt := (pairwise_append.mp hrs.ordered).2.2 r hr lowest (by simp)
    have := (hrs.interval lowest (by simp)).le
    omega
  · rwa [← mem_singleton.mp hr]

end ReceivedPacketHistory

/-! ## The handler -/

namespace ReceivedPacketHandler
open ReceivedPacketHistory

/-- What `handlePacketImpl` does to the handler of the path: the packet is recorded, then its
STOP_WAITING frame is handled. -/
def handlePacket (h : ReceivedPacketHandler) (packetNumber : Nat) (leastUnacked : Option Nat)
    (shouldInstigateAck : Bool) (now : Int) : ReceivedPacketHandler × Option Err :=
  match h.receivedPacket packetNumber shouldInstigateAck now with
  | (h, some e) => (h, some e)
  | (h, none) =>
    match leastUnacked with
    | none => (h, none)
    | some leastUnacked => (h.setLowerLimit (sub64 leastUnacked 1), none)

/-- The fields that decide what is acknowledged. -/
def books (h : ReceivedPacketHandler) : Nat × Nat × List AckRange :=
  (h.largestObserved, h.lowerLimit, h.packetHistory)

theorem books_maybeQueueAck (h : ReceivedPacketHandler) (packetNumber : Nat)
    (shouldInstigateAck : Bool) (now : Int) :
    (h.maybeQueueAck packetNumber shouldInstigateAck now).books = h.books := by
  have hcancel : ∀ h' : ReceivedPacketHandler,
      (if h'.ackQueued then { h' with ackAlarm := none } else h').books = h'.books := by
    intro h'
    split <;> rfl
  refine (hcancel _).trans ?_
  simp only [apply_ite books]
  simp only [books, ite_self]

/-- A packet without error raises `largestObserved`, and is recorded above the limit. -/
theorem books_receivedPacket {h : ReceivedPacketHandler} {p : Nat} {inst : Bool} {now : Int}
    (hok : (h.receivedPacket p inst now).2 = none) :
    (h.receivedPacket p inst now).1.books =
      (max h.largestObserved p, h.lowerLimit,
        if p ≤ h.lowerLimit then h.packetHistory else insertPacket p h.packetHistory) := by
  unfold receivedPacket at hok ⊢
  split at hok
  · simp at hok
  next hp =>
  rw [if_neg hp]
  have hmax : ∀ h' : ReceivedPacketHandler, h' = (if h.largestObserved < p then
      { h with packets := add64 h.packets 1, largestObserved := p,
               largestObservedReceivedTime := now }
      else { h with packets := add64 h.packets 1 }) →
      h'.books = (max h.largestObserved p, h.lowerLimit, h.packetHistory) := by
    rintro h' rfl
    split
    · next hlt => simp [books, Nat.max_eq_right (Nat.le_of_lt hlt)]
    · next hle => simp [books, Nat.max_eq_left (Nat.not_lt.mp hle)]
  dsimp only at hok ⊢
  generalize hh' : (if h.largestObserved < p then
      { h with packets := add64 h.packets 1, largestObserved := p,
               largestObservedReceivedTime := now }
      else { h with packets := add64 h.packets 1 }) = h' at hok ⊢
  have hb := hmax h' hh'.symm
  simp only [books, Prod.mk.injEq] at hb
  obtain ⟨hb₁, hb₂, hb₃⟩ := hb
  rw [hb₂, hb₃] at hok
  rw [hb₂, hb₃]
  split at hok
  · next hle => simp [books, if_pos hle, hb₁, hb₂, hb₃]
  next hle =>
  rw [if_neg hle, if_neg hle]
  cases hr : ReceivedPacketHistory.receivedPacket h.packetHistory p with
  | error e => simp [hr] at hok
  | ok ranges =>
    rw [books_maybeQueueAck, eq_insertPacket_of_ok hr]
    simp [books, hb₁]

/-- A frame is due or it is not; one that is due is built from the history. -/
theorem getAckFrame_cases (h : ReceivedPacketHandler) (pathID : Nat) (now : Int)
    {lowest : AckRange} (hlast : h.packetHistory.getLast? = some lowest) :
    h.getAckFrame pathID now = .ok (h, none) ∨
    ∃ handler ack, h.getAckFrame pathID now = .ok (handler, some ack) ∧
      handler.books = h.books ∧ ack.largestAcked = h.largestObserved ∧
      ack.lowestAcked = lowest.first ∧
      ack.ackRanges = if 1 < h.packetHistory.length then h.packetHistory else [] := by
  unfold getAckFrame
  rw [hlast]
  refine (ite_eq_or_eq _ _ _).imp id ?_
  intro hdue
  exact ⟨_, _, hdue, rfl, rfl, rfl, rfl⟩

end ReceivedPacketHandler

/-! ## Runs of a receiver -/

/-- The handler of a path, the packets it has handled and the limits they have set. -/
structure Receiver where
  handler : ReceivedPacketHandler
  received : List Nat := []
  limits : List Nat := []

namespace Receiver
open ReceivedPacketHistory

/-- What happens to the handler. -/
inductive Action
  | handlePacket (packetNumber : Nat) (leastUnacked : Option Nat) (shouldInstigateAck : Bool)
      (now : Int)
  | getAckFrame (pathID : Nat) (now : Int)

/-- The packets a parser lets through: their numbers are at least 1, and a STOP_WAITING frame
names a packet between 1 and the packet that carries it. -/
def WellFormed (packetNumber : Nat) (leastUnacked : Option Nat) : Prop :=
  1 ≤ packetNumber ∧ packetNumber < 2 ^ 64 ∧ ∀ l ∈ leastUnacked, 1 ≤ l ∧ l ≤ packetNumber

/-- The receiver after a packet. -/
def handlePacket (r : Receiver) (packetNumber : Nat) (leastUnacked : Option Nat)
    (shouldInstigateAck : Bool) (now : Int) : Receiver :=
  { handler := (r.handler.handlePacket packetNumber leastUnacked shouldInstigateAck now).1
    received := packetNumber :: r.received
    limits := (leastUnacked.map (· - 1)).toList ++ r.limits }

/-- The runs of a handler on well-formed packets without error. -/
def machine : Machine Receiver Action where
  init r := ∃ version, r = { handler := .new version }
  step r a r' :=
    match a with
    | .handlePacket packetNumber leastUnacked shouldInstigateAck now =>
      WellFormed packetNumber leastUnacked ∧
      (r.handler.handlePacket packetNumber leastUnacked shouldInstigateAck now).2 = none ∧
      r' = r.handlePacket packetNumber leastUnacked shouldInstigateAck now
    | .getAckFrame pathID now =>
      ∃ handler ack, r.handler.getAckFrame pathID now = .ok (handler, ack) ∧
        r' = { r with handler }

/-- An ACK frame can always be asked for, and one that is sent reports its ranges consistently
and acknowledges exactly the packets that were received and lie above every limit. -/
def AcksExactly (r : Receiver) : Prop :=
  ∀ pathID now, ∃ handler ack?, r.handler.getAckFrame pathID now = .ok (handler, ack?) ∧
    ∀ ack ∈ ack?, ack.toAckedPackets.Consistent ∧ ack.lowestAcked ≤ ack.largestAcked ∧
      ∀ n, ack.toAckedPackets.acksPacket n = true ↔ n ∈ r.received ∧ ∀ l ∈ r.limits, l < n

/-- What holds in every run: the intervals are in order, and the largest packet observed is in
the topmost one. -/
structure Tracks (r : Receiver) : Prop where
  descending : Descending r.handler.packetHistory
  le_largest : ∀ n, Covers r.handler.packetHistory n → n ≤ r.handler.largestObserved
  largest : r.received ≠ [] → Covers r.handler.packetHistory r.handler.largestObserved
  limit_le : r.handler.lowerLimit ≤ r.handler.largestObserved
  idle : r.received = [] → r.handler.largestObserved = 0 ∧ r.handler.lowerLimit = 0 ∧
    r.handler.ackQueued = false ∧ r.handler.ackAlarm = none

/-- The intervals are those of the packets above every limit. -/
structure Exact (r : Receiver) : Prop where
  covers : ∀ n, Covers r.handler.packetHistory n ↔ n ∈ r.received ∧ ∀ l ∈ r.limits, l < n
  limits_le : ∀ l ∈ r.limits, l ≤ r.handler.lowerLimit
  limit_mem : r.handler.lowerLimit = 0 ∨ r.handler.lowerLimit ∈ r.limits

variable {r : Receiver} {p : Nat} {leastUnacked : Option Nat} {inst : Bool} {now : Int}

/-- What a packet does to the fields that decide what is acknowledged. -/
theorem books_handlePacket
    (hok : (r.handler.handlePacket p leastUnacked inst now).2 = none) :
    (r.handlePacket p leastUnacked inst now).handler.books =
      (max r.handler.largestObserved p,
        (leastUnacked.map fun l => sub64 l 1).getD r.handler.lowerLimit,
        (leastUnacked.map fun l => deleteUpTo
          (if p ≤ r.handler.lowerLimit then r.handler.packetHistory
            else insertPacket p r.handler.packetHistory) (sub64 l 1)).getD
          (if p ≤ r.handler.lowerLimit then r.handler.packetHistory
            else insertPacket p r.handler.packetHistory)) := by
  unfold handlePacket
  unfold ReceivedPacketHandler.handlePacket at hok ⊢
  rcases hr : r.handler.receivedPacket p inst now with ⟨h, _ | e⟩
  · have hb := books_receivedPacket (congrArg Prod.snd hr)
    rw [hr] at hb
    simp only [books, Prod.mk.injEq] at hb
    obtain ⟨hb₁, hb₂, hb₃⟩ := hb
    cases leastUnacked with
    | none => simp [books, hb₁, hb₂, hb₃]
    | some l =>
      simp [books, setLowerLimit, hb₁, hb₃]
  · simp [hr] at hok

/-- The intervals after the packet itself is recorded. -/
theorem Tracks.recorded (ht : r.Tracks) (hpos : 1 ≤ p) (hlt : p < 2 ^ 64) :
    Descending (if p ≤ r.handler.lowerLimit then r.handler.packetHistory
      else insertPacket p r.handler.packetHistory) ∧
    ∀ n, Covers (if p ≤ r.handler.lowerLimit then r.handler.packetHistory
      else insertPacket p r.handler.packetHistory) n ↔
        n = p ∧ r.handler.lowerLimit < p ∨ Covers r.handler.packetHistory n := by
  by_cases hle : p ≤ r.handler.lowerLimit
  · rw [if_pos hle]
    refine ⟨ht.descending, fun n => ⟨.inr, ?_⟩⟩
    rintro (⟨-, h⟩ | h)
    · omega
    · exact h
  · rw [if_neg hle]
    obtain ⟨hd, hc⟩ := insertPacket_spec hpos hlt ht.descending
    refine ⟨hd, fun n => (hc n).trans ?_⟩
    simp [Nat.not_le.mp hle]

/-- The intervals after a packet and its STOP_WAITING frame. -/
theorem Tracks.covers_handlePacket (ht : r.Tracks) (hwf : WellFormed p leastUnacked)
    (hok : (r.handler.handlePacket p leastUnacked inst now).2 = none) :
    Descending (r.handlePacket p leastUnacked inst now).handler.packetHistory ∧
    ∀ n, Covers (r.handlePacket p leastUnacked inst now).handler.packetHistory n ↔
      (∀ l ∈ leastUnacked, l - 1 < n) ∧
        (n = p ∧ r.handler.lowerLimit < p ∨ Covers r.handler.packetHistory n) := by
  obtain ⟨hpos, hlt, hleast⟩ := hwf
  obtain ⟨hd, hc⟩ := ht.recorded hpos hlt
  have hb := congrArg (·.2.2) (books_handlePacket hok)
  change (r.handlePacket p leastUnacked inst now).handler.packetHistory = _ at hb
  rw [hb]
  cases leastUnacked with
  | none => exact ⟨hd, fun n => by simpa using hc n⟩
  | some l =>
    obtain ⟨hl₁, hl₂⟩ := hleast l rfl
    have hpred : sub64 l 1 = l - 1 := sub64_of_le hl₁
    obtain ⟨hd', hc'⟩ := deleteUpTo_spec (l - 1) hd
    simp only [map_some, getD_some, hpred]
    exact ⟨hd', fun n => (hc' n).trans (by simp [hc n])⟩

theorem Tracks.handlePacket (ht : r.Tracks) (hwf : WellFormed p leastUnacked)
    (hok : (r.handler.handlePacket p leastUnacked inst now).2 = none) :
    (r.handlePacket p leastUnacked inst now).Tracks := by
  obtain ⟨hd, hc⟩ := ht.covers_handlePacket hwf hok
  obtain ⟨hpos, hlt, hleast⟩ := hwf
  have hb := books_handlePacket hok
  have hlargest : (r.handlePacket p leastUnacked inst now).handler.largestObserved =
      max r.handler.largestObserved p := congrArg (·.1) hb
  have hlimit : (r.handlePacket p leastUnacked inst now).handler.lowerLimit =
      (leastUnacked.map fun l => sub64 l 1).getD r.handler.lowerLimit := congrArg (·.2.1) hb
  have hle := ht.limit_le
  refine ⟨hd, ?_, ?_, ?_, by simp [Receiver.handlePacket]⟩
  · intro n hn
    rw [hlargest]
    rcases ((hc n).mp hn).2 with ⟨rfl, -⟩ | hn
    · exact le_max_right ..
    · exact (ht.le_largest n hn).trans (le_max_left ..)
  · intro _
    rw [hlargest]
    refine (hc _).mpr ⟨fun l hl => ?_, ?_⟩
    · have := hleast l hl
      omega
    · by_cases hnew : r.handler.largestObserved < p
      · exact .inl ⟨max_eq_right hnew.le, hle.trans_lt hnew⟩
      · rw [max_eq_left (not_lt.mp hnew)]
        refine .inr (ht.largest fun hempty => ?_)
        have := ht.idle hempty
        omega
  · rw [hlimit, hlargest]
    cases leastUnacked with
    | none => exact hle.trans (le_max_left ..)
    | some l =>
      obtain ⟨hl₁, hl₂⟩ := hleast l rfl
      simp only [map_some, getD_some, sub64_of_le hl₁]
      omega

/-- Limits that do not go down leave the packets below them out for good. -/
theorem Exact.handlePacket (he : r.Exact) (ht : r.Tracks) (hwf : WellFormed p leastUnacked)
    (hok : (r.handler.handlePacket p leastUnacked inst now).2 = none)
    (hasc : ∀ l ∈ leastUnacked, r.handler.lowerLimit < l) :
    (r.handlePacket p leastUnacked inst now).Exact := by
  obtain ⟨-, hc⟩ := ht.covers_handlePacket hwf hok
  have hlimit : (r.handlePacket p leastUnacked inst now).handler.lowerLimit =
      (leastUnacked.map fun l => sub64 l 1).getD r.handler.lowerLimit :=
    congrArg (·.2.1) (books_handlePacket hok)
  have hall : ∀ n, r.handler.lowerLimit < n → ∀ l ∈ r.limits, l < n :=
    fun n hn l hl => (he.limits_le l hl).trans_lt hn
  refine ⟨fun n => (hc n).trans ?_, ?_, ?_⟩
  · have hold : (n = p ∧ r.handler.lowerLimit < p ∨ Covers r.handler.packetHistory n) ↔
        n ∈ p :: r.received ∧ ∀ l ∈ r.limits, l < n := by
      rw [he.covers n, mem_cons]
      constructor
      · rintro (⟨rfl, h⟩ | ⟨h, h'⟩)
        · exact ⟨.inl rfl, hall n h⟩
        · exact ⟨.inr h, h'⟩
      · rintro ⟨rfl | h, h'⟩
        · refine .inl ⟨rfl, ?_⟩
          rcases he.limit_mem with hzero | hmem
          · have := hwf.1
            omega
          · exact h' _ hmem
        · exact .inr ⟨h, h'⟩
    rw [hold]
    cases leastUnacked <;> simp [Receiver.handlePacket]
    tauto
  · rw [hlimit]
    cases leastUnacked with
    | none => simpa [Receiver.handlePacket] using he.limits_le
    | some l =>
      have hl := hwf.2.2 l rfl
      have hl' := hasc l rfl
      simp only [Receiver.handlePacket, map_some, toList_some, getD_some,
        cons_append, nil_append, mem_cons, sub64_of_le hl.1]
      rintro l' (rfl | hl'')
      · exact le_refl _
      · have := he.limits_le l' hl''
        omega
  · rw [hlimit]
    cases leastUnacked with
    | none => simpa [Receiver.handlePacket] using he.limit_mem
    | some l => simp [Receiver.handlePacket, sub64_of_le (hwf.2.2 l rfl).1]

/-! ## The frames -/

/-- In every run an ACK frame can be asked for, and acknowledges what the intervals cover. -/
theorem Tracks.getAckFrame (ht : r.Tracks) (pathID : Nat) (now : Int) :
    ∃ handler ack?, r.handler.getAckFrame pathID now = .ok (handler, ack?) ∧
      handler.books = r.handler.books ∧ ({ r with handler } : Receiver).Tracks ∧
      ∀ ack ∈ ack?, ack.toAckedPackets.Consistent ∧ ack.lowestAcked ≤ ack.largestAcked ∧
        ∀ n, ack.toAckedPackets.acksPacket n = true ↔ Covers r.handler.packetHistory n := by
  by_cases hreceived : r.received = []
  · obtain ⟨-, -, hqueued, halarm⟩ := ht.idle hreceived
    refine ⟨r.handler, none, ?_, rfl, ht, by simp⟩
    simp [ReceivedPacketHandler.getAckFrame, hqueued, halarm]
  have hlargest := ht.largest hreceived
  have hd := ht.descending
  have hmax := ht.le_largest
  rcases hh : r.handler.packetHistory with _ | ⟨top, rest⟩
  · rw [hh] at hlargest
    exact absurd hlargest (covers_nil _)
  obtain ⟨lowest, hlowest⟩ : ∃ lowest, (top :: rest).getLast? = some lowest :=
    ⟨_, getLast?_eq_some_getLast (cons_ne_nil top rest)⟩
  rw [hh] at hd hlargest hmax
  have htop : top.last = r.handler.largestObserved := hd.last_of_largest hmax hlargest
  have hfirst : ∀ n, Covers (top :: rest) n → lowest.first ≤ n := fun n => hd.first_le hlowest
  rcases r.handler.getAckFrame_cases pathID now (hh.symm ▸ hlowest) with
    h | ⟨handler, ack, h, hbooks, hl, hf, hranges⟩
  · exact ⟨_, _, h, rfl, ht, by simp⟩
  refine ⟨handler, some ack, h, hbooks, ?_, ?_⟩
  · simp only [books, Prod.mk.injEq] at hbooks
    obtain ⟨hlargest', hlimit, hhistory⟩ := hbooks
    exact ⟨by simpa [hhistory] using ht.descending,
      by simpa [hhistory, hlargest'] using ht.le_largest,
      by simpa [hhistory, hlargest'] using ht.largest,
      by simpa [hlimit, hlargest'] using ht.limit_le, fun hempty => absurd hempty hreceived⟩
  rintro _ ⟨⟩
  rw [hh] at hranges
  refine ⟨⟨?_, ?_⟩, by rw [hf, hl]; exact hfirst _ hlargest, fun n => ?_⟩
  · intro first hmem
    rw [hranges] at hmem
    split at hmem
    · obtain rfl : top = first := by simpa using hmem
      exact hl.trans htop.symm
    · simp at hmem
  · intro last hmem
    rw [hranges] at hmem
    split at hmem
    · obtain rfl : lowest = last := by simpa [hlowest] using hmem
      exact hf
    · simp at hmem
  · unfold AckedPackets.acksPacket AckedPackets.hasMissingRanges
    rw [hranges, hf, hl]
    cases rest with
    | nil =>
      -- a single interval is reported by its two ends
      obtain rfl : top = lowest := by simpa using hlowest
      simp [← htop]
    | cons next rest =>
      by_cases hout : n < lowest.first ∨ r.handler.largestObserved < n
      · rw [if_pos hout]
        refine ⟨by simp, fun hn => ?_⟩
        have h₁ := hfirst n hn
        have h₂ := hmax n hn
        omega
      · rw [if_neg hout, if_pos (by simp), if_pos (by simp)]
        simp [Covers]

variable {C : Receiver → Action → Prop}

theorem tracks_of_reach (hr : machine.Reach C r) : r.Tracks := by
  refine Machine.Reach.invariant hr ?_ ?_
  · rintro _ ⟨version, rfl⟩
    exact ⟨descending_nil, by simp [new], by simp, le_refl _,
      fun _ => ⟨rfl, rfl, rfl, rfl⟩⟩
  · rintro r (⟨p, l, inst, now⟩ | ⟨pathID, now⟩) r' ht - hstep
    · obtain ⟨hwf, hok, rfl⟩ := hstep
      exact ht.handlePacket hwf hok
    · obtain ⟨handler, ack, hget, rfl⟩ := hstep
      obtain ⟨handler', ack', hget', -, ht', -⟩ := ht.getAckFrame pathID now
      obtain ⟨rfl, -⟩ := Prod.mk.inj (Except.ok.inj (hget.symm.trans hget'))
      exact ht'

/-- A STOP_WAITING frame does not lower the limit. -/
def LimitAscends (r : Receiver) : Action → Prop
  | .handlePacket _ leastUnacked _ _ => ∀ l ∈ leastUnacked, r.handler.lowerLimit < l
  | .getAckFrame _ _ => True

/-- **A receiver acknowledges exactly what it has received and was not told to give up**, in
every run in which no STOP_WAITING frame lowers the limit. -/
theorem acknowledgements_exact (hr : machine.Reach LimitAscends r) : r.AcksExactly := by
  have hexact : r.Tracks ∧ r.Exact := by
    refine Machine.Reach.invariant (P := fun r => r.Tracks ∧ r.Exact) hr ?_ ?_
    · rintro _ ⟨version, rfl⟩
      exact ⟨tracks_of_reach (C := LimitAscends) (.init ⟨version, rfl⟩),
        by simp [new], by simp, .inl rfl⟩
    · rintro r (⟨p, l, inst, now⟩ | ⟨pathID, now⟩) r' ⟨ht, he⟩ hasc hstep
      · obtain ⟨hwf, hok, rfl⟩ := hstep
        exact ⟨ht.handlePacket hwf hok, he.handlePacket ht hwf hok hasc⟩
      · obtain ⟨handler, ack, hget, rfl⟩ := hstep
        obtain ⟨handler', ack', hget', hbooks, ht', -⟩ := ht.getAckFrame pathID now
        obtain ⟨rfl, -⟩ := Prod.mk.inj (Except.ok.inj (hget.symm.trans hget'))
        simp only [books, Prod.mk.injEq] at hbooks
        obtain ⟨-, hlimit, hhistory⟩ := hbooks
        exact ⟨ht', by simpa [hhistory] using he.covers, by simpa [hlimit] using he.limits_le,
          by simpa [hlimit] using he.limit_mem⟩
  obtain ⟨ht, he⟩ := hexact
  intro pathID now
  obtain ⟨handler, ack?, hget, -, -, hack⟩ := ht.getAckFrame pathID now
  refine ⟨handler, ack?, hget, fun ack hmem => ?_⟩
  obtain ⟨hcons, hle, hcov⟩ := hack ack hmem
  exact ⟨hcons, hle, fun n => (hcov n).trans (he.covers n)⟩

theorem reach_handlePacket (hr : machine.Reach C r)
    (hc : C r (.handlePacket p leastUnacked inst now)) (hwf : WellFormed p leastUnacked)
    (hok : (r.handler.handlePacket p leastUnacked inst now).2 = none) :
    machine.Reach C (r.handlePacket p leastUnacked inst now) :=
  .step hr hc ⟨hwf, hok, rfl⟩

theorem wellFormed_none (hpos : 1 ≤ p) (hlt : p < 2 ^ 64) : WellFormed p none :=
  ⟨hpos, hlt, by simp⟩

theorem wellFormed_some {l : Nat} (hlt : p < 2 ^ 64) (hl : 1 ≤ l) (hle : l ≤ p) :
    WellFormed p (some l) :=
  ⟨hl.trans hle, hlt, by simpa using ⟨hl, hle⟩⟩

/-- Packet 10 gives up everything below 8. -/
def firstPacket : Receiver :=
  handlePacket { handler := .new versionMP } 10 (some 8) true 0

theorem reach_firstPacket : machine.Reach LimitAscends firstPacket :=
  reach_handlePacket (.init ⟨versionMP, rfl⟩) (show ∀ l ∈ some 8, 0 < l by simp)
    (wellFormed_some (by decide) (by decide) (by decide)) (by decide +kernel)

/-- Packets 9 and 10 are acknowledged, packet 5 is not. -/
theorem given_up_packet_not_acked :
    ∃ r : Receiver, r.received = [9, 5, 10] ∧ r.limits = [7] ∧ r.handler.ackQueued = true ∧
      r.AcksExactly := by
  refine ⟨(firstPacket.handlePacket 5 none true 0).handlePacket 9 none true 0, rfl, rfl,
    by decide +kernel, acknowledgements_exact ?_⟩
  refine reach_handlePacket (reach_handlePacket reach_firstPacket ?_ ?_ ?_) ?_ ?_ ?_
  · simp [LimitAscends]
  · exact wellFormed_none (by decide) (by decide)
  · decide +kernel
  · simp [LimitAscends]
  · exact wellFormed_none (by decide) (by decide)
  · decide +kernel

/-- Packet 5 was overtaken by packet 10 and carries an older STOP_WAITING frame.  It takes the
limit from 7 back to 2, and packet 6 is acknowledged when it arrives. -/
theorem older_limit_acks_given_up_packet :
    ∃ r : Receiver, machine.Reach Machine.Always r ∧ r.received = [6, 5, 10] ∧
      r.limits = [2, 7] ∧
      (∃ handler ack, r.handler.getAckFrame 0 0 = .ok (handler, some ack) ∧
        ack.toAckedPackets.acksPacket 6 = true) ∧
      ¬ r.AcksExactly := by
  let r := (firstPacket.handlePacket 5 (some 3) true 0).handlePacket 6 none true 0
  have hreach : machine.Reach Machine.Always r := by
    refine reach_handlePacket (reach_handlePacket (reach_firstPacket.mono fun _ _ _ => trivial)
      trivial ?_ ?_) trivial ?_ ?_
    · exact wellFormed_some (by decide) (by decide) (by decide)
    · decide +kernel
    · exact wellFormed_none (by decide) (by decide)
    · decide +kernel
  have hack : ∃ handler ack, r.handler.getAckFrame 0 0 = .ok (handler, some ack) ∧
      ack.toAckedPackets.acksPacket 6 = true := ⟨_, _, rfl, by decide +kernel⟩
  refine ⟨r, hreach, rfl, rfl, hack, fun hexact => ?_⟩
  obtain ⟨handler, ack, hget, hsix⟩ := hack
  obtain ⟨handler', ack', hget', hexact⟩ := hexact 0 0
  obtain ⟨-, rfl⟩ := Prod.mk.inj (Except.ok.inj (hget.symm.trans hget'))
  have hlimit := (((hexact ack rfl).2.2 6).mp hsix).2 7
  exact absurd (hlimit (show 7 ∈ [2, 7] by simp)) (by decide)

end Receiver
end MpQuic
