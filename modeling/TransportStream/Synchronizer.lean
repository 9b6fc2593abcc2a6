import TransportStream.Options
import TransportStream.Packet

/-!
Framing: finds transport packets in a byte stream that starts anywhere, and keeps the
frame while the stream stays aligned. A lock needs a run of plausible packet starts at one
stride. Every packet after it is checked again; a bad one drops a byte and the search
starts over.
-/
namespace TransportStream

/-- What framing hands on, and its place in the stream. -/
inductive SyncItem where
  | locked (stride place : Nat)
  | packet (packet : TransportPacket)
  | lost (place : Nat)
  deriving DecidableEq, Repr

namespace SyncItem

/-- The place of an item in the stream, counted without end. -/
def place : SyncItem → Nat
  | .packet carried => carried.place
  | .locked _ place | .lost place => place

/-- The stream offset that an item tells. -/
def offset (item : SyncItem) : Nat := offsetOf item.place

end SyncItem

/-- The state of framing. `base` is the place of the first buffered byte in the stream,
counted without end, `stride` the last one locked on, `skipped` the bytes dropped since the last lock, and
`pendingArrival` the stamp read ahead for the next packet. -/
structure Synchronizer where
  buffer : Bytes := []
  base : Nat := 0
  forced : Option Nat
  stride : Option Nat := none
  locked : Bool := false
  everLocked : Bool := false
  minRun : Nat
  maxResync : Nat
  skipped : Nat := 0
  pendingArrival : Option Nat := none
  ended : Bool := false
  received : Nat := 0
  resyncs : Nat := 0
  invalid : Nat := 0
  deriving DecidableEq, Repr

namespace Synchronizer

def ofOptions (options : Options) : Synchronizer :=
  { forced := options.forcedStride
    minRun := options.minSyncRun
    maxResync := options.maxResyncBytes }

/-- Takes more of the stream. -/
def push (sync : Synchronizer) (data : Bytes) : Synchronizer :=
  { sync with buffer := sync.buffer ++ data, received := sync.received + data.length }

/-- No more input will come: short runs count, and the last packet needs no padding. -/
def finish (sync : Synchronizer) : Synchronizer := { sync with ended := true }

/-- Drops what is buffered and the frame. The stream goes on at `offset`, or after the
bytes dropped. -/
def flush (sync : Synchronizer) (offset : Option Nat) : Synchronizer :=
  { sync with
    base := offset.getD (sync.base + sync.buffer.length)
    buffer := []
    locked := false
    skipped := 0
    pendingArrival := none
    ended := false }

/-- Whether packets are led by arrival stamps. -/
def isStamped (sync : Synchronizer) : Bool := sync.stride == some stampedStride

/-- The 30-bit arrival stamp in four bytes. -/
def arrivalStamp (stamp : Bytes) : Nat := Bytes.toNat stamp % 0x40000000

/-- Whether a packet can start here: a sync byte, and after three bytes a control field
that is not the reserved one. -/
def plausibleStart : Bytes → Bool
  | first :: _ :: _ :: fourth :: _ => first == syncByte && fourth.toNat / 16 % 4 != 0
  | _ => false

/-- Whether `run` packets can start here, one every `stride` bytes. -/
def plausibleRun (stride : Nat) : Nat → Bytes → Bool
  | 0, _ => true
  | run + 1, data => plausibleStart data && plausibleRun stride run (data.drop stride)

/-- How many packet starts `available` bytes show at a stride. -/
def startsWithin (available stride : Nat) : Nat :=
  if available < 4 then 0 else (available - 4) / stride + 1

/-- Whether packets at a stride start here, `none` while more data is needed. At the end
of input a shorter run is enough, if one whole packet is there. -/
def alignedAt? (minRun : Nat) (ended : Bool) (available stride : Nat) (data : Bytes) :
    Option Bool :=
  let starts := startsWithin available stride
  if minRun ≤ starts then some (plausibleRun stride minRun data)
  else if ended then
    some (decide (1 ≤ starts ∧ packetSize ≤ available) && plausibleRun stride starts data)
  else none

/-- What a position in the stream turns out to be. -/
inductive Verdict where
  | aligned (stride : Nat)
  | undecided
  | unaligned
  deriving DecidableEq, Repr

/-- Tries strides in order. The first alignment found counts, even after a stride that
needs more data. -/
def judge (test : Nat → Option Bool) : List Nat → Verdict
  | [] => .unaligned
  | stride :: others =>
    match test stride with
    | some true => .aligned stride
    | some false => judge test others
    | none =>
      match judge test others with
      | .aligned other => .aligned other
      | .undecided | .unaligned => .undecided

/-- Where a search ends: at an alignment, at a position that needs more data, or at the
end of the buffer. -/
inductive Search where
  | aligned (position stride : Nat)
  | undecided (position : Nat)
  | exhausted
  deriving DecidableEq, Repr

/-- Searches from `position` on; `data` is the buffer of `total` bytes from there. -/
def search (minRun : Nat) (ended : Bool) (strides : List Nat) (total : Nat) :
    Nat → Bytes → Search
  | _, [] => .exhausted
  | position, first :: rest =>
    if first = syncByte then
      let test := fun stride =>
        alignedAt? minRun ended (total - position) stride (first :: rest)
      match judge test strides with
      | .aligned stride => .aligned position stride
      | .undecided => .undecided position
      | .unaligned => search minRun ended strides total (position + 1) rest
    else search minRun ended strides total (position + 1) rest

/-- The strides to try: the forced one, or all, the last one locked on first. -/
def candidates (sync : Synchronizer) : List Nat :=
  match sync.forced with
  | some stride => [stride]
  | none =>
    match sync.stride with
    | none => strides
    | some known => known :: strides.filter (fun stride => stride != known)

/-- Drops bytes from the front of the buffer. -/
def discard (sync : Synchronizer) (count : Nat) : Synchronizer :=
  { sync with
    buffer := sync.buffer.drop count
    base := sync.base + count
    skipped := sync.skipped + count }

/-- Whether too much was dropped since the last lock. -/
def checkBudget (sync : Synchronizer) : Except Error Unit :=
  if sync.skipped ≤ sync.maxResync then .ok ()
  else if sync.everLocked then .error (.syncLost sync.skipped)
  else .error (.noSync sync.skipped)

/-- The arrival stamp right before a position of the buffer. -/
def stampBefore (sync : Synchronizer) (position stride : Nat) : Option Nat :=
  if stride = stampedStride ∧ stampSize ≤ position then
    some (arrivalStamp ((sync.buffer.drop (position - stampSize)).take stampSize))
  else none

/-- Locks on a stride at a position of the buffer. -/
def lock (sync : Synchronizer) (position stride : Nat) :
    Synchronizer × Except Error (Option SyncItem) :=
  let stamped := { sync with pendingArrival := sync.stampBefore position stride }
  let sync := stamped.discard position
  match sync.checkBudget with
  | .error error => (sync, .error error)
  | .ok () =>
    ({ sync with stride := some stride, locked := true, everLocked := true, skipped := 0 },
      .ok (some (.locked stride sync.base)))

/-- Drops bytes in which no packet can start. -/
def giveUp (sync : Synchronizer) (count : Nat) : Synchronizer × Except Error (Option SyncItem) :=
  let sync := sync.discard count
  (sync, sync.checkBudget.map (fun _ => none))

/-- Searches the buffer for a lock. -/
def tryLock (sync : Synchronizer) : Synchronizer × Except Error (Option SyncItem) :=
  let total := sync.buffer.length
  match search sync.minRun sync.ended sync.candidates total 0 sync.buffer with
  | .aligned position stride => sync.lock position stride
  | .undecided position => sync.giveUp position
  | .exhausted => sync.giveUp total

/-- Gives up the frame at a byte where no packet starts. -/
def lose (sync : Synchronizer) : Synchronizer × Except Error (Option SyncItem) :=
  let lost := { sync with locked := false, resyncs := sync.resyncs + 1, pendingArrival := none }
  (lost.discard 1, .ok (some (.lost sync.base)))

/-- Takes one unit of the stride off the buffer. The stamp behind a packet belongs to the
next. -/
def takeUnit (sync : Synchronizer) (stride : Nat) : Synchronizer :=
  let unit := sync.buffer.take stride
  { sync with
    buffer := sync.buffer.drop stride
    base := sync.base + unit.length
    pendingArrival :=
      if stride = stampedStride ∧ unit.length = stampedStride then
        some (arrivalStamp (unit.drop packetSize))
      else none }

/-- Whether the buffer holds a unit of the stride; at the end of input a packet without
its padding is one. -/
def hasUnit (sync : Synchronizer) (stride : Nat) : Bool :=
  decide (0 < stride) && !sync.buffer.isShorter packetSize &&
    (sync.ended || !sync.buffer.isShorter stride)

theorem takeUnit_shorter {sync : Synchronizer} {stride : Nat} (ready : sync.hasUnit stride = true) :
    (sync.takeUnit stride).buffer.length < sync.buffer.length := by
  simp only [hasUnit, Bool.and_eq_true, decide_eq_true_eq, Bool.not_eq_true',
    ← Bool.not_eq_true, Bytes.isShorter_iff, packetSize] at ready
  simp only [takeUnit, List.length_drop]
  omega

/-- The next item of the stream. `none` asks for more data; after an error framing can go
on. Units in which no packet can be read are counted and passed over. -/
def nextItem (sync : Synchronizer) : Synchronizer × Except Error (Option SyncItem) :=
  if sync.locked then
    let stride := sync.stride.getD packetSize
    if _ready : sync.hasUnit stride = true then
      if plausibleStart sync.buffer then
        match TransportPacket.parse (sync.buffer.take stride) sync.base with
        | .ok packet =>
          (sync.takeUnit stride,
            .ok (some (.packet { packet with arrival := sync.pendingArrival })))
        | .error _ => nextItem { sync.takeUnit stride with invalid := sync.invalid + 1 }
      else sync.lose
    else (sync, .ok none)
  else sync.tryLock
termination_by sync.buffer.length
decreasing_by exact takeUnit_shorter _ready

/-- Bounds how many items the buffer can still give: two for each byte, and a lock. -/
def potential (sync : Synchronizer) : Nat :=
  2 * sync.buffer.length + (if sync.locked then 0 else 1)

/-- A lock drops the bytes before it. -/
theorem lock_item {sync next : Synchronizer} {position stride : Nat} {item : SyncItem}
    (result : sync.lock position stride = (next, .ok (some item))) :
    item = .locked stride (sync.base + position) ∧
      next = { sync.discard position with
        stride := some stride, locked := true, everLocked := true, skipped := 0
        pendingArrival := sync.stampBefore position stride } := by
  unfold lock at result
  dsimp only at result
  split at result
  · cases result
  · cases result
    exact ⟨rfl, rfl⟩

/-- A search gives no item but a lock where it found an alignment. -/
theorem tryLock_item {sync next : Synchronizer} {item : SyncItem}
    (result : sync.tryLock = (next, .ok (some item))) :
    ∃ position stride,
      search sync.minRun sync.ended sync.candidates sync.buffer.length 0 sync.buffer =
        .aligned position stride ∧
      sync.lock position stride = (next, .ok (some item)) := by
  have gaveUp (count : Nat) : sync.giveUp count ≠ (next, .ok (some item)) := by
    intro same
    simp only [giveUp, Prod.mk.injEq] at same
    cases checked : (sync.discard count).checkBudget <;> simp [checked, Except.map] at same
  unfold tryLock at result
  dsimp only at result
  split at result
  · rename_i position stride found
    exact ⟨position, stride, found, result⟩
  · exact absurd result (gaveUp _)
  · exact absurd result (gaveUp _)

theorem potential_nextItem {sync next : Synchronizer} {item : SyncItem}
    (result : sync.nextItem = (next, .ok (some item))) : next.potential < sync.potential := by
  fun_induction nextItem sync with
  | case1 sync locked stride ready start packet parsed =>
    cases result
    have shorter := takeUnit_shorter ready
    simp only [potential, locked, takeUnit] at shorter ⊢
    simp only [if_true]
    omega
  | case2 sync locked stride ready start fault parsed ih =>
    have shorter := takeUnit_shorter ready
    have before := ih result
    simp only [potential, locked, takeUnit] at shorter before ⊢
    simp only [if_true] at before ⊢
    omega
  | case3 sync locked stride ready start =>
    simp only [hasUnit, Bool.and_eq_true, Bool.not_eq_true', ← Bool.not_eq_true,
      Bytes.isShorter_iff, packetSize] at ready
    cases result
    simp only [potential, discard, locked, if_true, List.length_drop, Bool.false_eq_true, if_false]
    omega
  | case4 sync locked stride notReady => cases result
  | case5 sync unlocked =>
    obtain ⟨position, stride, _, locked⟩ := tryLock_item result
    obtain ⟨_, rfl⟩ := lock_item locked
    simp only [potential, discard, if_true, if_neg unlocked, List.length_drop]
    omega

/-- Takes items until framing asks for more data or an error ends the run. -/
def drain (sync : Synchronizer) : Synchronizer × List SyncItem × Option Error :=
  match _step : sync.nextItem with
  | (next, .error error) => (next, [], some error)
  | (next, .ok none) => (next, [], none)
  | (next, .ok (some item)) =>
    let (last, items, error) := drain next
    (last, item :: items, error)
termination_by sync.potential
decreasing_by exact potential_nextItem _step

theorem drain_eq (sync : Synchronizer) :
    sync.drain =
      match sync.nextItem with
      | (next, .error error) => (next, [], some error)
      | (next, .ok none) => (next, [], none)
      | (next, .ok (some item)) => (next.drain.1, item :: next.drain.2.1, next.drain.2.2) := by
  rw [drain]
  split <;> rename_i step <;> rw [step]

end Synchronizer

end TransportStream
