import TransportStream.Proofs.FramingOffsets

/-!
Arrival stamps. At the stride of stamped packets each packet bears the stamp that stands right
before it in the input. Only the first packet of a frame may come without: its stamp is read from
the bytes that framing still holds when it locks, and a search that asks for more data, like the
loss of a frame, drops bytes that the next lock needs.
-/
namespace TransportStream

namespace Synchronizer

/-- The stamp that stands right before a place of the input. -/
def stampAt (input : Bytes) (place : Nat) : Nat :=
  arrivalStamp ((input.take place).drop (place - stampSize))

/-- An item, and the place of the first byte that framing held when it was asked for it. -/
structure Told where
  held : Nat
  item : SyncItem
  deriving DecidableEq

/-- The items that requests bring. -/
def toldAll (sync : Synchronizer) : List Request → List Told
  | [] => []
  | request :: requests =>
    (itemsIn (sync.ask request).2).map (Told.mk sync.base) ++
      (sync.ask request).1.toldAll requests

/-- The stamp of a packet at this place that comes right after an item: none if the item is a lock
on the packet, and the bytes before it were no longer held. -/
def stampDue (input : Bytes) (last : Told) (place : Nat) : Option Nat :=
  if last.item = .locked stampedStride place ∧ place < last.held + stampSize then none
  else some (stampAt input place)

variable {sync next : Synchronizer} {input data : Bytes} {told : List Told} {last : Told}
variable {place position : Nat}

/-! ### Stamps in the input -/

theorem stampDue_append (inside : place ≤ input.length) (more : Bytes) :
    stampDue (input ++ more) last place = stampDue input last place := by
  simp only [stampDue, stampAt, List.take_append_of_le_length inside]

/-- Behind an item that is no lock on this place, the stamp before it is due. -/
theorem stampDue_behind (behind : last.item.place < place) :
    stampDue input last place = some (stampAt input place) := by
  refine if_neg fun ⟨lock, _⟩ => ?_
  rw [lock] at behind
  exact Nat.lt_irrefl place behind

/-- The stamp before a place that framing still holds is read from its buffer. -/
theorem Stands.stampAt (stands : Stands 0 input [] sync) (room : stampSize ≤ position) :
    stampAt input (sync.base + position) =
      arrivalStamp ((sync.buffer.drop (position - stampSize)).take stampSize) := by
  obtain ⟨gone, whole, base⟩ := stands
  rw [List.append_nil] at whole
  rw [Nat.zero_add] at base
  have front : sync.base + position - stampSize = gone.length + (position - stampSize) := by omega
  have size : position - (position - stampSize) = stampSize := by omega
  rw [Synchronizer.stampAt, front, whole, base, List.take_length_add_append,
    List.drop_length_add_append, List.drop_take, size]

/-- What framing reads ahead when it locks. -/
theorem Stands.stampBefore (stands : Stands 0 input [] sync) (position : Nat) :
    sync.stampBefore position stampedStride =
      stampDue input ⟨sync.base, .locked stampedStride (sync.base + position)⟩
        (sync.base + position) := by
  unfold Synchronizer.stampBefore stampDue
  by_cases room : stampSize ≤ position
  · have held : ¬sync.base + position < sync.base + stampSize :=
      Nat.not_lt.mpr (Nat.add_le_add_left room _)
    rw [if_pos ⟨rfl, room⟩, if_neg fun cut => held cut.2, stands.stampAt room]
  · have cut : sync.base + position < sync.base + stampSize :=
      Nat.add_lt_add_left (Nat.not_le.mp room) _
    rw [if_neg fun held => room held.2, if_pos ⟨rfl, cut⟩]

/-! ### What is read ahead -/

/-- `Awaits input last sync`: what framing has read ahead is the stamp of the packet where it
stands, unless input has ended and nothing is left. -/
def Awaits (input : Bytes) (last : Told) (sync : Synchronizer) : Prop :=
  sync.pendingArrival = stampDue input last sync.base ∨ sync.ended = true ∧ sync.buffer = []

/-- With a unit of the stream, framing takes the stamp of the next packet. -/
theorem awaits_takeUnit (stands : Stands 0 input [] sync) (tuned : sync.stride = some stampedStride)
    (ready : sync.hasUnit sync.unitSize = true) (behind : last.item.place ≤ sync.base)
    (invalid : Nat) : Awaits input last { sync.takeUnit sync.unitSize with invalid } := by
  have size : sync.unitSize = stampedStride := unitSize_eq tuned
  rcases takeUnit_place ready with base | nothing
  · left
    have moved := (takeUnit_moves sync sync.unitSize).2
    rw [size] at base moved ⊢
    have whole : stampedStride ≤ sync.buffer.length := by omega
    have passed : last.item.place < sync.base + stampedStride :=
      Nat.lt_of_le_of_lt behind (Nat.lt_add_of_pos_right (by decide))
    have stamp : (sync.takeUnit stampedStride).pendingArrival =
        some (arrivalStamp ((sync.buffer.take stampedStride).drop packetSize)) := by
      simp only [takeUnit, List.length_take, Nat.min_eq_left whole, and_self, if_true]
    have due := @Stands.stampAt sync input stampedStride stands (by decide)
    change (sync.takeUnit stampedStride).pendingArrival =
      stampDue input last (sync.takeUnit stampedStride).base
    rw [base, stamp, stampDue_behind passed, due, List.drop_take]
    rfl
  · exact .inr nothing

/-- What framing has read ahead when there is a unit to take. -/
theorem Awaits.ready (awaits : Awaits input last sync)
    (ready : sync.hasUnit sync.unitSize = true) :
    sync.pendingArrival = stampDue input last sync.base := by
  rcases awaits with due | ⟨_, empty⟩
  · exact due
  · simp [hasUnit, empty, packetSize, Bytes.isShorter] at ready

/-! ### Every request -/

/-- `Stamped input told sync`: every packet told bears the stamp that is due, and framing has read
ahead the one for the next packet. -/
structure Stamped (input : Bytes) (told : List Told) (sync : Synchronizer) : Prop where
  stands : Stands 0 input [] sync
  tuned : sync.stride = lastLock none (told.map Told.item)
  ahead : sync.locked = true → sync.stride = some stampedStride →
    ∃ last, told.getLast? = some last ∧ last.item.place ≤ sync.base ∧ Awaits input last sync
  past : ∀ front held packet after, told = front ++ ⟨held, .packet packet⟩ :: after →
    lastLock none (front.map Told.item) = some stampedStride →
      ∃ last, front.getLast? = some last ∧ packet.place ≤ input.length ∧
        packet.arrival = stampDue input last packet.place

theorem Stands.base_le (stands : Stands 0 input [] sync) : sync.base ≤ input.length := by
  obtain ⟨gone, whole, base⟩ := stands
  simp only [whole, base, List.length_append]
  omega

/-- Outside of a frame, nothing is read ahead. -/
theorem Stamped.unlocked (stamped : Stamped input told sync) (consumes : Consumes sync next)
    (stride : next.stride = sync.stride) (unlocked : next.locked = false) :
    Stamped input told next where
  stands := stamped.stands.consumes consumes
  tuned := stride.trans stamped.tuned
  ahead locked := by simp [unlocked] at locked
  past := stamped.past

/-- One more item. If it is a packet, it bears the stamp that is due. -/
theorem Stamped.add {item : SyncItem} (stamped : Stamped input told sync) (held : Nat)
    (consumes : Consumes sync next) (tuned : next.stride = lastLock sync.stride [item])
    (ahead : next.locked = true → next.stride = some stampedStride →
      item.place ≤ next.base ∧ Awaits input ⟨held, item⟩ next)
    (bears : ∀ packet, item = .packet packet → sync.stride = some stampedStride →
      ∃ last, told.getLast? = some last ∧ packet.place ≤ sync.base ∧
        packet.arrival = stampDue input last packet.place) :
    Stamped input (told ++ [⟨held, item⟩]) next where
  stands := stamped.stands.consumes consumes
  tuned := by
    rw [List.map_append, lastLock_append, ← stamped.tuned, tuned]
    rfl
  ahead locked stride := by
    obtain ⟨behind, awaits⟩ := ahead locked stride
    exact ⟨⟨held, item⟩, by simp, behind, awaits⟩
  past front place packet after cut stride := by
    rcases concat_cut cut with ⟨_, rfl, own⟩ | ⟨rest, _, earlier⟩
    · cases own
      rw [← stamped.tuned] at stride
      obtain ⟨last, final, inside, arrival⟩ := bears packet rfl stride
      exact ⟨last, final, Nat.le_trans inside stamped.stands.base_le, arrival⟩
    · exact stamped.past front place packet rest earlier stride

theorem tryLock_stamp {stride : Nat}
    (result : sync.tryLock = (next, .ok (some (.locked stride (sync.base + position))))) :
    next.pendingArrival = sync.stampBefore position stride := by
  obtain ⟨place, other, _, locked⟩ := tryLock_item result
  obtain ⟨same, rfl⟩ := lock_item locked
  simp only [SyncItem.locked.injEq, Nat.add_left_cancel_iff] at same
  obtain ⟨rfl, rfl⟩ := same
  rfl

/-- A search for the frame reads the stamp before the packet on which it locks, if it still holds
that. -/
theorem Stamped.sought (stamped : Stamped input told sync) (unlocked : sync.locked = false) :
    Stamped input (told ++ (handed sync.tryLock.2).map (Told.mk sync.base)) sync.tryLock.1 := by
  have sought := tryLock_sought sync
  generalize result : sync.tryLock = outcome at sought
  cases sought with
  | locks within budget =>
    have stamp := tryLock_stamp result
    refine stamped.add sync.base (consumes_discard within) rfl (fun _ tuned => ?_) (by simp)
    cases tuned
    exact ⟨Nat.le_refl _, .inl (stamp.trans (stamped.stands.stampBefore _))⟩
  | waits within budget =>
    simp only [handed, Option.toList_none, List.map_nil, List.append_nil]
    exact stamped.unlocked (consumes_discard within) rfl unlocked
  | fails within spent =>
    simp only [handed, List.map_nil, List.append_nil]
    exact stamped.unlocked (consumes_discard within) rfl unlocked

/-- A unit that is no packet leaves the stamp of the one behind it. -/
theorem Stamped.skipped (stamped : Stamped input told sync) (locked : sync.locked = true)
    (ready : sync.hasUnit sync.unitSize = true) (invalid : Nat) :
    Stamped input told { sync.takeUnit sync.unitSize with invalid } where
  stands := stamped.stands.consumes (consumes_takeUnit sync sync.unitSize)
  tuned := stamped.tuned
  ahead _ stride := by
    obtain ⟨last, final, behind, _⟩ := stamped.ahead locked stride
    refine ⟨last, final, ?_, awaits_takeUnit stamped.stands stride ready behind invalid⟩
    exact Nat.le_trans behind (consumes_takeUnit sync sync.unitSize).base_le
  past := stamped.past

/-- One request for an item. Where framing stands matters only to a search, which asks at once. -/
theorem Stamped.step (stamped : Stamped input told sync) (held : Nat)
    (asked : sync.locked = false → held = sync.base) :
    Stamped input (told ++ (handed sync.nextItem.2).map (Told.mk held)) sync.nextItem.1 := by
  fun_induction nextItem sync with
  | case1 sync locked stride ready start packet parsed =>
    have place : packet.place = sync.base := (TransportPacket.parse_spec parsed).2.2.1
    have consumes := consumes_takeUnit sync stride
    refine stamped.add held consumes rfl (fun _ tuned => ?_) ?_
    · let own : Told := ⟨held, .packet { packet with arrival := sync.pendingArrival }⟩
      have behind : own.item.place ≤ sync.base := Nat.le_of_eq place
      refine ⟨Nat.le_trans behind consumes.base_le, ?_⟩
      exact awaits_takeUnit stamped.stands tuned ready behind sync.invalid
    · rintro _ ⟨⟩ tuned
      obtain ⟨last, final, _, awaits⟩ := stamped.ahead locked tuned
      refine ⟨last, final, Nat.le_of_eq place, ?_⟩
      rw [place]
      exact awaits.ready ready
  | case2 sync locked stride ready start fault refused ih =>
    have searching : ¬sync.locked = false := by simp [locked]
    exact ih (stamped.skipped locked ready _) (fun unlocked => absurd unlocked searching)
  | case3 sync locked stride ready noStart =>
    have filled : 1 ≤ sync.buffer.length := by
      have shorter := takeUnit_shorter ready
      omega
    have lost : Consumes sync sync.lose.1 := consumes_discard filled
    have unlocked : sync.lose.1.locked = false := rfl
    exact stamped.add held lost rfl (by simp [unlocked]) (by simp)
  | case4 sync locked stride notReady =>
    simpa [handed] using stamped
  | case5 sync unlocked =>
    have searching : sync.locked = false := eq_false_of_ne_true unlocked
    rw [asked searching]
    exact stamped.sought searching

/-- More of the input, unless it has ended. -/
theorem Stamped.pushed (stamped : Stamped input told sync)
    (unended : sync.ended = true → data = []) :
    Stamped (input ++ data) told (sync.push data) where
  stands := by
    obtain ⟨gone, whole, base⟩ := stamped.stands
    rw [List.append_nil] at whole
    exact ⟨gone, by simp [push, whole], base⟩
  tuned := stamped.tuned
  ahead locked stride := by
    obtain ⟨last, final, behind, awaits⟩ := stamped.ahead locked stride
    refine ⟨last, final, behind, awaits.imp (fun due => ?_) fun nothing => ?_⟩
    · exact due.trans (stampDue_append stamped.stands.base_le data).symm
    · exact ⟨nothing.1, by simp [push, nothing.2, unended nothing.1]⟩
  past front held packet after cut stride := by
    obtain ⟨last, final, inside, arrival⟩ := stamped.past front held packet after cut stride
    refine ⟨last, final, ?_, arrival.trans (stampDue_append inside data).symm⟩
    exact Nat.le_trans inside (List.length_append ▸ Nat.le_add_right ..)

theorem Stamped.asked (stamped : Stamped input told sync) (request : Request)
    (within : .prolonged ∉ (sync.ask request).2) :
    Stamped (input ++ request.data)
      (told ++ (itemsIn (sync.ask request).2).map (Told.mk sync.base)) (sync.ask request).1 := by
  cases request with
  | push data =>
    have quiet : itemsIn (sync.ask (.push data)).2 = [] := by
      simp only [ask]
      split <;> rfl
    have unended : sync.ended = true → data = [] := by
      simpa [ask] using within
    rw [quiet, List.map_nil, List.append_nil]
    exact stamped.pushed unended
  | next =>
    simp only [ask, Request.data, List.append_nil, itemsIn_gave]
    exact stamped.step sync.base fun _ => rfl
  | finish =>
    simp only [ask, Request.data, itemsIn, List.filterMap_nil, List.map_nil, List.append_nil]
    refine ⟨stamped.stands, stamped.tuned, fun locked stride => ?_, stamped.past⟩
    obtain ⟨last, final, behind, awaits⟩ := stamped.ahead locked stride
    exact ⟨last, final, behind, awaits.imp_right fun nothing => ⟨rfl, nothing.2⟩⟩
  | flush =>
    have gone : Consumes sync (sync.flush none) := ⟨sync.buffer, by simp [flush], rfl⟩
    have quiet : itemsIn (sync.ask .flush).2 = [] := rfl
    rw [quiet, Request.data, List.append_nil, List.map_nil, List.append_nil]
    exact stamped.unlocked gone rfl rfl

theorem toldAll_stamped {requests : List Request} (stamped : Stamped input told sync)
    (within : .prolonged ∉ (sync.askAll requests).2) :
    Stamped (input ++ requests.flatMap Request.data) (told ++ sync.toldAll requests)
      (sync.askAll requests).1 := by
  induction requests generalizing sync input told with
  | nil => simpa [askAll, toldAll] using stamped
  | cons request requests ih =>
    rw [askAll, List.mem_append, not_or] at within
    have later := ih (stamped.asked request within.1) within.2
    rw [List.append_assoc, List.append_assoc] at later
    exact later

/-- The items told are those that come of the requests. -/
theorem map_item_toldAll (sync : Synchronizer) (requests : List Request) :
    (sync.toldAll requests).map Told.item = itemsIn (sync.askAll requests).2 := by
  induction requests generalizing sync with
  | nil => rfl
  | cons request requests ih =>
    rw [askAll, itemsIn_append, ← ih, toldAll, List.map_append, List.map_map]
    congr 1
    exact List.map_id _

/-- Whatever framing is asked, as long as input does not go on after its end: at the stride of
stamped packets each packet bears the stamp that stands right before it in the input. The one
exception is a packet right behind the lock on it, if framing no longer held the four bytes of the
stamp when it was asked for that lock. -/
theorem toldAll_stamps (options : Options) (requests : List Request)
    (within : .prolonged ∉ ((ofOptions options).askAll requests).2) :
    let told := (ofOptions options).toldAll requests
    let input := requests.flatMap Request.data
    told.map Told.item = itemsIn ((ofOptions options).askAll requests).2 ∧
      ∀ front held packet after, told = front ++ ⟨held, .packet packet⟩ :: after →
        lastLock none (front.map Told.item) = some stampedStride →
          ∃ last, front.getLast? = some last ∧
            packet.arrival =
              if last.item = .locked stampedStride packet.place ∧
                packet.place < last.held + stampSize then none
              else some (stampAt input packet.place) := by
  refine ⟨map_item_toldAll _ requests, fun front held packet after cut stride => ?_⟩
  have fresh : Stamped [] [] (ofOptions options) :=
    ⟨⟨[], rfl, rfl⟩, rfl, nofun, by simp⟩
  have stamped := toldAll_stamped fresh within
  rw [List.nil_append, List.nil_append] at stamped
  obtain ⟨last, final, _, arrival⟩ := stamped.past front held packet after cut stride
  exact ⟨last, final, arrival⟩

/-- A packet led by a stamp, of which the two highest bits do not count. -/
private def stampedUnit (stamp : UInt8) : Bytes :=
  [0xC0, 0x00, 0x00, stamp, 0x47, 0x01, 0x00, 0x10] ++ List.replicate 184 0

/-- What is read from it. -/
private def stampedPacket (place : Nat) (arrival : Option Nat) : TransportPacket :=
  { header :=
      { transportError := false, payloadUnitStart := false, priority := false, pid := 0x100
        scrambling := 0, adaptationControl := 1, continuity := 0 }
    adaptation := none, place, arrival
    bytes := [0x47, 0x01, 0x00, 0x10] ++ List.replicate 184 0 }

/-- Framing at the stride of stamped packets. -/
private def stampedOptions : Options := { packetSize := some 192, minSyncRun := 2 }

/-- Three packets in one piece, of which the last waits for the stamp behind it. -/
private def threeStamped : List Request :=
  [.push (stampedUnit 1 ++ stampedUnit 2 ++ stampedUnit 3), .next, .next, .next, .next]

/-- The second packet bears its own stamp. -/
theorem second_stamp_told :
    .prolonged ∉ ((ofOptions stampedOptions).askAll threeStamped).2 ∧
      (ofOptions stampedOptions).toldAll threeStamped =
        [⟨0, .locked 192 4⟩, ⟨4, .packet (stampedPacket 4 (some 1))⟩] ++
          ⟨196, .packet (stampedPacket 196 (some 2))⟩ :: [] ∧
      ∃ last : Told, last.item = .packet (stampedPacket 4 (some 1)) ∧
        some 2 =
          if last.item = .locked stampedStride 196 ∧ 196 < last.held + stampSize then none
          else some (stampAt (threeStamped.flatMap Request.data) 196) := by
  have within : .prolonged ∉ ((ofOptions stampedOptions).askAll threeStamped).2 := by
    decide +kernel
  have told : (ofOptions stampedOptions).toldAll threeStamped =
      [⟨0, .locked 192 4⟩, ⟨4, .packet (stampedPacket 4 (some 1))⟩] ++
        ⟨196, .packet (stampedPacket 196 (some 2))⟩ :: [] := by decide +kernel
  obtain ⟨_, stamps⟩ := toldAll_stamps stampedOptions threeStamped within
  obtain ⟨last, final, arrival⟩ := stamps _ _ _ _ told rfl
  cases final
  exact ⟨within, told, _, rfl, arrival⟩

/-- If the stamp of the first packet comes in one piece with its sync byte alone, the search drops
it while it waits for more, and the packet comes without a stamp. -/
theorem late_lock_unstamped :
    ¬∀ (options : Options) (chunks : List Bytes) (front after : List SyncItem) (last : SyncItem)
        (packet : TransportPacket),
      ((ofOptions options).pushAll chunks).2.1 = front ++ last :: .packet packet :: after →
      lastLock none (front ++ [last]) = some stampedStride →
      ((∃ offset, last = .locked stampedStride offset) ∨
        ∃ former, last = .packet former ∧ packet.place = former.place + stampedStride) →
      stampSize ≤ packet.place →
        packet.arrival = some (stampAt chunks.flatten packet.place) := by
  intro exact
  have items : ((ofOptions stampedOptions).pushAll
      [(stampedUnit 1).take 5, (stampedUnit 1).drop 5 ++ stampedUnit 2]).2.1 =
        [.locked 192 4, .packet (stampedPacket 4 none)] := by decide +kernel
  have stamp := exact stampedOptions _ [] [] (.locked 192 4) (stampedPacket 4 none) items rfl
    (.inl ⟨4, rfl⟩) (by decide)
  cases stamp

end Synchronizer

end TransportStream
