import TransportStream.Proofs.FramingBudget

/-!
Where the items of framing stand. Whatever it is asked, a packet is what stands in the input at its
place, no byte is handed on twice, and packets of one frame stand a multiple of the stride apart,
unless input goes on after its end. The offsets it tells are these places, as long as the input
fits 64 bits.
-/
namespace TransportStream

namespace TransportPacket

/-- A packet starts with the sync byte, and its control field is not the reserved one. -/
theorem parse_header {data : Bytes} {place : Nat} {packet : TransportPacket}
    (parsed : parse data place = .ok packet) :
    packet.bytes.head? = some syncByte ∧ packet.header.adaptationControl ≠ 0 := by
  obtain ⟨_, header, adaptation, read, control, _, rfl, _⟩ := parse_eq_ok_iff.mp parsed
  refine ⟨?_, control⟩
  unfold PacketHeader.parse at read
  split at read
  · rename_i first _ _ _ _ bytes
    split at read
    · rename_i sync
      simp [bytes, sync]
    · cases read
  · cases read

end TransportPacket

namespace Synchronizer

/-! ### Requests -/

/-- What framing can be asked. -/
inductive Request where
  | push (data : Bytes)
  | next
  | finish
  | flush

/-- What came of a request. Input that goes on after its end is told apart. -/
inductive Event where
  | gave (item : SyncItem)
  | flushed
  | prolonged
  deriving DecidableEq

def Request.data : Request → Bytes
  | .push data => data
  | .next | .finish | .flush => []

def Event.item? : Event → Option SyncItem
  | .gave item => some item
  | .flushed | .prolonged => none

/-- Whether packets before an event and packets after it need not stand in one frame. -/
def Event.breaks : Event → Bool
  | .gave (.lost _) | .flushed | .prolonged => true
  | .gave (.packet _) | .gave (.locked _ _) => false

def ask (sync : Synchronizer) : Request → Synchronizer × List Event
  | .push data => (sync.push data, if sync.ended && !data.isEmpty then [.prolonged] else [])
  | .next => (sync.nextItem.1, (handed sync.nextItem.2).map .gave)
  | .finish => (sync.finish, [])
  | .flush => (sync.flush none, [.flushed])

/-- Requests one after another, with all that came of them. -/
def askAll (sync : Synchronizer) : List Request → Synchronizer × List Event
  | [] => (sync, [])
  | request :: requests =>
    let (next, events) := sync.ask request
    let (last, later) := next.askAll requests
    (last, events ++ later)

/-- The items among events. -/
def itemsIn (log : List Event) : List SyncItem := log.filterMap Event.item?

variable {sync next : Synchronizer} {input : Bytes} {items : List SyncItem} {log : List Event}

/-! ### Places -/

/-- Whether a packet is what stands in the input at its place. -/
structure ReadFrom (input : Bytes) (packet : TransportPacket) : Prop where
  bytes : packet.bytes = (input.drop packet.place).take packetSize
  size : packet.bytes.length = packetSize
  sync : packet.bytes.head? = some syncByte
  control : packet.header.adaptationControl ≠ 0

/-- An item tells no place before the end of an earlier packet. -/
def Behind (earlier later : SyncItem) : Prop :=
  ∀ packet, earlier = .packet packet → packet.place + packetSize ≤ later.place

/-- Where framing stands in its input, and where its items do. -/
structure Placed (input : Bytes) (items : List SyncItem) (sync : Synchronizer) : Prop where
  stands : Stands 0 input [] sync
  received : sync.received = input.length
  read : ∀ packet, .packet packet ∈ items → ReadFrom input packet
  passed : ∀ packet, .packet packet ∈ items → packet.place + packetSize ≤ sync.base
  told : ∀ item ∈ items, item.place ≤ sync.base
  apart : items.Pairwise Behind

theorem ReadFrom.append {packet : TransportPacket} (read : ReadFrom input packet) (more : Bytes) :
    ReadFrom (input ++ more) packet := by
  have size := read.size
  rw [read.bytes, List.length_take, List.length_drop] at size
  refine ⟨?_, read.size, read.sync, read.control⟩
  rw [List.drop_append_of_le_length (by simp [packetSize] at size; omega),
    List.take_append_of_le_length (by rw [List.length_drop]; omega), read.bytes]

theorem Placed.moved (placed : Placed input items sync) (consumes : Consumes sync next)
    (received : next.received = sync.received) : Placed input items next where
  stands := placed.stands.consumes consumes
  received := received.trans placed.received
  read := placed.read
  passed packet member := Nat.le_trans (placed.passed packet member) consumes.base_le
  told item member := Nat.le_trans (placed.told item member) consumes.base_le
  apart := placed.apart

/-- An item tells no place that framing has left behind. -/
theorem nextItem_place {item : SyncItem} (result : sync.nextItem = (next, .ok (some item))) :
    sync.base ≤ item.place := by
  fun_induction nextItem sync with
  | case1 sync locked stride ready start packet parsed =>
    cases result
    have place : packet.place = sync.base := (TransportPacket.parse_spec parsed).2.2.1
    exact Nat.le_of_eq place.symm
  | case2 sync locked stride ready start fault refused ih =>
    exact Nat.le_trans (consumes_takeUnit sync stride).base_le (ih result)
  | case3 sync locked stride ready noStart =>
    cases result
    exact Nat.le_refl sync.base
  | case4 => cases result
  | case5 sync unlocked =>
    have sought := tryLock_sought sync
    rw [result] at sought
    cases sought with
    | locks within budget => exact Nat.le_add_right sync.base _

/-- Framing stands behind every item it gave. -/
theorem nextItem_place_le {item : SyncItem} (result : sync.nextItem = (next, .ok (some item))) :
    item.place ≤ next.base := by
  fun_induction nextItem sync with
  | case1 sync locked stride ready start packet parsed =>
    cases result
    have place : packet.place = sync.base := (TransportPacket.parse_spec parsed).2.2.1
    exact place ▸ (consumes_takeUnit sync stride).base_le
  | case2 sync locked stride ready start fault refused ih => exact ih result
  | case3 sync locked stride ready noStart =>
    cases result
    exact Nat.le_add_right sync.base 1
  | case4 => cases result
  | case5 sync unlocked =>
    have sought := tryLock_sought sync
    rw [result] at sought
    cases sought with
    | locks within budget => exact Nat.le_refl _

theorem Yields.end_le {packet : TransportPacket} (yields : Yields sync next packet) :
    packet.place + packetSize ≤ next.base := by
  obtain ⟨⟨front, back, _, offset, base⟩, size, _⟩ := yields
  rw [offset, base, ← size]
  simp only [List.length_append]
  omega

theorem Stands.readFrom {packet : TransportPacket} (stands : Stands 0 input [] sync)
    (yields : Yields sync next packet) : ReadFrom input packet := by
  obtain ⟨front, back, whole, offset⟩ := (stands.yields yields).1
  obtain ⟨sync, control⟩ := TransportPacket.parse_header yields.read
  rw [Nat.zero_add] at offset
  refine ⟨?_, yields.size, sync, control⟩
  rw [whole, offset, List.append_assoc, List.drop_left, ← yields.size, List.take_left]

theorem Placed.gave {item : SyncItem} (placed : Placed input items sync)
    (result : sync.nextItem = (next, .ok (some item))) : Placed input (items ++ [item]) next := by
  obtain ⟨consumes, yields⟩ := sync.nextItem_consumes
  have moved := placed.moved consumes (nextItem_input sync).2
  rw [result] at moved yields
  refine ⟨moved.stands, moved.received, ?_, ?_, ?_, ?_⟩
  · intro packet member
    rcases List.mem_append.mp member with earlier | new
    · exact placed.read packet earlier
    · cases List.mem_singleton.mp new
      exact placed.stands.readFrom (yields packet rfl)
  · intro packet member
    rcases List.mem_append.mp member with earlier | new
    · exact moved.passed packet earlier
    · cases List.mem_singleton.mp new
      exact (yields packet rfl).end_le
  · intro other member
    rcases List.mem_append.mp member with earlier | new
    · exact moved.told other earlier
    · cases List.mem_singleton.mp new
      exact nextItem_place_le result
  · refine List.pairwise_append.mpr ⟨placed.apart, List.pairwise_singleton .., ?_⟩
    rintro earlier member later new packet rfl
    cases List.mem_singleton.mp new
    exact Nat.le_trans (placed.passed packet member) (nextItem_place result)

theorem Placed.step (placed : Placed input items sync) :
    Placed input (items ++ handed sync.nextItem.2) sync.nextItem.1 := by
  have moved := placed.moved sync.nextItem_consumes.1 (nextItem_input sync).2
  cases result : sync.nextItem with
  | mk next outcome =>
    rw [result] at moved
    match outcome with
    | .error _ | .ok none => simpa [handed] using moved
    | .ok (some item) => exact placed.gave result

@[simp] theorem itemsIn_gave (items : List SyncItem) : itemsIn (items.map .gave) = items := by
  simp [itemsIn, List.filterMap_map, Function.comp_def, Event.item?]

theorem Placed.asked (placed : Placed input items sync) (request : Request) :
    Placed (input ++ request.data) (items ++ itemsIn (sync.ask request).2)
      (sync.ask request).1 := by
  cases request with
  | push data =>
    have quiet : itemsIn (sync.ask (.push data)).2 = [] := by
      simp only [ask]
      split <;> rfl
    rw [quiet, List.append_nil]
    obtain ⟨gone, whole, place⟩ := placed.stands
    rw [List.append_nil] at whole
    refine ⟨⟨gone, ?_, place⟩, ?_, fun packet member => (placed.read packet member).append data,
      placed.passed, placed.told, placed.apart⟩
    · simp [ask, push, Request.data, whole]
    · simp [ask, push, Request.data, placed.received]
  | next =>
    simp only [ask, Request.data, List.append_nil, itemsIn_gave]
    exact placed.step
  | finish =>
    simp only [ask, Request.data, itemsIn, List.filterMap_nil, List.append_nil]
    exact placed.moved (.refl sync) rfl
  | flush =>
    have quiet : itemsIn (sync.ask .flush).2 = [] := rfl
    have gone : Consumes sync (sync.flush none) := ⟨sync.buffer, by simp [flush], rfl⟩
    rw [quiet, Request.data, List.append_nil, List.append_nil]
    exact placed.moved gone rfl

/-! ### Frames -/

/-- Whether framing is still in the frame of a packet, a multiple of the stride behind it, or at
the end of an input whose last unit was not whole. -/
structure OnFrame (sync : Synchronizer) (first : TransportPacket) (stride : Nat) : Prop where
  locked : sync.locked = true
  tuned : sync.stride = some stride
  place : (∃ count, 0 < count ∧ sync.base = first.place + count * stride) ∨
    sync.ended = true ∧ sync.buffer = []

/-- `Spaced log sync`: packets that nothing breaks apart stand a multiple of the stride apart, and
framing is still in the frame of those after which nothing broke it. -/
structure Spaced (log : List Event) (sync : Synchronizer) : Prop where
  known : sync.stride = lastLock none (itemsIn log)
  tuned : sync.locked = true → ∃ stride, sync.stride = some stride
  framed : ∀ before first after, log = before ++ .gave (.packet first) :: after →
    (∀ event ∈ after, event.breaks = false) →
      ∃ stride, lastLock none (itemsIn before) = some stride ∧ OnFrame sync first stride
  spaced : ∀ before first between second after,
    log = before ++ .gave (.packet first) :: (between ++ .gave (.packet second) :: after) →
    (∀ event ∈ between, event.breaks = false) →
      ∃ stride count, lastLock none (itemsIn before) = some stride ∧ 0 < count ∧
        second.place = first.place + count * stride

/-- Where a list that was added to is cut. -/
theorem concat_cut {α : Type} {front before after : List α} {last entry : α}
    (cut : front ++ [last] = before ++ entry :: after) :
    (after = [] ∧ front = before ∧ last = entry) ∨
      ∃ rest, after = rest ++ [last] ∧ front = before ++ entry :: rest := by
  rcases List.eq_nil_or_concat after with rfl | ⟨rest, final, rfl⟩
  · obtain ⟨same, ends⟩ := List.append_inj' cut rfl
    exact .inl ⟨rfl, same, (List.cons.inj ends).1⟩
  · rw [List.concat_eq_append, ← List.cons_append, ← List.append_assoc] at cut
    obtain ⟨same, ends⟩ := List.append_inj' cut rfl
    cases (List.cons.inj ends).1
    exact .inr ⟨rest, List.concat_eq_append, same⟩

theorem Spaced.moved (spaced : Spaced log sync) (stride : next.stride = sync.stride)
    (tuned : next.locked = true → sync.locked = true)
    (framed : ∀ first stride, OnFrame sync first stride → OnFrame next first stride) :
    Spaced log next where
  known := stride.trans spaced.known
  tuned locked := stride ▸ spaced.tuned (tuned locked)
  framed before first after cut quiet := by
    obtain ⟨stride, known, inFrame⟩ := spaced.framed before first after cut quiet
    exact ⟨stride, known, framed first stride inFrame⟩
  spaced := spaced.spaced

/-- An event after others: if it breaks no frame, framing stays in those that it was in, and a
packet stands on the frame of each packet before it. -/
theorem Spaced.add {event : Event} (spaced : Spaced log sync)
    (known : next.stride = lastLock sync.stride event.item?.toList)
    (tuned : next.locked = true → ∃ stride, next.stride = some stride)
    (framed : event.breaks = false →
      ∀ first stride, OnFrame sync first stride → OnFrame next first stride)
    (packet : ∀ packet, event = .gave (.packet packet) →
      (∃ stride, sync.stride = some stride ∧ OnFrame next packet stride) ∧
        ∀ first stride, OnFrame sync first stride →
          ∃ count, 0 < count ∧ packet.place = first.place + count * stride) :
    Spaced (log ++ [event]) next where
  known := by
    have items : itemsIn [event] = event.item?.toList := by
      cases event <;> rfl
    rw [itemsIn, List.filterMap_append, lastLock_append]
    rw [itemsIn] at items
    rw [items, known, spaced.known]
    rfl
  tuned := tuned
  framed before first after cut quiet := by
    rcases concat_cut cut with ⟨rfl, rfl, own⟩ | ⟨rest, rfl, earlier⟩
    · obtain ⟨⟨stride, known, inFrame⟩, _⟩ := packet first own
      exact ⟨stride, spaced.known ▸ known, inFrame⟩
    · obtain ⟨stride, known, inFrame⟩ := spaced.framed before first rest earlier
        (fun other member => quiet other (List.mem_append_left _ member))
      exact ⟨stride, known, framed (quiet event (by simp)) first stride inFrame⟩
  spaced before first between second after cut quiet := by
    rw [← List.cons_append, ← List.append_assoc] at cut
    rcases concat_cut cut with ⟨_, earlier, own⟩ | ⟨rest, _, earlier⟩
    · obtain ⟨stride, known, inFrame⟩ := spaced.framed before first between earlier quiet
      obtain ⟨count, positive, place⟩ := (packet second own).2 first stride inFrame
      exact ⟨stride, count, known, positive, place⟩
    · rw [List.append_assoc, List.cons_append] at earlier
      exact spaced.spaced before first between second rest earlier quiet

/-- In a frame, there is a unit to take only a multiple of the stride behind its packets. -/
theorem OnFrame.ready {first : TransportPacket} {stride : Nat} (inFrame : OnFrame sync first stride)
    (ready : sync.hasUnit sync.unitSize = true) :
    ∃ count, 0 < count ∧ sync.base = first.place + count * stride := by
  rcases inFrame.place with place | ⟨_, empty⟩
  · exact place
  · simp [hasUnit, empty, packetSize, Bytes.isShorter] at ready

/-- A unit that is not whole is the last one: input has ended, and nothing is left behind it. -/
theorem takeUnit_place (ready : sync.hasUnit sync.unitSize = true) :
    (sync.takeUnit sync.unitSize).base = sync.base + sync.unitSize ∨
      sync.ended = true ∧ (sync.takeUnit sync.unitSize).buffer = [] := by
  by_cases whole : sync.unitSize ≤ sync.buffer.length
  · left
    rw [(takeUnit_moves sync sync.unitSize).2, Nat.min_eq_left whole]
  · right
    refine ⟨?_, List.drop_eq_nil_of_le (by omega)⟩
    exact ((hasUnit_spec sync).mp ready).2.2.resolve_right (by omega)

/-- A frame goes on behind the next unit. -/
theorem onFrame_takeUnit {first : TransportPacket} {stride invalid : Nat} (count : Nat)
    (locked : sync.locked = true) (tuned : sync.stride = some stride)
    (ready : sync.hasUnit sync.unitSize = true)
    (place : sync.base = first.place + count * stride) :
    OnFrame { sync.takeUnit sync.unitSize with invalid } first stride := by
  refine ⟨locked, tuned, ?_⟩
  rcases takeUnit_place ready with whole | last
  · left
    refine ⟨count + 1, Nat.succ_pos _, ?_⟩
    rw [Nat.add_mul, Nat.one_mul, ← Nat.add_assoc, ← place, ← unitSize_eq tuned]
    exact whole
  · exact .inr last

theorem OnFrame.takeUnit {first : TransportPacket} {stride : Nat}
    (inFrame : OnFrame sync first stride) (ready : sync.hasUnit sync.unitSize = true)
    (invalid : Nat) :
    OnFrame { sync.takeUnit sync.unitSize with invalid } first stride := by
  obtain ⟨count, _, place⟩ := inFrame.ready ready
  exact onFrame_takeUnit count inFrame.locked inFrame.tuned ready place

theorem Spaced.step (spaced : Spaced log sync) :
    Spaced (log ++ (handed sync.nextItem.2).map .gave) sync.nextItem.1 := by
  fun_induction nextItem sync with
  | case1 sync locked stride ready start packet parsed =>
    obtain ⟨known, tuned⟩ := spaced.tuned locked
    have place : packet.place = sync.base := (TransportPacket.parse_spec parsed).2.2.1
    refine spaced.add rfl (fun _ => spaced.tuned locked) (fun _ _ _ inFrame =>
      inFrame.takeUnit ready sync.invalid) ?_
    intro own gave
    cases gave
    refine ⟨⟨known, tuned, ?_⟩, fun first stride inFrame => ?_⟩
    · exact onFrame_takeUnit 0 locked tuned ready (by simp [place])
    · simpa only [place] using inFrame.ready ready
  | case2 sync locked stride ready start fault refused ih =>
    exact ih (spaced.moved rfl (fun _ => locked) fun _ _ inFrame => inFrame.takeUnit ready _)
  | case3 sync locked stride ready noStart =>
    refine spaced.add rfl (fun locked => by cases locked) (fun quiet => by cases quiet) ?_
    intro packet lost
    cases lost
  | case4 sync locked stride notReady =>
    simpa [handed] using spaced
  | case5 sync unlocked =>
    have outside : ∀ {first : TransportPacket} {stride : Nat}, ¬OnFrame sync first stride :=
      fun inFrame => unlocked inFrame.locked
    have sought := tryLock_sought sync
    generalize sync.tryLock = result at sought
    cases sought with
    | locks within budget =>
      refine spaced.add rfl (fun _ => ⟨_, rfl⟩) (fun _ _ _ inFrame => absurd inFrame outside) ?_
      intro packet locks
      cases locks
    | waits within budget =>
      simp only [handed, Option.toList_none, List.map_nil, List.append_nil]
      exact spaced.moved rfl id fun _ _ inFrame => absurd inFrame outside
    | fails within spent =>
      simp only [handed, List.map_nil, List.append_nil]
      exact spaced.moved rfl id fun _ _ inFrame => absurd inFrame outside

theorem Spaced.asked (spaced : Spaced log sync) (request : Request) :
    Spaced (log ++ (sync.ask request).2) (sync.ask request).1 := by
  cases request with
  | push data =>
    by_cases prolonged : (sync.ended && !data.isEmpty) = true
    · rw [ask, if_pos prolonged]
      exact spaced.add rfl spaced.tuned (fun quiet => by cases quiet) (fun _ own => by cases own)
    · rw [ask, if_neg prolonged, List.append_nil]
      refine spaced.moved rfl id fun first stride inFrame => ?_
      refine ⟨inFrame.locked, inFrame.tuned, inFrame.place.imp_right fun last => ?_⟩
      obtain ⟨ended, empty⟩ := last
      have nothing : data = [] := by simpa [ended] using prolonged
      exact ⟨ended, by simp [push, empty, nothing]⟩
  | next => exact spaced.step
  | finish =>
    rw [ask, List.append_nil]
    refine spaced.moved rfl id fun first stride inFrame => ?_
    exact ⟨inFrame.locked, inFrame.tuned, inFrame.place.imp_right fun last => ⟨rfl, last.2⟩⟩
  | flush =>
    exact spaced.add rfl (fun locked => by cases locked) (fun quiet => by cases quiet)
      (fun _ own => by cases own)

/-! ### All requests -/

theorem itemsIn_append (log more : List Event) :
    itemsIn (log ++ more) = itemsIn log ++ itemsIn more :=
  List.filterMap_append ..

theorem askAll_kept {requests : List Request} (placed : Placed input (itemsIn log) sync)
    (spaced : Spaced log sync) :
    Placed (input ++ requests.flatMap Request.data) (itemsIn (log ++ (sync.askAll requests).2))
        (sync.askAll requests).1 ∧
      Spaced (log ++ (sync.askAll requests).2) (sync.askAll requests).1 := by
  induction requests generalizing sync input log with
  | nil => simpa [askAll] using ⟨placed, spaced⟩
  | cons request requests ih =>
    have asked := placed.asked request
    rw [← itemsIn_append] at asked
    have later := ih asked (spaced.asked request)
    rw [List.append_assoc, List.append_assoc] at later
    exact later

theorem Placed.base_le (placed : Placed input items sync) : sync.base ≤ input.length := by
  obtain ⟨gone, rfl, place⟩ := placed.stands
  simp only [place, List.length_append, List.append_nil]
  omega

/-- Whatever framing is asked: it stands in its input where it says; its packets are what stands
there at their places; none of its items lies before the end of an earlier packet; and packets
stand a multiple of the stride apart, unless the frame was lost or dropped between them, or input
went on after its end. The offset of each item is its place while what came in fits 64 bits. -/
theorem askAll_offsets (options : Options) (requests : List Request) :
    let sync := ((ofOptions options).askAll requests).1
    let log := ((ofOptions options).askAll requests).2
    let input := requests.flatMap Request.data
    sync.base + sync.buffer.length = input.length ∧ sync.received = input.length ∧
      (∀ packet, .packet packet ∈ itemsIn log → ReadFrom input packet) ∧
      (itemsIn log).Pairwise Behind ∧
      (input.length < wordRange → ∀ item ∈ itemsIn log, item.offset = item.place) ∧
      ∀ before first between second after,
        log = before ++ .gave (.packet first) :: (between ++ .gave (.packet second) :: after) →
        (∀ event ∈ between, event.breaks = false) →
          ∃ stride count, lastLock none (itemsIn before) = some stride ∧ 0 < count ∧
            second.place = first.place + count * stride := by
  intro sync log input
  have fresh : Placed [] [] (ofOptions options) :=
    ⟨⟨[], rfl, rfl⟩, rfl, by simp, by simp, by simp, .nil⟩
  have none : Spaced [] (ofOptions options) :=
    ⟨rfl, nofun, by simp, by simp⟩
  obtain ⟨placed, spaced⟩ := @askAll_kept _ _ [] requests fresh none
  rw [List.nil_append, List.nil_append] at placed
  rw [List.nil_append] at spaced
  refine ⟨?_, placed.received, placed.read, placed.apart, fun fits item member => ?_, spaced.spaced⟩
  · obtain ⟨gone, whole, place⟩ := placed.stands
    simp only [input, sync, whole, place, List.length_append]
    simp
  · have told : item.place ≤ input.length := Nat.le_trans (placed.told item member) placed.base_le
    exact offsetOf_eq_self (Nat.lt_of_le_of_lt told fits)

/-- The bytes of a packet without an adaptation field. -/
private def plainBytes : Bytes := [0x47, 0x01, 0x00, 0x10] ++ List.replicate 184 0

/-- What is read from them. -/
private def plainPacket (place : Nat) : TransportPacket :=
  { header :=
      { transportError := false, payloadUnitStart := false, priority := false, pid := 0x100
        scrambling := 0, adaptationControl := 1, continuity := 0 }
    adaptation := none, place, arrival := none, bytes := plainBytes }

/-- Framing at a stride of 204 bytes. -/
private def wideOptions : Options := { packetSize := some 204, minSyncRun := 2 }

/-- Three packets, the last of them without what the stride adds. -/
private def threePackets : List Request :=
  let unit := plainBytes ++ List.replicate 16 0
  [.push (unit ++ unit ++ plainBytes), .next, .next, .next, .finish, .next]

/-- The third packet stands two strides behind the first. -/
theorem third_packet_spaced :
    ((ofOptions wideOptions).askAll threePackets).2 =
        [.gave (.locked 204 0), .gave (.packet (plainPacket 0)), .gave (.packet (plainPacket 204)),
          .gave (.packet (plainPacket 408))] ∧
      ∃ stride count, lastLock none [.locked 204 0] = some stride ∧ 0 < count ∧
        408 = 0 + count * stride := by
  have log : ((ofOptions wideOptions).askAll threePackets).2 =
      [.gave (.locked 204 0), .gave (.packet (plainPacket 0)), .gave (.packet (plainPacket 204)),
        .gave (.packet (plainPacket 408))] := by decide +kernel
  obtain ⟨_, _, _, _, _, spaced⟩ := askAll_offsets wideOptions threePackets
  exact ⟨log, spaced [.gave (.locked 204 0)] (plainPacket 0) [.gave (.packet (plainPacket 204))]
    (plainPacket 408) [] log (by simp [Event.breaks])⟩

/-- The end of an input whose last unit is not whole, and a packet that comes after it. -/
private def prolonged : List Request :=
  [.push (plainBytes ++ List.replicate 16 0 ++ plainBytes), .finish, .next, .next, .next,
    .push plainBytes, .next]

/-- Input that goes on after its end starts a packet behind a unit that was not whole: neither a
loss nor a flush stands between two packets, and they are 188 bytes apart at a stride of 204. -/
theorem prolonged_input_unspaced :
    ¬∀ (options : Options) (requests : List Request) (before between after : List Event)
        (first second : TransportPacket),
      ((ofOptions options).askAll requests).2 =
        before ++ .gave (.packet first) :: (between ++ .gave (.packet second) :: after) →
      (∀ event ∈ between, event ≠ .flushed ∧ ∀ offset, event ≠ .gave (.lost offset)) →
        ∃ stride count, lastLock none (itemsIn before) = some stride ∧ 0 < count ∧
          second.place = first.place + count * stride := by
  intro spaced
  have log : ((ofOptions wideOptions).askAll prolonged).2 =
      [.gave (.locked 204 0), .gave (.packet (plainPacket 0)), .gave (.packet (plainPacket 204)),
        .prolonged, .gave (.packet (plainPacket 392))] := by decide +kernel
  obtain ⟨stride, count, known, _, place⟩ := spaced wideOptions prolonged
    [.gave (.locked 204 0), .gave (.packet (plainPacket 0))] [.prolonged] []
    (plainPacket 204) (plainPacket 392) log (by simp)
  cases known
  simp only [plainPacket] at place
  omega

end Synchronizer

end TransportStream
