import TransportStream.Proofs.Bookkeeping
import TransportStream.Proofs.Lanes
import TransportStream.Proofs.Reapplication

/-!
Elementary streams do not interfere. However the packets of several PIDs are interleaved, every
sink is delivered the same units, and the clock stands the same. So it is at the end of input, unless
framing still held a table, and the host answers by the turns that the sinks took.
-/
namespace TransportStream

namespace Router

variable {host : Host} {start one two : Router} {timed : Nat → Bool}

/-- Two ways on from a router came to the same: the clock stands the same, and every sink has
taken the same units, but for their places in time where an output had no time base yet. -/
structure SameDeliveries (start one two : Router) : Prop where
  clock : one.clock = two.clock
  units : ∀ sink, (one.received sink).map AccessUnit.untimed =
    (two.received sink).map AccessUnit.untimed
  placed : ∀ sink, (∀ pid output, start.outputs.get? pid = some output → output.sink = sink →
    output.timeBase.isSome = true) → one.received sink = two.received sink

/-- What a sink has taken is among what it was told. -/
theorem received_eq (router : Router) (sink : Nat) :
    router.received sink = (told router.calls sink).reverse.filterMap (Call.takenBy sink) := by
  rw [received, told, ← List.filter_reverse, List.filterMap_filter]
  congr 1
  funext call
  by_cases tells : call.tells sink = true
  · rw [if_pos tells]
  · rw [if_neg tells]
    cases call with
    | deliver other unit failure =>
      have elsewhere : other ≠ sink := by simpa [Call.tells] using tells
      cases failure <;> simp [Call.takenBy, elsewhere]
    | create | finish | entitlement | descramble => rfl

/-- Parallel routers have delivered the same, with the times that count. -/
theorem Parallel.received (parallel : Parallel timed one two) (sink : Nat) :
    (one.received sink).map (AccessUnit.seen (timed sink)) =
      (two.received sink).map (AccessUnit.seen (timed sink)) := by
  have seen : ∀ calls : List Call,
      (calls.reverse.filterMap (Call.takenBy sink)).map (AccessUnit.seen (timed sink)) =
        (calls.map (Call.seen timed)).reverse.filterMap (Call.takenBy sink) := by
    intro calls
    rw [List.map_filterMap, ← List.map_reverse, List.filterMap_map]
    congr 1
    funext call
    cases call with
    | deliver other unit failure =>
      by_cases own : other = sink <;> cases failure <;> simp [Call.seen, Call.takenBy, own]
    | create | finish | entitlement | descramble => rfl
  rw [received_eq, received_eq, seen, seen, parallel.record.told]

/-- The sinks on which times count: all but those of outputs without a time base. -/
theorem exists_timed (start : Router) : ∃ timed : Nat → Bool, ∀ sink, timed sink = true ↔
    ∀ pid output, start.outputs.get? pid = some output → output.sink = sink →
      output.timeBase.isSome = true := by
  classical
  exact ⟨fun sink => decide (∀ pid output, start.outputs.get? pid = some output →
    output.sink = sink → output.timeBase.isSome = true), fun sink => decide_eq_true_iff⟩

theorem Parallel.sameDeliveries (parallel : Parallel timed one two)
    (counts : ∀ sink, (∀ pid output, start.outputs.get? pid = some output → output.sink = sink →
      output.timeBase.isSome = true) → timed sink = true) : SameDeliveries start one two where
  clock := parallel.read Router.clock (fun _ => rfl)
  units sink := by
    have further : ∀ units : List AccessUnit, units.map AccessUnit.untimed =
        (units.map (AccessUnit.seen (timed sink))).map AccessUnit.untimed := by
      intro units
      rw [List.map_map]
      refine List.map_congr_left (fun unit _ => ?_)
      unfold Function.comp AccessUnit.seen
      split <;> rfl
    rw [further, parallel.received, ← further]
  placed sink based := by
    have whole : AccessUnit.seen (timed sink) = id := by
      rw [counts sink based]
      rfl
    have received := parallel.received sink
    rwa [whole, List.map_id, List.map_id] at received

/-- What framing gives changes no role, if it gives no table. -/
theorem sameRoles_handleItem {router : Router} (reliable : host.Reliable)
    (undescrambled : host.descrambler = none) (sound : Sound router) {item : SyncItem}
    (untabled : ∀ packet, item = .packet packet → Untabled router packet) :
    SameRoles router (left (handleItem host item) router) := by
  cases item with
  | locked stride place => exact sameRoles_noteLock router stride
  | lost place => exact sameRoles_noteLoss router
  | packet packet =>
    have based : Based (fun _ => false) router := fun _ _ _ counts => nomatch counts
    obtain ⟨after, done, went⟩ :=
      handlePacket_went reliable undescrambled sound based (untabled packet rfl)
    exact left_of_ok done ▸ went.roles

/-- Whether items that framing gives add no stream about which the host could answer in two
ways. -/
def SettlesAll (host : Host) (router : Router) (items : List SyncItem) : Prop :=
  host.Impartial ∨ Sound router ∧ ∀ packet, .packet packet ∈ items → Untabled router packet

theorem SettlesAll.head {router : Router} {item : SyncItem} {items : List SyncItem}
    (settles : SettlesAll host router (item :: items)) (packet : TransportPacket)
    (own : item = .packet packet) : Settles host router packet :=
  settles.imp_right fun ⟨sound, untabled⟩ => ⟨sound, untabled packet (own ▸ List.mem_cons_self)⟩

theorem SettlesAll.quiet {router after : Router} {items : List SyncItem}
    (settles : SettlesAll host router items) (roles : SameRoles router after) :
    SettlesAll host after items := by
  refine settles.imp_right fun ⟨sound, untabled⟩ => ⟨sound.quiet roles, fun packet member => ?_⟩
  unfold Untabled
  rw [roles.carriesTables]
  exact untabled packet member

theorem SettlesAll.tail {router : Router} {item : SyncItem} {items : List SyncItem}
    (settles : SettlesAll host router (item :: items)) (reliable : host.Reliable)
    (undescrambled : host.descrambler = none) :
    SettlesAll host (left (handleItem host item) router) items := by
  rcases settles with impartial | ⟨sound, untabled⟩
  · exact .inl impartial
  · have later : SettlesAll host router items :=
      .inr ⟨sound, fun packet member => untabled packet (List.mem_cons_of_mem item member)⟩
    exact later.quiet (sameRoles_handleItem reliable undescrambled sound
      fun packet own => untabled packet (own ▸ List.mem_cons_self))

theorem Parallel.handleAll (parallel : Parallel timed one two) (reliable : host.Reliable)
    (undescrambled : host.descrambler = none) {items : List SyncItem}
    (settles : SettlesAll host one items) :
    Parallel timed (one.handleAll host items) (two.handleAll host items) := by
  induction items generalizing one two with
  | nil => exact parallel
  | cons item items ih =>
    have later := settles.tail reliable undescrambled
    obtain ⟨next, other, done, otherDone, between⟩ :=
      parallel.handleItem reliable undescrambled settles.head
    rw [left_of_ok done] at later
    rw [Router.handleAll, Router.handleAll, forEach, left, left, bind_of_ok done,
      bind_of_ok otherDone]
    exact ih between later

end Router

namespace Session

variable {host : Host} {session other : Session} {timed : Nat → Bool}

/-- Parallel sessions, framed alike, end in parallel. -/
theorem finish_parallel (reliable : host.Reliable) (undescrambled : host.descrambler = none)
    (framed : session.sync = other.sync)
    (parallel : Router.Parallel timed session.router other.router)
    (settles : Router.SettlesAll host session.router session.sync.finish.drain.2.1) :
    Router.Parallel timed (left (session.finish host)).router
      (left (other.finish host)).router := by
  have phases : session.phase = other.phase := parallel.read Router.phase (fun _ => rfl)
  by_cases ended : session.phase = .ended
  · have stays : ∀ session : Session, session.phase = .ended →
        session.finish host = .ok () session := fun _ ended => if_pos ended
    rw [stays session ended, stays other (phases ▸ ended)]
    exact parallel
  · have handled := parallel.handleAll reliable undescrambled settles
    obtain ⟨closed, otherClosed, done, otherDone, closedParallel⟩ :=
      Router.closeAll_inParallel reliable handled
    have concluded : Router.Blind (fun router =>
        { router.noteFraming session.sync.finish.drain.1 with phase := .ended }) :=
      ⟨fun _ => rfl, fun _ => rfl, fun _ => rfl⟩
    rw [(finish_running reliable ended).1, (finish_running reliable (phases ▸ ended)).1, ← framed,
      Router.left_of_ok done, Router.left_of_ok otherDone]
    exact concluded.parallel closedParallel

/-- The packets of several PIDs, none of which carries a table, come in either of two
interleavings. At the end of input framing gives what it still holds: if that is a table, the host
has to be impartial about the streams that it adds. -/
theorem performAll_interleaved {options : Options} {fresh : Session}
    {first second : List TransportPacket} (created : new options = .ok fresh)
    (operations : List (Host × Operation)) (reliable : host.Reliable)
    (undescrambled : host.descrambler = none)
    (untabled : ∀ packet ∈ first, (fresh.performAll operations).router.Untabled packet)
    (same : Router.SameLanes first second) :
    let session := fresh.performAll operations
    ∃ one two : Session,
      session.route (Router.forEach first (Router.handlePacket host)) = .ok () one ∧
      session.route (Router.forEach second (Router.handlePacket host)) = .ok () two ∧
      Router.SameDeliveries session.router one.router two.router ∧
      (host.Impartial ∨ (∀ packet, .packet packet ∈ session.sync.finish.drain.2.1 →
          session.router.Untabled packet) →
        Router.SameDeliveries session.router (left (one.finish host)).router
          (left (two.finish host)).router) := by
  intro session
  have sound : session.router.Sound := by
    have start : fresh.router.Sound := by
      rw [new_ok created]
      exact Router.ofOptions_sound options
    exact performAll_keeps Router.sound_stable operations start
  obtain ⟨timed, counts⟩ := Router.exists_timed session.router
  have based : Router.Based timed session.router :=
    fun pid output found counted => (counts output.sink).mp counted pid output found rfl
  have untabledToo : ∀ packet ∈ second, session.router.Untabled packet :=
    fun packet member => untabled packet ((same.mem_iff packet).mpr member)
  obtain ⟨one, done, went⟩ :=
    Router.handleEach_went reliable undescrambled sound based untabled
  obtain ⟨two, doneToo, wentToo⟩ :=
    Router.handleEach_went reliable undescrambled sound based untabledToo
  have parallel := went.parallel wentToo same
  refine ⟨{ session with router := one }, { session with router := two }, ?_, ?_,
    parallel.sameDeliveries (fun sink => (counts sink).mpr), fun settled => ?_⟩
  · rw [route, done]
  · rw [route, doneToo]
  · have settles : Router.SettlesAll host session.router session.sync.finish.drain.2.1 :=
      settled.imp_right fun free => ⟨sound, free⟩
    have finished := @finish_parallel host { session with router := one }
      { session with router := two } timed reliable undescrambled rfl parallel
      (settles.quiet went.roles)
    exact finished.sameDeliveries (fun sink => (counts sink).mpr)

/-- Two video streams take turns, or one waits for the other. -/
theorem turns_interleaved :
    let unit : UInt8 → Bytes := fun filling => [0, 0, 1, 0xE0, 0, 0, 0x80, 0, 0, filling]
    let packet := fun pid counter => TransportPacket.bare pid counter true (unit (.ofNat pid))
    let turns := [packet 0x101 0, packet 0x102 0, packet 0x101 1, packet 0x102 1]
    let waiting := [packet 0x102 0, packet 0x102 1, packet 0x101 0, packet 0x101 1]
    let session := announced [0x101, 0x102]
    let host := Host.willing
    turns ≠ waiting ∧ ∃ one two : Session,
      session.route (Router.forEach turns (Router.handlePacket host)) = .ok () one ∧
      session.route (Router.forEach waiting (Router.handlePacket host)) = .ok () two ∧
      (one.router.received 0).length = 1 ∧
      Router.SameDeliveries session.router one.router two.router ∧
      Router.SameDeliveries session.router (left (one.finish host)).router
        (left (two.finish host)).router := by
  have created := new_of_validate
    (rfl : Options.validate { packetSize := some packetSize, minSyncRun := 2 } = .ok ())
  intro unit packet turns waiting session host
  have untabled : ∀ packet ∈ turns, session.router.carriesTables packet.pid = false := by
    decide +kernel
  have same : Router.SameLanes turns waiting :=
    @Router.SameLanes.of_pids _ _ [0x101, 0x102] (by decide) (by decide)
  have impartial : host.Impartial := fun _ _ _ _ => rfl
  have reliable : host.Reliable := ⟨fun _ _ _ => rfl, fun _ _ => rfl⟩
  obtain ⟨one, two, done, doneToo, deliveries, ended⟩ := performAll_interleaved created _
    reliable rfl (fun packet member => .inr (untabled packet member)) same
  have handled := Router.ok_of_succeeds (Router.forEach turns (Router.handlePacket host))
    session.router (by decide +kernel)
  refine ⟨by decide, one, two, done, doneToo, ?_, deliveries, ended (.inl impartial)⟩
  let after := Router.left (Router.forEach turns (Router.handlePacket host)) session.router
  have result : session.route (Router.forEach turns (Router.handlePacket host)) =
      .ok () { session with router := after } := by
    rw [route, handled]
  cases result.symm.trans done
  decide +kernel

/-- Framing still looks for a frame at the end of input, and holds a map with a third stream and a
unit of it. A host that answers by the sink that was served last gives it an output or not. -/
theorem held_map_interferes :
    let options : Options := { packetSize := some packetSize, minSyncRun := 3 }
    let fresh : Session := { sync := .ofOptions options, router := .ofOptions options }
    let association : Pat :=
      { version := 0, currentNext := true, number := 0, last := 0, streamId := 1
        programs := [⟨1, 0x100⟩], networkPid := none }
    let packet := fun pid counter =>
      TransportPacket.bare pid counter true [0, 0, 1, 0xE0, 0, 0, 0x80, 0, 0, .ofNat pid]
    let session := fresh.performAll [
      (.willing, .push (sectionPacket patPid 0 association.encode ++
        sectionPacket 0x100 0 (videoMap 0 [0x101, 0x102]).encode ++
        ([0x47, 0x1F, 0xFF, 0x10] ++ List.replicate 184 0xFF))),
      (.willing, .flush),
      (.willing, .push (sectionPacket 0x100 1 (videoMap 1 [0x101, 0x102, 0x103]).encode ++
        ([0x47, 0x41, 0x03, 0x10, 0, 0, 1, 0xE0, 0, 0, 0x80, 0, 0] ++ List.replicate 175 0xAA)))]
    let host : Host := { Host.willing with
      accepts := fun calls _ => match calls with
        | .deliver sink _ _ :: _ => sink == 0
        | _ => false }
    let first := [packet 0x101 0, packet 0x101 1, packet 0x102 0, packet 0x102 1]
    let second := [packet 0x102 0, packet 0x102 1, packet 0x101 0, packet 0x101 1]
    new options = .ok fresh ∧ host.Reliable ∧ host.descrambler = none ∧
      (∀ packet ∈ first, session.router.Untabled packet) ∧ Router.SameLanes first second ∧
      ∃ one two : Session,
        session.route (Router.forEach first (Router.handlePacket host)) = .ok () one ∧
        session.route (Router.forEach second (Router.handlePacket host)) = .ok () two ∧
        (left (one.finish host)).router.received 2 = [] ∧
        ((left (two.finish host)).router.received 2).map AccessUnit.payload =
          [List.replicate 175 0xAA] := by
  have created := new_of_validate
    (rfl : Options.validate { packetSize := some packetSize, minSyncRun := 3 } = .ok ())
  intro options fresh association packet session host first second
  have untabled : ∀ packet ∈ first, session.router.carriesTables packet.pid = false := by
    decide +kernel
  have handled : ∀ packets, (packets = first ∨ packets = second) →
      session.route (Router.forEach packets (Router.handlePacket host)) = .ok ()
        { session with
          router := Router.left (Router.forEach packets (Router.handlePacket host))
            session.router } := by
    intro packets either
    have success : Router.succeeds (Router.forEach packets (Router.handlePacket host))
        session.router = true := by
      rcases either with rfl | rfl <;> decide +kernel
    rw [route, Router.ok_of_succeeds _ _ success]
  refine ⟨created, ⟨fun _ _ _ => rfl, fun _ _ => rfl⟩, rfl,
    fun packet member => .inr (untabled packet member),
    @Router.SameLanes.of_pids _ _ [0x101, 0x102] (by decide) (by decide), _, _,
    handled first (.inl rfl), handled second (.inr rfl), by decide +kernel, by decide +kernel⟩

end Session

end TransportStream
