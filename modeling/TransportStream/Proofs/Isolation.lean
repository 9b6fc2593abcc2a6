import TransportStream.Proofs.ElementaryRouting
import TransportStream.Proofs.Provenance
import TransportStream.Proofs.SinkChanges

/-!
What a router does with packets that come behind a restart: every section it shows and every
unit it hands to a sink is put together from payloads that were passed on since then, and the
first unit to each sink that was there before carries the discontinuity flag.
-/
namespace TransportStream

/-- A packet's payload is passed on as it is, or as the host descrambles it. -/
inductive Host.PassesOn (host : Host) (packet : TransportPacket) : Bytes → Prop where
  | plain {payload : Bytes} (carried : packet.payload? = some payload) :
      PassesOn host packet payload
  | clear {payload clear : Bytes} {descrambler : Descrambler} (calls : List Call)
      (carried : packet.payload? = some payload) (scrambled : packet.header.isScrambled = true)
      (asked : host.descrambler = some descrambler)
      (answer : descrambler calls packet.pid packet.header.scrambling payload = some clear) :
      PassesOn host packet clear

/-- The unit that a call hands to a sink, whether the sink takes it or fails. -/
def Call.unitFor? (sink : Nat) : Call → Option AccessUnit
  | .deliver target unit _ => if target = sink then some unit else none
  | .create _ _ | .finish _ _ _ | .entitlement _ _ _ | .descramble _ _ _ _ => none

/-- The units that calls, newest first as in the record, hand to a sink, in their order. -/
def unitsFor (calls : List Call) (sink : Nat) : List AccessUnit :=
  calls.reverse.filterMap (Call.unitFor? sink)

/-- A unit that is what a packet read from parcels makes. -/
def AccessUnit.DrawnFrom (passed : Parcel → Prop) (unit : AccessUnit) : Prop :=
  ∃ packet : PesPacket, packet.DrawnFrom passed unit.pid ∧
    unit.streamId = packet.header.streamId ∧ unit.pts = packet.header.pts ∧
      unit.dts = packet.header.dts ∧ unit.payload = packet.payload ∧ unit.offset = packet.offset

/-- A call that shows nothing but what comes from parcels. -/
def Call.DrawnFrom (passed : Parcel → Prop) : Call → Prop
  | .deliver _ unit _ => unit.DrawnFrom passed
  | .entitlement pid _ data => SectionDrawn passed pid data
  | .create _ _ | .finish _ _ _ | .descramble _ _ _ _ => True

theorem unitsFor_cons (call : Call) (calls : List Call) (sink : Nat) :
    unitsFor (call :: calls) sink = unitsFor calls sink ++ (call.unitFor? sink).toList := by
  unfold unitsFor
  rw [List.reverse_cons, List.filterMap_append]
  cases handed : call.unitFor? sink <;> simp [handed]

/-- What an output does with a packet: nothing once it ended, else a unit with the facts of the
packet. A flag that is due stays due only while packets carry one. -/
inductive Output.Delivers (output : Output) (packet : PesPacket) :
    Output → Option AccessUnit → Prop where
  | ended : Delivers output packet output none
  | unit {next : Output} {unit : AccessUnit} (owner : next.owner = output.owner)
      (pid : unit.pid = output.info.pid) (streamId : unit.streamId = packet.header.streamId)
      (pts : unit.pts = packet.header.pts) (dts : unit.dts = packet.header.dts)
      (payload : unit.payload = packet.payload) (offset : unit.offset = packet.offset)
      (flag : unit.discontinuity = (packet.discontinuity || output.pendingDiscontinuity)) :
      Delivers output packet next (some unit)

theorem Output.delivers (output : Output) (packet : PesPacket) (firstPcr : Option Nat) :
    output.Delivers packet (output.deliver packet firstPcr).1
      (output.deliver packet firstPcr).2 := by
  have owner := output.owner_deliver packet firstPcr
  unfold deliver at owner ⊢
  split
  · exact .ended
  · rename_i opened
    rw [if_neg opened] at owner
    exact .unit owner rfl rfl rfl rfl rfl rfl rfl

/-- The sections that the payload of a packet completes. -/
def StreamState.completed (stream : StreamState) (packet : TransportPacket) (payload : Bytes) :
    List Bytes :=
  match stream.reassembly with
  | .sections filter => (filter.push payload packet.header.payloadUnitStart).2
  | .pes _ => []

namespace Router

/-- Whether every output stands under the PID of its stream. -/
def Named (router : Router) : Prop :=
  ∀ pid output, router.outputs.get? pid = some output → output.info.pid = pid

/-- `Isolated passed limit bound older made router`: since the calls `older`, when the sinks up
to `bound` were there, the router has made these calls, newest first. What they show and what is
in progress comes from parcels, those in progress from packets before `limit`. -/
structure Isolated (passed : Parcel → Prop) (limit bound : Nat) (older made : List Call)
    (router : Router) : Prop where
  calls : router.calls = made ++ older
  drawn : ∀ call ∈ made, call.DrawnFrom passed
  streams : ∀ pid stream, router.streams.get? pid = some stream →
    stream.reassembly.DrawnFrom (Parcel.Early passed limit) pid
  named : router.Named
  bounded : bound ≤ router.sinks
  flagged : ∀ sink < bound, ∀ unit ∈ (unitsFor made sink).head?, unit.discontinuity = true
  /-- Outputs that were there and delivered nothing yet still owe the flag. -/
  owed : ∀ pid output, router.outputs.get? pid = some output → output.sink < bound →
    unitsFor made output.sink = [] → output.pendingDiscontinuity = true

/-- Whether a router is isolated by whatever calls it has made. -/
def IsIsolated (passed : Parcel → Prop) (limit bound : Nat) (older : List Call)
    (router : Router) : Prop :=
  ∃ made, Isolated passed limit bound older made router

variable {passed : Parcel → Prop} {limit next bound : Nat} {older made : List Call}
variable {host : Host} {router before after : Router} {pid : Nat}

/-! ### Small changes -/

theorem Named.insert {changed : Output} (named : router.Named)
    (own : changed.info.pid = pid) :
    ∀ other output, (router.outputs.insert pid changed).get? other = some output →
      output.info.pid = other := by
  intro other output found
  rw [NatMap.get?_insert] at found
  split at found
  · rename_i same
    cases found
    rw [own, same]
  · exact named other output found

theorem Named.erase (named : router.Named) (pid : Nat) :
    ∀ other output, (router.outputs.erase pid).get? other = some output →
      output.info.pid = other := by
  intro other output found
  rw [NatMap.get?_erase] at found
  split at found
  · cases found
  · exact named other output found

/-- Streams change, and nothing is said or shown. -/
theorem Isolated.restream (isolated : Isolated passed limit bound older made before)
    (same : Aside before after)
    (streams : ∀ pid stream, after.streams.get? pid = some stream →
      stream.reassembly.DrawnFrom (Parcel.Early passed next) pid) :
    Isolated passed next bound older made after where
  calls := same.calls.trans isolated.calls
  drawn := isolated.drawn
  streams := streams
  named pid output found := isolated.named pid output (same.outputs ▸ found)
  bounded := same.sinks ▸ isolated.bounded
  flagged := isolated.flagged
  owed := same.outputs ▸ isolated.owed

theorem Isolated.aside (isolated : Isolated passed limit bound older made before)
    (same : Aside before after) (streams : after.streams = before.streams) :
    Isolated passed limit bound older made after :=
  isolated.restream same (streams ▸ isolated.streams)

theorem Isolated.settleIfFramed (isolated : Isolated passed limit bound older made router) :
    Isolated passed limit bound older made router.settleIfFramed :=
  isolated.aside (aside_settleIfFramed router) (streams_settleIfFramed router)

/-- Packets further on may come. -/
theorem Isolated.later (isolated : Isolated passed limit bound older made router)
    (further : limit ≤ next) : Isolated passed next bound older made router := by
  apply isolated.restream (.refl router)
  intro pid stream found
  apply (isolated.streams pid stream found).mono
  exact fun parcel early => ⟨early.1, Nat.lt_of_lt_of_le early.2 further⟩

/-- A stream is replaced. -/
theorem Isolated.insert {stream : StreamState}
    (isolated : Isolated passed limit bound older made router)
    (drawn : stream.reassembly.DrawnFrom (Parcel.Early passed limit) pid) (stats : Stats) :
    Isolated passed limit bound older made
      { router with streams := router.streams.insert pid stream, stats } := by
  apply isolated.restream (aside_rest router ..)
  intro other found present
  rw [NatMap.get?_insert] at present
  split at present
  · rename_i same
    cases present
    exact same ▸ drawn
  · exact isolated.streams other found present

/-- A call that hands nothing to a sink. -/
theorem Isolated.recorded {call : Call} (isolated : Isolated passed limit bound older made router)
    (drawn : call.DrawnFrom passed) (silent : ∀ sink, call.unitFor? sink = none) :
    Isolated passed limit bound older (call :: made) (router.record call) := by
  have same : ∀ sink, unitsFor (call :: made) sink = unitsFor made sink := by
    intro sink
    simp [unitsFor_cons, silent]
  exact {
    calls := by simp [record, isolated.calls]
    drawn := List.forall_mem_cons.mpr ⟨drawn, isolated.drawn⟩
    streams := isolated.streams
    named := isolated.named
    bounded := isolated.bounded
    flagged := by simpa only [same] using isolated.flagged
    owed pid output found := by simpa only [same] using isolated.owed pid output found }

/-- Outputs go, or are replaced by others that owe the same. -/
theorem Isolated.reoutput (isolated : Isolated passed limit bound older made before)
    (outputs : ∀ pid output, after.outputs.get? pid = some output →
      ∃ former, before.outputs.get? pid = some former ∧ output.owner = former.owner ∧
        output.pendingDiscontinuity = former.pendingDiscontinuity)
    (streams : after.streams = before.streams) (calls : after.calls = before.calls)
    (sinks : after.sinks = before.sinks) : Isolated passed limit bound older made after where
  calls := calls.trans isolated.calls
  drawn := isolated.drawn
  streams := streams ▸ isolated.streams
  named pid output found := by
    obtain ⟨former, present, owner, _⟩ := outputs pid output found
    rw [← isolated.named pid former present]
    exact congrArg (fun owner => owner.1.pid) owner
  bounded := sinks ▸ isolated.bounded
  flagged := isolated.flagged
  owed pid output found below untold := by
    obtain ⟨former, present, owner, pending⟩ := outputs pid output found
    have sink : output.sink = former.sink := congrArg Prod.snd owner
    rw [pending]
    exact isolated.owed pid former present (sink ▸ below) (sink ▸ untold)

/-- An output is replaced by one that owes the same. -/
theorem Isolated.replaced {output : Output}
    (isolated : Isolated passed limit bound older made router) (changed : Output)
    (found : router.outputs.get? pid = some output) (owner : changed.owner = output.owner)
    (pending : changed.pendingDiscontinuity = output.pendingDiscontinuity) (stats : Stats) :
    Isolated passed limit bound older made
      { router with outputs := router.outputs.insert pid changed, stats } := by
  refine isolated.reoutput ?_ rfl rfl rfl
  intro other held present
  rw [NatMap.get?_insert] at present
  split at present
  · rename_i same
    cases present
    exact ⟨output, same ▸ found, owner, pending⟩
  · exact ⟨held, present, rfl, rfl⟩

/-- A unit goes to the sink of an output; if it is the first to a sink that was there before,
it carries the flag that the output owed. -/
theorem Isolated.handed {output changed : Output} {unit : AccessUnit} {failure : Option String}
    (isolated : Isolated passed limit bound older made router)
    (found : router.outputs.get? pid = some output) (owner : changed.owner = output.owner)
    (drawn : unit.DrawnFrom passed)
    (flag : output.pendingDiscontinuity = true → unit.discontinuity = true) (stats : Stats) :
    Isolated passed limit bound older (.deliver output.sink unit failure :: made)
      ({ router with outputs := router.outputs.insert pid changed, stats }.record
        (.deliver output.sink unit failure)) := by
  have sink : changed.sink = output.sink := congrArg Prod.snd owner
  have info : changed.info = output.info := congrArg Prod.fst owner
  have own : unitsFor (.deliver output.sink unit failure :: made) output.sink =
      unitsFor made output.sink ++ [unit] := by
    simp [unitsFor_cons, Call.unitFor?]
  have others : ∀ other, output.sink ≠ other →
      unitsFor (.deliver output.sink unit failure :: made) other = unitsFor made other := by
    intro other different
    simp [unitsFor_cons, Call.unitFor?, different]
  exact {
    calls := by simp [record, isolated.calls]
    drawn := List.forall_mem_cons.mpr ⟨drawn, isolated.drawn⟩
    streams := isolated.streams
    named := isolated.named.insert (by rw [info]; exact isolated.named pid output found)
    bounded := isolated.bounded
    flagged other below first handed := by
      by_cases same : output.sink = other
      · subst same
        rw [own] at handed
        cases told : unitsFor made output.sink with
        | nil =>
          rw [told] at handed
          simp only [List.nil_append, List.head?_cons, Option.mem_def,
            Option.some.injEq] at handed
          rw [← handed]
          exact flag (isolated.owed pid output found below told)
        | cons head tail =>
          rw [told] at handed
          exact isolated.flagged _ below first (by rw [told]; exact handed)
      · rw [others other same] at handed
        exact isolated.flagged other below first handed
    owed other held present below untold := by
      simp only [record] at present
      rw [NatMap.get?_insert] at present
      have different : output.sink ≠ held.sink := by
        intro same
        rw [← same, own] at untold
        simp at untold
      split at present
      · cases present
        exact absurd sink.symm different
      · rw [others _ different] at untold
        exact isolated.owed other held present below untold }

/-! ### Sinks -/

/-- What the end of the stream of a PID completes comes from parcels. -/
theorem Isolated.flushReassembly (isolated : Isolated passed limit bound older made router)
    (pid : Nat) :
    Isolated passed limit bound older made (router.flushReassembly pid).1 ∧
      ∀ packet ∈ (router.flushReassembly pid).2, packet.DrawnFrom passed pid := by
  unfold Router.flushReassembly
  cases found : router.streams.get? pid with
  | none => exact ⟨isolated, by simp⟩
  | some stream =>
    have drawn := isolated.streams pid stream found
    cases kind : stream.reassembly with
    | sections filter => simpa [kind] using isolated
    | pes reassembler =>
      rw [kind] at drawn
      obtain ⟨kept, last⟩ := drawn.flushEnd
      simp only [kind]
      refine ⟨isolated.insert kept _, ?_⟩
      exact fun packet member => (last packet member).mono fun parcel early => early.1

theorem Isolated.retrack (isolated : Isolated passed limit bound older made router)
    (cls : StreamClass) (pids : List Nat) :
    Isolated passed limit bound older made (router.retrack cls pids) := by
  apply isolated.restream (aside_retrack router cls pids)
  intro pid stream found
  rcases (retracked router cls pids pid).found found with ⟨held, _⟩ | ⟨new, _⟩
  · exact isolated.streams pid stream held
  · rw [new]
    exact StreamState.table_drawn ..

/-- A new output owes no flag; its sink was not there before. -/
theorem Isolated.addOutput (isolated : Isolated passed limit bound older made router)
    (info : StreamInfo) : Isolated passed limit bound older made (router.addOutput info) where
  calls := isolated.calls
  drawn := isolated.drawn
  streams pid stream found := by
    rcases streams_of_addOutput found with ⟨rfl, rfl⟩ | ⟨_, held⟩
    · exact StreamState.elementary_drawn _ _ _
    · exact isolated.streams pid stream held
  named pid output found := by
    rcases outputs_of_addOutput found with ⟨rfl, rfl⟩ | ⟨_, held⟩
    · rfl
    · exact isolated.named pid output held
  bounded := Nat.le_succ_of_le isolated.bounded
  flagged := isolated.flagged
  owed pid output found below := by
    rcases outputs_of_addOutput found with ⟨rfl, rfl⟩ | ⟨_, held⟩
    · exact absurd isolated.bounded (Nat.not_le_of_lt below)
    · exact isolated.owed pid output held below

/-- To descramble shows no section and hands over no unit. -/
theorem Isolated.descramble (isolated : Isolated passed limit bound older made router)
    (host : Host) (packet : TransportPacket) (payload : Bytes) :
    IsIsolated passed limit bound older (router.descramble host packet payload).1 := by
  unfold Router.descramble
  split
  · exact ⟨made, isolated⟩
  · split
    · exact ⟨_, isolated.recorded trivial (fun _ => rfl)⟩
    · exact ⟨made, isolated⟩

/-- The router once a packet is counted, its clock reference heeded and its counter checked,
with the stream that its payload goes into, if it goes any further. -/
def heed (router : Router) (packet : TransportPacket) : Router × Option StreamState :=
  let router := router.countPacket packet
  if router.ignores packet then (router, none)
  else
    let router := router.observeClock packet
    match router.streams.get? packet.pid with
    | none => (router, none)
    | some stream =>
      let (status, continuity) := stream.continuity.check packet.header.continuity
        packet.header.hasPayload packet.discontinuity
      let stream := { stream with continuity }
      match status with
      | .duplicate =>
        ({ router with
          streams := router.streams.insert packet.pid stream
          stats := router.stats.recordDuplicate packet.pid }, none)
      | .first | .ok =>
        ({ router with streams := router.streams.insert packet.pid stream }, some stream)
      | .gap _ _ =>
        let stream := stream.discontinuity
        ({ router with
          streams := router.streams.insert packet.pid stream
          stats := router.stats.recordContinuityError packet.pid }, some stream)

/-- The sections that an item of framing completes, each with its PID. -/
def completed (router : Router) (host : Host) : SyncItem → List (Nat × Bytes)
  | .locked _ _ | .lost _ => []
  | .packet packet =>
    match router.heed packet, packet.payload? with
    | (between, some stream), some payload =>
      (stream.completed packet (between.descramble host packet payload).2).map (packet.pid, ·)
    | _, _ => []

theorem handlePacket_eq (host : Host) (packet : TransportPacket) (router : Router) :
    handlePacket host packet router =
      match router.heed packet with
      | (between, none) => .ok () between
      | (between, some stream) => passPayload host packet stream between := by
  unfold handlePacket heed
  dsimp only
  by_cases ignored : (router.countPacket packet).ignores packet = true
  · rw [if_pos ignored, if_pos ignored]
  · rw [if_neg ignored, if_neg ignored]
    cases ((router.countPacket packet).observeClock packet).streams.get? packet.pid with
    | none => rfl
    | some stream =>
      simp only [routePacket]
      cases (stream.continuity.check packet.header.continuity packet.header.hasPayload
        packet.discontinuity).1 <;> rfl

theorem Isolated.heed (isolated : Isolated passed limit bound older made router)
    (packet : TransportPacket) :
    Isolated passed limit bound older made (router.heed packet).1 ∧
      ∀ stream ∈ (router.heed packet).2,
        stream.reassembly.DrawnFrom (Parcel.Early passed limit) packet.pid := by
  have counted : Isolated passed limit bound older made (router.countPacket packet) :=
    isolated.aside (aside_rest router ..) rfl
  have observed : Isolated passed limit bound older made
      ((router.countPacket packet).observeClock packet) :=
    counted.aside (aside_observeClock _ packet) (observeClock_streams _ packet)
  unfold Router.heed
  dsimp only
  split
  · exact ⟨counted, by simp⟩
  · split
    · exact ⟨observed, by simp⟩
    · rename_i stream found
      have drawn := observed.streams packet.pid stream found
      have lost : ∀ continuity, Reassembly.DrawnFrom (Parcel.Early passed limit) packet.pid
          { stream with continuity }.discontinuity.reassembly :=
        fun continuity => StreamState.discontinuity_drawn drawn
      split
      · refine ⟨observed.insert ?_ _, by simp⟩
        exact drawn
      · refine ⟨observed.insert ?_ _, by rintro _ ⟨⟩; exact drawn⟩
        exact drawn
      · refine ⟨observed.insert ?_ _, by rintro _ ⟨⟩; exact drawn⟩
        exact drawn
      · exact ⟨observed.insert (lost _) _, by rintro _ ⟨⟩; exact lost _⟩

theorem Isolated.noteLoss (isolated : Isolated passed limit bound older made router) :
    Isolated passed limit bound older made router.noteLoss := by
  apply isolated.restream (aside_rest router ..)
  intro pid stream found
  rw [NatMap.get?_map] at found
  obtain ⟨former, present, rfl⟩ := Option.map_eq_some_iff.mp found
  have drawn := isolated.streams pid former present
  exact StreamState.discontinuity_drawn drawn

end Router

end TransportStream
