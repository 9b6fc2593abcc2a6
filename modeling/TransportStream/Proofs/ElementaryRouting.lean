import TransportStream.Proofs.Reception
import TransportStream.Proofs.RoleInvariant

/-!
How packets of elementary streams are routed. A packet on the PID of a stream is received
by it, and what that completes is delivered; packets on other such PIDs leave the stream,
its output and its sink alone.
-/
namespace TransportStream

/-- The unit that a call handed to a sink, if the sink took it. -/
def Call.takenBy (sink : Nat) : Call → Option AccessUnit
  | .deliver other unit none => if other = sink then some unit else none
  | .deliver _ _ (some _) | .create _ _ | .finish _ _ _ | .entitlement _ _ _
  | .descramble _ _ _ _ => none

/-- What a packet on the PID of a clock tells it. -/
def Clock.hear (clock : Clock) (packet : TransportPacket) : Clock :=
  let clock := if packet.discontinuity then clock.discontinuity else clock
  match packet.pcr with
  | none => clock
  | some pcr => (clock.observe pcr.ticks packet.offset).1

namespace Router

variable {host : Host} {router before between after : Router} {pid sink : Nat}

/-- The units that a sink has taken, in their order. -/
def received (router : Router) (sink : Nat) : List AccessUnit :=
  router.calls.reverse.filterMap (Call.takenBy sink)

theorem received_record (router : Router) (call : Call) (sink : Nat) :
    (router.record call).received sink = router.received sink ++ (call.takenBy sink).toList := by
  unfold received record
  rw [List.reverse_cons, List.filterMap_append]
  cases taken : call.takenBy sink <;> simp [taken]

/-! ### The own stream -/

/-- The router without what packets of elementary streams can change. -/
def setting (router : Router) : Router :=
  { router with
    streams := {}
    outputs := {}
    clock := { smoothing := router.options.bitrateSmoothing }
    stats := {}
    calls := [] }

/-- `Heard pid stream before after`: a stream took in a packet, and nothing was delivered. -/
structure Heard (pid : Nat) (stream : StreamState) (before after : Router) : Prop where
  roles : SameRoles before after
  streams : after.streams = before.streams.insert pid stream
  outputs : after.outputs = before.outputs
  calls : after.calls = before.calls
  setting : after.setting = before.setting

theorem Heard.stream {stream : StreamState} (heard : Heard pid stream before after) :
    after.streams.get? pid = some stream := by
  rw [heard.streams, NatMap.get?_insert_self]

theorem phase_of_setting (same : after.setting = before.setting) : after.phase = before.phase :=
  show after.setting.phase = before.setting.phase by rw [same]

/-- Whether the payload of a packet goes into reassembly as it is. -/
def Clear (host : Host) (packet : TransportPacket) : Prop :=
  host.descrambler = none ∨ packet.header.isScrambled = false

/-- Whether a packet is heeded as it is: it is not in error, not empty filling, and not
scrambled. -/
def Heeded (packet : TransportPacket) : Prop :=
  packet.header.transportError = false ∧ packet.pid ≠ nullPid ∧
    packet.header.isScrambled = false

theorem Heeded.heard {packet : TransportPacket} (heeded : Heeded packet) (router : Router) :
    router.ignores packet = false := by
  obtain ⟨intact, real, _⟩ := heeded
  simp [ignores, intact, real]

theorem Heeded.clear {packet : TransportPacket} (heeded : Heeded packet) (host : Host) :
    Clear host packet := .inr heeded.2.2

/-- Whether the clock goes by a packet. -/
def keepsTime (router : Router) (packet : TransportPacket) : Bool :=
  !router.ignores packet && router.pcrPid == some packet.pid

/-- The clock once a packet has gone by. -/
def ticked (router : Router) (packet : TransportPacket) : Clock :=
  if router.keepsTime packet then router.clock.hear packet else router.clock

theorem observeClock_clock {packet : TransportPacket} (heeds : router.ignores packet = false) :
    ((router.countPacket packet).observeClock packet).clock = router.ticked packet := by
  have pcrPid : (router.countPacket packet).pcrPid = router.pcrPid := rfl
  unfold observeClock ticked keepsTime
  rw [pcrPid, heeds]
  by_cases own : router.pcrPid = some packet.pid
  · simp only [own, beq_self_eq_true, Bool.not_false, Bool.and_self, if_true]
    rfl
  · simp only [own, Bool.not_false, Bool.true_and, beq_iff_eq, if_false]
    rfl

theorem observeClock_rest (router : Router) (packet : TransportPacket) :
    (router.observeClock packet).outputs = router.outputs ∧
      (router.observeClock packet).calls = router.calls ∧
      (router.observeClock packet).setting = router.setting := by
  unfold observeClock
  split <;> exact ⟨rfl, rfl, rfl⟩

theorem descramble_clear {packet : TransportPacket} (clear : Clear host packet) (router : Router)
    (payload : Bytes) : router.descramble host packet payload = (router, payload) := by
  unfold descramble
  rcases clear with absent | unscrambled
  · simp [absent]
  · split
    · rfl
    · simp [unscrambled]

/-- A payload in the clear goes into the reassembly of its stream. -/
theorem passPayload_clear {packet : TransportPacket} {stream : StreamState}
    (clear : Clear host packet) (pes : stream.reassembly.isPes = true)
    (found : router.streams.get? packet.pid = some stream) :
    ∃ after, passPayload host packet stream router =
        forEach (stream.takePayload packet).2 (deliver host packet.pid) after ∧
      Heard packet.pid (stream.takePayload packet).1 router after ∧
      after.clock = router.clock := by
  unfold passPayload StreamState.takePayload
  cases present : packet.payload? with
  | none =>
    have same := NatMap.insert_eq_self found
    exact ⟨router, rfl, ⟨.refl router, same.symm, rfl, rfl, rfl⟩, rfl⟩
  | some payload =>
    cases kind : stream.reassembly with
    | sections filter =>
      rw [kind] at pes
      cases pes
    | pes reassembler =>
      have bytes : packet.payload = payload := by
        unfold TransportPacket.payload? at present
        split at present
        · exact Option.some.inj present
        · cases present
      let pushed := reassembler.push payload packet.header.payloadUnitStart packet.randomAccess
        packet.offset
      refine ⟨router.collectReassembler packet.pid stream pushed.1, ?_, ?_, rfl⟩
      · simp only [descramble_clear clear, routePayload, kind, PesReassembler.take, bytes]
        rfl
      · have roles := sameRoles_collectReassembler stream pushed.1 found
          (by simp [StreamState.role, kind, Reassembly.isPes])
        refine ⟨roles, ?_, rfl, rfl, rfl⟩
        simp only [collectReassembler, PesReassembler.take, bytes]
        rfl

/-- What was heard after the counter of the stream was checked. -/
theorem Heard.behind {checked stream : StreamState} (first : Heard pid checked before between)
    (heard : Heard pid stream between after) : Heard pid stream before after where
  roles := first.roles.trans heard.roles
  streams := by rw [heard.streams, first.streams, NatMap.insert_insert]
  outputs := heard.outputs.trans first.outputs
  calls := heard.calls.trans first.calls
  setting := heard.setting.trans first.setting

theorem routePacket_receive {packet : TransportPacket} {stream : StreamState}
    (clear : Clear host packet) (pes : stream.reassembly.isPes = true)
    (found : router.streams.get? packet.pid = some stream) :
    ∃ after, routePacket host packet stream router =
        forEach (stream.receive packet).2 (deliver host packet.pid) after ∧
      Heard packet.pid (stream.receive packet).1 router after ∧
      after.clock = router.clock := by
  unfold routePacket StreamState.receive
  cases judged : stream.continuity.check packet.header.continuity packet.header.hasPayload
      packet.discontinuity with
  | mk status continuity =>
    let checked : StreamState := { stream with continuity }
    have replaced := sameRoles_insert checked found rfl
    have passed : ∃ after,
        passPayload host packet checked
            { router with streams := router.streams.insert packet.pid checked } =
          forEach (checked.takePayload packet).2 (deliver host packet.pid) after ∧
        Heard packet.pid (checked.takePayload packet).1 router after ∧
        after.clock = router.clock := by
      let listening := { router with streams := router.streams.insert packet.pid checked }
      have first : Heard packet.pid checked router listening := ⟨replaced, rfl, rfl, rfl, rfl⟩
      have still : checked.reassembly.isPes = true := pes
      obtain ⟨after, equation, heard, clock⟩ := passPayload_clear clear still first.stream
      exact ⟨after, equation, first.behind heard, clock⟩
    cases status with
    | duplicate =>
      have repeated := replaced.trans (sameRoles_recordDuplicate _ packet.pid)
      exact ⟨_, rfl, ⟨repeated, rfl, rfl, rfl, rfl⟩, rfl⟩
    | first => exact passed
    | ok => exact passed
    | gap expected actual =>
      have broken := (sameRoles_insert checked.discontinuity found
        (StreamState.role_discontinuity checked)).trans
          (sameRoles_recordContinuityError _ packet.pid)
      have still : checked.discontinuity.reassembly.isPes = true :=
        (congrArg Prod.snd (StreamState.role_discontinuity checked)).trans pes
      let noted := { router with
        streams := router.streams.insert packet.pid checked.discontinuity
        stats := router.stats.recordContinuityError packet.pid }
      have first : Heard packet.pid checked.discontinuity router noted :=
        ⟨broken, rfl, rfl, rfl, rfl⟩
      obtain ⟨after, equation, heard, clock⟩ := passPayload_clear clear still first.stream
      exact ⟨after, equation, first.behind heard, clock⟩

/-- A packet on the PID of an elementary stream is received by it, and what that completes
is delivered. -/
theorem handlePacket_receive {packet : TransportPacket} {stream : StreamState}
    (heeds : router.ignores packet = false) (clear : Clear host packet)
    (pes : stream.reassembly.isPes = true)
    (found : router.streams.get? packet.pid = some stream) :
    ∃ after, handlePacket host packet router =
        forEach (stream.receive packet).2 (deliver host packet.pid) after ∧
      Heard packet.pid (stream.receive packet).1 router after ∧
      after.clock = router.ticked packet := by
  let observed := (router.countPacket packet).observeClock packet
  have roles : SameRoles router observed :=
    (sameRoles_countPacket router packet).trans (sameRoles_observeClock _ packet)
  have counted : (router.countPacket packet).ignores packet = false := heeds
  have streams : observed.streams = router.streams := observeClock_streams ..
  have listens : observed.streams.get? packet.pid = some stream := by rw [streams, found]
  have handled : handlePacket host packet router = routePacket host packet stream observed := by
    simp only [handlePacket, counted, Bool.false_eq_true, if_false]
    rw [show ((router.countPacket packet).observeClock packet).streams.get? packet.pid =
      some stream from listens]
  obtain ⟨outputs, calls, setting⟩ := observeClock_rest (router.countPacket packet) packet
  obtain ⟨after, equation, heard, same⟩ := routePacket_receive clear pes listens
  refine ⟨after, handled.trans equation, ?_, same.trans (observeClock_clock heeds)⟩
  exact ⟨roles.trans heard.roles, streams ▸ heard.streams, heard.outputs.trans outputs,
    heard.calls.trans calls, heard.setting.trans setting⟩

/-! ### Other streams -/

/-- `Undisturbed pid sink before after`: a stream, its output and its sink were left alone. -/
structure Undisturbed (pid sink : Nat) (before after : Router) : Prop where
  roles : SameRoles before after
  stream : after.streams.get? pid = before.streams.get? pid
  output : after.outputs.get? pid = before.outputs.get? pid
  received : after.received sink = before.received sink
  phase : after.phase = before.phase

theorem Undisturbed.refl (router : Router) : Undisturbed pid sink router router :=
  ⟨.refl router, rfl, rfl, rfl, rfl⟩

theorem Undisturbed.trans (first : Undisturbed pid sink before between)
    (second : Undisturbed pid sink between after) : Undisturbed pid sink before after :=
  ⟨first.roles.trans second.roles, second.stream.trans first.stream,
    second.output.trans first.output, second.received.trans first.received,
    second.phase.trans first.phase⟩

/-- Whether the output of a PID feeds a sink. -/
def Feeds (router : Router) (pid sink : Nat) : Prop :=
  ∃ output, router.outputs.get? pid = some output ∧ output.sink = sink

theorem Feeds.of_roles (feeds : Feeds before pid sink) (same : SameRoles before after) :
    Feeds after pid sink := by
  obtain ⟨output, found, rfl⟩ := feeds
  obtain ⟨current, there, owner⟩ := same.symm.output found
  exact ⟨current, there, congrArg Prod.snd owner⟩

/-- Whether an action succeeds and leaves a stream, its output and its sink alone. -/
def Spares (pid sink : Nat) (action : Routing Unit) : Prop :=
  ∀ router, Sound router → Feeds router pid sink →
    ∃ after, action router = .ok () after ∧ Undisturbed pid sink router after

theorem spares_pure : Spares pid sink (pure () : Routing Unit) :=
  fun router _ _ => ⟨router, rfl, .refl router⟩

theorem spares_bind {first second : Routing Unit} (one : Spares pid sink first)
    (two : Spares pid sink second) : Spares pid sink (first >>= fun _ => second) := by
  intro router sound feeds
  obtain ⟨between, done, spared⟩ := one router sound feeds
  obtain ⟨after, doneToo, sparedToo⟩ := two between (sound.quiet spared.roles)
    (feeds.of_roles spared.roles)
  exact ⟨after, by rw [bind_of_ok done, doneToo], spared.trans sparedToo⟩

theorem spares_forEach {α : Type} {items : List α} {act : α → Routing Unit}
    (each : ∀ item ∈ items, Spares pid sink (act item)) : Spares pid sink (forEach items act) := by
  induction items with
  | nil => exact spares_pure
  | cons item others ih =>
    exact spares_bind (each item List.mem_cons_self)
      (ih (fun other member => each other (List.mem_cons_of_mem _ member)))

theorem handUnit_reliable (reliable : host.Reliable) (sink : Nat) (unit : AccessUnit)
    (router : Router) :
    handUnit host sink unit router = .ok () (router.record (.deliver sink unit none)) := by
  simp [handUnit, reliable.1]

theorem endSink_reliable (reliable : host.Reliable) (sink pid : Nat) (router : Router) :
    endSink host sink pid router = .ok () (router.record (.finish sink pid none)) := by
  simp [endSink, reliable.2]

/-- Another PID does not feed the sink. -/
theorem other_sink {other : Nat} {output : Output} (sound : Sound router)
    (feeds : Feeds router pid sink) (different : other ≠ pid)
    (found : router.outputs.get? other = some output) : output.sink ≠ sink := by
  obtain ⟨own, present, rfl⟩ := feeds
  exact fun shared => different (sound.alone other pid output own found present shared)

/-- Delivery on another PID. -/
theorem deliver_spares (reliable : host.Reliable) {other : Nat} (different : other ≠ pid)
    (packet : PesPacket) : Spares pid sink (deliver host other packet) := by
  intro router sound feeds
  have roles := (deliver_steady host other packet router).roles
  unfold left at roles
  unfold deliver at roles ⊢
  cases found : router.outputs.get? other with
  | none => exact ⟨router, rfl, .refl router⟩
  | some output =>
    have foreign := other_sink sound feeds different found
    cases made : output.deliver packet router.clock.first with
    | mk next unit =>
      have sink : next.sink = output.sink := by
        have owner := Output.owner_deliver output packet router.clock.first
        rw [made] at owner
        exact congrArg Prod.snd owner
      simp only [found, made] at roles ⊢
      have output : (router.outputs.insert other next).get? pid = router.outputs.get? pid :=
        NatMap.get?_insert_ne _ _ different.symm
      cases unit with
      | none => exact ⟨_, rfl, roles, rfl, output, rfl, rfl⟩
      | some unit =>
        simp only [handUnit_reliable reliable] at roles ⊢
        refine ⟨_, rfl, roles, rfl, output, ?_, rfl⟩
        rw [received_record, Call.takenBy, sink, if_neg foreign, Option.toList_none,
          List.append_nil]
        rfl

/-- The end of another output. -/
theorem endOutput_spares (reliable : host.Reliable) {other : Nat} (different : other ≠ pid) :
    Spares pid sink (endOutput host other) := by
  intro router sound feeds
  have roles := (endOutput_steady host other router).roles
  unfold left at roles
  rw [endOutput_eq] at roles ⊢
  cases found : router.outputs.get? other with
  | none => exact ⟨router, rfl, .refl router⟩
  | some output =>
    simp only [found] at roles ⊢
    by_cases ended : output.ended
    · simp only [ended, if_true]
      exact ⟨router, rfl, .refl router⟩
    · simp only [ended, endSink_reliable reliable] at roles ⊢
      refine ⟨_, rfl, roles, rfl, NatMap.get?_insert_ne _ _ different.symm, ?_, rfl⟩
      rw [received_record]
      simp [Call.takenBy, received]

/-- A stream on another PID changes, and keeps its role. -/
theorem undisturbed_insert (sink : Nat) {other : Nat} {current : StreamState}
    (next : StreamState) (different : other ≠ pid)
    (found : router.streams.get? other = some current) (same : next.role = current.role) :
    Undisturbed pid sink router { router with streams := router.streams.insert other next } :=
  ⟨sameRoles_insert next found same, NatMap.get?_insert_ne _ _ different.symm, rfl, rfl, rfl⟩

theorem undisturbed_collectReassembler (sink : Nat) {other : Nat} {current : StreamState}
    (stream : StreamState) (reassembler : PesReassembler) (different : other ≠ pid)
    (found : router.streams.get? other = some current)
    (same : (stream.cls, true) = current.role) :
    Undisturbed pid sink router (router.collectReassembler other stream reassembler) :=
  ⟨sameRoles_collectReassembler stream reassembler found same,
    NatMap.get?_insert_ne _ _ different.symm, rfl, rfl, rfl⟩

theorem flushReassembly_undisturbed {other : Nat} (different : other ≠ pid) (sink : Nat)
    (router : Router) :
    Undisturbed pid sink router (router.flushReassembly other).1 := by
  unfold flushReassembly
  cases found : router.streams.get? other with
  | none => exact .refl router
  | some stream =>
    cases kind : stream.reassembly with
    | sections filter => simpa [kind] using Undisturbed.refl router
    | pes reassembler =>
      simp only [kind]
      exact undisturbed_collectReassembler sink stream _ different found
        (by simp [StreamState.role, kind, Reassembly.isPes])

theorem drainOutput_spares (reliable : host.Reliable) {other : Nat} (different : other ≠ pid) :
    Spares pid sink (drainOutput host other) := by
  intro router sound feeds
  have flushed := flushReassembly_undisturbed different sink router
  unfold drainOutput
  cases drained : router.flushReassembly other with
  | mk next last =>
    rw [drained] at flushed
    cases last with
    | none => exact ⟨next, rfl, flushed⟩
    | some packet =>
      obtain ⟨after, done, spared⟩ := deliver_spares reliable different packet next
        (sound.quiet flushed.roles) (feeds.of_roles flushed.roles)
      exact ⟨after, done, flushed.trans spared⟩

theorem closeOutput_spares (reliable : host.Reliable) {other : Nat} (different : other ≠ pid) :
    Spares pid sink (closeOutput host other) :=
  spares_bind (drainOutput_spares reliable different) (endOutput_spares reliable different)

/-- A change outside of streams, outputs and deliveries. -/
theorem Undisturbed.of_rest {after : Router} (roles : SameRoles before after)
    (streams : after.streams = before.streams) (outputs : after.outputs = before.outputs)
    (received : after.received sink = before.received sink) (phase : after.phase = before.phase) :
    Undisturbed pid sink before after :=
  ⟨roles, by rw [streams], by rw [outputs], received, phase⟩

theorem descramble_undisturbed (pid sink : Nat) (router : Router) (host : Host)
    (packet : TransportPacket) (payload : Bytes) :
    Undisturbed pid sink router (router.descramble host packet payload).1 := by
  have roles := sameRoles_descramble router host packet payload
  unfold descramble at roles ⊢
  split at roles
  · exact .refl router
  · split at roles
    · rename_i scrambled
      simp only [scrambled, if_true]
      refine .of_rest roles rfl rfl ?_ rfl
      rw [received_record]
      simp [Call.takenBy]
    · rename_i clear
      simp only [clear]
      exact .refl router

/-- Goes on after a change that left everything alone. -/
theorem Undisturbed.andThen {action : Routing Unit} (spared : Undisturbed pid sink before between)
    (next : ∃ after, action between = .ok () after ∧ Undisturbed pid sink between after) :
    ∃ after, action between = .ok () after ∧ Undisturbed pid sink before after := by
  obtain ⟨after, done, sparedToo⟩ := next
  exact ⟨after, done, spared.trans sparedToo⟩

section OtherPackets

variable {packet : TransportPacket} {stream : StreamState}

theorem routePayload_spares (reliable : host.Reliable) (sound : Sound router)
    (feeds : Feeds router pid sink) (different : packet.pid ≠ pid) (payload : Bytes)
    (pes : stream.reassembly.isPes = true) (found : router.streams.get? packet.pid = some stream) :
    ∃ after, routePayload host packet payload stream router = .ok () after ∧
      Undisturbed pid sink router after := by
  unfold routePayload
  cases kind : stream.reassembly with
  | sections filter =>
    rw [kind] at pes
    cases pes
  | pes reassembler =>
    let pushed := reassembler.push payload packet.header.payloadUnitStart packet.randomAccess
      packet.offset
    have collected := undisturbed_collectReassembler sink stream pushed.1 different found
      (by simp [StreamState.role, kind, Reassembly.isPes])
    exact collected.andThen (spares_forEach
      (fun unit _ => deliver_spares reliable different unit) _
      (sound.quiet collected.roles) (feeds.of_roles collected.roles))

theorem passPayload_spares (reliable : host.Reliable) (sound : Sound router)
    (feeds : Feeds router pid sink) (different : packet.pid ≠ pid)
    (pes : stream.reassembly.isPes = true) (found : router.streams.get? packet.pid = some stream) :
    ∃ after, passPayload host packet stream router = .ok () after ∧
      Undisturbed pid sink router after := by
  unfold passPayload
  cases packet.payload? with
  | none => exact ⟨router, rfl, .refl router⟩
  | some payload =>
    have clear := descramble_undisturbed pid sink router host packet payload
    have there : (router.descramble host packet payload).1.streams.get? packet.pid =
        some stream := by
      rw [descramble_streams, found]
    exact clear.andThen (routePayload_spares reliable (sound.quiet clear.roles)
      (feeds.of_roles clear.roles) different _ pes there)

theorem routePacket_spares (reliable : host.Reliable) (sound : Sound router)
    (feeds : Feeds router pid sink) (different : packet.pid ≠ pid)
    (pes : stream.reassembly.isPes = true) (found : router.streams.get? packet.pid = some stream) :
    ∃ after, routePacket host packet stream router = .ok () after ∧
      Undisturbed pid sink router after := by
  unfold routePacket
  cases judged : stream.continuity.check packet.header.continuity packet.header.hasPayload
      packet.discontinuity with
  | mk status continuity =>
    let checked : StreamState := { stream with continuity }
    have replaced := undisturbed_insert sink checked different found rfl
    have still : checked.reassembly.isPes = true := pes
    have passed := replaced.andThen (passPayload_spares reliable
      (sound.quiet replaced.roles) (feeds.of_roles replaced.roles) different still
      (NatMap.get?_insert_self router.streams packet.pid checked))
    cases status with
    | duplicate =>
      exact ⟨_, rfl, replaced.trans
        (.of_rest (sameRoles_recordDuplicate _ packet.pid) rfl rfl rfl rfl)⟩
    | first => exact passed
    | ok => exact passed
    | gap expected actual =>
      have broken := (undisturbed_insert sink checked.discontinuity different found
        (StreamState.role_discontinuity checked)).trans
          (.of_rest (sameRoles_recordContinuityError _ packet.pid) rfl rfl rfl rfl)
      have still : checked.discontinuity.reassembly.isPes = true :=
        (congrArg Prod.snd (StreamState.role_discontinuity checked)).trans pes
      exact broken.andThen (passPayload_spares reliable (sound.quiet broken.roles)
        (feeds.of_roles broken.roles) different still
        (NatMap.get?_insert_self router.streams packet.pid checked.discontinuity))

/-- Whether a packet carries no table that is listened to. -/
def Untabled (router : Router) (packet : TransportPacket) : Prop :=
  packet.pid = nullPid ∨ router.carriesTables packet.pid = false

theorem Untabled.pes (untabled : Untabled router packet) (sound : Sound router)
    (heeds : router.ignores packet = false)
    (found : router.streams.get? packet.pid = some stream) : stream.reassembly.isPes = true := by
  rcases untabled with null | free
  · simp [ignores, null] at heeds
  · have ofClass : stream.cls = .pes := by simpa [carriesTables, found] using free
    exact (sound.kinds _ stream found).mpr ofClass

/-- A packet on another PID that carries no table. -/
theorem handlePacket_spares (reliable : host.Reliable) (sound : Sound router)
    (feeds : Feeds router pid sink) (different : packet.pid ≠ pid)
    (untabled : Untabled router packet) :
    ∃ after, handlePacket host packet router = .ok () after ∧
      Undisturbed pid sink router after := by
  have counted : Undisturbed pid sink router (router.countPacket packet) :=
    .of_rest (sameRoles_countPacket router packet) rfl rfl rfl rfl
  unfold handlePacket
  dsimp only
  by_cases ignored : (router.countPacket packet).ignores packet
  · simp only [ignored, if_true]
    exact ⟨_, rfl, counted⟩
  · obtain ⟨outputs, calls, setting⟩ := observeClock_rest (router.countPacket packet) packet
    have streams := observeClock_streams (router.countPacket packet) packet
    have observed := counted.trans (.of_rest (sameRoles_observeClock _ packet) streams outputs
      (by unfold received; rw [calls]) (phase_of_setting setting))
    simp only [ignored]
    cases found : ((router.countPacket packet).observeClock packet).streams.get? packet.pid with
    | none => exact ⟨_, rfl, observed⟩
    | some stream =>
      have pes : stream.reassembly.isPes = true :=
        untabled.pes sound (eq_false_of_ne_true ignored) (streams ▸ found)
      exact observed.andThen (routePacket_spares reliable (sound.quiet observed.roles)
        (feeds.of_roles observed.roles) different pes found)

end OtherPackets

end Router

end TransportStream
