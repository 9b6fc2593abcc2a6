import TransportStream.Proofs.ElementaryRouting
import TransportStream.Proofs.Fragments

/-!
What is sent on the PID of an elementary stream reaches its sink: every PES packet once, in
order and whole, however it is cut, repeated and interleaved.
-/
namespace TransportStream

/-- The unit without its place in time, which depends on the clock. -/
def AccessUnit.untimed (unit : AccessUnit) : AccessUnit := { unit with timestamp := none }

/-- The unit that a PES packet makes for a stream, but for its place in time. -/
def PesPacket.unitFor (info : StreamInfo) (packet : PesPacket) : AccessUnit :=
  { pid := info.pid
    streamId := packet.header.streamId
    streamType := info.streamType
    pts := packet.header.pts
    dts := packet.header.dts
    timestamp := none
    payload := packet.payload
    discontinuity := packet.discontinuity
    randomAccess := packet.randomAccess
    offset := packet.offset }

namespace TransportPacket

/-- Whether a packet on a PID is in the clear, without error, and announces no break. -/
structure Plain (pid : Nat) (packet : TransportPacket) : Prop where
  own : packet.pid = pid
  intact : packet.header.transportError = false
  clear : packet.header.isScrambled = false
  unbroken : packet.discontinuity = false

theorem Plain.heeded {pid : Nat} {packet : TransportPacket} (plain : packet.Plain pid)
    (real : pid ≠ nullPid) : Router.Heeded packet :=
  ⟨plain.intact, plain.own ▸ real, plain.clear⟩

/-- Whether a packet is the same as another but for its place in the stream. -/
def Repeats (again packet : TransportPacket) : Prop :=
  again = { packet with place := again.place, arrival := again.arrival }

theorem Repeats.header {again packet : TransportPacket} (same : again.Repeats packet) :
    again.header = packet.header := by
  rw [same]

theorem Repeats.plain {again packet : TransportPacket} {pid : Nat} (same : again.Repeats packet)
    (plain : packet.Plain pid) : again.Plain pid := by
  obtain ⟨own, intact, clear, unbroken⟩ := plain
  rw [same]
  exact ⟨own, intact, clear, unbroken⟩

end TransportPacket

/-- `Wire pid foreign last fragments packets`: the packets bring the fragments of a stream on
`pid`. Each fragment may be repeated once; packets without payload that repeat its counter,
and foreign ones, may come in between. `last` is the last fragment, if there was one, and
whether it was repeated. -/
inductive Wire (pid : Nat) (foreign : TransportPacket → Prop) :
    Option (TransportPacket × Bool) → List TransportPacket → List TransportPacket → Prop where
  | done (last : Option (TransportPacket × Bool)) : Wire pid foreign last [] []
  | fragment {last : Option (TransportPacket × Bool)} {fragments packets : List TransportPacket}
      (packet : TransportPacket)
      (others : Wire pid foreign (some (packet, false)) fragments packets) :
      Wire pid foreign last (packet :: fragments) (packet :: packets)
  | again {packet again : TransportPacket} {fragments packets : List TransportPacket}
      (same : again.Repeats packet)
      (others : Wire pid foreign (some (packet, true)) fragments packets) :
      Wire pid foreign (some (packet, false)) fragments (again :: packets)
  | idle {packet empty : TransportPacket} {repeated : Bool}
      {fragments packets : List TransportPacket} (plain : empty.Plain pid)
      (unfilled : empty.header.hasPayload = false)
      (still : empty.header.continuity % 16 = packet.header.continuity % 16)
      (others : Wire pid foreign (some (packet, repeated)) fragments packets) :
      Wire pid foreign (some (packet, repeated)) fragments (empty :: packets)
  | foreign {last : Option (TransportPacket × Bool)} {fragments packets : List TransportPacket}
      {packet : TransportPacket} (elsewhere : foreign packet)
      (others : Wire pid foreign last fragments packets) :
      Wire pid foreign last fragments (packet :: packets)

namespace Router

variable {host : Host} {router before after : Router} {info : StreamInfo} {sink : Nat}
variable {stream : StreamState} {delivered : List PesPacket}

/-- An output was just created: it and its stream are fresh, its sink has taken nothing, and
the session goes on. -/
structure JustCreated (router : Router) (info : StreamInfo) (sink : Nat) : Prop where
  stream : router.streams.get? info.pid =
    some (.elementary info.pid router.options.maxPesBuffer)
  output : router.outputs.get? info.pid = some { info, sink }
  unheard : router.received sink = []
  live : router.phase ≠ .ended

/-- An output that is open, with no flag pending. -/
structure Open (info : StreamInfo) (sink : Nat) (output : Output) : Prop where
  owner : output.owner = (info, sink)
  unended : output.ended = false
  calm : output.pendingDiscontinuity = false

/-- Where a stream stands whose sink has taken these packets. -/
structure Delivering (info : StreamInfo) (sink : Nat) (stream : StreamState)
    (delivered : List PesPacket) (router : Router) : Prop where
  sound : Sound router
  stream : router.streams.get? info.pid = some stream
  output : ∃ output, router.outputs.get? info.pid = some output ∧ Open info sink output
  received : (router.received sink).map AccessUnit.untimed = delivered.map (·.unitFor info)
  live : router.phase ≠ .ended

theorem Delivering.feeds (delivering : Delivering info sink stream delivered router) :
    Feeds router info.pid sink := by
  obtain ⟨output, found, opened⟩ := delivering.output
  exact ⟨output, found, congrArg Prod.snd opened.owner⟩

theorem Delivering.undisturbed (delivering : Delivering info sink stream delivered before)
    (spared : Undisturbed info.pid sink before after) :
    Delivering info sink stream delivered after where
  sound := delivering.sound.quiet spared.roles
  stream := spared.stream.trans delivering.stream
  output := by
    rw [spared.output]
    exact delivering.output
  received := by
    rw [spared.received]
    exact delivering.received
  live := by
    rw [spared.phase]
    exact delivering.live

theorem Delivering.heard {next : StreamState}
    (delivering : Delivering info sink stream delivered before)
    (heard : Heard info.pid next before after) : Delivering info sink next delivered after where
  sound := delivering.sound.quiet heard.roles
  stream := heard.stream
  output := by
    rw [heard.outputs]
    exact delivering.output
  received := by
    rw [Router.received, heard.calls]
    exact delivering.received
  live := by
    rw [phase_of_setting heard.setting]
    exact delivering.live

/-! ### One packet of the stream -/

theorem Open.deliver {output : Output} (opened : Open info sink output) (packet : PesPacket)
    (firstPcr : Option Nat) :
    ∃ next unit, output.deliver packet firstPcr = (next, some unit) ∧ Open info sink next ∧
      unit.untimed = packet.unitFor info := by
  obtain ⟨owner, unended, calm⟩ := opened
  have ofInfo : output.info = info := congrArg Prod.fst owner
  unfold Output.deliver
  rw [if_neg (by simp [unended])]
  refine ⟨_, _, rfl, ⟨owner, unended, by simp [calm]⟩, ?_⟩
  simp [AccessUnit.untimed, PesPacket.unitFor, ofInfo, calm]

theorem deliver_own (reliable : host.Reliable)
    (delivering : Delivering info sink stream delivered router) (packet : PesPacket) :
    ∃ after, deliver host info.pid packet router = .ok () after ∧ SameRoles router after ∧
      Delivering info sink stream (delivered ++ [packet]) after := by
  obtain ⟨output, found, opened⟩ := delivering.output
  obtain ⟨next, unit, made, openedNext, same⟩ := opened.deliver packet router.clock.first
  have roles := (deliver_steady host info.pid packet router).roles
  have ofSink : next.sink = sink := congrArg Prod.snd openedNext.owner
  unfold left at roles
  unfold deliver at roles ⊢
  simp only [found, made, handUnit_reliable reliable] at roles ⊢
  refine ⟨_, rfl, roles, delivering.sound.quiet roles, delivering.stream,
    ⟨next, NatMap.get?_insert_self .., openedNext⟩, ?_, delivering.live⟩
  rw [received_record, Call.takenBy, if_pos ofSink, List.map_append, List.map_append]
  simp only [Option.toList_some, List.map_cons, List.map_nil, same]
  exact congrArg (· ++ [packet.unitFor info]) delivering.received

theorem deliverAll_own (reliable : host.Reliable) (packets : List PesPacket)
    (delivering : Delivering info sink stream delivered router) :
    ∃ after, forEach packets (deliver host info.pid) router = .ok () after ∧
      SameRoles router after ∧ Delivering info sink stream (delivered ++ packets) after := by
  induction packets generalizing router delivered with
  | nil => exact ⟨router, rfl, .refl router, by simpa using delivering⟩
  | cons packet others ih =>
    obtain ⟨between, done, roles, delivering⟩ := deliver_own reliable delivering packet
    obtain ⟨after, doneToo, rolesToo, delivering⟩ := ih delivering
    refine ⟨after, ?_, roles.trans rolesToo, by simpa using delivering⟩
    rw [forEach, bind_of_ok done, doneToo]

/-- A packet of the stream is received, and what it completes goes to the sink. -/
theorem handlePacket_own (reliable : host.Reliable) {packet : TransportPacket}
    (delivering : Delivering info sink stream delivered router) (own : packet.pid = info.pid)
    (heeded : Heeded packet) (pes : stream.reassembly.isPes = true) :
    ∃ after, handlePacket host packet router = .ok () after ∧ SameRoles router after ∧
      Delivering info sink (stream.receive packet).1 (delivered ++ (stream.receive packet).2)
        after := by
  have found := delivering.stream
  rw [← own] at found
  obtain ⟨between, equation, heard, _⟩ :=
    handlePacket_receive (heeded.heard router) (heeded.clear host) pes found
  rw [own] at equation heard
  obtain ⟨after, done, roles, delivering⟩ :=
    deliverAll_own reliable (stream.receive packet).2 (delivering.heard heard)
  exact ⟨after, equation.trans done, heard.roles.trans roles, delivering⟩

/-! ### The packets of a wire -/

/-- Whether a packet belongs neither to a stream nor to a table: it is on the PID of another
stream, on one that nothing is known of, or empty filling. -/
def Foreign (router : Router) (pid : Nat) (packet : TransportPacket) : Prop :=
  packet.pid ≠ pid ∧ (packet.pid = nullPid ∨ router.carriesTables packet.pid = false)

/-- The counter after the last fragment. -/
def counterAfter : Option (TransportPacket × Bool) → ContinuityCounter
  | none => {}
  | some (packet, repeated) =>
    { ContinuityCounter.after packet.header.continuity with duplicateSeen := repeated }

/-- The fragments that are yet to come follow the last one. -/
def Follows (last : Option (TransportPacket × Bool)) (next : Nat) : Prop :=
  ∀ packet repeated, last = some (packet, repeated) →
    next % 16 = (packet.header.continuity + 1) % 16

theorem Follows.expects {last : Option (TransportPacket × Bool)} {next value : Nat}
    (follows : Follows last next) (same : value % 16 = next % 16) :
    (counterAfter last).Expects value := by
  cases last with
  | none => exact ContinuityCounter.expects_fresh value
  | some known =>
    obtain ⟨packet, repeated⟩ := known
    exact .inl (ContinuityCounter.check_after_next repeated
      (same.trans (follows packet repeated rfl)))

/-- Where a stream stands when these packets of a wire are yet to come. With them it gets to
`whole`: the state of its reassembly, and all that its sink has taken by then. -/
inductive Underway (base : Router) (info : StreamInfo) (sink : Nat)
    (whole : PesReassembler × List PesPacket) (packets : List TransportPacket)
    (router : Router) : Prop where
  | on {next : Nat} {last : Option (TransportPacket × Bool)} {fragments : List TransportPacket}
      {reassembler : PesReassembler} {delivered : List PesPacket}
      (wire : Wire info.pid (base.Foreign info.pid) last fragments packets)
      (known : ∀ packet repeated, last = some (packet, repeated) →
        packet.Plain info.pid ∧ packet.header.hasPayload = true)
      (plain : ∀ packet ∈ fragments, packet.Plain info.pid ∧ packet.header.hasPayload = true)
      (counted : CountedFrom next fragments) (follows : Follows last next)
      (roles : SameRoles base router)
      (delivering : Delivering info sink
        (.carrying info.pid (counterAfter last) reassembler) delivered router)
      (reassembled : (reassembler.takeAll fragments).1 = whole.1)
      (complete : delivered ++ (reassembler.takeAll fragments).2 = whole.2) :
      Underway base info sink whole packets router

section Underway

variable {base : Router} {whole : PesReassembler × List PesPacket}
variable {packet : TransportPacket} {packets rest : List TransportPacket}

theorem Underway.undisturbed (underway : Underway base info sink whole packets before)
    (spared : Undisturbed info.pid sink before after) :
    Underway base info sink whole packets after := by
  cases underway with
  | on wire known plain counted follows roles delivering reassembled complete =>
    exact .on wire known plain counted follows (roles.trans spared.roles)
      (delivering.undisturbed spared) reassembled complete

theorem Underway.live (underway : Underway base info sink whole packets router) :
    router.phase ≠ .ended := by
  cases underway with
  | on wire known plain counted follows roles delivering reassembled complete =>
    exact delivering.live

/-- At its end a wire has brought what its fragments bring. -/
theorem Underway.delivering (underway : Underway base info sink whole [] router) :
    ∃ counter, Delivering info sink (.carrying info.pid counter whole.1) whole.2 router := by
  cases underway with
  | @on next last fragments reassembler delivered wire known plain counted follows roles
      delivering reassembled complete =>
    cases wire
    rw [← reassembled, ← complete]
    refine ⟨counterAfter last, ?_⟩
    simpa [PesReassembler.takeAll] using delivering

/-- The step lemma: each packet of a wire is handled, and the wire goes on. -/
theorem Underway.handle (reliable : host.Reliable) (real : info.pid ≠ nullPid)
    (underway : Underway base info sink whole (packet :: packets) router) :
    ∃ after, handlePacket host packet router = .ok () after ∧
      Underway base info sink whole packets after := by
  cases underway with
  | on wire known plain counted follows roles delivering reassembled complete =>
  cases wire with
  | fragment packet others =>
    obtain ⟨value, counted⟩ := counted
    obtain ⟨fragment, filled⟩ := plain packet List.mem_cons_self
    obtain ⟨after, done, kept, delivering⟩ := handlePacket_own reliable delivering fragment.own
      (fragment.heeded real) rfl
    rw [StreamState.receive_expected ⟨filled, fragment.unbroken⟩ (follows.expects value)]
      at delivering
    rw [PesReassembler.takeAll_cons] at reassembled complete
    rw [← List.append_assoc] at complete
    refine ⟨after, done, .on others ?_ ?_ counted ?_ (roles.trans kept) delivering reassembled
      complete⟩
    · rintro packet repeated ⟨⟩
      exact ⟨fragment, filled⟩
    · exact fun other member => plain other (List.mem_cons_of_mem _ member)
    · rintro packet repeated ⟨⟩
      omega
  | @again previous _ fragments _ same others =>
    obtain ⟨original, filled⟩ := known previous false rfl
    have repeated := same.plain original
    obtain ⟨after, done, kept, delivering⟩ := handlePacket_own reliable delivering repeated.own
      (repeated.heeded real) rfl
    have judged : (counterAfter (some (previous, false))).check packet.header.continuity true
        false = (.duplicate, counterAfter (some (previous, true))) :=
      ContinuityCounter.check_after_repeat (by rw [same.header])
    rw [StreamState.receive_repeat ⟨same.header ▸ filled, repeated.unbroken⟩ judged,
      List.append_nil] at delivering
    refine ⟨after, done, .on others ?_ plain counted ?_ (roles.trans kept) delivering reassembled
      complete⟩
    · rintro packet repeated ⟨⟩
      exact ⟨original, filled⟩
    · rintro packet repeated ⟨⟩
      exact follows previous false rfl
  | @idle previous _ repeated fragments _ clean unfilled still others =>
    obtain ⟨after, done, kept, delivering⟩ := handlePacket_own reliable delivering clean.own
      (clean.heeded real) rfl
    have judged : (counterAfter (some (previous, repeated))).check packet.header.continuity false
        false = (.ok, counterAfter (some (previous, repeated))) :=
      ContinuityCounter.check_after_idle repeated still
    rw [StreamState.receive_idle unfilled clean.unbroken judged, List.append_nil] at delivering
    exact ⟨after, done, .on others known plain counted follows (roles.trans kept) delivering
      reassembled complete⟩
  | foreign elsewhere others =>
    obtain ⟨different, untabled⟩ := elsewhere
    rw [← roles.carriesTables packet.pid] at untabled
    obtain ⟨after, done, spared⟩ := handlePacket_spares reliable delivering.sound
      delivering.feeds different untabled
    exact ⟨after, done, .on others known plain counted follows (roles.trans spared.roles)
      (delivering.undisturbed spared) reassembled complete⟩

/-- The run lemma: packets are handled in turn, and the wire goes on behind them. -/
theorem Underway.handleAll (reliable : host.Reliable) (real : info.pid ≠ nullPid)
    (underway : Underway base info sink whole (packets ++ rest) router) :
    ∃ after, forEach packets (handlePacket host) router = .ok () after ∧
      Underway base info sink whole rest after := by
  induction packets generalizing router with
  | nil => exact ⟨router, rfl, underway⟩
  | cons packet others ih =>
    obtain ⟨between, done, underway⟩ := underway.handle reliable real
    obtain ⟨after, doneToo, underway⟩ := ih underway
    refine ⟨after, ?_, underway⟩
    rw [forEach, bind_of_ok done, doneToo]

end Underway

/-! ### The end of input -/

/-- What the end of input completes on a stream. -/
theorem drainOutput_own (reliable : host.Reliable) {counter : ContinuityCounter}
    {reassembler : PesReassembler}
    (delivering : Delivering info sink (.carrying info.pid counter reassembler) delivered router) :
    ∃ after next, drainOutput host info.pid router = .ok () after ∧ SameRoles router after ∧
      Delivering info sink next (delivered ++ reassembler.finishAny.2.toList) after := by
  let ended := reassembler.flushEnd.1
  let between := router.collectReassembler info.pid (.carrying info.pid counter reassembler) ended
  have flushed : router.flushReassembly info.pid = (between, reassembler.finishAny.2) := by
    unfold flushReassembly
    rw [delivering.stream]
    rfl
  have heard : Heard info.pid (.carrying info.pid counter ended.withoutCounts) router between :=
    ⟨sameRoles_collectReassembler _ ended delivering.stream rfl, rfl, rfl, rfl, rfl⟩
  unfold drainOutput
  rw [flushed]
  cases reassembler.finishAny.2 with
  | none => exact ⟨between, _, rfl, heard.roles, by simpa using delivering.heard heard⟩
  | some packet =>
    obtain ⟨after, done, roles, delivering⟩ :=
      deliver_own reliable (delivering.heard heard) packet
    exact ⟨after, _, done, heard.roles.trans roles, delivering⟩

theorem endOutput_own (reliable : host.Reliable)
    (delivering : Delivering info sink stream delivered router) :
    ∃ after, endOutput host info.pid router = .ok () after ∧ SameRoles router after ∧
      after.received sink = router.received sink := by
  obtain ⟨output, found, opened⟩ := delivering.output
  have roles := (endOutput_steady host info.pid router).roles
  unfold left at roles
  rw [endOutput_eq] at roles ⊢
  simp only [found, opened.unended, endSink_reliable reliable] at roles ⊢
  refine ⟨_, rfl, roles, ?_⟩
  rw [received_record]
  simp [Call.takenBy, received]

/-- The end of a stream: its sink has what came before, and what the end completes. -/
theorem closeOutput_own (reliable : host.Reliable) {counter : ContinuityCounter}
    {reassembler : PesReassembler}
    (delivering : Delivering info sink (.carrying info.pid counter reassembler) delivered router) :
    ∃ after, closeOutput host info.pid router = .ok () after ∧ SameRoles router after ∧
      (after.received sink).map AccessUnit.untimed =
        (delivered ++ reassembler.finishAny.2.toList).map (·.unitFor info) := by
  obtain ⟨between, next, drained, roles, delivering⟩ := drainOutput_own reliable delivering
  obtain ⟨after, ended, rolesToo, received⟩ := endOutput_own reliable delivering
  refine ⟨after, ?_, roles.trans rolesToo, ?_⟩
  · rw [closeOutput, bind_of_ok drained, ended]
  · rw [received]
    exact delivering.received

/-- Other outputs may end before and after. -/
theorem closeAll_own (reliable : host.Reliable) {counter : ContinuityCounter}
    {reassembler : PesReassembler}
    (delivering : Delivering info sink (.carrying info.pid counter reassembler) delivered router) :
    ∃ after, closeAll host router = .ok () after ∧
      (after.received sink).map AccessUnit.untimed =
        (delivered ++ reassembler.finishAny.2.toList).map (·.unitFor info) := by
  obtain ⟨output, found, _⟩ := delivering.output
  obtain ⟨front, back, keys⟩ :=
    List.append_of_mem ((NatMap.mem_keys_iff router.outputs info.pid).mpr ⟨output, found⟩)
  have distinct := NatMap.keys_nodup router.outputs
  rw [keys, List.nodup_append, List.nodup_cons] at distinct
  obtain ⟨_, ⟨notBehind, _⟩, apart⟩ := distinct
  have before : ∀ other ∈ front, other ≠ info.pid :=
    fun other member => apart other member info.pid List.mem_cons_self
  have behind : ∀ other ∈ back, other ≠ info.pid := by
    rintro other member rfl
    exact notBehind member
  have spares : ∀ others : List Nat, (∀ other ∈ others, other ≠ info.pid) →
      Spares info.pid sink (forEach others (closeOutput host)) :=
    fun others apart => spares_forEach
      (fun other member => closeOutput_spares reliable (apart other member))
  obtain ⟨first, done, spared⟩ := spares front before
    router delivering.sound delivering.feeds
  have delivering := delivering.undisturbed spared
  obtain ⟨second, closed, roles, received⟩ := closeOutput_own reliable delivering
  obtain ⟨after, doneToo, sparedToo⟩ := spares back behind
    second (delivering.sound.quiet roles) (delivering.feeds.of_roles roles)
  refine ⟨after, ?_, ?_⟩
  · change forEach router.outputs.keys (closeOutput host) router = _
    rw [keys, forEach_append _ done, forEach, bind_of_ok closed, doneToo]
  · rw [sparedToo.received]
    exact received

end Router

namespace Session

variable {host : Host} {session : Session}

/-- Whether the packets that framing hands on at the end of input are these, and nothing
else is. -/
def Pending (session : Session) (rest : List TransportPacket) : Prop :=
  session.sync.finish.drain.2.1 = rest.map .packet

/-- The packets that framing hands on are handled like those before them. -/
theorem drain_underway (host : Host) (session : Session) {base : Router} {info : StreamInfo}
    {sink : Nat} {whole : PesReassembler × List PesPacket} {rest : List TransportPacket}
    (reliable : host.Reliable) (real : info.pid ≠ nullPid)
    (framing : session.sync.drain.2.1 = rest.map .packet)
    (underway : base.Underway info sink whole rest session.router) :
    base.Underway info sink whole [] (left (drain host session)).router := by
  have framed (router : Router) (sync : Synchronizer) :
      Router.Undisturbed info.pid sink router (router.noteFraming sync) :=
    .of_rest (Router.sameRoles_noteFraming router sync) rfl rfl rfl rfl
  fun_induction drain host session generalizing rest with
  | case1 session sync error step =>
    rw [Synchronizer.drain_eq, step] at framing
    cases List.map_eq_nil_iff.mp framing.symm
    exact underway.undisturbed (framed session.router sync)
  | case2 session sync step =>
    rw [Synchronizer.drain_eq, step] at framing
    cases List.map_eq_nil_iff.mp framing.symm
    exact underway.undisturbed (framed session.router sync)
  | case3 session sync item step error router result =>
    rw [Synchronizer.drain_eq, step] at framing
    obtain ⟨packet, others, rfl, rfl, _⟩ := List.map_eq_cons_iff.mp framing.symm
    obtain ⟨after, done, _⟩ :=
      (underway.undisturbed (framed session.router sync)).handle reliable real
    rw [Router.handleItem, done] at result
    cases result
  | case4 session sync item step router result ih =>
    rw [Synchronizer.drain_eq, step] at framing
    obtain ⟨packet, others, rfl, rfl, later⟩ := List.map_eq_cons_iff.mp framing.symm
    obtain ⟨after, done, underway⟩ :=
      (underway.undisturbed (framed session.router sync)).handle reliable real
    rw [Router.handleItem, done] at result
    cases result
    exact ih later.symm underway

/-- Nothing reaches a sink after its output was closed. -/
theorem conclude_received (closed : Session) (error : Option Error) (never : Bool) (sink : Nat) :
    (left (closed.conclude error never)).router.received sink = closed.router.received sink := by
  unfold conclude
  cases error with
  | some error => rfl
  | none => cases never <;> rfl

theorem close_received {framed : Session} {after : Router}
    (closed : Router.closeAll host framed.router = .ok () after) (drained : Option Error)
    (sink : Nat) :
    (left (match framed.route (Router.closeAll host) with
      | .error error session => .error error session
      | .ok () session => session.conclude drained framed.neverFramed)).router.received sink =
        after.received sink := by
  have routed : framed.route (Router.closeAll host) = .ok () { framed with router := after } := by
    rw [route, closed]
  rw [routed]
  exact conclude_received _ drained framed.neverFramed sink

/-- At the end of input every output is closed once framing is drained. -/
theorem finish_received (session : Session) {after : Router}
    (live : session.router.phase ≠ .ended)
    (closed : Router.closeAll host
      (left (drain host { session with sync := session.sync.finish })).router = .ok () after)
    (sink : Nat) :
    (left (session.finish host)).router.received sink = after.received sink := by
  unfold finish
  rw [if_neg (show session.phase ≠ .ended from live)]
  cases result : drain host { session with sync := session.sync.finish } with
  | error error framed =>
    rw [result] at closed
    exact close_received closed (some error) sink
  | ok value framed =>
    rw [result] at closed
    exact close_received closed none sink

/-- PES packets sent on the PID of an output that was just created, however they are cut,
repeated and interleaved with others: when they are handled and input ends, the sink has
taken exactly these packets, in order and whole. Some may still be in framing when input
ends. -/
theorem sents_delivered (first : Nat) {info : StreamInfo} {sink : Nat}
    {packets rest : List TransportPacket} (reliable : host.Reliable)
    (reached : session.router.Reachable host) (created : session.router.JustCreated info sink)
    (real : info.pid ≠ nullPid) (pending : session.Pending rest)
    (sents : List (SentPes session.router.options.maxPesBuffer))
    (plain : ∀ packet ∈ sents.flatMap SentPes.packets,
      packet.Plain info.pid ∧ packet.header.hasPayload = true)
    (counted : CountedFrom first (sents.flatMap SentPes.packets))
    (wire : Wire info.pid (session.router.Foreign info.pid) none
      (sents.flatMap SentPes.packets) (packets ++ rest)) :
    ∃ handled, Router.forEach packets (Router.handlePacket host) session.router =
        .ok () handled ∧
      ((left (finish host { session with router := handled })).router.received sink).map
        AccessUnit.untimed = sents.map (fun sent => sent.received.unitFor info) := by
  let fresh : PesReassembler :=
    { pid := info.pid, bufferLimit := session.router.options.maxPesBuffer }
  obtain ⟨later, rests, out⟩ := PesReassembler.takeAll_sents
    (PesReassembler.rests_fresh info.pid session.router.options.maxPesBuffer) sents
  have start : Router.Delivering info sink (.carrying info.pid {} fresh) [] session.router :=
    ⟨reached.sound, created.stream, ⟨_, created.output, rfl, rfl, rfl⟩,
      by rw [created.unheard]; rfl, created.live⟩
  have underway : session.router.Underway info sink
      (fresh.takeAll (sents.flatMap SentPes.packets)) (packets ++ rest) session.router :=
    .on wire (by rintro packet repeated ⟨⟩) plain counted (by rintro packet repeated ⟨⟩)
      (.refl session.router) start rfl rfl
  obtain ⟨handled, done, underway⟩ := underway.handleAll reliable real
  have drained := drain_underway host { sync := session.sync.finish, router := handled } reliable
    real pending underway
  obtain ⟨counter, delivering⟩ := drained.delivering
  obtain ⟨after, closed, received⟩ := Router.closeAll_own reliable delivering
  refine ⟨handled, done, ?_⟩
  rw [finish_received { session with router := handled } underway.live closed, received, rests.last,
    out, List.map_append, List.map_map]
  rfl

/-- Framing that holds no bytes hands nothing on. -/
theorem pending_of_empty (empty : session.sync.buffer = []) : session.Pending [] := by
  have nothing : ∀ item, session.sync.finish.nextItem.2 ≠ .ok (some item) := by
    intro item
    have short : Bytes.isShorter [] packetSize = true := rfl
    unfold Synchronizer.nextItem Synchronizer.tryLock Synchronizer.giveUp Synchronizer.hasUnit
    simp only [Synchronizer.finish, empty, Synchronizer.search, short]
    split
    · simp
    · cases (Synchronizer.discard _ _).checkBudget <;> simp [Except.map]
  rw [Pending, Synchronizer.drain_eq]
  split
  · rfl
  · rfl
  · rename_i item step
    exact absurd (congrArg Prod.snd step) (nothing item)

/-- A header of open length without optional fields. -/
private theorem parse_open (payload : Bytes) :
    PesHeader.parse (0x00 :: 0x00 :: 0x01 :: 0xE0 :: 0x00 :: 0x00 :: 0x80 :: 0x00 :: 0x00 :: payload) =
      .ok { streamId := 0xE0, packetLength := 0, dataAlignment := false, pts := none, dts := none,
            size := 9 } := rfl

/-- A PES packet of open length in one transport packet. -/
def lonePes (limit pid counter place : Nat) (fits : packetSize ≤ limit) : SentPes limit :=
  let data := List.replicate 175 0x55
  let bytes := 0x00 :: 0x00 :: 0x01 :: 0xE0 :: 0x00 :: 0x00 :: 0x80 :: 0x00 :: 0x00 :: data
  { bytes
    header :=
      { streamId := 0xE0, packetLength := 0, dataAlignment := false, pts := none, dts := none
        size := 9 }
    first := { TransportPacket.bare pid counter true bytes with place }
    rest := []
    parsed := parse_open data
    media := by decide
    declared := .inl rfl
    fits := by
      simp only [bytes, data, List.length_cons, List.length_replicate]
      exact Nat.le_trans (by decide) fits
    starts := rfl
    continues := by simp
    filled := by simp
    whole := List.append_nil _ }

/-- The one fragment of a packet, alone on the wire. -/
theorem lonePes_wire (limit pid counter place : Nat) (fits : packetSize ≤ limit)
    (foreign : TransportPacket → Prop) :
    Wire pid foreign none [(lonePes limit pid counter place fits).first]
      [(lonePes limit pid counter place fits).first] :=
  .fragment _ (.done _)

theorem lonePes_plain (limit pid counter place : Nat) (fits : packetSize ≤ limit) :
    ∀ packet ∈ [lonePes limit pid counter place fits].flatMap SentPes.packets,
      packet.Plain pid ∧ packet.header.hasPayload = true := by
  intro packet member
  have same : packet = (lonePes limit pid counter place fits).first := by
    simpa [SentPes.packets, lonePes] using member
  subst same
  exact ⟨⟨rfl, rfl, rfl, rfl⟩, (by decide : Nat.testBit 1 0 = true)⟩

/-- A PES packet of open length with a timestamp, cut into three: twice inside of its header. -/
def cutPes (limit : Nat) (fits : packetSize ≤ limit) : SentPes limit where
  bytes := [0x00, 0x00, 0x01, 0xE0, 0x00, 0x00, 0x80, 0x80, 0x05, 0x21, 0x00, 0x05, 0xBF, 0x21,
    0x61, 0x62]
  header :=
    { streamId := 0xE0, packetLength := 0, dataAlignment := false, pts := some 90000, dts := none
      size := 14 }
  first := .bare 0x101 14 true [0x00, 0x00, 0x01, 0xE0, 0x00]
  rest := [.bare 0x101 15 false [0x00, 0x80, 0x80, 0x05, 0x21, 0x00],
    .bare 0x101 0 false [0x05, 0xBF, 0x21, 0x61, 0x62]]
  parsed := by decide +kernel
  media := by decide
  declared := .inl rfl
  fits := Nat.le_trans (by decide) fits
  starts := rfl
  continues := by decide
  filled := by decide
  whole := rfl

/-- A PES packet that declares its length, cut into two. -/
def sizedPes (limit : Nat) (fits : packetSize ≤ limit) : SentPes limit where
  bytes := [0x00, 0x00, 0x01, 0xE0, 0x00, 0x06, 0x80, 0x00, 0x00, 0x63, 0x64, 0x65]
  header :=
    { streamId := 0xE0, packetLength := 6, dataAlignment := false, pts := none, dts := none
      size := 9 }
  first := .bare 0x101 1 true [0x00, 0x00, 0x01, 0xE0, 0x00, 0x06, 0x80, 0x00, 0x00, 0x63]
  rest := [.bare 0x101 2 false [0x64, 0x65]]
  parsed := by decide +kernel
  media := by decide
  declared := .inr rfl
  fits := Nat.le_trans (by decide) fits
  starts := rfl
  continues := by decide
  filled := by decide
  whole := rfl

/-- A packet that has no payload and repeats a counter. -/
def idlePacket (pid continuity : Nat) : TransportPacket :=
  { header :=
      { transportError := false, payloadUnitStart := false, priority := false, pid, scrambling := 0
        adaptationControl := 2, continuity }
    adaptation := some { length := 183 }
    place := 0
    arrival := none
    bytes := 0x47 :: UInt8.ofNat (pid / 256) :: UInt8.ofNat pid :: UInt8.ofNat (0x20 + continuity) ::
      0xB7 :: 0x00 :: List.replicate 182 0xFF }

theorem idlePacket_plain (pid continuity : Nat) : (idlePacket pid continuity).Plain pid :=
  ⟨rfl, rfl, rfl, rfl⟩

/-- A session with two video streams. Framing holds one more packet of the first of them, for the
unit that carries it is not whole. -/
def heldSession : Session :=
  let options : Options := { packetSize := some 204, minSyncRun := 2 }
  let map := { loneMap 0 0x1B 0x101 with streams := [⟨0x1B, 0x101, []⟩, ⟨0x1B, 0x102, []⟩] }
  let parity : Bytes := List.replicate 16 0
  left (push .willing
    (sectionPacket patPid 0 loneAssociation.encode ++ parity ++
      sectionPacket 0x100 0 map.encode ++ parity ++
      (lonePes packetSize 0x101 3 408 (Nat.le_refl _)).first.bytes)
    { sync := .ofOptions options, router := .ofOptions options })

theorem heldSession_reachable : Reachable .willing heldSession :=
  .push (.start { packetSize := some 204, minSyncRun := 2 } rfl) _

theorem heldSession_room : packetSize ≤ heldSession.router.options.maxPesBuffer := by
  decide +kernel

/-- The first stream of that session. -/
def heldInfo : StreamInfo :=
  { pid := 0x101, program := 1, streamType := .h264, pcrPid := 0x101, ecmPids := [] }

/-- Three PES packets: the first is cut inside of its header, the second declares its length, and
the third is still in framing when input ends. Fragments come twice, and packets without payload,
packets of the other stream and empty filling come in between. -/
theorem three_sents_delivered :
    let cut := cutPes _ heldSession_room
    let sized := sizedPes _ heldSession_room
    let last := lonePes _ 0x101 3 408 heldSession_room
    let other := TransportPacket.bare 0x102 7 true [0x00, 0x00, 0x01, 0xE0]
    let filling := TransportPacket.bare nullPid 0 false [0xFF]
    let packets := cut.first :: { cut.first with place := 188 } :: idlePacket 0x101 14 :: other ::
      (cut.rest ++ filling :: idlePacket 0x101 0 :: sized.first :: other ::
        { sized.first with place := 376 } :: sized.rest)
    heldSession.router.JustCreated heldInfo 0 ∧ heldSession.Pending [last.first] ∧
      ∃ handled : Router,
        Router.forEach packets (Router.handlePacket .willing) heldSession.router =
            .ok () handled ∧
          ((left (finish .willing { heldSession with router := handled })).router.received 0).map
            AccessUnit.untimed =
              [cut, sized, last].map (fun sent => sent.received.unitFor heldInfo) := by
  intro cut sized last other filling packets
  have created : heldSession.router.JustCreated heldInfo 0 :=
    ⟨by decide +kernel, by decide +kernel, by decide +kernel, by decide +kernel⟩
  have pending : heldSession.Pending [last.first] := by
    unfold Pending
    decide +kernel
  have reliable : Host.willing.Reliable := ⟨fun _ _ _ => rfl, fun _ _ => rfl⟩
  have foreign : heldSession.router.Foreign 0x101 other := ⟨by decide, .inr (by decide +kernel)⟩
  have empty : heldSession.router.Foreign 0x101 filling := ⟨by decide, .inl rfl⟩
  have idle := idlePacket_plain 0x101
  have wire : Wire 0x101 (heldSession.router.Foreign 0x101) none
      ([cut, sized, last].flatMap SentPes.packets) (packets ++ [last.first]) :=
    .fragment _ <| .again rfl <| .idle (idle 14) rfl rfl <| .foreign foreign <|
      .fragment _ <| .fragment _ <| .foreign empty <| .idle (idle 0) rfl rfl <|
      .fragment _ <| .foreign foreign <| .again rfl <| .fragment _ <| .fragment _ <| .done _
  have plain : ∀ packet ∈ [cut, sized, last].flatMap SentPes.packets,
      packet.Plain 0x101 ∧ packet.header.hasPayload = true := by
    have facts : ∀ packet ∈ [cut, sized, last].flatMap SentPes.packets, packet.pid = 0x101 ∧
        packet.header.transportError = false ∧ packet.header.isScrambled = false ∧
        packet.discontinuity = false ∧ packet.header.hasPayload = true := by decide +kernel
    intro packet member
    obtain ⟨own, intact, clear, unbroken, filled⟩ := facts packet member
    exact ⟨⟨own, intact, clear, unbroken⟩, filled⟩
  have counted : CountedFrom 14 ([cut, sized, last].flatMap SentPes.packets) :=
    ⟨by decide, by decide, by decide, by decide, by decide, by decide, trivial⟩
  exact ⟨created, pending, sents_delivered 14 reliable heldSession_reachable.router created
    (by decide) pending [cut, sized, last] plain counted wire⟩

/-- A map may list a stream on the PID of empty filling. It gets an output, but what is sent
there is dropped with the filling. -/
theorem null_sent_undelivered :
    ∃ session info, Session.Reachable .willing session ∧
      session.router.JustCreated info 0 ∧ info.pid = nullPid ∧ session.Pending [] ∧
      ∃ (sent : SentPes session.router.options.maxPesBuffer) (handled : Router),
        (∀ packet ∈ [sent].flatMap SentPes.packets,
          packet.Plain info.pid ∧ packet.header.hasPayload = true) ∧
        CountedFrom 0 ([sent].flatMap SentPes.packets) ∧
        Wire info.pid (session.router.Foreign info.pid) none ([sent].flatMap SentPes.packets)
          [sent.first] ∧
        Router.forEach [sent.first] (Router.handlePacket .willing) session.router =
          .ok () handled ∧
        (left (finish .willing { session with router := handled })).router.received 0 = [] := by
  let session := ofMaps [loneMap 0 0x1B nullPid]
  let info : StreamInfo :=
    { pid := nullPid, program := 1, streamType := .h264, pcrPid := nullPid, ecmPids := [] }
  have created : session.router.JustCreated info 0 :=
    ⟨by decide +kernel, by decide +kernel, by decide +kernel, by decide +kernel⟩
  let sent := lonePes session.router.options.maxPesBuffer info.pid 0 0 (by decide +kernel)
  have success := Router.ok_of_succeeds (Router.forEach [sent.first] (Router.handlePacket .willing))
    session.router (by decide +kernel)
  exact ⟨session, info, ofMaps_reachable _, created, rfl,
    pending_of_empty (by decide +kernel), sent, _, lonePes_plain _ _ _ _ _, ⟨rfl, trivial⟩,
    lonePes_wire .., success, by decide +kernel⟩

end Session

end TransportStream
