import TransportStream.Proofs.Roles

/-!
What the handling of packets leaves alone. Delivery, and the end of streams, change neither the
roles of PIDs nor the course of a session: its tables, its program and its phase. Of all that a
packet can bring, only sections of tables do.
-/
namespace TransportStream

@[simp] theorem StreamState.pid_discontinuity (stream : StreamState) :
    stream.discontinuity.pid = stream.pid := by
  unfold discontinuity
  split <;> rfl

@[simp] theorem StreamState.pid_reset (stream : StreamState) : stream.reset.pid = stream.pid := by
  unfold reset
  dsimp only
  split <;> rfl

@[simp] theorem StreamState.pid_resync (stream : StreamState) : stream.resync.pid = stream.pid := by
  unfold resync
  rw [pid_discontinuity]

namespace Router

variable {α : Type} {host : Host} {invariant : Router → Prop}
variable {router before between after : Router}

/-- Every stream stands for the same PID as before. -/
def SamePids (before after : Router) : Prop :=
  ∀ pid, (after.streams.get? pid).map StreamState.pid =
    (before.streams.get? pid).map StreamState.pid

/-- The session goes by the same tables, program and clock PID, and stands in the same phase. -/
structure SameCourse (before after : Router) : Prop where
  options : after.options = before.options
  phase : after.phase = before.phase
  tables : after.tables = before.tables
  program : after.program = before.program
  pcrPid : after.pcrPid = before.pcrPid

/-- `Steady before after`: roles and course are the same, and no call is forgotten. -/
structure Steady (before after : Router) : Prop extends roles : SameRoles before after where
  pids : SamePids before after
  course : SameCourse before after
  calls : before.calls <:+ after.calls

theorem SameCourse.refl (router : Router) : SameCourse router router := ⟨rfl, rfl, rfl, rfl, rfl⟩

theorem SameCourse.trans (first : SameCourse before between)
    (second : SameCourse between after) : SameCourse before after where
  options := second.options.trans first.options
  phase := second.phase.trans first.phase
  tables := second.tables.trans first.tables
  program := second.program.trans first.program
  pcrPid := second.pcrPid.trans first.pcrPid

theorem Steady.refl (router : Router) : Steady router router :=
  ⟨.refl router, fun _ => rfl, .refl router, List.suffix_refl _⟩

theorem Steady.trans (first : Steady before between) (second : Steady between after) :
    Steady before after where
  roles := first.roles.trans second.roles
  pids pid := (second.pids pid).trans (first.pids pid)
  course := first.course.trans second.course
  calls := first.calls.trans second.calls

/-- An invariant that whatever is steady keeps. -/
def Lasting (invariant : Router → Prop) : Prop :=
  ∀ {before after}, invariant before → Steady before after → invariant after

theorem lasting_steady (before : Router) : Lasting (Steady before) :=
  fun held steady => held.trans steady

/-! ### Small changes -/

/-- A stream replaced by one of the same PID in the same role. -/
theorem steady_insert {pid : Nat} {current : StreamState} (next : StreamState)
    (found : router.streams.get? pid = some current) (role : next.role = current.role)
    (same : next.pid = current.pid) :
    Steady router { router with streams := router.streams.insert pid next } :=
  ⟨sameRoles_insert next found role, NatMap.map_get?_insert _ _ found same,
    ⟨rfl, rfl, rfl, rfl, rfl⟩,
    List.suffix_refl _⟩

theorem steady_output {pid : Nat} {current : Output} (next : Output)
    (found : router.outputs.get? pid = some current) (same : next.owner = current.owner) :
    Steady router { router with outputs := router.outputs.insert pid next } :=
  ⟨sameRoles_output next found same, fun _ => rfl, ⟨rfl, rfl, rfl, rfl, rfl⟩, List.suffix_refl _⟩

theorem steady_record (router : Router) (call : Call) : Steady router (router.record call) :=
  ⟨sameRoles_record .., fun _ => rfl, ⟨rfl, rfl, rfl, rfl, rfl⟩, List.suffix_cons ..⟩

theorem steady_noteFraming (router : Router) (sync : Synchronizer) :
    Steady router (router.noteFraming sync) :=
  ⟨sameRoles_noteFraming .., fun _ => rfl, ⟨rfl, rfl, rfl, rfl, rfl⟩, List.suffix_refl _⟩

theorem steady_noteLoss (router : Router) : Steady router router.noteLoss :=
  ⟨sameRoles_noteLoss router, NatMap.map_get?_map _ _ StreamState.pid_resync,
    ⟨rfl, rfl, rfl, rfl, rfl⟩,
    List.suffix_refl _⟩

theorem steady_recordAccessUnit (router : Router) (pid : Nat) (pts : Option Nat) :
    Steady router { router with stats := router.stats.recordAccessUnit pid pts } :=
  ⟨sameRoles_stats router (NatMap.map_get?_modify _ _ pid (fun _ => rfl)), fun _ => rfl,
    ⟨rfl, rfl, rfl, rfl, rfl⟩, List.suffix_refl _⟩

theorem steady_recordDuplicate (router : Router) (pid : Nat) :
    Steady router { router with stats := router.stats.recordDuplicate pid } :=
  ⟨sameRoles_recordDuplicate router pid, fun _ => rfl, ⟨rfl, rfl, rfl, rfl, rfl⟩,
    List.suffix_refl _⟩

theorem steady_recordContinuityError (router : Router) (pid : Nat) :
    Steady router { router with stats := router.stats.recordContinuityError pid } :=
  ⟨sameRoles_recordContinuityError router pid, fun _ => rfl, ⟨rfl, rfl, rfl, rfl, rfl⟩,
    List.suffix_refl _⟩

theorem steady_countPacket (router : Router) (packet : TransportPacket) :
    Steady router (router.countPacket packet) :=
  ⟨sameRoles_countPacket router packet, fun _ => rfl, ⟨rfl, rfl, rfl, rfl, rfl⟩, List.suffix_refl _⟩

theorem steady_observeClock (router : Router) (packet : TransportPacket) :
    Steady router (router.observeClock packet) := by
  have roles := sameRoles_observeClock router packet
  unfold observeClock at roles ⊢
  split
  · rename_i own
    rw [if_pos own] at roles
    exact ⟨roles, fun _ => rfl, ⟨rfl, rfl, rfl, rfl, rfl⟩, List.suffix_refl _⟩
  · exact .refl router

theorem steady_collectFilter {pid : Nat} {current : StreamState} {filter : SectionFilter}
    (changed : SectionFilter) (found : router.streams.get? pid = some current)
    (kind : current.reassembly = .sections filter) :
    Steady router (router.collectFilter pid current changed) :=
  ⟨sameRoles_collectFilter current changed found
      (by simp [StreamState.role, kind, Reassembly.isPes]),
    NatMap.map_get?_insert _ _ found rfl, ⟨rfl, rfl, rfl, rfl, rfl⟩, List.suffix_refl _⟩

theorem steady_collectReassembler {pid : Nat} {current : StreamState}
    {reassembler : PesReassembler} (changed : PesReassembler)
    (found : router.streams.get? pid = some current)
    (kind : current.reassembly = .pes reassembler) :
    Steady router (router.collectReassembler pid current changed) :=
  ⟨sameRoles_collectReassembler current changed found
      (by simp [StreamState.role, kind, Reassembly.isPes]),
    NatMap.map_get?_insert _ _ found rfl, ⟨rfl, rfl, rfl, rfl, rfl⟩, List.suffix_refl _⟩

theorem steady_flushReassembly (router : Router) (pid : Nat) :
    Steady router (router.flushReassembly pid).1 := by
  unfold flushReassembly
  cases found : router.streams.get? pid with
  | none => exact .refl router
  | some stream =>
    cases kind : stream.reassembly with
    | sections filter => simpa only [kind] using Steady.refl router
    | pes reassembler =>
      simp only [kind]
      exact steady_collectReassembler _ found kind

theorem steady_descramble (router : Router) (host : Host) (packet : TransportPacket)
    (payload : Bytes) : Steady router (router.descramble host packet payload).1 := by
  unfold descramble
  split
  · exact .refl router
  · split
    · exact steady_record ..
    · exact .refl router

/-! ### Delivery and the end of streams -/

theorem left_handUnit (host : Host) (sink : Nat) (unit : AccessUnit) (router : Router) :
    left (handUnit host sink unit) router =
      router.record (.deliver sink unit (host.deliverFailure router.calls sink unit)) := by
  unfold left handUnit
  cases host.deliverFailure router.calls sink unit <;> rfl

theorem left_endSink (host : Host) (sink pid : Nat) (router : Router) :
    left (endSink host sink pid) router =
      router.record (.finish sink pid (host.finishFailure router.calls sink)) := by
  unfold left endSink
  cases host.finishFailure router.calls sink <;> rfl

theorem handUnit_keeps (lasting : Lasting invariant) (host : Host) (sink : Nat)
    (unit : AccessUnit) : Keeps invariant (handUnit host sink unit) := by
  intro router held
  rw [left_handUnit]
  exact lasting held (steady_record ..)

theorem endSink_keeps (lasting : Lasting invariant) (host : Host) (sink pid : Nat) :
    Keeps invariant (endSink host sink pid) := by
  intro router held
  rw [left_endSink]
  exact lasting held (steady_record ..)

theorem deliver_keeps (lasting : Lasting invariant) (host : Host) (pid : Nat)
    (packet : PesPacket) : Keeps invariant (deliver host pid packet) := by
  intro router held
  unfold left deliver
  cases found : router.outputs.get? pid with
  | none => exact held
  | some output =>
    have replaced := lasting
      (lasting held (steady_recordAccessUnit router pid packet.header.pts))
      (steady_output _ found (Output.owner_deliver output packet router.clock.first))
    cases made : output.deliver packet router.clock.first with
    | mk next unit =>
      rw [made] at replaced
      simp only [made]
      cases unit with
      | none => exact replaced
      | some unit => exact handUnit_keeps lasting host next.sink unit _ replaced

theorem endOutput_keeps (lasting : Lasting invariant) (host : Host) (pid : Nat) :
    Keeps invariant (endOutput host pid) := by
  intro router held
  unfold left
  rw [endOutput_eq]
  cases found : router.outputs.get? pid with
  | none => exact held
  | some output =>
    by_cases ended : output.ended
    · simpa [ended] using held
    · have replaced := lasting held (steady_output output.markEnded found rfl)
      simp only [ended]
      exact endSink_keeps lasting host output.sink pid _ replaced

theorem drainOutput_keeps (lasting : Lasting invariant) (host : Host) (pid : Nat) :
    Keeps invariant (drainOutput host pid) := by
  intro router held
  have flushed := lasting held (steady_flushReassembly router pid)
  unfold left drainOutput
  cases drained : router.flushReassembly pid with
  | mk next last =>
    rw [drained] at flushed
    cases last with
    | none => exact flushed
    | some packet => exact deliver_keeps lasting host pid packet next flushed

theorem closeOutput_keeps (lasting : Lasting invariant) (host : Host) (pid : Nat) :
    Keeps invariant (closeOutput host pid) :=
  keeps_bind (drainOutput_keeps lasting host pid) (fun _ => endOutput_keeps lasting host pid)

theorem closeAll_keeps (lasting : Lasting invariant) (host : Host) :
    Keeps invariant (closeAll host) :=
  keeps_bind keeps_get (fun _ => keeps_forEach (closeOutput_keeps lasting host))

/-- What an action leaves is steady if the action keeps all that lasts. -/
theorem steady_of_keeps {action : Routing α}
    (keeps : ∀ {invariant : Router → Prop}, Lasting invariant → Keeps invariant action)
    (router : Router) : Steady router (left action router) :=
  keeps (lasting_steady router) router (.refl router)

theorem deliver_steady (host : Host) (pid : Nat) (packet : PesPacket) (router : Router) :
    Steady router (left (deliver host pid packet) router) :=
  steady_of_keeps (fun lasting => deliver_keeps lasting host pid packet) router

theorem endOutput_steady (host : Host) (pid : Nat) (router : Router) :
    Steady router (left (endOutput host pid) router) :=
  steady_of_keeps (fun lasting => endOutput_keeps lasting host pid) router

/-! ### Packets -/

/-- What lasts, and outlives the handling of sections, outlives the handling of packets. -/
theorem routePayload_keeps {packet : TransportPacket} {payload : Bytes} {stream : StreamState}
    (lasting : Lasting invariant)
    (sections : ∀ pid cls data, Keeps invariant (handleSection host pid cls data))
    (held : invariant router) (found : router.streams.get? packet.pid = some stream) :
    invariant (left (routePayload host packet payload stream) router) := by
  unfold left routePayload
  cases kind : stream.reassembly with
  | sections filter =>
    exact keeps_forEach (sections packet.pid stream.cls) _
      (lasting held (steady_collectFilter _ found kind))
  | pes reassembler =>
    exact keeps_forEach (deliver_keeps lasting host packet.pid) _
      (lasting held (steady_collectReassembler _ found kind))

theorem descramble_streams (router : Router) (host : Host) (packet : TransportPacket)
    (payload : Bytes) : (router.descramble host packet payload).1.streams = router.streams := by
  unfold descramble
  split
  · rfl
  · split <;> rfl

theorem passPayload_keeps {packet : TransportPacket} {stream : StreamState}
    (lasting : Lasting invariant)
    (sections : ∀ pid cls data, Keeps invariant (handleSection host pid cls data))
    (held : invariant router) (found : router.streams.get? packet.pid = some stream) :
    invariant (left (passPayload host packet stream) router) := by
  unfold left passPayload
  cases packet.payload? with
  | none => exact held
  | some payload =>
    apply routePayload_keeps lasting sections
      (lasting held (steady_descramble router host packet payload))
    rw [descramble_streams, found]

theorem routePacket_keeps {packet : TransportPacket} {stream : StreamState}
    (lasting : Lasting invariant)
    (sections : ∀ pid cls data, Keeps invariant (handleSection host pid cls data))
    (held : invariant router) (found : router.streams.get? packet.pid = some stream) :
    invariant (left (routePacket host packet stream) router) := by
  unfold left routePacket
  cases judged : stream.continuity.check packet.header.continuity packet.header.hasPayload
      packet.discontinuity with
  | mk status continuity =>
    let checked : StreamState := { stream with continuity }
    have heard := lasting held (steady_insert checked found rfl rfl)
    cases status with
    | duplicate => exact lasting heard (steady_recordDuplicate ..)
    | first => exact passPayload_keeps lasting sections heard (NatMap.get?_insert_self ..)
    | ok => exact passPayload_keeps lasting sections heard (NatMap.get?_insert_self ..)
    | gap expected actual =>
      have broken := lasting held (steady_insert checked.discontinuity found
        (StreamState.role_discontinuity checked) (StreamState.pid_discontinuity checked))
      have counted := lasting broken (steady_recordContinuityError _ packet.pid)
      exact passPayload_keeps lasting sections counted (NatMap.get?_insert_self ..)

theorem observeClock_streams (router : Router) (packet : TransportPacket) :
    (router.observeClock packet).streams = router.streams := by
  unfold observeClock
  split <;> rfl

theorem handlePacket_keeps (lasting : Lasting invariant)
    (sections : ∀ pid cls data, Keeps invariant (handleSection host pid cls data))
    (packet : TransportPacket) : Keeps invariant (handlePacket host packet) := by
  intro router held
  have counted := lasting held (steady_countPacket router packet)
  unfold left handlePacket
  dsimp only
  by_cases ignored : (router.countPacket packet).ignores packet
  · simp only [ignored, if_true]
    exact counted
  · simp only [ignored]
    have observed := lasting counted (steady_observeClock _ packet)
    cases found : ((router.countPacket packet).observeClock packet).streams.get? packet.pid with
    | none => exact observed
    | some stream => exact routePacket_keeps lasting sections observed found

end Router

end TransportStream
