import TransportStream.Proofs.Reachability

/-!
Routing takes no notice of what framing counted. The counters are noted after every item, at
values that depend on how input came in; whatever a router does commutes with noting them.
-/
namespace TransportStream

namespace Router

/-- The result of an action with its router changed. -/
def onState {α : Type} (change : Router → Router) :
    EStateM.Result Error Router α → EStateM.Result Error Router α
  | .ok value router => .ok value (change router)
  | .error error router => .error error (change router)

/-- What an action comes to is the same, whatever framing counted so far. -/
def UnawareAt {α : Type} (sync : Synchronizer) (action : Routing α) (router : Router) : Prop :=
  action (router.noteFraming sync) =
    onState (fun after => after.noteFraming sync) (action router)

variable {α β : Type} {host : Host} {router : Router} {sync : Synchronizer}

theorem unaware_bind {action : Routing α} {next : α → Routing β}
    (first : UnawareAt sync action router)
    (second : ∀ value between, UnawareAt sync (next value) between) :
    UnawareAt sync (action >>= next) router := by
  unfold UnawareAt at first ⊢
  cases result : action router with
  | ok value between =>
    rw [result] at first
    rw [bind_of_ok first, bind_of_ok result]
    exact second value between
  | error error between =>
    rw [result] at first
    rw [bind_of_error first, bind_of_error result]
    rfl

theorem unaware_forEach {items : List α} {act : α → Routing Unit}
    (each : ∀ item router, UnawareAt sync (act item) router) (router : Router) :
    UnawareAt sync (forEach items act) router := by
  induction items generalizing router with
  | nil => rfl
  | cons item others ih => exact unaware_bind (each item router) (fun _ => ih)

theorem unaware_modify {change : Router → Router}
    (same : change (router.noteFraming sync) = (change router).noteFraming sync) :
    UnawareAt sync (modify change) router :=
  congrArg (EStateM.Result.ok ()) same

theorem handUnit_unaware (host : Host) (sink : Nat) (unit : AccessUnit) (router : Router) :
    UnawareAt sync (handUnit host sink unit) router := by
  have calls : (router.noteFraming sync).calls = router.calls := rfl
  unfold UnawareAt handUnit
  dsimp only
  rw [calls]
  split <;> rfl

theorem endSink_unaware (host : Host) (sink pid : Nat) (router : Router) :
    UnawareAt sync (endSink host sink pid) router := by
  have calls : (router.noteFraming sync).calls = router.calls := rfl
  unfold UnawareAt endSink
  dsimp only
  rw [calls]
  split <;> rfl

theorem deliver_unaware (host : Host) (pid : Nat) (packet : PesPacket) (router : Router) :
    UnawareAt sync (deliver host pid packet) router := by
  have outputs : (router.noteFraming sync).outputs = router.outputs := rfl
  have first : (router.noteFraming sync).clock.first = router.clock.first := rfl
  unfold UnawareAt deliver
  rw [outputs, first]
  cases router.outputs.get? pid with
  | none => rfl
  | some output =>
    dsimp only
    split
    · rfl
    · exact handUnit_unaware host _ _ { router with
        stats := router.stats.recordAccessUnit pid packet.header.pts
        outputs := router.outputs.insert pid (output.deliver packet router.clock.first).1 }

theorem endOutput_unaware (host : Host) (pid : Nat) (router : Router) :
    UnawareAt sync (endOutput host pid) router := by
  have outputs : (router.noteFraming sync).outputs = router.outputs := rfl
  unfold UnawareAt
  rw [endOutput_eq, endOutput_eq]
  rw [outputs]
  cases router.outputs.get? pid with
  | none => rfl
  | some output =>
    dsimp only
    split
    · rfl
    · exact endSink_unaware host _ _ { router with
        outputs := router.outputs.insert pid output.markEnded }

theorem removeOutput_unaware (host : Host) (pid : Nat) (router : Router) :
    UnawareAt sync (removeOutput host pid) router := by
  have outputs : ((router.noteFraming sync).untrack pid).outputs =
      (router.untrack pid).outputs := rfl
  unfold UnawareAt
  rw [removeOutput_eq, removeOutput_eq]
  dsimp only
  rw [outputs]
  cases (router.untrack pid).outputs.get? pid with
  | none => rfl
  | some output =>
    dsimp only
    split
    · rfl
    · exact endSink_unaware host _ _ { router.untrack pid with
        outputs := (router.untrack pid).outputs.erase pid }

theorem flushReassembly_unaware (router : Router) (pid : Nat) :
    (router.noteFraming sync).flushReassembly pid =
      ((router.flushReassembly pid).1.noteFraming sync, (router.flushReassembly pid).2) := by
  have streams : (router.noteFraming sync).streams = router.streams := rfl
  unfold flushReassembly
  rw [streams]
  cases router.streams.get? pid with
  | none => rfl
  | some stream =>
    dsimp only
    split <;> rfl

theorem drainOutput_unaware (host : Host) (pid : Nat) (router : Router) :
    UnawareAt sync (drainOutput host pid) router := by
  unfold UnawareAt drainOutput
  rw [flushReassembly_unaware]
  dsimp only
  split
  · rfl
  · exact deliver_unaware host pid _ _

theorem closeOutput_unaware (host : Host) (pid : Nat) (router : Router) :
    UnawareAt sync (closeOutput host pid) router :=
  unaware_bind (drainOutput_unaware host pid router) (fun _ => endOutput_unaware host pid)

theorem dropOutput_unaware (host : Host) (pid : Nat) (router : Router) :
    UnawareAt sync (dropOutput host pid) router :=
  unaware_bind (drainOutput_unaware host pid router) (fun _ => removeOutput_unaware host pid)

theorem closeAll_unaware (host : Host) (router : Router) :
    UnawareAt sync (closeAll host) router :=
  unaware_forEach (closeOutput_unaware host) router

theorem settleIfFramed_unaware (router : Router) :
    (router.noteFraming sync).settleIfFramed = router.settleIfFramed.noteFraming sync := by
  have phase : (router.noteFraming sync).phase = router.phase := rfl
  unfold settleIfFramed
  rw [phase]
  split <;> rfl

theorem followPcrPid_unaware (router : Router) (pcrPid : Nat) :
    (router.noteFraming sync).followPcrPid pcrPid =
      (router.followPcrPid pcrPid).noteFraming sync := by
  have same : (router.noteFraming sync).pcrPid = router.pcrPid := rfl
  unfold followPcrPid
  rw [same]
  split
  · rfl
  · split <;> rfl

theorem trackIfFree_unaware (router : Router) (cls : StreamClass) (pid : Nat) :
    (router.noteFraming sync).trackIfFree cls pid =
      (router.trackIfFree cls pid).noteFraming sync := by
  have streams : (router.noteFraming sync).streams = router.streams := rfl
  unfold trackIfFree
  rw [streams]
  split <;> rfl

theorem foldl_unaware {items : List α} {act : Router → α → Router}
    (each : ∀ router item, act (router.noteFraming sync) item = (act router item).noteFraming sync)
    (router : Router) :
    items.foldl act (router.noteFraming sync) = (items.foldl act router).noteFraming sync :=
  List.foldl_hom (fun router : Router => router.noteFraming sync) each

theorem retrack_unaware (router : Router) (cls : StreamClass) (pids : List Nat) :
    (router.noteFraming sync).retrack cls pids = (router.retrack cls pids).noteFraming sync :=
  foldl_unaware (fun router => trackIfFree_unaware router cls) { router with
    streams := router.streams.filter (fun pid stream => stream.cls != cls || pids.contains pid) }

theorem considerStream_unaware (host : Host) (pmt : Pmt) (router : Router) (stream : PmtStream) :
    considerStream host pmt (router.noteFraming sync) stream =
      (considerStream host pmt router stream).noteFraming sync := by
  have decided : ((router.noteFraming sync).outputs.contains stream.pid ||
      (router.noteFraming sync).declined.contains stream.pid) =
        (router.outputs.contains stream.pid || router.declined.contains stream.pid) := rfl
  have carries : (router.noteFraming sync).carriesTables stream.pid =
      router.carriesTables stream.pid := rfl
  have calls : (router.noteFraming sync).calls = router.calls := rfl
  unfold considerStream
  rw [decided, carries]
  split
  · rfl
  · dsimp only
    split
    · rfl
    · split
      · rfl
      · unfold requestOutput
        rw [calls]
        split <;> rfl

theorem adoptMap_unaware (host : Host) (pmt : Pmt) (router : Router) :
    (router.noteFraming sync).adoptMap host pmt = (router.adoptMap host pmt).noteFraming sync := by
  have ready : (router.noteFraming sync).readyFor pmt = (router.readyFor pmt).noteFraming sync :=
    retrack_unaware { router with
      declined := router.declined.filter (fun pid _ => (wantedTypes pmt).contains pid) }
      .ecm pmt.ecmPids
  rw [adoptMap, ready, foldl_unaware (considerStream_unaware host pmt)]
  rfl

theorem teardownProgram_unaware (host : Host) (router : Router) :
    UnawareAt sync (teardownProgram host) router := by
  unfold UnawareAt
  rw [teardownProgram_eq, teardownProgram_eq]
  apply unaware_bind
  · exact unaware_forEach (dropOutput_unaware host) router
  · intro value torn
    apply unaware_modify
    rw [retrack_unaware]
    rfl

theorem applyPmt_unaware (host : Host) (pmt : Pmt) (router : Router) :
    UnawareAt sync (applyPmt host pmt) router := by
  unfold UnawareAt
  rw [applyPmt_eq, applyPmt_eq, followPcrPid_unaware]
  apply unaware_bind
  · exact unaware_forEach (dropOutput_unaware host) _
  · intro value between
    apply unaware_modify
    rw [adoptMap_unaware, settleIfFramed_unaware]

theorem selectProgram_unaware (host : Host) (selected : Option Nat) (router : Router) :
    UnawareAt sync (selectProgram host selected) router := by
  have select : ∀ router, UnawareAt sync
      (modify fun router => { router with program := selected } : Routing Unit) router :=
    fun _ => rfl
  have program : (router.noteFraming sync).program = router.program := rfl
  unfold UnawareAt
  rw [selectProgram_eq, selectProgram_eq, program]
  split
  · rfl
  · split
    · exact unaware_bind (teardownProgram_unaware host router) (fun _ => select)
    · exact select router

theorem applySelectedMap_none (unknown : router.program.bind router.tables.pmt? = none) :
    applySelectedMap host router = .ok () router := by
  have read : (get : Routing Router) router = .ok router router := rfl
  rw [applySelectedMap, bind_of_ok read, unknown]
  rfl

theorem applySelectedMap_some {pmt : Pmt}
    (known : router.program.bind router.tables.pmt? = some pmt) :
    applySelectedMap host router = applyPmt host pmt router := by
  have read : (get : Routing Router) router = .ok router router := rfl
  rw [applySelectedMap, bind_of_ok read, known]

theorem applySelectedMap_unaware (host : Host) (router : Router) :
    UnawareAt sync (applySelectedMap host) router := by
  have noted : (router.noteFraming sync).program.bind (router.noteFraming sync).tables.pmt? =
    router.program.bind router.tables.pmt? := rfl
  unfold UnawareAt
  cases selected : router.program.bind router.tables.pmt? with
  | none =>
    rw [applySelectedMap_none selected, applySelectedMap_none (noted.trans selected)]
    rfl
  | some pmt =>
    rw [applySelectedMap_some selected, applySelectedMap_some (noted.trans selected)]
    exact applyPmt_unaware host pmt router

theorem applyEvent_unaware (host : Host) (event : TableEvent) (router : Router) :
    UnawareAt sync (applyEvent host event) router := by
  unfold UnawareAt
  cases event with
  | pat previous current =>
    have followed : (router.noteFraming sync).followMaps current =
      (router.followMaps current).noteFraming sync := retrack_unaware router .pmt _
    rw [applyPat_eq, applyPat_eq, followed]
    refine unaware_bind (selectProgram_unaware host _ _) (fun _ router => ?_)
    exact unaware_bind (applySelectedMap_unaware host router)
      (fun _ router => unaware_modify (settleIfFramed_unaware router))
  | pmt mapPid previous current =>
    have program : (router.noteFraming sync).program = router.program := rfl
    rw [applyMap_eq, applyMap_eq, program]
    split
    · exact applyPmt_unaware host current router
    · rfl
  | cat previous current => exact unaware_modify (retrack_unaware router .emm _)

theorem handleSection_unaware (host : Host) (pid : Nat) (cls : StreamClass) (data : Bytes)
    (router : Router) : UnawareAt sync (handleSection host pid cls data) router := by
  have taken : (router.noteFraming sync).takeSection pid data =
    ((router.takeSection pid data).1.noteFraming sync, (router.takeSection pid data).2) := rfl
  have table : UnawareAt sync (handleSection host pid .pat data) router := by
    unfold UnawareAt handleSection
    dsimp only
    rw [taken]
    dsimp only
    split
    · rfl
    · exact applyEvent_unaware host _ _
  cases cls with
  | pat => exact table
  | pmt => exact table
  | cat => exact table
  | pes => rfl
  | ecm =>
    unfold UnawareAt handleSection
    dsimp only
    split <;> rfl
  | emm =>
    unfold UnawareAt handleSection
    dsimp only
    split <;> rfl

theorem routePayload_unaware (host : Host) (packet : TransportPacket) (payload : Bytes)
    (stream : StreamState) (router : Router) :
    UnawareAt sync (routePayload host packet payload stream) router := by
  unfold UnawareAt routePayload
  cases stream.reassembly with
  | sections filter =>
    exact unaware_forEach (handleSection_unaware host packet.pid stream.cls)
      (router.collectFilter packet.pid stream
        (filter.push payload packet.header.payloadUnitStart).1)
  | pes reassembler =>
    exact unaware_forEach (deliver_unaware host packet.pid)
      (router.collectReassembler packet.pid stream
        (reassembler.push payload packet.header.payloadUnitStart packet.randomAccess
          packet.offset).1)

theorem descramble_unaware (host : Host) (packet : TransportPacket) (payload : Bytes)
    (router : Router) :
    (router.noteFraming sync).descramble host packet payload =
      ((router.descramble host packet payload).1.noteFraming sync,
        (router.descramble host packet payload).2) := by
  unfold descramble
  cases host.descrambler with
  | none => rfl
  | some descrambler =>
    dsimp only
    split <;> rfl

theorem passPayload_unaware (host : Host) (packet : TransportPacket) (stream : StreamState)
    (router : Router) : UnawareAt sync (passPayload host packet stream) router := by
  unfold UnawareAt passPayload
  cases packet.payload? with
  | none => rfl
  | some payload =>
    dsimp only
    rw [descramble_unaware]
    exact routePayload_unaware host packet _ stream _

theorem routePacket_unaware (host : Host) (packet : TransportPacket) (stream : StreamState)
    (router : Router) : UnawareAt sync (routePacket host packet stream) router := by
  unfold UnawareAt routePacket
  cases stream.continuity.check packet.header.continuity packet.header.hasPayload
      packet.discontinuity with
  | mk status continuity =>
    let heard : Router := { router with
      streams := router.streams.insert packet.pid { stream with continuity } }
    cases status with
    | duplicate => rfl
    | first => exact passPayload_unaware host packet _ heard
    | ok => exact passPayload_unaware host packet _ heard
    | gap expected actual =>
      exact passPayload_unaware host packet _ { router with
        streams := router.streams.insert packet.pid
          ({ stream with continuity } : StreamState).discontinuity
        stats := router.stats.recordContinuityError packet.pid }

theorem observeClock_unaware (router : Router) (packet : TransportPacket) :
    (router.noteFraming sync).observeClock packet =
      (router.observeClock packet).noteFraming sync := by
  have pcrPid : (router.noteFraming sync).pcrPid = router.pcrPid := rfl
  unfold observeClock
  rw [pcrPid]
  split <;> rfl

theorem handlePacket_unaware (host : Host) (packet : TransportPacket) (router : Router) :
    UnawareAt sync (handlePacket host packet) router := by
  have counted : (router.noteFraming sync).countPacket packet =
      (router.countPacket packet).noteFraming sync := by
    unfold countPacket
    dsimp only
    split <;> rfl
  have ignores : ((router.countPacket packet).noteFraming sync).ignores packet =
    (router.countPacket packet).ignores packet := rfl
  unfold UnawareAt handlePacket
  dsimp only
  rw [counted, ignores, observeClock_unaware]
  have streams : (((router.countPacket packet).observeClock packet).noteFraming sync).streams =
    ((router.countPacket packet).observeClock packet).streams := rfl
  rw [streams]
  split
  · rfl
  · cases ((router.countPacket packet).observeClock packet).streams.get? packet.pid with
    | none => rfl
    | some stream => exact routePacket_unaware host packet stream _

theorem handleItem_unaware (host : Host) (item : SyncItem) (router : Router) :
    UnawareAt sync (handleItem host item) router := by
  cases item with
  | locked stride place => rfl
  | lost place => rfl
  | packet packet => exact handlePacket_unaware host packet router

end Router

end TransportStream
