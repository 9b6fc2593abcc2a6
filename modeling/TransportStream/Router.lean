import TransportStream.Clock
import TransportStream.Host
import TransportStream.Options
import TransportStream.Output
import TransportStream.Packet
import TransportStream.Router.StreamState
import TransportStream.Stats
import TransportStream.Synchronizer
import TransportStream.Table.Tracker

/-!
What happens to packets behind framing: they are routed by PID to section filters and PES
reassemblers, table changes are applied to the outputs, units are delivered and the clock
is fed. Every operation leaves a state behind, also when a sink's failure ends it early;
what was done before the failure stays done.
-/
namespace TransportStream

/-- Where a session stands. -/
inductive Phase where
  | init
  | syncing
  | patPending
  | pmtPending
  | streaming
  | flushing
  | ended
  deriving DecidableEq, Repr

/-- The state of a session behind framing. `stride` is the last stride framing locked on,
`declined` are the PIDs of the current map that got no output, `calls` is every call made
into the host, newest first, and `sinks` counts the sinks created. -/
structure Router where
  options : Options
  phase : Phase := .init
  tables : TableTracker := {}
  streams : NatMap StreamState := {}
  outputs : NatMap Output := {}
  declined : NatMap Unit := {}
  program : Option Nat := none
  pcrPid : Option Nat := none
  clock : Clock
  stride : Option Nat := none
  stats : Stats := {}
  calls : List Call := []
  sinks : Nat := 0

/-- A change of a router that a failure can end early. -/
abbrev Routing := EStateM Error Router

namespace Router

/-! ### Bookkeeping that cannot fail -/

/-- Adds a call to the record. -/
def record (router : Router) (call : Call) : Router := { router with calls := call :: router.calls }

/-- Starts to listen to a PID that carries sections. -/
def trackTable (router : Router) (pid : Nat) (cls : StreamClass) : Router :=
  { router with
    streams := router.streams.insert pid (.table pid cls router.options.checkCrc)
    stats := router.stats.addStream pid cls }

/-- Stops to listen to a PID. -/
def untrack (router : Router) (pid : Nat) : Router :=
  { router with streams := router.streams.erase pid }

/-- Starts to listen to a PID unless it has a role already. -/
def trackIfFree (router : Router) (cls : StreamClass) (pid : Nat) : Router :=
  if router.streams.contains pid then router else router.trackTable pid cls

/-- Makes the PIDs of a class exactly these, as far as they are free. -/
def retrack (router : Router) (cls : StreamClass) (pids : List Nat) : Router :=
  let kept := router.streams.filter (fun pid stream => stream.cls != cls || pids.contains pid)
  pids.foldl (fun router pid => router.trackIfFree cls pid) { router with streams := kept }

/-- A fresh router that listens to the two tables with fixed PIDs. -/
def ofOptions (options : Options) : Router :=
  let router : Router := { options, clock := { smoothing := options.bitrateSmoothing } }
  (router.trackTable patPid .pat).trackTable catPid .cat

/-- A fresh timeline for a new clock; the stride is kept. -/
def restartClock (router : Router) : Router :=
  { router with clock :=
      { smoothing := router.options.bitrateSmoothing, stride := router.stride.getD packetSize } }

/-- The phase that tables and outputs call for. -/
def settledPhase (router : Router) : Phase :=
  if router.tables.pat.isNone then .patPending
  else if router.outputs.isEmpty then .pmtPending
  else .streaming

/-- Moves to the settled phase. -/
def settle (router : Router) : Router := { router with phase := router.settledPhase }

/-- Moves to the settled phase unless framing has yet to be found. -/
def settleIfFramed (router : Router) : Router :=
  match router.phase with
  | .syncing | .flushing => router
  | _ => router.settle

/-- Takes over the counters of framing. -/
def noteFraming (router : Router) (sync : Synchronizer) : Router :=
  { router with stats := { router.stats with session := { router.stats.session with
      bytes := sync.received, resyncs := sync.resyncs, invalidPackets := sync.invalid } } }

/-- Moves the counters of a section filter into the session's. -/
def collectFilter (router : Router) (pid : Nat) (stream : StreamState) (filter : SectionFilter) :
    Router :=
  let emptied := { filter with crcErrors := 0, truncated := 0, malformed := 0 }
  { router with
    streams := router.streams.insert pid { stream with reassembly := .sections emptied }
    stats := { router.stats with session := { router.stats.session with
      crcErrors := router.stats.session.crcErrors + filter.crcErrors
      truncatedSections := router.stats.session.truncatedSections + filter.truncated
      malformedSections := router.stats.session.malformedSections + filter.malformed } } }

/-- Moves the counters of a reassembler into the session's. -/
def collectReassembler (router : Router) (pid : Nat) (stream : StreamState)
    (reassembler : PesReassembler) : Router :=
  let emptied := { reassembler with overflows := 0, dropped := 0, invalid := 0 }
  { router with
    streams := router.streams.insert pid { stream with reassembly := .pes emptied }
    stats := { router.stats with session := { router.stats.session with
      pesOverflows := router.stats.session.pesOverflows + reassembler.overflows
      pesDropped := router.stats.session.pesDropped + reassembler.dropped
      pesInvalid := router.stats.session.pesInvalid + reassembler.invalid } } }

/-- Takes a section into the tables and moves their counters into the session's. -/
def takeSection (router : Router) (pid : Nat) (data : Bytes) : Router × Option TableEvent :=
  let (tables, event) := router.tables.handleSection pid data
  let emptied := { tables with malformed := 0, versionChanges := 0 }
  ({ router with
    tables := emptied
    stats := { router.stats with session := { router.stats.session with
      malformedSections := router.stats.session.malformedSections + tables.malformed
      tableVersionChanges :=
        router.stats.session.tableVersionChanges + tables.versionChanges } } }, event)

/-! ### Sinks -/

/-- Hands a unit to a sink. -/
def handUnit (host : Host) (sink : Nat) (unit : AccessUnit) : Routing Unit := fun router =>
  let failure := host.deliverFailure router.calls sink unit
  let router := router.record (.deliver sink unit failure)
  match failure with
  | none => .ok () router
  | some text => .error (.io text) router

/-- Tells a sink that its stream ended. -/
def endSink (host : Host) (sink pid : Nat) : Routing Unit := fun router =>
  let failure := host.finishFailure router.calls sink
  let router := router.record (.finish sink pid failure)
  match failure with
  | none => .ok () router
  | some text => .error (.io text) router

/-- Delivers a PES packet to the output of a PID, if there is one, and counts it. -/
def deliver (host : Host) (pid : Nat) (packet : PesPacket) : Routing Unit := fun router =>
  match router.outputs.get? pid with
  | none => .ok () router
  | some output =>
    let (output, unit) := output.deliver packet router.clock.first
    let router := { router with
      stats := router.stats.recordAccessUnit pid packet.header.pts
      outputs := router.outputs.insert pid output }
    match unit with
    | none => .ok () router
    | some unit => handUnit host output.sink unit router

/-- Ends what is in progress on a PID and returns the packet that this completes. -/
def flushReassembly (router : Router) (pid : Nat) : Router × Option PesPacket :=
  match router.streams.get? pid with
  | none => (router, none)
  | some stream =>
    match stream.reassembly with
    | .sections _ => (router, none)
    | .pes reassembler =>
      let (reassembler, last) := reassembler.flushEnd
      (router.collectReassembler pid stream reassembler, last)

/-- Signals the end of the stream on the output of a PID. -/
def endOutput (host : Host) (pid : Nat) : Routing Unit := fun router =>
  match (router.outputs.get? pid).bind Output.signalEnd? with
  | none => .ok () router
  | some output =>
    endSink host output.sink pid { router with outputs := router.outputs.insert pid output }

theorem endOutput_eq (host : Host) (pid : Nat) (router : Router) :
    endOutput host pid router =
      match router.outputs.get? pid with
      | none => .ok () router
      | some output =>
        if output.ended then .ok () router
        else
          endSink host output.sink pid
            { router with outputs := router.outputs.insert pid output.markEnded } := by
  unfold endOutput
  cases router.outputs.get? pid with
  | none => rfl
  | some output =>
    rw [Option.bind_some, Output.signalEnd?]
    cases ended : output.ended <;> simp only [ended] <;> rfl

/-- Stops to listen to a PID, drops its output and signals the end of the stream. -/
def removeOutput (host : Host) (pid : Nat) : Routing Unit := fun router =>
  let router := router.untrack pid
  match router.outputs.get? pid with
  | none => .ok () router
  | some output =>
    let router := { router with outputs := router.outputs.erase pid }
    match output.signalEnd? with
    | none => .ok () router
    | some output => endSink host output.sink pid router

theorem removeOutput_eq (host : Host) (pid : Nat) (router : Router) :
    removeOutput host pid router =
      match (router.untrack pid).outputs.get? pid with
      | none => .ok () (router.untrack pid)
      | some output =>
        let router := { router.untrack pid with
          outputs := (router.untrack pid).outputs.erase pid }
        if output.ended then .ok () router else endSink host output.sink pid router := by
  unfold removeOutput
  cases found : (router.untrack pid).outputs.get? pid with
  | none => simp only [found]
  | some output =>
    simp only [found, Output.signalEnd?]
    cases ended : output.ended <;> rfl

/-- Delivers what can still be completed on a PID. -/
def drainOutput (host : Host) (pid : Nat) : Routing Unit := fun router =>
  let (router, last) := router.flushReassembly pid
  match last with
  | none => .ok () router
  | some packet => deliver host pid packet router

/-- Ends the output of a PID; it stays, ended. -/
def closeOutput (host : Host) (pid : Nat) : Routing Unit := do
  drainOutput host pid
  endOutput host pid

/-- Ends the output of a PID and drops it. -/
def dropOutput (host : Host) (pid : Nat) : Routing Unit := do
  drainOutput host pid
  removeOutput host pid

/-- Does something for each of a list, until a failure. -/
def forEach {α : Type} (items : List α) (act : α → Routing Unit) : Routing Unit :=
  match items with
  | [] => pure ()
  | item :: others => do
    act item
    forEach others act

/-! ### Tables -/

/-- Drops all outputs of the program and what was learned with them. -/
def teardownProgram (host : Host) : Routing Unit := do
  forEach (← get).outputs.keys (dropOutput host)
  modify fun router =>
    { router.retrack .ecm [] with declined := {}, pcrPid := none }.restartClock

/-- The stream types a map lists, by PID. Of several entries the last counts. -/
def wantedTypes (pmt : Pmt) : NatMap StreamType :=
  pmt.streams.foldl (fun wanted stream => wanted.insert stream.pid (.ofCode stream.streamType)) {}

/-- Follows the clock PID of a map; a change starts a fresh timeline. -/
def followPcrPid (router : Router) (pcrPid : Nat) : Router :=
  if router.pcrPid = some pcrPid then router
  else if router.pcrPid.isSome then { router.restartClock with pcrPid := some pcrPid }
  else { router with pcrPid := some pcrPid }

/-- The PIDs of outputs that a map does not list with their type. -/
def staleOutputs (router : Router) (wanted : NatMap StreamType) : List Nat :=
  (router.outputs.filter (fun pid output => wanted.get? pid != some output.info.streamType)).keys

def decline (router : Router) (pid : Nat) : Router :=
  { router with declined := router.declined.insert pid () }

/-- Starts the output of an accepted stream. -/
def addOutput (router : Router) (info : StreamInfo) : Router :=
  { router with
    streams :=
      router.streams.insert info.pid (.elementary info.pid router.options.maxPesBuffer)
    stats := router.stats.addStream info.pid .pes
    outputs := router.outputs.insert info.pid { info, sink := router.sinks }
    sinks := router.sinks + 1 }

/-- Asks the host for an output. -/
def requestOutput (router : Router) (host : Host) (info : StreamInfo) : Router :=
  if host.accepts router.calls info then
    (router.record (.create info (some router.sinks))).addOutput info
  else
    let router := router.record (.create info none)
    { router with stats := router.stats.recordUnsupported }.decline info.pid

/-- Whether a PID has a role other than an elementary stream. -/
def carriesTables (router : Router) (pid : Nat) : Bool :=
  (router.streams.get? pid).any (fun stream => stream.cls != .pes)

/-- Gives a stream of a map an output, or declines it: streams that are no PES, and PIDs
that carry tables, get none. Streams decided before are left alone. -/
def considerStream (host : Host) (pmt : Pmt) (router : Router) (stream : PmtStream) : Router :=
  if router.outputs.contains stream.pid || router.declined.contains stream.pid then router
  else
    let streamType := StreamType.ofCode stream.streamType
    if !streamType.isSupported then
      { router with stats := router.stats.recordUnsupported }.decline stream.pid
    else if router.carriesTables stream.pid then router.decline stream.pid
    else
      router.requestOutput host {
        pid := stream.pid
        program := pmt.program
        streamType
        pcrPid := pmt.pcrPid
        ecmPids := stream.ecmPids }

/-- Brings the outputs in line with the map of the selected program. Streams whose PID and
type stay the same keep flowing. -/
def applyPmt (host : Host) (pmt : Pmt) : Routing Unit := do
  modify fun router => router.followPcrPid pmt.pcrPid
  let wanted := wantedTypes pmt
  forEach ((← get).staleOutputs wanted) (dropOutput host)
  modify fun router =>
    let declined := router.declined.filter (fun pid _ => wanted.contains pid)
    let router := { router with declined }.retrack .ecm pmt.ecmPids
    (pmt.streams.foldl (considerStream host pmt) router).settleIfFramed

/-- Listens to exactly the map PIDs of a program association table, as far as they are
free. -/
def followMaps (router : Router) (pat : Pat) : Router :=
  router.retrack .pmt (pat.programs.map (·.mapPid))

/-- Selects a program, after the outputs of another one are gone. -/
def selectProgram (host : Host) (selected : Option Nat) : Routing Unit := do
  let current := (← get).program
  if selected = current then pure ()
  else do
    if current.isSome then teardownProgram host
    modify fun router => { router with program := selected }

/-- Applies the map of the selected program, if it is known. -/
def applySelectedMap (host : Host) : Routing Unit := do
  let router ← get
  match router.program.bind router.tables.pmt? with
  | none => pure ()
  | some pmt => applyPmt host pmt

/-- Applies a table that came into force. -/
def applyEvent (host : Host) (event : TableEvent) : Routing Unit :=
  match event with
  | .pat _ current => do
    modify fun router => router.followMaps current
    let router ← get
    selectProgram host (router.tables.selectProgram router.options.program)
    applySelectedMap host
    modify settleIfFramed
  | .pmt _ _ current => do
    if (← get).program = some current.program then applyPmt host current
  | .cat _ current => modify fun router => router.retrack .emm current.emmPids

/-- Handles a section received on a PID in its role. -/
def handleSection (host : Host) (pid : Nat) (cls : StreamClass) (data : Bytes) :
    Routing Unit := fun router =>
  match cls with
  | .ecm | .emm =>
    if host.descrambler.isSome then .ok () (router.record (.entitlement pid cls data))
    else .ok () router
  | .pat | .pmt | .cat =>
    let (router, event) := router.takeSection pid data
    match event with
    | none => .ok () router
    | some event => applyEvent host event router
  | .pes => .ok () router

/-! ### Packets -/

/-- Counts a packet and what it says of itself. -/
def countPacket (router : Router) (packet : TransportPacket) : Router :=
  let stats := router.stats.recordPacket packet.pid (packet.payload?.getD []).length
    packet.header.isScrambled
  { router with
    stats := if packet.header.transportError then stats.recordTransportError else stats }

/-- Whether a packet goes no further than the counters. -/
def ignores (router : Router) (packet : TransportPacket) : Bool :=
  packet.header.transportError && !router.options.tolerateTransportErrors ||
    packet.pid == nullPid

/-- Feeds the clock from packets on its PID. -/
def observeClock (router : Router) (packet : TransportPacket) : Router :=
  if router.pcrPid = some packet.pid then
    let clock := if packet.discontinuity then router.clock.discontinuity else router.clock
    let clock :=
      match packet.pcr with
      | none => clock
      | some pcr => (clock.observe pcr.ticks packet.offset).1
    { router with clock }
  else router

/-- Asks the host to descramble the payload of a scrambled packet. -/
def descramble (router : Router) (host : Host) (packet : TransportPacket) (payload : Bytes) :
    Router × Bytes :=
  match host.descrambler with
  | none => (router, payload)
  | some descrambler =>
    if packet.header.isScrambled then
      let clear := descrambler router.calls packet.pid packet.header.scrambling payload
      (router.record (.descramble packet.pid packet.header.scrambling payload clear),
        clear.getD payload)
    else (router, payload)

/-- Puts a payload into the reassembly of its PID and handles what it completes. -/
def routePayload (host : Host) (packet : TransportPacket) (payload : Bytes)
    (stream : StreamState) : Routing Unit := fun router =>
  match stream.reassembly with
  | .sections filter =>
    let (filter, sections) := filter.push payload packet.header.payloadUnitStart
    forEach sections (handleSection host packet.pid stream.cls)
      (router.collectFilter packet.pid stream filter)
  | .pes reassembler =>
    let (reassembler, packets) := reassembler.push payload packet.header.payloadUnitStart
      packet.randomAccess packet.offset
    forEach packets (deliver host packet.pid)
      (router.collectReassembler packet.pid stream reassembler)

/-- Passes the payload of a packet on, if there is one. -/
def passPayload (host : Host) (packet : TransportPacket) (stream : StreamState) :
    Routing Unit := fun router =>
  match packet.payload? with
  | none => .ok () router
  | some payload =>
    let (router, payload) := router.descramble host packet payload
    routePayload host packet payload stream router

/-- Handles a packet on a PID that is listened to, its counter checked. A repeat is
dropped; a gap is reported to the reassembly first. -/
def routePacket (host : Host) (packet : TransportPacket) (stream : StreamState) :
    Routing Unit := fun router =>
  let (status, continuity) := stream.continuity.check packet.header.continuity
    packet.header.hasPayload packet.discontinuity
  let stream := { stream with continuity }
  match status with
  | .duplicate =>
    .ok () { router with
      streams := router.streams.insert packet.pid stream
      stats := router.stats.recordDuplicate packet.pid }
  | .first | .ok =>
    passPayload host packet stream
      { router with streams := router.streams.insert packet.pid stream }
  | .gap _ _ =>
    let stream := stream.discontinuity
    passPayload host packet stream { router with
      streams := router.streams.insert packet.pid stream
      stats := router.stats.recordContinuityError packet.pid }

/-- Handles one packet. -/
def handlePacket (host : Host) (packet : TransportPacket) : Routing Unit := fun router =>
  let router := router.countPacket packet
  if router.ignores packet then .ok () router
  else
    let router := router.observeClock packet
    match router.streams.get? packet.pid with
    | none => .ok () router
    | some stream => routePacket host packet stream router

/-! ### Framing -/

/-- A lock: the clock learns the stride. -/
def noteLock (router : Router) (stride : Nat) : Router :=
  { router with stride := some stride, clock := { router.clock with stride } }.settle

/-- A loss of the frame breaks every PID and the clock. -/
def noteLoss (router : Router) : Router :=
  { router with
    streams := router.streams.map StreamState.resync
    clock := router.clock.discontinuity }

/-- Handles what framing hands on. -/
def handleItem (host : Host) (item : SyncItem) : Routing Unit :=
  match item with
  | .locked stride _ => modify fun router => router.noteLock stride
  | .lost _ => modify noteLoss
  | .packet packet => handlePacket host packet

/-- Drops all data in flight; tables, outputs and the byte rate stay. -/
def flush (router : Router) : Router :=
  { router with
    phase := .flushing
    streams := router.streams.map StreamState.reset
    outputs := router.outputs.map Output.markDiscontinuity
    tables := router.tables.discardPartial
    clock := router.clock.discontinuity }

/-- Ends every output, in the order of their PIDs, until a failure. -/
def closeAll (host : Host) : Routing Unit := do
  forEach (← get).outputs.keys (closeOutput host)

end Router

end TransportStream
