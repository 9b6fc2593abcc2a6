import TransportStream.Proofs.Isolation

/-!
What outlives all that a session does before its input ends. Whatever is done with packets and
tables comes down to a few kinds of change of the outputs, the calls and the counts of units; an
invariant that each of them keeps is kept by every action.
-/
namespace TransportStream

namespace Stats

variable {before between after : Stats}

/-- The units counted for a PID, if it is counted at all. -/
def units? (stats : Stats) (pid : Nat) : Option Nat :=
  (stats.streams.get? pid).map StreamStats.accessUnits

/-- No unit was counted. A PID may be counted from now on. -/
structure SameUnits (before after : Stats) : Prop where
  total : after.session.accessUnits = before.session.accessUnits
  each : ∀ pid, after.units? pid = before.units? pid ∨
    before.units? pid = none ∧ after.units? pid = some 0

theorem SameUnits.refl (stats : Stats) : SameUnits stats stats := ⟨rfl, fun _ => .inl rfl⟩

theorem SameUnits.trans (first : SameUnits before between) (second : SameUnits between after) :
    SameUnits before after where
  total := second.total.trans first.total
  each pid := by
    rcases second.each pid with same | ⟨none, new⟩
    · rw [same]
      exact first.each pid
    · rcases first.each pid with former | ⟨former, counted⟩
      · exact .inr ⟨former.symm.trans none, new⟩
      · rw [counted] at none
        cases none

/-- The counters of a PID change, but for those of its units. -/
theorem sameUnits_modify {pid : Nat} {change : StreamStats → StreamStats}
    (total : after.session.accessUnits = before.session.accessUnits)
    (streams : after.streams = before.streams.modify pid change)
    (same : ∀ entry, (change entry).accessUnits = entry.accessUnits) : SameUnits before after := by
  refine ⟨total, fun other => .inl ?_⟩
  unfold units?
  rw [streams]
  exact NatMap.map_get?_modify _ _ pid same other

theorem sameUnits_recordPacket (stats : Stats) (pid length : Nat) (scrambled : Bool) :
    SameUnits stats (stats.recordPacket pid length scrambled) :=
  sameUnits_modify rfl rfl (fun _ => rfl)

theorem sameUnits_recordDuplicate (stats : Stats) (pid : Nat) :
    SameUnits stats (stats.recordDuplicate pid) :=
  sameUnits_modify rfl rfl (fun _ => rfl)

theorem sameUnits_recordContinuityError (stats : Stats) (pid : Nat) :
    SameUnits stats (stats.recordContinuityError pid) :=
  sameUnits_modify rfl rfl (fun _ => rfl)

theorem sameUnits_session (stats : Stats) {session : SessionStats}
    (total : session.accessUnits = stats.session.accessUnits) :
    SameUnits stats { stats with session } :=
  ⟨total, fun _ => .inl rfl⟩

theorem sameUnits_addStream (stats : Stats) (pid : Nat) (cls : StreamClass) :
    SameUnits stats (stats.addStream pid cls) := by
  refine ⟨rfl, fun other => ?_⟩
  simp only [units?, addStream, NatMap.get?_insert]
  by_cases here : other = pid
  · subst here
    cases found : stats.streams.get? other with
    | none => simp
    | some entry => simp
  · simp [here]

end Stats

namespace Router

variable {α : Type} {host : Host} {invariant : Router → Prop}
variable {router before between after : Router} {pid : Nat}

/-! ### Quiet changes -/

/-- `Quiet before after`: no output changed, no call was made, and no unit was counted. -/
structure Quiet (before after : Router) : Prop where
  outputs : after.outputs = before.outputs
  calls : after.calls = before.calls
  sinks : after.sinks = before.sinks
  units : Stats.SameUnits before.stats after.stats

theorem Quiet.refl (router : Router) : Quiet router router := ⟨rfl, rfl, rfl, .refl _⟩

theorem Quiet.trans (first : Quiet before between) (second : Quiet between after) :
    Quiet before after :=
  ⟨second.outputs.trans first.outputs, second.calls.trans first.calls,
    second.sinks.trans first.sinks, first.units.trans second.units⟩

theorem quiet_settleIfFramed (router : Router) : Quiet router router.settleIfFramed := by
  obtain ⟨phase, settled⟩ : ∃ phase, router.settleIfFramed = { router with phase } := by
    unfold settleIfFramed
    split
    · exact ⟨router.phase, rfl⟩
    · exact ⟨router.phase, rfl⟩
    · exact ⟨router.settledPhase, rfl⟩
  rw [settled]
  exact ⟨rfl, rfl, rfl, .refl _⟩

theorem quiet_followPcrPid (router : Router) (pcrPid : Nat) :
    Quiet router (router.followPcrPid pcrPid) := by
  unfold followPcrPid
  split
  · exact .refl router
  · split <;> exact ⟨rfl, rfl, rfl, .refl _⟩

theorem quiet_trackIfFree (router : Router) (cls : StreamClass) (pid : Nat) :
    Quiet router (router.trackIfFree cls pid) := by
  unfold trackIfFree
  split
  · exact .refl router
  · exact ⟨rfl, rfl, rfl, Stats.sameUnits_addStream ..⟩

theorem quiet_retrack (router : Router) (cls : StreamClass) (pids : List Nat) :
    Quiet router (router.retrack cls pids) := by
  apply List.foldlRecOn pids
  · exact ⟨rfl, rfl, rfl, .refl _⟩
  · exact fun between quiet pid _ => quiet.trans (quiet_trackIfFree between cls pid)

theorem quiet_readyFor (router : Router) (pmt : Pmt) : Quiet router (router.readyFor pmt) := by
  have narrowed : Quiet router { router with
      declined := router.declined.filter (fun pid _ => (wantedTypes pmt).contains pid) } :=
    ⟨rfl, rfl, rfl, .refl _⟩
  exact narrowed.trans (quiet_retrack _ .ecm pmt.ecmPids)

theorem quiet_flushReassembly (router : Router) (pid : Nat) :
    Quiet router (router.flushReassembly pid).1 := by
  unfold flushReassembly
  split
  · exact .refl router
  · split
    · exact .refl router
    · exact ⟨rfl, rfl, rfl, Stats.sameUnits_session _ rfl⟩

theorem quiet_countPacket (router : Router) (packet : TransportPacket) :
    Quiet router (router.countPacket packet) := by
  have counted := Stats.sameUnits_recordPacket router.stats packet.pid
    (packet.payload?.getD []).length packet.header.isScrambled
  unfold countPacket
  refine ⟨rfl, rfl, rfl, ?_⟩
  dsimp only
  split
  · exact counted.trans (Stats.sameUnits_session _ rfl)
  · exact counted

theorem quiet_observeClock (router : Router) (packet : TransportPacket) :
    Quiet router (router.observeClock packet) := by
  unfold observeClock
  split
  · exact ⟨rfl, rfl, rfl, .refl _⟩
  · exact .refl router

/-- What is done with a packet before its payload is passed on. -/
theorem quiet_heed (router : Router) (packet : TransportPacket) :
    Quiet router (router.heed packet).1 := by
  have counted := quiet_countPacket router packet
  have observed := counted.trans (quiet_observeClock _ packet)
  unfold heed
  dsimp only
  split
  · exact counted
  · split
    · exact observed
    · split
      · exact observed.trans ⟨rfl, rfl, rfl, Stats.sameUnits_recordDuplicate ..⟩
      · exact observed.trans ⟨rfl, rfl, rfl, .refl _⟩
      · exact observed.trans ⟨rfl, rfl, rfl, .refl _⟩
      · exact observed.trans ⟨rfl, rfl, rfl, Stats.sameUnits_recordContinuityError ..⟩

/-! ### What an invariant has to outlive -/

/-- An invariant that outlives all that bears on outputs, calls and counts of units, as long as
no output is ended. -/
structure Durable (host : Host) (invariant : Router → Prop) : Prop where
  quiet {before after : Router} (held : invariant before) (same : Quiet before after) :
    invariant after
  deliver (pid : Nat) (packet : PesPacket) : Keeps invariant (deliver host pid packet)
  /-- A call that is about no sink. -/
  ask {router : Router} (held : invariant router) (call : Call) (nobody : call.sink? = none) :
    invariant (router.record call)
  create {router : Router} (held : invariant router) (info : StreamInfo) :
    invariant ((router.record (.create info (some router.sinks))).addOutput info)
  remove {router : Router} (held : invariant router) (pid : Nat) :
    invariant { router with outputs := router.outputs.erase pid }
  finish {router : Router} (held : invariant router) (sink pid : Nat) (failure : Option String) :
    invariant (router.record (.finish sink pid failure))

theorem drainOutput_durable (quiet : ∀ {before after}, invariant before → Quiet before after →
      invariant after) {pid : Nat}
    (delivers : ∀ packet, Keeps invariant (deliver host pid packet)) :
    Keeps invariant (drainOutput host pid) := by
  intro router held
  have flushed := quiet held (quiet_flushReassembly router pid)
  unfold left drainOutput
  cases drained : router.flushReassembly pid with
  | mk next last =>
    rw [drained] at flushed
    cases last with
    | none => exact flushed
    | some packet => exact delivers packet next flushed

variable (durable : Durable host invariant)

include durable

theorem removeOutput_durable (pid : Nat) : Keeps invariant (removeOutput host pid) := by
  intro router held
  have untracked : invariant (router.untrack pid) := durable.quiet held ⟨rfl, rfl, rfl, .refl _⟩
  have removed := durable.remove untracked pid
  unfold left
  rw [removeOutput_eq]
  cases found : (router.untrack pid).outputs.get? pid with
  | none => simpa only [found] using untracked
  | some output =>
    dsimp only
    by_cases ended : output.ended = true
    · simpa only [ended, if_true] using removed
    · simp only [ended]
      change invariant (left (endSink host output.sink pid) _)
      rw [left_endSink]
      exact durable.finish removed _ _ _

theorem dropOutput_durable (pid : Nat) : Keeps invariant (dropOutput host pid) :=
  keeps_bind (drainOutput_durable durable.quiet (durable.deliver pid))
    (fun _ => removeOutput_durable durable pid)

theorem teardownProgram_durable : Keeps invariant (teardownProgram host) := by
  intro router held
  rw [left, teardownProgram_eq]
  apply holds_bind (keeps_forEach (dropOutput_durable durable) router held)
  intro value
  apply keeps_modify
  intro torn held
  exact durable.quiet held ((quiet_retrack torn .ecm []).trans ⟨rfl, rfl, rfl, .refl _⟩)

theorem considerStream_durable (pmt : Pmt) (router : Router) (stream : PmtStream)
    (held : invariant router) : invariant (considerStream host pmt router stream) := by
  have unsupported : ∀ router : Router, Quiet router
      ({ router with stats := router.stats.recordUnsupported }.decline stream.pid) :=
    fun router => ⟨rfl, rfl, rfl, Stats.sameUnits_session _ rfl⟩
  unfold considerStream
  split
  · exact held
  · dsimp only
    split
    · exact durable.quiet held (unsupported router)
    · split
      · exact durable.quiet held ⟨rfl, rfl, rfl, .refl _⟩
      · unfold requestOutput
        split
        · exact durable.create held _
        · exact durable.quiet (durable.ask held (.create _ none) rfl) (unsupported _)

theorem applyPmt_durable (pmt : Pmt) : Keeps invariant (applyPmt host pmt) := by
  intro router held
  rw [left, applyPmt_eq]
  apply holds_bind (keeps_forEach (dropOutput_durable durable) _
    (durable.quiet held (quiet_followPcrPid router pmt.pcrPid)))
  intro value
  apply keeps_modify
  intro between held
  have adopted : invariant (between.adoptMap host pmt) :=
    considerAll_holds invariant (considerStream_durable durable pmt) pmt.streams
      (durable.quiet held (quiet_readyFor between pmt))
  exact durable.quiet adopted (quiet_settleIfFramed _)

theorem selectProgram_durable (selected : Option Nat) :
    Keeps invariant (selectProgram host selected) := by
  have select : Keeps invariant
      (modify fun router => { router with program := selected } : Routing Unit) :=
    keeps_modify (fun _ held => durable.quiet held ⟨rfl, rfl, rfl, .refl _⟩)
  refine keeps_bind keeps_get ?_
  intro current
  dsimp only
  split
  · exact keeps_pure ()
  · split
    · exact keeps_bind (teardownProgram_durable durable) (fun _ => select)
    · exact select

theorem applySelectedMap_durable : Keeps invariant (applySelectedMap host) := by
  refine keeps_bind keeps_get ?_
  intro current
  cases current.program.bind current.tables.pmt? with
  | none => exact keeps_pure ()
  | some pmt => exact applyPmt_durable durable pmt

theorem applyEvent_durable (event : TableEvent) : Keeps invariant (applyEvent host event) := by
  cases event with
  | pat previous current =>
    intro router held
    have followed : invariant (router.followMaps current) :=
      durable.quiet held (quiet_retrack router .pmt _)
    rw [left, applyPat_eq]
    apply holds_bind (selectProgram_durable durable _ _ followed)
    intro value
    exact keeps_bind (applySelectedMap_durable durable)
      (fun _ => keeps_modify (fun _ held => durable.quiet held (quiet_settleIfFramed _)))
  | pmt mapPid previous current =>
    refine keeps_bind keeps_get ?_
    intro observed
    split
    · exact applyPmt_durable durable current
    · exact keeps_pure ()
  | cat previous current =>
    exact keeps_modify (fun router held => durable.quiet held (quiet_retrack router .emm _))

theorem handleSection_durable (pid : Nat) (cls : StreamClass) (data : Bytes) :
    Keeps invariant (handleSection host pid cls data) := by
  intro router held
  have table : invariant (left (handleSection host pid .pat data) router) := by
    have taken : invariant (router.takeSection pid data).1 :=
      durable.quiet held ⟨rfl, rfl, rfl, Stats.sameUnits_session _ rfl⟩
    unfold left handleSection
    dsimp only
    cases (router.takeSection pid data).2 with
    | none => exact taken
    | some event => exact applyEvent_durable durable event _ taken
  have shown : ∀ cls, invariant (left (fun router =>
      if host.descrambler.isSome then .ok () (router.record (.entitlement pid cls data))
      else .ok () router : Routing Unit) router) := by
    intro cls
    unfold left
    by_cases asked : host.descrambler.isSome
    · simp only [asked, if_true]
      exact durable.ask held _ rfl
    · simp only [asked]
      exact held
  cases cls with
  | pat => exact table
  | pmt => exact table
  | cat => exact table
  | pes => exact held
  | ecm => exact shown .ecm
  | emm => exact shown .emm

theorem routePayload_durable (packet : TransportPacket) (payload : Bytes) (stream : StreamState) :
    Keeps invariant (routePayload host packet payload stream) := by
  intro router held
  have counted : ∀ session streams, session.accessUnits = router.stats.session.accessUnits →
      invariant { router with streams, stats := { router.stats with session } } :=
    fun session streams total =>
      durable.quiet held ⟨rfl, rfl, rfl, Stats.sameUnits_session _ total⟩
  unfold left routePayload
  cases stream.reassembly with
  | sections filter =>
    exact keeps_forEach (handleSection_durable durable packet.pid stream.cls) _ (counted _ _ rfl)
  | pes reassembler =>
    exact keeps_forEach (durable.deliver packet.pid) _ (counted _ _ rfl)

theorem descramble_durable (packet : TransportPacket) (payload : Bytes) (router : Router)
    (held : invariant router) : invariant (router.descramble host packet payload).1 := by
  unfold descramble
  split
  · exact held
  · split
    · exact durable.ask held _ rfl
    · exact held

theorem passPayload_durable (packet : TransportPacket) (stream : StreamState) :
    Keeps invariant (passPayload host packet stream) := by
  intro router held
  unfold left passPayload
  cases packet.payload? with
  | none => exact held
  | some payload =>
    exact routePayload_durable durable packet _ stream _
      (descramble_durable durable packet payload router held)

theorem handlePacket_durable (packet : TransportPacket) :
    Keeps invariant (handlePacket host packet) := by
  intro router held
  have heeded := durable.quiet held (quiet_heed router packet)
  rw [left, handlePacket_eq]
  cases outcome : router.heed packet with
  | mk between stream =>
    rw [outcome] at heeded
    cases stream with
    | none => exact heeded
    | some stream => exact passPayload_durable durable packet stream between heeded

theorem handleItem_durable (item : SyncItem) : Keeps invariant (handleItem host item) := by
  cases item with
  | locked stride place =>
    exact keeps_modify (fun _ held => durable.quiet held ⟨rfl, rfl, rfl, .refl _⟩)
  | lost place => exact keeps_modify (fun _ held => durable.quiet held ⟨rfl, rfl, rfl, .refl _⟩)
  | packet packet => exact handlePacket_durable durable packet

end Router

namespace Session

variable {host : Host} {invariant : Router → Prop} {session : Session}

theorem drain_durable (durable : Router.Durable host invariant)
    (held : invariant session.router) : invariant (left (drain host session)).router := by
  have framed : ∀ (session : Session) (sync : Synchronizer), invariant session.router →
      invariant (session.router.noteFraming sync) :=
    fun session sync held => durable.quiet held ⟨rfl, rfl, rfl, Stats.sameUnits_session _ rfl⟩
  fun_induction drain host session with
  | case1 session sync error step => exact framed session sync held
  | case2 session sync step => exact framed session sync held
  | case3 session sync item step error router result =>
    have handled := Router.handleItem_durable durable item _ (framed session sync held)
    rwa [Router.left, result] at handled
  | case4 session sync item step router result ih =>
    have handled := Router.handleItem_durable durable item _ (framed session sync held)
    rw [Router.left, result] at handled
    exact ih handled

theorem push_durable (durable : Router.Durable host invariant) (held : invariant session.router)
    (data : Bytes) : invariant (left (session.push host data)).router := by
  unfold push
  split
  · exact held
  · apply drain_durable durable
    unfold awaken
    split
    · exact durable.quiet held ⟨rfl, rfl, rfl, .refl _⟩
    · exact held

end Session

end TransportStream
