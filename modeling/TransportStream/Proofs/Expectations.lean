import TransportStream.Proofs.Closing
import TransportStream.Proofs.Isolation
import TransportStream.Proofs.TableHistory

/-!
What the counter of each PID expects next, and what the clock goes by. Most of what a router does
touches neither: PIDs are taken up and let go, and the clock starts over with another clock PID.
What outlives these few changes outlives the handling of every section.
-/
namespace TransportStream

/-- What a PID is listened to for, and what its counter expects next. -/
def StreamState.expectation (stream : StreamState) : StreamClass × ContinuityCounter :=
  (stream.cls, stream.continuity)

@[simp] theorem StreamState.expectation_discontinuity (stream : StreamState) :
    stream.discontinuity.expectation = stream.expectation := by
  unfold discontinuity
  split <;> rfl

/-- A counter that was checked expects something. -/
theorem ContinuityCounter.last_check {counter next : ContinuityCounter} {value : Nat}
    {hasPayload announced : Bool} {status : Continuity}
    (judged : counter.check value hasPayload announced = (status, next)) : next.last ≠ none := by
  unfold ContinuityCounter.check at judged
  dsimp only at judged
  split at judged
  · cases judged
    exact Option.some_ne_none _
  · split at judged
    · cases judged
      exact Option.some_ne_none _
    · rename_i previous known
      have known : counter.last ≠ none := by
        rw [known]
        exact Option.some_ne_none previous
      split at judged
      · unfold ContinuityCounter.checkPayload at judged
        dsimp only at judged
        split at judged
        · cases judged
          exact Option.some_ne_none _
        · split at judged
          · cases judged
            exact known
          · cases judged
            exact Option.some_ne_none _
      · unfold ContinuityCounter.checkIdle at judged
        split at judged
        · cases judged
          exact known
        · cases judged
          exact Option.some_ne_none _

namespace Router

variable {host : Host} {invariant : Router → Prop} {router before between after : Router}
variable {pid : Nat}

/-- What is expected on a PID, if it is listened to. -/
def expects (router : Router) (pid : Nat) : Option (StreamClass × ContinuityCounter) :=
  (router.streams.get? pid).map StreamState.expectation

/-! ### Idle changes -/

/-- `Idle before after`: every PID is listened to for the same and its counter expects the same, no
PID got an output that had none, and the clock stands still. -/
structure Idle (before after : Router) : Prop where
  expects : ∀ pid, after.expects pid = before.expects pid
  vacant : ∀ pid, before.outputs.get? pid = none → after.outputs.get? pid = none
  clock : after.clock = before.clock
  pcrPid : after.pcrPid = before.pcrPid

/-- The rest of a router may change. -/
theorem idle_rest (router : Router) (phase : Phase) (tables : TableTracker)
    (declined : NatMap Unit) (program stride : Option Nat) (calls : List Call) (stats : Stats) :
    Idle router { router with phase, tables, declined, program, stride, calls, stats } :=
  ⟨fun _ => rfl, fun _ => id, rfl, rfl⟩

theorem Idle.refl (router : Router) : Idle router router := idle_rest ..

theorem Idle.trans (first : Idle before between) (second : Idle between after) :
    Idle before after where
  expects pid := (second.expects pid).trans (first.expects pid)
  vacant pid := second.vacant pid ∘ first.vacant pid
  clock := second.clock.trans first.clock
  pcrPid := second.pcrPid.trans first.pcrPid

theorem idle_output {current : Output} (next : Output)
    (found : router.outputs.get? pid = some current) (stats : Stats) :
    Idle router { router with outputs := router.outputs.insert pid next, stats } := by
  refine ⟨fun _ => rfl, fun other vacant => ?_, rfl, rfl⟩
  have different : other ≠ pid := by
    rintro rfl
    rw [found] at vacant
    cases vacant
  exact (NatMap.get?_insert_ne _ _ different).trans vacant

theorem idle_settleIfFramed (router : Router) : Idle router router.settleIfFramed := by
  unfold settleIfFramed
  split
  · exact .refl router
  · exact .refl router
  · exact idle_rest ..

theorem idle_collectFilter {stream : StreamState} (filter : SectionFilter)
    (found : router.streams.get? pid = some stream) :
    Idle router (router.collectFilter pid stream filter) :=
  ⟨NatMap.map_get?_insert _ _ found rfl, fun _ => id, rfl, rfl⟩

theorem idle_collectReassembler {stream : StreamState} (reassembler : PesReassembler)
    (found : router.streams.get? pid = some stream) :
    Idle router (router.collectReassembler pid stream reassembler) :=
  ⟨NatMap.map_get?_insert _ _ found rfl, fun _ => id, rfl, rfl⟩

theorem idle_flushReassembly (router : Router) (pid : Nat) :
    Idle router (router.flushReassembly pid).1 := by
  unfold flushReassembly
  cases found : router.streams.get? pid with
  | none => exact .refl router
  | some stream =>
    cases kind : stream.reassembly with
    | sections filter => simpa only [kind] using Idle.refl router
    | pes reassembler =>
      simp only [kind]
      exact idle_collectReassembler _ found

theorem idle_descramble (router : Router) (host : Host) (packet : TransportPacket)
    (payload : Bytes) : Idle router (router.descramble host packet payload).1 := by
  unfold descramble
  split
  · exact .refl router
  · split
    · exact idle_rest ..
    · exact .refl router

theorem deliver_idle (host : Host) (pid : Nat) (packet : PesPacket) (router : Router) :
    Idle router (left (deliver host pid packet) router) := by
  unfold left deliver
  cases found : router.outputs.get? pid with
  | none => exact .refl router
  | some output =>
    have replaced := idle_output (output.deliver packet router.clock.first).1 found
      (router.stats.recordAccessUnit pid packet.header.pts)
    cases made : output.deliver packet router.clock.first with
    | mk next unit =>
      rw [made] at replaced
      simp only [made]
      cases unit with
      | none => exact replaced
      | some unit =>
        change Idle router (left (handUnit host next.sink unit) _)
        rw [left_handUnit]
        exact replaced.trans (idle_rest ..)

theorem endOutput_idle (host : Host) (pid : Nat) (router : Router) :
    Idle router (left (endOutput host pid) router) := by
  unfold left
  rw [endOutput_eq]
  cases found : router.outputs.get? pid with
  | none => exact .refl router
  | some output =>
    by_cases ended : output.ended
    · simpa [ended] using Idle.refl router
    · simp only [ended]
      change Idle router (left (endSink host output.sink pid) _)
      rw [left_endSink]
      exact (idle_output output.markEnded found router.stats).trans
        (idle_rest ..)

/-- An association table comes into force on its own PID. -/
theorem pid_of_association {tracker : TableTracker} {data : Bytes} {previous : Option Pat}
    {current : Pat} (reported : (tracker.handleSection pid data).2 = some (.pat previous current)) :
    pid = patPid := by
  rcases tracker.handleSection_cases pid data with ⟨name, part, _, read, taken⟩ | ignored
  · have own := (TableName.read?_eq_some_iff.mp read).1
    generalize tracker.handleSection pid data = outcome at taken reported
    cases taken with
    | collected => cases reported
    | replaced =>
      cases name with
      | pat => exact own
      | cat | pmt => cases reported
  · rw [ignored.2.2] at reported
    cases reported

/-! ### What an invariant has to outlive -/

/-- An invariant that outlives what sections can do to expectations and clock, where only certain
PIDs lose their output and only certain classes are drawn anew. -/
structure Enduring (lost : Nat → Prop) (redrawn : StreamClass → Prop)
    (invariant : Router → Prop) : Prop where
  idle {before after : Router} (held : invariant before) (same : Idle before after) :
    invariant after
  /-- A PID with an output may lose it. -/
  owned {router : Router} {pid : Nat} {output : Output} (held : invariant router)
    (present : router.outputs.get? pid = some output) : lost pid
  lose {router : Router} {pid : Nat} (held : invariant router) (may : lost pid) :
    invariant (router.untrack pid)
  redraw {router : Router} {cls : StreamClass} (held : invariant router) (may : redrawn cls)
    (pids : List Nat) : invariant (router.retrack cls pids)
  add {router : Router} (held : invariant router) (info : StreamInfo)
    (free : router.carriesTables info.pid = false) : invariant (router.addOutput info)
  follow {router : Router} (held : invariant router) (pcrPid : Nat) :
    invariant (router.followPcrPid pcrPid)
  leave {router : Router} (held : invariant router) :
    invariant { router.restartClock with pcrPid := none }

section Walk

variable {lost : Nat → Prop} {redrawn : StreamClass → Prop}
variable (enduring : Enduring lost redrawn invariant)

include enduring

theorem deliver_enduring (pid : Nat) (packet : PesPacket) :
    Keeps invariant (deliver host pid packet) :=
  fun router held => enduring.idle held (deliver_idle host pid packet router)

theorem drainOutput_enduring (pid : Nat) : Keeps invariant (drainOutput host pid) := by
  intro router held
  have flushed := enduring.idle held (idle_flushReassembly router pid)
  unfold left drainOutput
  cases drained : router.flushReassembly pid with
  | mk next last =>
    rw [drained] at flushed
    cases last with
    | none => exact flushed
    | some packet => exact deliver_enduring enduring pid packet next flushed

theorem removeOutput_enduring (may : lost pid) : Keeps invariant (removeOutput host pid) := by
  intro router held
  have untracked := enduring.lose held may
  have removed : invariant
      { router.untrack pid with outputs := (router.untrack pid).outputs.erase pid } := by
    refine enduring.idle untracked ⟨fun _ => rfl, fun other vacant => ?_, rfl, rfl⟩
    dsimp only
    rw [NatMap.get?_erase]
    split
    · rfl
    · exact vacant
  unfold left
  rw [removeOutput_eq]
  cases found : (router.untrack pid).outputs.get? pid with
  | none => simpa only [found] using untracked
  | some output =>
    dsimp only
    by_cases ended : output.ended = true
    · simpa only [ended, if_true] using removed
    · simp only [ended]
      change invariant (left (endSink host output.sink pid) _)
      rw [left_endSink]
      exact enduring.idle removed (idle_rest ..)

theorem dropOutput_enduring (may : lost pid) : Keeps invariant (dropOutput host pid) :=
  keeps_bind (drainOutput_enduring enduring pid) (fun _ => removeOutput_enduring enduring may)

theorem teardownProgram_enduring (program : redrawn .ecm) :
    Keeps invariant (teardownProgram host) := by
  intro router held
  rw [left, teardownProgram_eq]
  have each : ∀ pid ∈ router.outputs.keys, Keeps invariant (dropOutput host pid) := by
    intro pid member
    obtain ⟨output, present⟩ := keys_present router pid member
    exact dropOutput_enduring enduring (enduring.owned held present)
  apply holds_bind (keeps_forEach_of_mem each router held)
  intro value
  apply keeps_modify
  intro torn held
  have redrawn := enduring.redraw held program []
  have forgotten : invariant { torn.retrack .ecm [] with declined := {} } :=
    enduring.idle redrawn (idle_rest ..)
  exact enduring.leave forgotten

theorem considerStream_enduring (pmt : Pmt) (router : Router) (stream : PmtStream)
    (held : invariant router) : invariant (considerStream host pmt router stream) := by
  have outcome := considerStream_outcome host pmt router stream
  generalize considerStream host pmt router stream = after at outcome ⊢
  cases outcome with
  | settled decided => exact held
  | refused stats asked => exact enduring.idle held (idle_rest ..)
  | added free =>
    have asked : invariant (router.record (.create (infoOf pmt stream) (some router.sinks))) :=
      enduring.idle held (idle_rest ..)
    exact enduring.add asked (infoOf pmt stream) free

theorem applyPmt_enduring (program : redrawn .ecm) (pmt : Pmt) :
    Keeps invariant (applyPmt host pmt) := by
  intro router held
  rw [left, applyPmt_eq]
  have followed := enduring.follow held pmt.pcrPid
  have each : ∀ pid ∈ (router.followPcrPid pmt.pcrPid).staleOutputs (wantedTypes pmt),
      Keeps invariant (dropOutput host pid) := by
    intro pid member
    obtain ⟨output, present⟩ := stale_present _ _ pid member
    exact dropOutput_enduring enduring (enduring.owned followed present)
  apply holds_bind (keeps_forEach_of_mem each _ followed)
  intro value
  apply keeps_modify
  intro between held
  have narrowed : invariant { between with
      declined := between.declined.filter (fun pid _ => (wantedTypes pmt).contains pid) } :=
    enduring.idle held (idle_rest ..)
  have adopted : invariant (between.adoptMap host pmt) :=
    considerAll_holds invariant (considerStream_enduring enduring pmt) pmt.streams
      (enduring.redraw narrowed program pmt.ecmPids)
  exact enduring.idle adopted (idle_settleIfFramed _)

theorem selectProgram_enduring (program : redrawn .ecm) (selected : Option Nat) :
    Keeps invariant (selectProgram host selected) := by
  have select : Keeps invariant
      (modify fun router => { router with program := selected } : Routing Unit) :=
    keeps_modify (fun _ held => enduring.idle held (idle_rest ..))
  refine keeps_bind keeps_get ?_
  intro current
  dsimp only
  split
  · exact keeps_pure ()
  · split
    · exact keeps_bind (teardownProgram_enduring enduring program) (fun _ => select)
    · exact select

theorem applySelectedMap_enduring (program : redrawn .ecm) :
    Keeps invariant (applySelectedMap host) := by
  refine keeps_bind keeps_get ?_
  intro current
  cases current.program.bind current.tables.pmt? with
  | none => exact keeps_pure ()
  | some pmt => exact applyPmt_enduring enduring program pmt

theorem applyEvent_enduring (program : redrawn .ecm) (entitled : redrawn .emm)
    {event : TableEvent}
    (announced : ∀ previous current, event = .pat previous current → redrawn .pmt) :
    Keeps invariant (applyEvent host event) := by
  cases event with
  | pat previous current =>
    intro router held
    have followed : invariant (router.followMaps current) :=
      enduring.redraw held (announced previous current rfl) _
    rw [left, applyPat_eq]
    apply holds_bind (selectProgram_enduring enduring program _ _ followed)
    intro value
    exact keeps_bind (applySelectedMap_enduring enduring program)
      (fun _ => keeps_modify (fun _ held => enduring.idle held (idle_settleIfFramed _)))
  | pmt mapPid previous current =>
    refine keeps_bind keeps_get ?_
    intro observed
    split
    · exact applyPmt_enduring enduring program current
    · exact keeps_pure ()
  | cat previous current =>
    exact keeps_modify (fun router held => enduring.redraw held entitled _)

theorem handleSection_enduring (program : redrawn .ecm) (entitled : redrawn .emm)
    (announced : pid = patPid → redrawn .pmt) (cls : StreamClass) (data : Bytes) :
    Keeps invariant (handleSection host pid cls data) := by
  intro router held
  have table : invariant (left (handleSection host pid .pat data) router) := by
    have taken : invariant (router.takeSection pid data).1 :=
      enduring.idle held (idle_rest ..)
    have own : ∀ event, (router.takeSection pid data).2 = some event →
        ∀ previous current, event = .pat previous current → redrawn .pmt := by
      rintro event reported previous current rfl
      exact announced (pid_of_association reported)
    unfold left handleSection
    dsimp only
    cases reported : (router.takeSection pid data).2 with
    | none => exact taken
    | some event =>
      exact applyEvent_enduring enduring program entitled (own event reported) _ taken
  have shown : ∀ cls, invariant (left (fun router =>
      if host.descrambler.isSome then .ok () (router.record (.entitlement pid cls data))
      else .ok () router : Routing Unit) router) := by
    intro cls
    unfold left
    by_cases asked : host.descrambler.isSome
    · simp only [asked, if_true]
      exact enduring.idle held (idle_rest ..)
    · simp only [asked]
      exact held
  cases cls with
  | pat => exact table
  | pmt => exact table
  | cat => exact table
  | pes => exact held
  | ecm => exact shown .ecm
  | emm => exact shown .emm

/-- The payload of a packet goes into the stream of its PID. -/
theorem routePayload_enduring {packet : TransportPacket} {payload : Bytes} {stream : StreamState}
    (program : redrawn .ecm) (entitled : redrawn .emm)
    (announced : packet.pid = patPid → redrawn .pmt) (held : invariant router)
    (found : router.streams.get? packet.pid = some stream) :
    invariant (left (routePayload host packet payload stream) router) := by
  have sections : ∀ data, Keeps invariant (handleSection host packet.pid stream.cls data) :=
    handleSection_enduring enduring program entitled announced stream.cls
  unfold left routePayload
  cases stream.reassembly with
  | sections filter =>
    exact keeps_forEach sections _ (enduring.idle held (idle_collectFilter _ found))
  | pes reassembler =>
    exact keeps_forEach (deliver_enduring enduring packet.pid) _
      (enduring.idle held (idle_collectReassembler _ found))

theorem passPayload_enduring {packet : TransportPacket} {stream : StreamState}
    (program : redrawn .ecm) (entitled : redrawn .emm)
    (announced : packet.pid = patPid → redrawn .pmt) (held : invariant router)
    (found : router.streams.get? packet.pid = some stream) :
    invariant (left (passPayload host packet stream) router) := by
  unfold left passPayload
  cases packet.payload? with
  | none => exact held
  | some payload =>
    apply routePayload_enduring enduring program entitled announced
      (enduring.idle held (idle_descramble router host packet payload))
    rw [descramble_streams, found]

end Walk

/-! ### Packets -/

/-- What is done with a packet before its payload is passed on. -/
inductive Heeding (router : Router) (packet : TransportPacket) : Router × Option StreamState → Prop
  | ignored (ignores : router.ignores packet = true) :
      Heeding router packet (router.countPacket packet, none)
  | untracked (heeds : router.ignores packet = false)
      (free : router.streams.get? packet.pid = none) :
      Heeding router packet ((router.countPacket packet).observeClock packet, none)
  | repeated {stream : StreamState} {counter : ContinuityCounter} {stats : Stats}
      (heeds : router.ignores packet = false)
      (found : router.streams.get? packet.pid = some stream)
      (judged : stream.continuity.check packet.header.continuity packet.header.hasPayload
        packet.discontinuity = (.duplicate, counter))
      (counted : stats = (router.countPacket packet).stats.recordDuplicate packet.pid) :
      Heeding router packet ({ (router.countPacket packet).observeClock packet with
        streams := router.streams.insert packet.pid { stream with continuity := counter }
        stats }, none)
  | admitted {stream next : StreamState} {status : Continuity} {counter : ContinuityCounter}
      {stats : Stats} (heeds : router.ignores packet = false)
      (found : router.streams.get? packet.pid = some stream)
      (judged : stream.continuity.check packet.header.continuity packet.header.hasPayload
        packet.discontinuity = (status, counter))
      (new : status ≠ .duplicate) (expects : next.expectation = (stream.cls, counter))
      (role : next.role = stream.role) :
      Heeding router packet ({ (router.countPacket packet).observeClock packet with
        streams := router.streams.insert packet.pid next, stats }, some next)

theorem observeClock_stats (router : Router) (packet : TransportPacket) :
    (router.observeClock packet).stats = router.stats := by
  unfold observeClock
  split <;> rfl

theorem heeding (router : Router) (packet : TransportPacket) :
    Heeding router packet (router.heed packet) := by
  unfold heed
  dsimp only
  have streams := observeClock_streams (router.countPacket packet) packet
  cases ignored : (router.countPacket packet).ignores packet with
  | true =>
    rw [if_pos rfl]
    exact .ignored ignored
  | false =>
    rw [if_neg (by decide), streams]
    cases found : (router.countPacket packet).streams.get? packet.pid with
    | none => exact .untracked ignored found
    | some stream =>
      dsimp only
      cases judged : stream.continuity.check packet.header.continuity packet.header.hasPayload
        packet.discontinuity with
      | mk status counter =>
        cases status with
        | duplicate =>
          exact .repeated ignored found judged
            (congrArg (·.recordDuplicate packet.pid) (observeClock_stats ..))
        | first | ok => exact .admitted ignored found judged (by decide) rfl rfl
        | gap expected actual =>
          exact .admitted ignored found judged nofun (StreamState.expectation_discontinuity _)
            (StreamState.role_discontinuity _)

/-! ### What is expected at any time -/

/-- What drawing the PIDs of a class anew does to expectations. -/
theorem expects_retrack (router : Router) (cls : StreamClass) (pids : List Nat) (pid : Nat) :
    (router.retrack cls pids).expects pid = router.expects pid ∨
      (∃ counter, router.expects pid = some (cls, counter)) ∧
        (router.retrack cls pids).expects pid = none ∨
      router.expects pid = none ∧ (router.retrack cls pids).expects pid = some (cls, {}) := by
  cases retracked router cls pids pid with
  | stays same _ _ =>
    left
    rw [expects, expects, same]
  | @gone stream found ofClass absent _ _ =>
    refine .inr (.inl ⟨⟨stream.continuity, ?_⟩, ?_⟩)
    · rw [expects, found, ← ofClass]
      rfl
    · rw [expects, absent]
      rfl
  | added free new _ _ =>
    refine .inr (.inr ⟨?_, ?_⟩)
    · rw [expects, free]
      rfl
    · rw [expects, new]
      rfl

theorem clock_retrack (router : Router) (cls : StreamClass) (pids : List Nat) :
    (router.retrack cls pids).clock = router.clock := by
  apply List.foldlRecOn (motive := fun after : Router => after.clock = router.clock) pids
  · rfl
  · intro between same pid _
    rw [← same]
    unfold trackIfFree
    split <;> rfl

theorem expects_untrack (router : Router) (pid other : Nat) :
    (router.untrack pid).expects other = if other = pid then none else router.expects other := by
  rw [expects, untrack, NatMap.get?_erase]
  split <;> rfl

theorem expects_addOutput (router : Router) (info : StreamInfo) (pid : Nat) :
    (router.addOutput info).expects pid =
      if pid = info.pid then some (.pes, {}) else router.expects pid := by
  rw [expects, addOutput, NatMap.get?_insert]
  split <;> rfl

/-- A counter without an expectation is as it started, and a clock that goes by no PID has heard
nothing. -/
structure Expectant (router : Router) : Prop where
  fresh : ∀ pid cls counter, router.expects pid = some (cls, counter) →
    counter.last = none → counter = {}
  unheard : router.pcrPid = none → router.clock.first = none

theorem Expectant.idle (expectant : Expectant before) (same : Idle before after) :
    Expectant after where
  fresh pid := by
    rw [same.expects]
    exact expectant.fresh pid
  unheard := by
    rw [same.clock, same.pcrPid]
    exact expectant.unheard

theorem expectant_enduring : Enduring (fun _ => True) (fun _ => True) Expectant where
  idle := Expectant.idle
  owned _ _ := trivial
  lose {router pid} expectant _ := by
    refine ⟨fun other cls counter expected => ?_, expectant.unheard⟩
    rw [expects_untrack] at expected
    split at expected
    · cases expected
    · exact expectant.fresh other cls counter expected
  redraw {router cls} expectant _ pids := by
    refine ⟨fun pid other counter expected => ?_, ?_⟩
    · rcases expects_retrack router cls pids pid with same | ⟨_, absent⟩ | ⟨_, new⟩
      · exact expectant.fresh pid other counter (same.symm.trans expected)
      · rw [absent] at expected
        cases expected
      · rw [new] at expected
        cases expected
        exact fun _ => rfl
    · rw [clock_retrack, (retrack_course router cls pids).pcrPid]
      exact expectant.unheard
  add {router} expectant info _ := by
    refine ⟨fun pid cls counter expected => ?_, expectant.unheard⟩
    rw [expects_addOutput] at expected
    split at expected
    · cases expected
      exact fun _ => rfl
    · exact expectant.fresh pid cls counter expected
  follow {router} expectant pcrPid := by
    refine ⟨fun pid => ?_, fun absent => ?_⟩
    · rw [expects, streams_followPcrPid]
      exact expectant.fresh pid
    · rw [pcrPid_followPcrPid] at absent
      cases absent
  leave expectant := ⟨expectant.fresh, fun _ => rfl⟩

/-- A stream is replaced by one whose counter was checked. -/
theorem Expectant.judge (expectant : Expectant router) (pid : Nat) (stream : StreamState)
    (judged : stream.continuity.last ≠ none) :
    Expectant { router with streams := router.streams.insert pid stream } := by
  refine ⟨fun other cls known expected blank => ?_, expectant.unheard⟩
  rw [expects, NatMap.get?_insert] at expected
  split at expected
  · cases expected
    exact absurd blank judged
  · exact expectant.fresh other cls known expected blank

theorem Expectant.observe (expectant : Expectant router) (packet : TransportPacket) :
    Expectant ((router.countPacket packet).observeClock packet) := by
  refine ⟨fun pid => ?_, ?_⟩
  · rw [expects, observeClock_streams]
    exact expectant.fresh pid
  · unfold observeClock
    split
    · rename_i own
      intro absent
      cases absent.symm.trans own
    · exact expectant.unheard

theorem Expectant.heed (expectant : Expectant router) (packet : TransportPacket) :
    Expectant (router.heed packet).1 := by
  have observed := expectant.observe packet
  have streams := observeClock_streams (router.countPacket packet) packet
  have heeding := heeding router packet
  generalize router.heed packet = outcome at heeding ⊢
  cases heeding with
  | ignored => exact expectant.idle (idle_rest ..)
  | untracked => exact observed
  | @repeated stream counter _ _ _ judged _ =>
    have checked := observed.judge packet.pid { stream with continuity := counter }
      (ContinuityCounter.last_check judged)
    rw [streams] at checked
    exact checked.idle (idle_rest ..)
  | @admitted stream next _ counter _ _ _ judged _ expects _ =>
    have counter : next.continuity = counter := congrArg Prod.snd expects
    have checked := observed.judge packet.pid next
      (counter ▸ ContinuityCounter.last_check judged)
    rw [streams] at checked
    exact checked.idle (idle_rest ..)

/-- A stream whose payload goes on is there. -/
theorem Heeding.found {packet : TransportPacket} {stream : StreamState}
    (heeding : Heeding router packet (between, some stream)) :
    between.streams.get? packet.pid = some stream := by
  cases heeding
  exact NatMap.get?_insert_self ..

theorem handlePacket_expectant (host : Host) (packet : TransportPacket) :
    Keeps Expectant (handlePacket host packet) := by
  intro router expectant
  have heeded := expectant.heed packet
  have heeding := heeding router packet
  rw [left, handlePacket_eq]
  cases outcome : router.heed packet with
  | mk between stream =>
    rw [outcome] at heeded heeding
    cases stream with
    | none => exact heeded
    | some stream =>
      exact passPayload_enduring expectant_enduring trivial trivial (fun _ => trivial) heeded
        heeding.found

/-- Every stream starts over. -/
theorem Expectant.restart (expectant : Expectant before) {change : StreamState → StreamState}
    (blank : ∀ stream, (change stream).continuity = {})
    (streams : after.streams = before.streams.map change)
    (first : after.clock.first = before.clock.first) (pcrPid : after.pcrPid = before.pcrPid) :
    Expectant after where
  fresh pid cls counter expected _ := by
    rw [expects, streams, NatMap.get?_map, Option.map_map] at expected
    obtain ⟨stream, _, same⟩ := Option.map_eq_some_iff.mp expected
    rw [← blank stream]
    exact (congrArg Prod.snd same).symm
  unheard := by
    rw [first, pcrPid]
    exact expectant.unheard

theorem handleItem_expectant (host : Host) (item : SyncItem) :
    Keeps Expectant (handleItem host item) := by
  cases item with
  | locked stride offset =>
    exact keeps_modify fun router expectant => ⟨expectant.fresh, expectant.unheard⟩
  | lost offset =>
    apply keeps_modify
    intro router expectant
    refine expectant.restart (fun stream => ?_) rfl rfl rfl
    rw [StreamState.resync]
    exact congrArg Prod.snd (StreamState.expectation_discontinuity _)
  | packet packet => exact handlePacket_expectant host packet

theorem flush_expectant (expectant : Expectant router) : Expectant router.flush := by
  refine expectant.restart (fun stream => ?_) rfl rfl rfl
  unfold StreamState.reset
  dsimp only
  split <;> rfl

theorem closeAll_expectant (host : Host) : Keeps Expectant (closeAll host) := by
  refine keeps_bind keeps_get (fun router => keeps_forEach (fun pid => ?_))
  refine keeps_bind (drainOutput_enduring expectant_enduring pid) (fun _ => ?_)
  exact fun router expectant => expectant.idle (endOutput_idle host pid router)

/-- The routers that a session comes to, between its operations and on its way through one: each
is made from another by what an operation does in one step. -/
inductive Visited : Router → Prop where
  | start (options : Options) : Visited (.ofOptions options)
  | enter {router : Router} (visited : Visited router) (phase : Phase) :
      Visited { router with phase }
  | frame {router : Router} (visited : Visited router) (sync : Synchronizer) :
      Visited (router.noteFraming sync)
  | handle {router : Router} (visited : Visited router) (host : Host) (item : SyncItem) :
      Visited (left (handleItem host item) router)
  | flush {router : Router} (visited : Visited router) : Visited router.flush
  | close {router : Router} (visited : Visited router) (host : Host) :
      Visited (left (closeAll host) router)

theorem ofOptions_expectant (options : Options) : Expectant (.ofOptions options) := by
  refine ⟨fun pid cls counter expected _ => ?_, fun _ => rfl⟩
  have idle : (∅ : NatMap StreamState).get? pid = none := rfl
  simp only [expects, ofOptions, trackTable, NatMap.get?_insert] at expected
  split at expected
  · cases expected
    rfl
  · split at expected
    · cases expected
      rfl
    · rw [idle] at expected
      cases expected

theorem Visited.expectant (visited : Visited router) : Expectant router := by
  induction visited with
  | start options => exact ofOptions_expectant options
  | enter visited phase ih => exact ih.idle (idle_rest ..)
  | frame visited sync ih => exact ih.idle (idle_rest ..)
  | handle visited host item ih => exact handleItem_expectant host item _ ih
  | flush visited ih => exact flush_expectant ih
  | close visited host ih => exact closeAll_expectant host _ ih

/-- What is stable holds of every router that a session comes to, if it holds at the start. -/
theorem Visited.holds (visited : Visited router) (stable : ∀ host, Stable host invariant)
    (start : ∀ options, invariant (.ofOptions options)) : invariant router := by
  induction visited with
  | start options => exact start options
  | enter visited phase ih =>
    exact (stable .willing).quiet ih (sameRoles_rest ..) (fun _ => rfl)
  | frame visited sync ih => exact (stable .willing).lasting ih (steady_noteFraming ..)
  | handle visited host item ih => exact handleItem_keeps (stable host) item _ ih
  | flush visited ih => exact flush_keeps (stable .willing) ih
  | close visited host ih => exact closeAll_keeps (stable host).lasting host _ ih

end Router

namespace Session

variable {host : Host} {session : Session}

theorem drain_visited (visited : session.router.Visited) :
    (left (drain host session)).router.Visited := by
  fun_induction drain host session with
  | case1 session sync error step => exact visited.frame sync
  | case2 session sync step => exact visited.frame sync
  | case3 session sync item step error router result =>
    have handled := (visited.frame sync).handle host item
    rwa [Router.left, result] at handled
  | case4 session sync item step router result ih =>
    have handled := (visited.frame sync).handle host item
    rw [Router.left, result] at handled
    exact ih handled

theorem push_visited (data : Bytes) (visited : session.router.Visited) :
    (left (session.push host data)).router.Visited := by
  unfold push
  split
  · exact visited
  · apply drain_visited
    unfold awaken
    split
    · exact visited.enter .syncing
    · exact visited

theorem finish_visited (visited : session.router.Visited) :
    (left (session.finish host)).router.Visited := by
  by_cases spent : session.phase = .ended
  · unfold finish
    rw [if_pos spent]
    exact visited
  · have drained : (session.atEnd host).router.Visited := drain_visited visited
    have closed := drained.close host
    unfold Router.left at closed
    cases result : Router.closeAll host (session.atEnd host).router with
    | ok value after =>
      rw [result] at closed
      rw [finish_of_ok spent result]
      exact closed.enter .ended
    | error error after =>
      rw [result] at closed
      rw [finish_of_error spent result]
      exact closed

/-- What operations leave is among the routers that a session comes to. -/
theorem performAll_visited {options : Options} (created : new options = .ok session)
    (operations : List (Host × Operation)) :
    (session.performAll operations).router.Visited := by
  have start : session.router.Visited := by
    rw [new_ok created]
    exact .start options
  clear created
  induction operations generalizing session with
  | nil => exact start
  | cons step others ih =>
    apply ih
    exact @perform_holds step.1 session (fun session => session.router.Visited)
      (fun _ data visited => push_visited data visited) (fun _ visited => finish_visited visited)
      (fun _ _ visited => visited.flush) step.2 start

theorem fed_visited (sections : List (Nat × Nat × Bytes)) : (fed sections).router.Visited :=
  push_visited _ (.start { packetSize := some packetSize, minSyncRun := 2 })

end Session

end TransportStream
