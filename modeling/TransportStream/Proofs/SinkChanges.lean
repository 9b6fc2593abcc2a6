import TransportStream.Proofs.RoleInvariant

/-!
The few ways in which a router changes its outputs and calls into its surroundings. Every
action is a sequence of them; it fails only where a sink did.
-/
namespace TransportStream

/-- The sink that a call creates or is made to. -/
def Call.sink? : Call → Option Nat
  | .create _ sink => sink
  | .deliver sink _ _ | .finish sink _ _ => some sink
  | .entitlement _ _ _ | .descramble _ _ _ _ => none

theorem Output.deliver_ended {output next : Output} {packet : PesPacket} {firstPcr : Option Nat}
    {unit : Option AccessUnit} (made : output.deliver packet firstPcr = (next, unit)) :
    next.ended = output.ended ∧ (unit.isSome = true → output.ended = false) := by
  unfold deliver at made
  split at made
  · cases made
    simp
  · cases made
    simp_all

namespace Router

/-- `Aside before after`: outputs and calls are the same, and the session neither starts over
nor ends. -/
structure Aside (before after : Router) : Prop where
  outputs : after.outputs = before.outputs
  calls : after.calls = before.calls
  sinks : after.sinks = before.sinks
  phase : after.phase = before.phase ∨ after.phase ≠ .init ∧ after.phase ≠ .ended

/-- One change of the outputs, with the call that goes with it. -/
inductive Change (host : Host) : Router → Router → Prop where
  | aside {before after : Router} (same : Aside before after) : Change host before after
  /-- A call that is about no sink. -/
  | ask {router : Router} (call : Call) (nobody : call.sink? = none) :
      Change host router (router.record call)
  | create {router : Router} {info : StreamInfo} (free : router.outputs.get? info.pid = none)
      (accepted : host.accepts router.calls info = true) :
      Change host router { router.record (.create info (some router.sinks)) with
        outputs := router.outputs.insert info.pid { info, sink := router.sinks }
        sinks := router.sinks + 1 }
  /-- An output gets another time base or flag. -/
  | adjust {router : Router} {pid : Nat} {output : Output} (next : Output)
      (found : router.outputs.get? pid = some output) (owner : next.owner = output.owner)
      (ended : next.ended = output.ended) :
      Change host router { router with outputs := router.outputs.insert pid next }
  | mark {router : Router} :
      Change host router { router with outputs := router.outputs.map Output.markDiscontinuity }
  | deliver {router : Router} {pid : Nat} {output : Output} (unit : AccessUnit)
      (found : router.outputs.get? pid = some output) (opened : output.ended = false) :
      Change host router (router.record
        (.deliver output.sink unit (host.deliverFailure router.calls output.sink unit)))
  | close {router : Router} {pid : Nat} {output : Output}
      (found : router.outputs.get? pid = some output) (opened : output.ended = false) :
      Change host router
        ({ router with outputs := router.outputs.insert pid output.markEnded }.record
          (.finish output.sink pid (host.finishFailure router.calls output.sink)))
  | remove {router : Router} {pid : Nat} {output : Output}
      (found : router.outputs.get? pid = some output) (opened : output.ended = false) :
      Change host router
        ({ router with outputs := router.outputs.erase pid }.record
          (.finish output.sink pid (host.finishFailure router.calls output.sink)))
  | forget {router : Router} {pid : Nat} {output : Output}
      (found : router.outputs.get? pid = some output) (ended : output.ended = true) :
      Change host router { router with outputs := router.outputs.erase pid }

/-- Any number of changes. -/
inductive Changes (host : Host) (before : Router) : Router → Prop where
  | refl : Changes host before before
  | tail {between after : Router} (changes : Changes host before between)
      (change : Change host between after) : Changes host before after

/-- Why an action ends early: its last call, to a sink, was answered with a failure. -/
structure Blamed (host : Host) (error : Error) (after : Router) : Prop where
  io : ∃ text, error = .io text
  failed : ∃ call older, after.calls = call :: older ∧ call.failed = true
  unreliable : ¬host.Reliable

/-- What comes out of an action: changes, and for a failure its cause. -/
def Traced {α : Type} (host : Host) (before : Router) : EStateM.Result Error Router α → Prop
  | .ok _ after => Changes host before after
  | .error error after => Changes host before after ∧ Blamed host error after

variable {α β : Type} {host : Host} {router before between after : Router}

/-! ### Sequences -/

theorem Change.one (change : Change host before after) : Changes host before after :=
  .tail .refl change

theorem Aside.one (same : Aside before after) : Changes host before after :=
  Change.one (.aside same)

theorem Changes.trans (first : Changes host before between)
    (second : Changes host between after) : Changes host before after := by
  induction second with
  | refl => exact first
  | tail _ change ih => exact ih.tail change

theorem Traced.behind {result : EStateM.Result Error Router α}
    (traced : Traced host between result) (first : Changes host before between) :
    Traced host before result := by
  cases result with
  | ok value after => exact first.trans traced
  | error error after => exact ⟨first.trans traced.1, traced.2⟩

theorem traced_bind {action : Routing α} {next : α → Routing β}
    (first : Traced host router (action router))
    (second : ∀ value between, Traced host between (next value between)) :
    Traced host router ((action >>= next) router) := by
  cases result : action router with
  | ok value between =>
    rw [result] at first
    rw [bind_of_ok result]
    exact Traced.behind (second value between) first
  | error error between =>
    rw [result] at first
    rw [bind_of_error result]
    exact first

theorem traced_forEach {items : List α} {act : α → Routing Unit}
    (each : ∀ item router, Traced host router (act item router)) (router : Router) :
    Traced host router (forEach items act router) := by
  induction items generalizing router with
  | nil => exact .refl
  | cons item others ih => exact traced_bind (each item router) (fun _ => ih)

/-! ### Changes of nothing but the rest -/

theorem Aside.refl (router : Router) : Aside router router := ⟨rfl, rfl, rfl, .inl rfl⟩

theorem Aside.trans (first : Aside before between) (second : Aside between after) :
    Aside before after where
  outputs := second.outputs.trans first.outputs
  calls := second.calls.trans first.calls
  sinks := second.sinks.trans first.sinks
  phase := by
    rcases second.phase with same | running
    · rw [same]
      exact first.phase
    · exact .inr running

theorem aside_rest (router : Router) (tables : TableTracker) (streams : NatMap StreamState)
    (declined : NatMap Unit) (program pcrPid stride : Option Nat) (clock : Clock) (stats : Stats) :
    Aside router
      { router with tables, streams, declined, program, pcrPid, stride, clock, stats } :=
  ⟨rfl, rfl, rfl, .inl rfl⟩

theorem aside_settle (router : Router) : Aside router router.settle where
  outputs := rfl
  calls := rfl
  sinks := rfl
  phase := by
    right
    unfold settle settledPhase
    dsimp only
    split
    · simp
    · split <;> simp

theorem aside_settleIfFramed (router : Router) : Aside router router.settleIfFramed := by
  unfold settleIfFramed
  split
  · exact .refl router
  · exact .refl router
  · exact aside_settle router

theorem aside_followPcrPid (router : Router) (pcrPid : Nat) :
    Aside router (router.followPcrPid pcrPid) := by
  unfold followPcrPid
  split
  · exact .refl router
  · split <;> exact aside_rest ..

theorem aside_trackIfFree (router : Router) (cls : StreamClass) (pid : Nat) :
    Aside router (router.trackIfFree cls pid) := by
  unfold trackIfFree
  split
  · exact .refl router
  · exact aside_rest ..

theorem aside_retrack (router : Router) (cls : StreamClass) (pids : List Nat) :
    Aside router (router.retrack cls pids) := by
  have tracked : ∀ (pids : List Nat) (router : Router), Aside router
      (pids.foldl (fun router pid => router.trackIfFree cls pid) router) := by
    intro pids
    induction pids with
    | nil => exact .refl
    | cons pid others ih =>
      intro router
      exact (aside_trackIfFree router cls pid).trans (ih _)
  exact (aside_rest router ..).trans (tracked pids _)

theorem aside_observeClock (router : Router) (packet : TransportPacket) :
    Aside router (router.observeClock packet) := by
  unfold observeClock
  split
  · exact aside_rest ..
  · exact .refl router

theorem aside_flushReassembly (router : Router) (pid : Nat) :
    Aside router (router.flushReassembly pid).1 := by
  unfold flushReassembly
  split
  · exact .refl router
  · split
    · exact .refl router
    · exact aside_rest ..

/-! ### Outputs -/

theorem handUnit_traced {pid : Nat} {output : Output} (unit : AccessUnit)
    (found : router.outputs.get? pid = some output) (opened : output.ended = false) :
    Traced host router (handUnit host output.sink unit router) := by
  have change : Change host router _ := .deliver unit found opened
  unfold handUnit
  cases failure : host.deliverFailure router.calls output.sink unit with
  | none =>
    rw [failure] at change
    exact change.one
  | some text =>
    rw [failure] at change
    refine ⟨change.one, ⟨text, rfl⟩, ⟨_, router.calls, rfl, rfl⟩, ?_⟩
    intro reliable
    rw [reliable.1] at failure
    cases failure

theorem endSink_traced {sink pid : Nat}
    (change : Change host before
      (between.record (.finish sink pid (host.finishFailure between.calls sink)))) :
    Traced host before (endSink host sink pid between) := by
  unfold endSink
  cases failure : host.finishFailure between.calls sink with
  | none =>
    rw [failure] at change
    exact change.one
  | some text =>
    rw [failure] at change
    refine ⟨change.one, ⟨text, rfl⟩, ⟨_, between.calls, rfl, rfl⟩, ?_⟩
    intro reliable
    rw [reliable.2] at failure
    cases failure

theorem deliver_traced (host : Host) (pid : Nat) (packet : PesPacket) (router : Router) :
    Traced host router (deliver host pid packet router) := by
  unfold deliver
  cases found : router.outputs.get? pid with
  | none => exact .refl
  | some output =>
    cases made : output.deliver packet router.clock.first with
    | mk next unit =>
      obtain ⟨ended, opened⟩ := Output.deliver_ended made
      have owner := Output.owner_deliver output packet router.clock.first
      rw [made] at owner
      have counted : Aside router
          { router with stats := router.stats.recordAccessUnit pid packet.header.pts } :=
        aside_rest ..
      have adjusted : Changes host router _ := counted.one.tail (.adjust next found owner ended)
      simp only [made]
      cases unit with
      | none => exact adjusted
      | some unit =>
        have present := NatMap.get?_insert_self router.outputs pid next
        exact (handUnit_traced unit present (ended.trans (opened rfl))).behind adjusted

theorem endOutput_traced (host : Host) (pid : Nat) (router : Router) :
    Traced host router (endOutput host pid router) := by
  rw [endOutput_eq]
  cases found : router.outputs.get? pid with
  | none => exact .refl
  | some output =>
    by_cases ended : output.ended = true
    · simp only [ended, if_true]
      exact .refl
    · have opened : output.ended = false := eq_false_of_ne_true ended
      simp only [opened]
      exact endSink_traced (.close found opened)

theorem removeOutput_traced (host : Host) (pid : Nat) (router : Router) :
    Traced host router (removeOutput host pid router) := by
  have untracked : Aside router (router.untrack pid) := aside_rest ..
  rw [removeOutput_eq]
  cases found : router.outputs.get? pid with
  | none =>
    have absent : (router.untrack pid).outputs.get? pid = none := found
    simp only [absent]
    exact untracked.one
  | some output =>
    have present : (router.untrack pid).outputs.get? pid = some output := found
    simp only [present]
    by_cases ended : output.ended = true
    · simp only [ended, if_true]
      exact untracked.one.tail (.forget present ended)
    · have opened : output.ended = false := eq_false_of_ne_true ended
      simp only [opened]
      exact (endSink_traced (.remove present opened)).behind untracked.one

theorem drainOutput_traced (host : Host) (pid : Nat) (router : Router) :
    Traced host router (drainOutput host pid router) := by
  have flushed := aside_flushReassembly router pid
  unfold drainOutput
  cases drained : router.flushReassembly pid with
  | mk next last =>
    rw [drained] at flushed
    cases last with
    | none => exact flushed.one
    | some packet => exact (deliver_traced host pid packet next).behind flushed.one

theorem closeOutput_traced (host : Host) (pid : Nat) (router : Router) :
    Traced host router (closeOutput host pid router) :=
  traced_bind (drainOutput_traced host pid router) (fun _ => endOutput_traced host pid)

theorem dropOutput_traced (host : Host) (pid : Nat) (router : Router) :
    Traced host router (dropOutput host pid router) :=
  traced_bind (drainOutput_traced host pid router) (fun _ => removeOutput_traced host pid)

theorem closeAll_traced (host : Host) (router : Router) :
    Traced host router (closeAll host router) :=
  traced_forEach (closeOutput_traced host) router

/-! ### Tables -/

theorem traced_modify {change : Router → Router} (changes : Changes host router (change router)) :
    Traced host router ((modify change : Routing Unit) router) := changes

theorem traced_get : Traced host router ((get : Routing Router) router) := .refl

theorem teardownProgram_traced (host : Host) (router : Router) :
    Traced host router (teardownProgram host router) := by
  rw [teardownProgram_eq]
  apply traced_bind
  · exact traced_forEach (dropOutput_traced host) router
  · intro value torn
    apply traced_modify
    exact ((aside_retrack torn .ecm []).trans (aside_rest ..)).one

theorem considerStream_changes (host : Host) (pmt : Pmt) (router : Router) (stream : PmtStream) :
    Changes host router (considerStream host pmt router stream) := by
  unfold considerStream
  by_cases decided : router.outputs.contains stream.pid || router.declined.contains stream.pid
  · rw [if_pos decided]
    exact .refl
  · rw [if_neg decided]
    have free : router.outputs.get? stream.pid = none := by simp_all [NatMap.contains]
    dsimp only
    split
    · exact (aside_rest router ..).one
    · split
      · exact (aside_rest router ..).one
      · unfold requestOutput
        split
        · rename_i accepted
          exact (Change.create free accepted).one.trans (aside_rest _ ..).one
        · exact (Change.ask (.create _ none) rfl).one.trans (aside_rest _ ..).one

theorem adoptMap_changes (host : Host) (pmt : Pmt) (router : Router) :
    Changes host router (router.adoptMap host pmt) := by
  have ready : Aside router (router.readyFor pmt) :=
    (aside_rest router ..).trans (aside_retrack _ .ecm pmt.ecmPids)
  apply considerAll_holds
  · intro between stream changes
    exact changes.trans (considerStream_changes host pmt between stream)
  · exact ready.one

theorem applyPmt_traced (host : Host) (pmt : Pmt) (router : Router) :
    Traced host router (applyPmt host pmt router) := by
  rw [applyPmt_eq]
  refine Traced.behind ?_ (aside_followPcrPid router pmt.pcrPid).one
  apply traced_bind
  · exact traced_forEach (dropOutput_traced host) _
  · intro value between
    apply traced_modify
    exact (adoptMap_changes host pmt between).trans (aside_settleIfFramed _).one

theorem selectProgram_traced (host : Host) (selected : Option Nat) (router : Router) :
    Traced host router (selectProgram host selected router) := by
  have select : ∀ router, Traced host router
      ((modify fun router => { router with program := selected } : Routing Unit) router) :=
    fun router => (aside_rest router ..).one
  refine traced_bind traced_get ?_
  intro current router
  dsimp only
  split
  · exact .refl
  · split
    · exact traced_bind (teardownProgram_traced host router) (fun _ => select)
    · exact select router

theorem applySelectedMap_traced (host : Host) (router : Router) :
    Traced host router (applySelectedMap host router) := by
  refine traced_bind traced_get ?_
  intro current router
  cases current.program.bind current.tables.pmt? with
  | none => exact .refl
  | some pmt => exact applyPmt_traced host pmt router

theorem applyEvent_traced (host : Host) (event : TableEvent) (router : Router) :
    Traced host router (applyEvent host event router) := by
  cases event with
  | pat previous current =>
    have followed : Aside router (router.followMaps current) := aside_retrack router .pmt _
    rw [applyPat_eq]
    refine Traced.behind ?_ followed.one
    refine traced_bind (selectProgram_traced host _ _) (fun _ router => ?_)
    exact traced_bind (applySelectedMap_traced host router)
      (fun _ router => traced_modify (aside_settleIfFramed router).one)
  | pmt mapPid previous current =>
    refine traced_bind traced_get ?_
    intro observed router
    split
    · exact applyPmt_traced host current router
    · exact .refl
  | cat previous current => exact traced_modify (aside_retrack router .emm _).one

theorem handleSection_traced (host : Host) (pid : Nat) (cls : StreamClass) (data : Bytes)
    (router : Router) : Traced host router (handleSection host pid cls data router) := by
  have taken : Aside router (router.takeSection pid data).1 := aside_rest router ..
  have table : Traced host router (handleSection host pid .pat data router) := by
    unfold handleSection
    dsimp only
    split
    · exact taken.one
    · exact (applyEvent_traced host _ _).behind taken.one
  have shown : ∀ cls, Changes host router (router.record (.entitlement pid cls data)) :=
    fun cls => (Change.ask _ rfl).one
  cases cls with
  | pat => exact table
  | pmt => exact table
  | cat => exact table
  | pes => exact .refl
  | ecm =>
    unfold handleSection
    dsimp only
    split
    · exact shown .ecm
    · exact .refl
  | emm =>
    unfold handleSection
    dsimp only
    split
    · exact shown .emm
    · exact .refl

/-! ### Packets -/

theorem routePayload_traced (host : Host) (packet : TransportPacket) (payload : Bytes)
    (stream : StreamState) (router : Router) :
    Traced host router (routePayload host packet payload stream router) := by
  unfold routePayload
  split
  · exact (traced_forEach (handleSection_traced host packet.pid stream.cls) _).behind
      (aside_rest router ..).one
  · exact (traced_forEach (deliver_traced host packet.pid) _).behind (aside_rest router ..).one

theorem descramble_changes (host : Host) (packet : TransportPacket) (payload : Bytes)
    (router : Router) : Changes host router (router.descramble host packet payload).1 := by
  unfold descramble
  split
  · exact .refl
  · split
    · exact (Change.ask _ rfl).one
    · exact .refl

theorem passPayload_traced (host : Host) (packet : TransportPacket) (stream : StreamState)
    (router : Router) : Traced host router (passPayload host packet stream router) := by
  unfold passPayload
  split
  · exact .refl
  · exact (routePayload_traced host packet _ stream _).behind
      (descramble_changes host packet _ router)

theorem routePacket_traced (host : Host) (packet : TransportPacket) (stream : StreamState)
    (router : Router) : Traced host router (routePacket host packet stream router) := by
  unfold routePacket
  dsimp only
  split
  · exact (aside_rest router ..).one
  · exact (passPayload_traced host packet _ _).behind (aside_rest router ..).one
  · exact (passPayload_traced host packet _ _).behind (aside_rest router ..).one
  · exact (passPayload_traced host packet _ _).behind (aside_rest router ..).one

theorem handlePacket_traced (host : Host) (packet : TransportPacket) (router : Router) :
    Traced host router (handlePacket host packet router) := by
  have counted : Aside router (router.countPacket packet) := aside_rest router ..
  have observed := counted.trans (aside_observeClock _ packet)
  unfold handlePacket
  dsimp only
  split
  · exact counted.one
  · split
    · exact observed.one
    · exact (routePacket_traced host packet _ _).behind observed.one

theorem handleItem_traced (host : Host) (item : SyncItem) (router : Router) :
    Traced host router (handleItem host item router) := by
  cases item with
  | locked stride place =>
    exact traced_modify ((aside_rest router ..).trans (aside_settle _)).one
  | lost place => exact traced_modify (aside_rest router ..).one
  | packet packet => exact handlePacket_traced host packet router

end Router

end TransportStream
