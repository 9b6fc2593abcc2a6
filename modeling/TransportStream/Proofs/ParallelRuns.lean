import TransportStream.Proofs.Chunking
import TransportStream.Proofs.Delivery
import TransportStream.Proofs.Expectations

/-!
Routers that agree in all but their statistics, the order in which their sinks were served,
and the times on some sinks, go through everything in parallel while no sink fails.
-/
namespace TransportStream

variable {timed : Nat → Bool}

/-- The unit, without its place in time unless times count. -/
def AccessUnit.seen (timed : Bool) (unit : AccessUnit) : AccessUnit :=
  if timed then unit else unit.untimed

/-- The output, without its timeline unless the times on its sink count. -/
def Output.seen (timed : Nat → Bool) (output : Output) : Output :=
  if timed output.sink then output else { output with timeBase := none, unwrapper := {} }

/-- The call, without the place of a unit in time unless the times on its sink count. -/
def Call.seen (timed : Nat → Bool) : Call → Call
  | .deliver sink unit failure => .deliver sink (unit.seen (timed sink)) failure
  | .create info sink => .create info sink
  | .finish sink pid failure => .finish sink pid failure
  | .entitlement pid cls data => .entitlement pid cls data
  | .descramble pid control payload clear => .descramble pid control payload clear

/-- Whether a call is made to the host itself and not to one of its sinks. -/
def Call.asks : Call → Bool
  | .create _ _ | .entitlement _ _ _ | .descramble _ _ _ _ => true
  | .deliver _ _ _ | .finish _ _ _ => false

/-- The host itself was asked the same, and every sink was told the same. How the sinks took
turns may differ, and so may the times on sinks where they do not count. -/
structure SameRecord (timed : Nat → Bool) (one two : List Call) : Prop where
  asked : one.filter Call.asks = two.filter Call.asks
  told : ∀ sink, (told one sink).map (Call.seen timed) = (told two sink).map (Call.seen timed)

/-- Whether a stream gets an output does not depend on how the sinks took turns, nor on times. -/
def Host.Impartial (host : Host) : Prop :=
  ∀ one two info, SameRecord (fun _ => false) one two →
    host.accepts one info = host.accepts two info

/-! ### What is seen -/

@[simp] theorem Output.seen_sink (output : Output) : (output.seen timed).sink = output.sink := by
  unfold seen
  split <;> rfl

@[simp] theorem Output.seen_info (output : Output) : (output.seen timed).info = output.info := by
  unfold seen
  split <;> rfl

@[simp] theorem Output.seen_ended (output : Output) : (output.seen timed).ended = output.ended := by
  unfold seen
  split <;> rfl

theorem Output.sink_of_seen {output other : Output} (same : output.seen timed = other.seen timed) :
    output.sink = other.sink := by
  rw [← output.seen_sink, same, seen_sink]

theorem Output.ended_of_seen {output other : Output} (same : output.seen timed = other.seen timed) :
    output.ended = other.ended := by
  rw [← output.seen_ended, same, seen_ended]

theorem Output.seen_markEnded {output other : Output}
    (same : output.seen timed = other.seen timed) :
    output.markEnded.seen timed = other.markEnded.seen timed := by
  have marked : ∀ output : Output, output.markEnded.seen timed = (output.seen timed).markEnded := by
    intro output
    by_cases counts : timed output.sink = true <;> simp [seen, markEnded, counts]
  rw [marked, marked, same]

@[simp] theorem Call.seen_tells (call : Call) (sink : Nat) :
    (call.seen timed).tells sink = call.tells sink := by
  cases call <;> rfl

/-- What an output makes of a packet: where times count, they follow from the time base, or
the clocks agree. -/
theorem Output.deliver_seen {output : Output} (packet : PesPacket) (first other : Option Nat)
    (placed : timed output.sink = true → output.timeBase.isSome = true ∨ first = other) :
    (output.deliver packet first).1.seen timed =
        ((output.seen timed).deliver packet other).1.seen timed ∧
      ((output.deliver packet first).2.map fun unit =>
          (Call.deliver output.sink unit none).seen timed) =
        ((output.seen timed).deliver packet other).2.map fun unit =>
          (Call.deliver output.sink unit none).seen timed := by
  by_cases counts : timed output.sink = true
  · have whole : output.seen timed = output := if_pos counts
    have base : output.baseFor first packet.header.pts =
        output.baseFor other packet.header.pts := by
      rcases placed counts with set | same
      · obtain ⟨base, set⟩ := Option.isSome_iff_exists.mp set
        simp [baseFor, set]
      · rw [same]
    simp [whole, deliver, base]
  · by_cases ended : output.ended = true
    · simp [seen, deliver, counts, ended]
    · simp [seen, deliver, counts, ended, Call.seen, AccessUnit.seen, AccessUnit.untimed]

namespace SameRecord

variable {one two : List Call} {call other : Call}

/-- Two calls that look the same are added. -/
theorem cons (same : SameRecord timed one two) (alike : call.seen timed = other.seen timed) :
    SameRecord timed (call :: one) (other :: two) where
  asked := by
    have asks : call.asks = other.asks ∧ (call.asks = true → call = other) := by
      cases call <;> cases other <;> simp_all [Call.seen, Call.asks]
    rw [List.filter_cons, List.filter_cons, same.asked, asks.1]
    split
    · rename_i host
      rw [asks.2 (asks.1.trans host)]
    · rfl
  told sink := by
    have tells : call.tells sink = other.tells sink := by
      rw [← call.seen_tells, alike, Call.seen_tells]
    rw [told_cons, told_cons, tells]
    split
    · rw [List.map_cons, List.map_cons, alike, same.told]
    · exact same.told sink

theorem append {made others : List Call} (same : SameRecord timed one two)
    (alike : made.map (Call.seen timed) = others.map (Call.seen timed)) :
    SameRecord timed (made ++ one) (others ++ two) := by
  induction made generalizing others with
  | nil =>
    cases List.map_eq_nil_iff.mp alike.symm
    exact same
  | cons call made ih =>
    cases others with
    | nil => cases alike
    | cons other others =>
      obtain ⟨first, later⟩ := List.cons.inj alike
      exact (ih later).cons first

/-- Records stay the same where fewer times count. -/
theorem untimed (same : SameRecord timed one two) : SameRecord (fun _ => false) one two where
  asked := same.asked
  told sink := by
    have further : ∀ calls : List Call, calls.map (Call.seen (fun _ => false)) =
        (calls.map (Call.seen timed)).map (Call.seen (fun _ => false)) := by
      intro calls
      rw [List.map_map]
      apply List.map_congr_left
      intro call _
      cases call with
      | deliver sink unit failure =>
        by_cases counts : timed sink = true
        · simp [Call.seen, AccessUnit.seen, counts]
        · simp [Call.seen, AccessUnit.seen, AccessUnit.untimed, counts]
      | _ => rfl
    rw [further, same.told, ← further]

end SameRecord

namespace Router

variable {host : Host} {router one two : Router} {α : Type}

/-- The router without its outputs, its statistics and the record of its calls. -/
def core (router : Router) : Router := { router with outputs := {}, stats := {}, calls := [] }

/-- `Parallel timed one two`: the routers agree in all but their statistics, the turns of their
sinks and the times that do not count. -/
structure Parallel (timed : Nat → Bool) (one two : Router) : Prop where
  core : one.core = two.core
  outputs : one.outputs.map (Output.seen timed) = two.outputs.map (Output.seen timed)
  record : SameRecord timed one.calls two.calls

/-- Two runs that both succeed and leave parallel routers. -/
def Together (timed : Nat → Bool) (first second : EStateM.Result Error Router Unit) : Prop :=
  ∃ one two, first = .ok () one ∧ second = .ok () two ∧ Parallel timed one two

/-- Whether an action goes on in parallel. -/
def InParallel (timed : Nat → Bool) (action : Routing Unit) : Prop :=
  ∀ ⦃one two⦄, Parallel timed one two → Together timed (action one) (action two)

/-- A change that neither looks at outputs, statistics and calls, nor touches outputs or calls. -/
structure Blind (change : Router → Router) : Prop where
  core : ∀ router, (change router).core = (change router.core).core
  outputs : ∀ router, (change router).outputs = router.outputs
  calls : ∀ router, (change router).calls = router.calls

/-- What can be told from the rest of a router is the same on both sides. -/
theorem Parallel.read (parallel : Parallel timed one two) (value : Router → α)
    (blind : ∀ router, value router = value router.core) : value one = value two := by
  rw [blind one, blind two, parallel.core]

theorem Parallel.keys (parallel : Parallel timed one two) :
    one.outputs.keys = two.outputs.keys := by
  rw [← NatMap.keys_map (Output.seen timed), parallel.outputs, NatMap.keys_map]

theorem Parallel.unused (parallel : Parallel timed one two) :
    one.outputs.isEmpty = two.outputs.isEmpty := by
  rw [← NatMap.isEmpty_map (Output.seen timed), parallel.outputs, NatMap.isEmpty_map]

theorem Parallel.contains (parallel : Parallel timed one two) (pid : Nat) :
    one.outputs.contains pid = two.outputs.contains pid := by
  rw [← NatMap.contains_map (Output.seen timed), parallel.outputs, NatMap.contains_map]

/-- A PID has an output on both sides, or on neither. -/
theorem Parallel.output (parallel : Parallel timed one two) (pid : Nat) :
    (one.outputs.get? pid = none ∧ two.outputs.get? pid = none) ∨
      ∃ output other, one.outputs.get? pid = some output ∧ two.outputs.get? pid = some other ∧
        output.seen timed = other.seen timed := by
  have looked : (one.outputs.get? pid).map (Output.seen timed) =
      (two.outputs.get? pid).map (Output.seen timed) := by
    rw [← NatMap.get?_map, parallel.outputs, NatMap.get?_map]
  cases found : one.outputs.get? pid with
  | none =>
    rw [found, Option.map_none] at looked
    exact .inl ⟨rfl, Option.map_eq_none_iff.mp looked.symm⟩
  | some output =>
    rw [found, Option.map_some] at looked
    obtain ⟨other, there, same⟩ := Option.map_eq_some_iff.mp looked.symm
    exact .inr ⟨output, other, rfl, there, same.symm⟩

theorem Blind.parallel {change : Router → Router} (blind : Blind change)
    (parallel : Parallel timed one two) : Parallel timed (change one) (change two) where
  core := by rw [blind.core one, blind.core two, parallel.core]
  outputs := by rw [blind.outputs, blind.outputs, parallel.outputs]
  record := by
    rw [blind.calls, blind.calls]
    exact parallel.record

/-! ### Sequences -/

theorem Parallel.together (parallel : Parallel timed one two) :
    Together timed (.ok () one) (.ok () two) := ⟨one, two, rfl, rfl, parallel⟩

theorem inParallel_bind {action next : Routing Unit} (first : InParallel timed action)
    (second : InParallel timed next) : InParallel timed (action >>= fun _ => next) := by
  intro one two parallel
  obtain ⟨between, otherBetween, done, otherDone, parallel⟩ := first parallel
  rw [bind_of_ok done, bind_of_ok otherDone]
  exact second parallel

theorem inParallel_forEach {items : List α} {act : α → Routing Unit}
    (each : ∀ item, InParallel timed (act item)) : InParallel timed (forEach items act) := by
  induction items with
  | nil => exact fun _ _ parallel => parallel.together
  | cons item others ih => exact inParallel_bind (each item) ih

/-! ### Changes that look at little -/

theorem Blind.comp {change next : Router → Router} (second : Blind next) (first : Blind change) :
    Blind (fun router => next (change router)) where
  core router := by
    rw [second.core (change router), second.core (change router.core), first.core]
  outputs router := (second.outputs _).trans (first.outputs router)
  calls router := (second.calls _).trans (first.calls router)

theorem Blind.foldl {change : Router → α → Router}
    (each : ∀ item, Blind (fun router => change router item)) (items : List α) :
    Blind (fun router => items.foldl change router) := by
  induction items with
  | nil => exact ⟨fun _ => rfl, fun _ => rfl, fun _ => rfl⟩
  | cons item others ih => exact ih.comp (each item)

theorem blind_trackIfFree (cls : StreamClass) (pid : Nat) :
    Blind (fun router => router.trackIfFree cls pid) := by
  refine ⟨fun router => ?_, fun router => ?_, fun router => ?_⟩
  · have streams : router.core.streams = router.streams := rfl
    unfold trackIfFree
    rw [streams]
    split <;> rfl
  · exact (aside_trackIfFree router cls pid).outputs
  · exact (aside_trackIfFree router cls pid).calls

theorem blind_retrack (cls : StreamClass) (pids : List Nat) :
    Blind (fun router => router.retrack cls pids) := by
  have kept : Blind (fun router => { router with
      streams := router.streams.filter
        (fun pid stream => stream.cls != cls || pids.contains pid) }) :=
    ⟨fun _ => rfl, fun _ => rfl, fun _ => rfl⟩
  exact (Blind.foldl (blind_trackIfFree cls) pids).comp kept

theorem blind_followPcrPid (pcrPid : Nat) : Blind (fun router => router.followPcrPid pcrPid) := by
  refine ⟨fun router => ?_, fun router => ?_, fun router => ?_⟩
  · have same : router.core.pcrPid = router.pcrPid := rfl
    unfold followPcrPid
    rw [same]
    split
    · rfl
    · split <;> rfl
  · exact (aside_followPcrPid router pcrPid).outputs
  · exact (aside_followPcrPid router pcrPid).calls

theorem blind_readyFor (pmt : Pmt) : Blind (fun router => router.readyFor pmt) := by
  have filtered : Blind (fun router : Router => { router with
      declined := router.declined.filter (fun pid _ => (wantedTypes pmt).contains pid) }) :=
    ⟨fun _ => rfl, fun _ => rfl, fun _ => rfl⟩
  exact (blind_retrack .ecm pmt.ecmPids).comp filtered

theorem blind_observeClock (packet : TransportPacket) :
    Blind (fun router => router.observeClock packet) := by
  refine ⟨fun router => ?_, fun router => ?_, fun router => ?_⟩
  · have same : router.core.pcrPid = router.pcrPid := rfl
    unfold observeClock
    rw [same]
    split <;> rfl
  · exact (aside_observeClock router packet).outputs
  · exact (aside_observeClock router packet).calls

/-- The phase is settled by tables and by whether there are outputs. -/
theorem Parallel.settle (parallel : Parallel timed one two) :
    Parallel timed one.settle two.settle where
  core := by
    have tables : one.tables = two.tables := parallel.read Router.tables (fun _ => rfl)
    have phases : one.settledPhase = two.settledPhase := by
      unfold settledPhase
      rw [tables, parallel.unused]
    have moved : { one.core with phase := one.settledPhase } =
        { two.core with phase := two.settledPhase } := by
      rw [parallel.core, phases]
    exact moved
  outputs := parallel.outputs
  record := parallel.record

theorem Parallel.settleIfFramed (parallel : Parallel timed one two) :
    Parallel timed one.settleIfFramed two.settleIfFramed := by
  have phases : one.phase = two.phase := parallel.read Router.phase (fun _ => rfl)
  unfold Router.settleIfFramed
  rw [phases]
  split
  · exact parallel
  · exact parallel
  · exact parallel.settle

/-! ### Sinks -/

theorem Parallel.recorded {call other : Call} (parallel : Parallel timed one two)
    (same : call.seen timed = other.seen timed) :
    Parallel timed (one.record call) (two.record other) :=
  ⟨parallel.core, parallel.outputs, parallel.record.cons same⟩

/-- An output is replaced on both sides. -/
theorem Parallel.replaced {output other : Output} (parallel : Parallel timed one two)
    (same : output.seen timed = other.seen timed) (pid : Nat) :
    Parallel timed { one with outputs := one.outputs.insert pid output }
      { two with outputs := two.outputs.insert pid other } where
  core := parallel.core
  outputs := by rw [NatMap.map_insert, NatMap.map_insert, parallel.outputs, same]
  record := parallel.record

theorem Parallel.erased (parallel : Parallel timed one two) (pid : Nat) :
    Parallel timed { one with outputs := one.outputs.erase pid }
      { two with outputs := two.outputs.erase pid } where
  core := parallel.core
  outputs := by rw [NatMap.map_erase, NatMap.map_erase, parallel.outputs]
  record := parallel.record

theorem deliver_absent {pid : Nat} (host : Host) (packet : PesPacket)
    (absent : router.outputs.get? pid = none) : deliver host pid packet router = .ok () router := by
  unfold deliver
  rw [absent]

/-- A sink that does not fail takes what its output makes of a packet. -/
theorem deliver_reliable {pid : Nat} {output : Output} (reliable : host.Reliable)
    (packet : PesPacket) (found : router.outputs.get? pid = some output) :
    deliver host pid packet router = .ok () { router with
      stats := router.stats.recordAccessUnit pid packet.header.pts
      outputs := router.outputs.insert pid (output.deliver packet router.clock.first).1
      calls := ((output.deliver packet router.clock.first).2.map
        (fun unit => Call.deliver output.sink unit none)).toList ++ router.calls } := by
  have sink : (output.deliver packet router.clock.first).1.sink = output.sink :=
    congrArg Prod.snd (Output.owner_deliver output packet router.clock.first)
  unfold deliver
  rw [found]
  dsimp only
  cases made : (output.deliver packet router.clock.first).2 with
  | none => rfl
  | some unit =>
    refine (handUnit_reliable reliable _ unit _).trans ?_
    rw [sink]
    rfl

/-- What outputs that look the same make of a packet by one clock. -/
theorem deliver_alike {output other : Output} (packet : PesPacket) (first : Option Nat)
    (same : output.seen timed = other.seen timed) :
    (output.deliver packet first).1.seen timed = (other.deliver packet first).1.seen timed ∧
      ((output.deliver packet first).2.map fun unit =>
          (Call.deliver output.sink unit none).seen timed) =
        (other.deliver packet first).2.map fun unit =>
          (Call.deliver other.sink unit none).seen timed := by
  have sinks : output.sink = other.sink := Output.sink_of_seen same
  have seen : ∀ output : Output, _ := fun output =>
    output.deliver_seen packet first first (fun _ : timed output.sink = true => .inr rfl)
  obtain ⟨next, units⟩ := seen output
  obtain ⟨otherNext, otherUnits⟩ := seen other
  rw [same, ← otherNext] at next
  rw [same, sinks, ← otherUnits] at units
  exact ⟨next, by rw [sinks]; exact units⟩

theorem deliver_inParallel (reliable : host.Reliable) (pid : Nat) (packet : PesPacket) :
    InParallel timed (deliver host pid packet) := by
  intro one two parallel
  have first : one.clock.first = two.clock.first :=
    parallel.read (fun router => router.clock.first) (fun _ => rfl)
  rcases parallel.output pid with ⟨absent, otherAbsent⟩ | ⟨output, other, found, there, same⟩
  · rw [deliver_absent host packet absent, deliver_absent host packet otherAbsent]
    exact parallel.together
  · rw [deliver_reliable reliable packet found, deliver_reliable reliable packet there, first]
    obtain ⟨next, handed⟩ := deliver_alike packet two.clock.first same
    have replaced := parallel.replaced next pid
    refine ⟨_, _, rfl, rfl, replaced.core, replaced.outputs, parallel.record.append ?_⟩
    rw [← Option.toList_map, ← Option.toList_map, Option.map_map, Option.map_map]
    exact congrArg Option.toList handed

theorem endSink_inParallel (reliable : host.Reliable) (sink pid : Nat) :
    InParallel timed (endSink host sink pid) := by
  intro one two parallel
  rw [endSink_reliable reliable, endSink_reliable reliable]
  exact (parallel.recorded rfl).together

theorem endOutput_inParallel (reliable : host.Reliable) (pid : Nat) :
    InParallel timed (endOutput host pid) := by
  intro one two parallel
  rw [endOutput_eq, endOutput_eq]
  rcases parallel.output pid with ⟨absent, otherAbsent⟩ | ⟨output, other, found, there, same⟩
  · simp only [absent, otherAbsent]
    exact parallel.together
  · have sinks : output.sink = other.sink := Output.sink_of_seen same
    have ends : output.ended = other.ended := Output.ended_of_seen same
    simp only [found, there, sinks, ends]
    split
    · exact parallel.together
    · exact endSink_inParallel reliable other.sink pid
        (parallel.replaced (Output.seen_markEnded same) pid)

theorem removeOutput_inParallel (reliable : host.Reliable) (pid : Nat) :
    InParallel timed (removeOutput host pid) := by
  intro one two parallel
  have blind : Blind (fun router => router.untrack pid) :=
    ⟨fun _ => rfl, fun _ => rfl, fun _ => rfl⟩
  have untracked := blind.parallel parallel
  rw [removeOutput_eq, removeOutput_eq]
  rcases untracked.output pid with ⟨absent, otherAbsent⟩ | ⟨output, other, found, there, same⟩
  · simp only [absent, otherAbsent]
    exact untracked.together
  · have sinks : output.sink = other.sink := Output.sink_of_seen same
    have ends : output.ended = other.ended := Output.ended_of_seen same
    simp only [found, there, sinks, ends]
    split
    · exact (untracked.erased pid).together
    · exact endSink_inParallel reliable other.sink pid (untracked.erased pid)

theorem flushReassembly_core (router : Router) (pid : Nat) :
    (router.flushReassembly pid).1.core = (router.core.flushReassembly pid).1.core ∧
      (router.flushReassembly pid).2 = (router.core.flushReassembly pid).2 := by
  have streams : router.core.streams = router.streams := rfl
  unfold flushReassembly
  rw [streams]
  cases router.streams.get? pid with
  | none => exact ⟨rfl, rfl⟩
  | some stream =>
    dsimp only
    split <;> exact ⟨rfl, rfl⟩

theorem drainOutput_inParallel (reliable : host.Reliable) (pid : Nat) :
    InParallel timed (drainOutput host pid) := by
  intro one two parallel
  have blind : Blind (fun router => (router.flushReassembly pid).1) :=
    ⟨fun router => (flushReassembly_core router pid).1,
      fun router => (aside_flushReassembly router pid).outputs,
      fun router => (aside_flushReassembly router pid).calls⟩
  have flushed := blind.parallel parallel
  have lasts : (one.flushReassembly pid).2 = (two.flushReassembly pid).2 :=
    parallel.read (fun router => (router.flushReassembly pid).2)
      (fun router => (flushReassembly_core router pid).2)
  unfold drainOutput
  dsimp only
  rw [lasts]
  split
  · exact flushed.together
  · exact deliver_inParallel reliable pid _ flushed

theorem closeOutput_inParallel (reliable : host.Reliable) (pid : Nat) :
    InParallel timed (closeOutput host pid) :=
  inParallel_bind (drainOutput_inParallel reliable pid) (endOutput_inParallel reliable pid)

theorem dropOutput_inParallel (reliable : host.Reliable) (pid : Nat) :
    InParallel timed (dropOutput host pid) :=
  inParallel_bind (drainOutput_inParallel reliable pid) (removeOutput_inParallel reliable pid)

theorem closeAll_inParallel (reliable : host.Reliable) :
    InParallel timed (closeAll host) := by
  intro one two parallel
  have closeAll_eq : ∀ router, closeAll host router =
      forEach router.outputs.keys (closeOutput host) router := fun _ => rfl
  rw [closeAll_eq, closeAll_eq, parallel.keys]
  exact inParallel_forEach (closeOutput_inParallel reliable) parallel

/-! ### Tables -/

theorem inParallel_modify {change : Router → Router}
    (each : ∀ ⦃one two⦄, Parallel timed one two → Parallel timed (change one) (change two)) :
    InParallel timed (modify change) :=
  fun one two parallel => ⟨change one, change two, rfl, rfl, each parallel⟩

theorem teardownProgram_inParallel (reliable : host.Reliable) :
    InParallel timed (teardownProgram host) := by
  intro one two parallel
  rw [teardownProgram_eq, teardownProgram_eq, parallel.keys]
  have reset : Blind (fun torn : Router =>
      { torn with declined := {}, pcrPid := none }.restartClock) :=
    ⟨fun _ => rfl, fun _ => rfl, fun _ => rfl⟩
  exact inParallel_bind (inParallel_forEach (dropOutput_inParallel reliable))
    (inParallel_modify (fun _ _ => (reset.comp (blind_retrack .ecm [])).parallel))
    parallel

theorem Parallel.staleOutputs (parallel : Parallel timed one two) (wanted : NatMap StreamType) :
    one.staleOutputs wanted = two.staleOutputs wanted := by
  have seen : ∀ router : Router, router.staleOutputs wanted =
      ((router.outputs.map (Output.seen timed)).filter
        (fun pid output => wanted.get? pid != some output.info.streamType)).keys := by
    intro router
    simp [Router.staleOutputs, NatMap.keys, NatMap.filter, NatMap.map, List.filter_map,
      Function.comp_def]
  rw [seen, seen, parallel.outputs]

theorem Parallel.addOutput (parallel : Parallel timed one two) (info : StreamInfo) :
    Parallel timed (one.addOutput info) (two.addOutput info) where
  core := congrArg (fun router => (router.addOutput info).core) parallel.core
  outputs := by
    unfold Router.addOutput
    rw [NatMap.map_insert, NatMap.map_insert, parallel.outputs,
      parallel.read Router.sinks (fun _ => rfl)]
  record := parallel.record

/-- A stream on a map gets an output on both sides, or on neither. -/
theorem Parallel.considerStream (parallel : Parallel timed one two) (impartial : host.Impartial)
    (pmt : Pmt) (stream : PmtStream) :
    Parallel timed (considerStream host pmt one stream) (considerStream host pmt two stream) := by
  have decided : (one.outputs.contains stream.pid || one.declined.contains stream.pid) =
      (two.outputs.contains stream.pid || two.declined.contains stream.pid) := by
    rw [parallel.contains, parallel.read Router.declined (fun _ => rfl)]
  have carries : one.carriesTables stream.pid = two.carriesTables stream.pid :=
    parallel.read (fun router => router.carriesTables stream.pid) (fun _ => rfl)
  have decline : ∀ pid, Blind (fun router => router.decline pid) :=
    fun _ => ⟨fun _ => rfl, fun _ => rfl, fun _ => rfl⟩
  have count : Blind (fun router => { router with stats := router.stats.recordUnsupported }) :=
    ⟨fun _ => rfl, fun _ => rfl, fun _ => rfl⟩
  unfold Router.considerStream
  rw [decided, carries]
  split
  · exact parallel
  · dsimp only
    split
    · exact ((decline stream.pid).comp count).parallel parallel
    · split
      · exact (decline stream.pid).parallel parallel
      · unfold requestOutput
        rw [impartial _ _ _ parallel.record.untimed]
        split
        · have sinks : one.sinks = two.sinks := parallel.read Router.sinks (fun _ => rfl)
          exact (parallel.recorded (by rw [sinks])).addOutput _
        · exact ((decline stream.pid).comp count).parallel (parallel.recorded rfl)

theorem adoptMap_inParallel (impartial : host.Impartial) (pmt : Pmt)
    (parallel : Parallel timed one two) :
    Parallel timed (one.adoptMap host pmt) (two.adoptMap host pmt) := by
  have consider : ∀ streams : List PmtStream, ∀ {one two}, Parallel timed one two →
      Parallel timed (streams.foldl (considerStream host pmt) one)
        (streams.foldl (considerStream host pmt) two) := by
    intro streams
    induction streams with
    | nil => exact fun parallel => parallel
    | cons stream others ih =>
      exact fun parallel => ih (parallel.considerStream impartial pmt stream)
  exact consider pmt.streams ((blind_readyFor pmt).parallel parallel)

theorem applyPmt_inParallel (reliable : host.Reliable) (impartial : host.Impartial) (pmt : Pmt) :
    InParallel timed (applyPmt host pmt) := by
  intro one two parallel
  have followed := (blind_followPcrPid pmt.pcrPid).parallel parallel
  rw [applyPmt_eq, applyPmt_eq, followed.staleOutputs]
  exact inParallel_bind (inParallel_forEach (dropOutput_inParallel reliable))
    (inParallel_modify fun _ _ parallel =>
      (adoptMap_inParallel impartial pmt parallel).settleIfFramed)
    followed

theorem selectProgram_inParallel (reliable : host.Reliable) (selected : Option Nat) :
    InParallel timed (selectProgram host selected) := by
  intro one two parallel
  have chosen : Blind (fun router => { router with program := selected }) :=
    ⟨fun _ => rfl, fun _ => rfl, fun _ => rfl⟩
  have select : InParallel timed (modify fun router => { router with program := selected }) :=
    inParallel_modify (fun _ _ => chosen.parallel)
  rw [selectProgram_eq, selectProgram_eq, parallel.read Router.program (fun _ => rfl)]
  split
  · exact parallel.together
  · split
    · exact inParallel_bind (teardownProgram_inParallel reliable) select parallel
    · exact select parallel

theorem applySelectedMap_inParallel (reliable : host.Reliable) (impartial : host.Impartial) :
    InParallel timed (applySelectedMap host) := by
  intro one two parallel
  have known := parallel.read (fun router => router.program.bind router.tables.pmt?)
    (fun _ => rfl)
  cases selected : two.program.bind two.tables.pmt? with
  | none =>
    rw [applySelectedMap_none selected, applySelectedMap_none (known.trans selected)]
    exact parallel.together
  | some pmt =>
    rw [applySelectedMap_some selected, applySelectedMap_some (known.trans selected)]
    exact applyPmt_inParallel reliable impartial pmt parallel

theorem applyEvent_inParallel (reliable : host.Reliable) (impartial : host.Impartial)
    (event : TableEvent) : InParallel timed (applyEvent host event) := by
  intro one two parallel
  cases event with
  | pat previous current =>
    have followed : Parallel timed (one.followMaps current) (two.followMaps current) :=
      (blind_retrack .pmt _).parallel parallel
    have choice := followed.read
      (fun router => router.tables.selectProgram router.options.program) (fun _ => rfl)
    rw [applyPat_eq, applyPat_eq, choice]
    refine inParallel_bind (selectProgram_inParallel reliable _) ?_ followed
    exact inParallel_bind (applySelectedMap_inParallel reliable impartial)
      (inParallel_modify (fun _ _ => Parallel.settleIfFramed))
  | pmt mapPid previous current =>
    rw [applyMap_eq, applyMap_eq, parallel.read Router.program (fun _ => rfl)]
    split
    · exact applyPmt_inParallel reliable impartial current parallel
    · exact parallel.together
  | cat previous current =>
    exact inParallel_modify (fun _ _ => (blind_retrack .emm _).parallel) parallel

theorem handleSection_inParallel (reliable : host.Reliable) (impartial : host.Impartial)
    (pid : Nat) (cls : StreamClass) (data : Bytes) :
    InParallel timed (handleSection host pid cls data) := by
  intro one two parallel
  have taken : Blind (fun router => (router.takeSection pid data).1) :=
    ⟨fun _ => rfl, fun _ => rfl, fun _ => rfl⟩
  have events := parallel.read (fun router => (router.takeSection pid data).2) (fun _ => rfl)
  have table : Together timed (handleSection host pid .pat data one)
      (handleSection host pid .pat data two) := by
    unfold handleSection
    dsimp only at events ⊢
    rw [events]
    split
    · exact (taken.parallel parallel).together
    · exact applyEvent_inParallel reliable impartial _ (taken.parallel parallel)
  have shown : ∀ cls, Together timed
      (if host.descrambler.isSome then .ok () (one.record (.entitlement pid cls data))
        else .ok () one)
      (if host.descrambler.isSome then .ok () (two.record (.entitlement pid cls data))
        else .ok () two) := by
    intro cls
    split
    · exact (parallel.recorded rfl).together
    · exact parallel.together
  cases cls with
  | pat => exact table
  | pmt => exact table
  | cat => exact table
  | pes => exact parallel.together
  | ecm => exact shown .ecm
  | emm => exact shown .emm

/-! ### Packets -/

/-- Only a section can add a stream, about which the host is asked. -/
theorem routePayload_inParallel (reliable : host.Reliable) (packet : TransportPacket)
    (payload : Bytes) (stream : StreamState)
    (settled : host.Impartial ∨ stream.reassembly.isPes = true) :
    InParallel timed (routePayload host packet payload stream) := by
  intro one two parallel
  unfold routePayload
  cases kind : stream.reassembly with
  | sections filter =>
    have impartial := settled.resolve_right (by simp [kind, Reassembly.isPes])
    have collected : ∀ filter,
        Blind (fun router => router.collectFilter packet.pid stream filter) :=
      fun _ => ⟨fun _ => rfl, fun _ => rfl, fun _ => rfl⟩
    exact inParallel_forEach (handleSection_inParallel reliable impartial packet.pid stream.cls)
      ((collected _).parallel parallel)
  | pes reassembler =>
    have collected : ∀ reassembler,
        Blind (fun router => router.collectReassembler packet.pid stream reassembler) :=
      fun _ => ⟨fun _ => rfl, fun _ => rfl, fun _ => rfl⟩
    exact inParallel_forEach (deliver_inParallel reliable packet.pid)
      ((collected _).parallel parallel)

theorem passPayload_inParallel (reliable : host.Reliable)
    (undescrambled : host.descrambler = none) (packet : TransportPacket) (stream : StreamState)
    (settled : host.Impartial ∨ stream.reassembly.isPes = true) :
    InParallel timed (passPayload host packet stream) := by
  intro one two parallel
  unfold passPayload
  cases packet.payload? with
  | none => exact parallel.together
  | some payload =>
    dsimp only
    rw [descramble_clear (.inl undescrambled), descramble_clear (.inl undescrambled)]
    exact routePayload_inParallel reliable packet payload stream settled parallel

theorem blind_observed (packet : TransportPacket) :
    Blind (fun router => (router.countPacket packet).observeClock packet) := by
  have counted : Blind (fun router => router.countPacket packet) :=
    ⟨fun _ => rfl, fun _ => rfl, fun _ => rfl⟩
  exact (blind_observeClock packet).comp counted

theorem heed_core (router : Router) (packet : TransportPacket) :
    (router.heed packet).1.core = (router.core.heed packet).1.core ∧
      (router.heed packet).2 = (router.core.heed packet).2 := by
  have ignores : (router.core.countPacket packet).ignores packet =
      (router.countPacket packet).ignores packet := rfl
  have observed := (blind_observed packet).core router
  unfold heed
  dsimp only at observed ⊢
  rw [ignores]
  generalize (router.countPacket packet).observeClock packet = counted at observed ⊢
  generalize (router.core.countPacket packet).observeClock packet = bare at observed ⊢
  have streams : counted.core.streams = bare.core.streams := by rw [observed]
  change counted.streams = bare.streams at streams
  have replaced : ∀ streams : NatMap StreamState,
      { counted.core with streams } = { bare.core with streams } :=
    fun streams => congrArg (fun router => { router with streams }) observed
  rw [streams]
  split
  · exact ⟨rfl, rfl⟩
  · split
    · exact ⟨observed, rfl⟩
    · split <;> exact ⟨replaced _, rfl⟩

theorem heed_rest (router : Router) (packet : TransportPacket) :
    (router.heed packet).1.outputs = router.outputs ∧
      (router.heed packet).1.calls = router.calls := by
  have outputs := (blind_observed packet).outputs router
  have calls := (blind_observed packet).calls router
  unfold heed
  dsimp only
  split
  · exact ⟨rfl, rfl⟩
  · split
    · exact ⟨outputs, calls⟩
    · split <;> exact ⟨outputs, calls⟩

/-- What goes on of a packet that carries no table goes on to an elementary stream. -/
theorem Untabled.admitted {router between : Router} {packet : TransportPacket}
    {stream : StreamState} (untabled : Untabled router packet) (sound : Sound router)
    (admitted : router.heed packet = (between, some stream)) : stream.reassembly.isPes = true := by
  have heeding := heeding router packet
  rw [admitted] at heeding
  cases heeding with
  | admitted heeds found _ _ _ role =>
    exact (congrArg Prod.snd role).trans (untabled.pes sound heeds found)

/-- Whether a packet adds no stream about which the host could answer in two ways. -/
def Settles (host : Host) (router : Router) (packet : TransportPacket) : Prop :=
  host.Impartial ∨ Sound router ∧ Untabled router packet

theorem Parallel.handlePacket {packet : TransportPacket} (parallel : Parallel timed one two)
    (reliable : host.Reliable) (undescrambled : host.descrambler = none)
    (settles : Settles host one packet) :
    Together timed (handlePacket host packet one) (handlePacket host packet two) := by
  have heeded : Blind (fun router => (router.heed packet).1) :=
    ⟨fun router => (heed_core router packet).1, fun router => (heed_rest router packet).1,
      fun router => (heed_rest router packet).2⟩
  have streams := parallel.read (fun router => (router.heed packet).2)
    (fun router => (heed_core router packet).2)
  have between := heeded.parallel parallel
  rw [handlePacket_eq, handlePacket_eq]
  cases outcome : one.heed packet with
  | mk oneBetween stream =>
    cases otherwise : two.heed packet with
    | mk twoBetween other =>
      rw [outcome, otherwise] at between
      simp only [outcome, otherwise] at streams
      subst streams
      cases stream with
      | none => exact between.together
      | some stream =>
        have settled := settles.imp_right fun ⟨sound, untabled⟩ => untabled.admitted sound outcome
        exact passPayload_inParallel reliable undescrambled packet stream settled between

theorem Parallel.handleItem {item : SyncItem} (parallel : Parallel timed one two)
    (reliable : host.Reliable) (undescrambled : host.descrambler = none)
    (settles : ∀ packet, item = .packet packet → Settles host one packet) :
    Together timed (handleItem host item one) (handleItem host item two) := by
  cases item with
  | locked stride place =>
    have learned : Blind (fun router =>
        { router with stride := some stride, clock := { router.clock with stride } }) :=
      ⟨fun _ => rfl, fun _ => rfl, fun _ => rfl⟩
    exact inParallel_modify (fun _ _ parallel => (learned.parallel parallel).settle) parallel
  | lost place =>
    have broken : Blind noteLoss := ⟨fun _ => rfl, fun _ => rfl, fun _ => rfl⟩
    exact inParallel_modify (fun _ _ => broken.parallel) parallel
  | packet packet => exact parallel.handlePacket reliable undescrambled (settles packet rfl)

end Router

end TransportStream
