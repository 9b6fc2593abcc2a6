import TransportStream.Proofs.ClockTimeline
import TransportStream.Proofs.Expectations

/-!
A packet that comes twice in a row. The counter of its PID tells the second as a repeat, and its
payload goes nowhere; only the clock listens again, before the counter is looked at.
-/
namespace TransportStream

namespace Clock

variable {clock : Clock}

/-- `SameTime one two`: two clocks differ in nothing but how many references they took and
ignored. -/
def SameTime (one two : Clock) : Prop :=
  ∃ samples jitter, two = { one with stats := { one.stats with samples, jitter } }

theorem SameTime.refl (clock : Clock) : SameTime clock clock := ⟨_, _, rfl⟩

/-- How many references were taken bears on no measurement. -/
theorem measure_samples (clock : Clock) (samples : Nat) (point : ClockAnchor) :
    ({ clock with stats := { clock.stats with samples } } : Clock).measure point =
      { clock.measure point with stats := { (clock.measure point).stats with samples } } := by
  unfold measure
  dsimp only
  cases anchored : clock.anchor with
  | none => rfl
  | some anchor =>
    dsimp only
    split
    · rfl
    · split
      · rfl
      · rw [← anchored]

/-- To measure to the same point again comes to nothing. -/
theorem measure_measure (clock : Clock) (point : ClockAnchor) :
    (clock.measure point).measure point = clock.measure point := by
  have still : ∀ clock : Clock, clock.anchor = some point → clock.measure point = clock := by
    intro clock anchored
    have near : ¬ longestGap < point.ticks - point.ticks := by omega
    have level : ¬ point.offset < point.offset := by omega
    simp only [measure, anchored, near, level, and_false, if_false]
  cases anchored : clock.anchor with
  | none =>
    have moved : clock.measure point = { clock with anchor := some point } := by
      rw [measure, anchored]
    rw [moved]
    exact still _ rfl
  | some anchor =>
    have measured : clock.measure point = clock ∨ (clock.measure point).anchor = some point := by
      rw [measure, anchored]
      dsimp only
      split
      · exact .inr rfl
      · split
        · exact .inr rfl
        · exact .inl rfl
    rcases measured with same | moved
    · rw [same, same]
    · exact still _ moved

/-- Measuring leaves the timeline alone. -/
theorem measure_timeline (clock : Clock) (point : ClockAnchor) :
    (clock.measure point).lastRaw = clock.lastRaw ∧
      (clock.measure point).adjust = clock.adjust ∧
      (clock.measure point).first = clock.first ∧
      (clock.measure point).last = clock.last ∧
      (clock.measure point).lastOffset = clock.lastOffset := by
  unfold measure
  cases clock.anchor with
  | none => exact ⟨rfl, rfl, rfl, rfl, rfl⟩
  | some anchor =>
    dsimp only
    split
    · exact ⟨rfl, rfl, rfl, rfl, rfl⟩
    · split <;> exact ⟨rfl, rfl, rfl, rfl, rfl⟩

/-- A reference that is taken again is counted, and nothing else. -/
theorem accept_again (clock : Clock) (raw offset : Nat) :
    (clock.accept raw offset).1.lastRaw = some raw ∧
      (clock.accept raw offset).1.first ≠ none ∧
      SameTime (clock.accept raw offset).1
        ((clock.accept raw offset).1.accept raw offset).1 := by
  let ticks := raw + clock.adjust
  let placed : Clock := { clock with
    lastRaw := some raw
    stats := { clock.stats with samples := clock.stats.samples + 1 }
    firstOffset := if clock.first.isNone then offset else clock.firstOffset
    first := some (clock.first.getD ticks)
    last := some (max (clock.last.getD ticks) ticks)
    lastOffset := max clock.lastOffset offset }
  have taken : (clock.accept raw offset).1 = placed.measure ⟨ticks, offset⟩ := rfl
  have again := measure_measure placed ⟨ticks, offset⟩
  obtain ⟨lastRaw, adjust, first, last, lastOffset⟩ := measure_timeline placed ⟨ticks, offset⟩
  rw [taken]
  generalize placed.measure ⟨ticks, offset⟩ = once at again lastRaw adjust first last lastOffset
  refine ⟨lastRaw, first ▸ Option.some_ne_none _, once.stats.samples + 1, once.stats.jitter, ?_⟩
  have known : once.first = some (clock.first.getD ticks) := first
  have latest : once.last = some (max (clock.last.getD ticks) ticks) := last
  have furthest : once.lastOffset = max clock.lastOffset offset := lastOffset
  have sameTicks : raw + once.adjust = ticks := congrArg (raw + ·) adjust
  have unmoved : (once.accept raw offset).1 =
      ({ once with stats := { once.stats with samples := once.stats.samples + 1 } } :
        Clock).measure ⟨ticks, offset⟩ := by
    obtain ⟨onceFirst, firstOffset, onceRaw, onceLast, onceOffset⟩ := once
    dsimp only at known latest furthest sameTicks lastRaw
    subst known latest furthest lastRaw
    rw [accept]
    simp only [sameTicks, Option.getD_some, Option.isNone_some, Nat.max_assoc, Nat.max_self]
    rfl
  rw [unmoved, measure_samples, again]

/-- A reference that is heard again is counted, and nothing else. -/
theorem observe_again (clock : Clock) (pcr offset : Nat) :
    SameTime (clock.observe pcr offset).1 ((clock.observe pcr offset).1.observe pcr offset).1 := by
  have taken : ∀ base : Clock,
      (clock.observe pcr offset).1 = (base.accept (pcr % Pcr.wrap) offset).1 →
      SameTime (clock.observe pcr offset).1
        ((clock.observe pcr offset).1.observe pcr offset).1 := by
    intro base once
    obtain ⟨lastRaw, _, same⟩ := accept_again base (pcr % Pcr.wrap) offset
    have near : follow (some (pcr % Pcr.wrap)) (pcr % Pcr.wrap) = .forward := by
      simp [follow]
    rw [once, observe, lastRaw]
    dsimp only
    rw [near]
    exact same
  cases judged : follow clock.lastRaw (pcr % Pcr.wrap) with
  | forward => exact taken clock (by simp only [observe, judged])
  | wrapped =>
    apply taken
    simp only [observe, judged]
    rfl
  | restarted back =>
    apply taken
    simp only [observe, judged]
    rfl
  | jitter =>
    simp only [observe, judged]
    exact ⟨_, _, rfl⟩

variable {packet : TransportPacket}

theorem hear_silent (calm : packet.discontinuity = false) (silent : packet.pcr = none)
    (clock : Clock) : clock.hear packet = clock := by
  simp [hear, calm, silent]

/-- A packet that a clock hears again is counted, and nothing else. -/
theorem hear_again (calm : packet.discontinuity = false) (clock : Clock) :
    SameTime (clock.hear packet) ((clock.hear packet).hear packet) := by
  cases carried : packet.pcr with
  | none =>
    rw [hear_silent calm carried, hear_silent calm carried]
    exact .refl clock
  | some pcr =>
    have told : ∀ clock : Clock,
        clock.hear packet = (clock.observe pcr.ticks packet.offset).1 := by
      intro clock
      simp [hear, calm, carried]
    rw [told clock, told]
    exact observe_again clock pcr.ticks packet.offset

end Clock

/-- A counter that takes a payload for no repeat expects the next one. -/
theorem ContinuityCounter.check_new {counter next : ContinuityCounter} {value : Nat}
    {status : Continuity} (judged : counter.check value true false = (status, next))
    (new : status ≠ .duplicate) (fresh : counter.last = none → counter = {}) :
    next = after value := by
  cases known : counter.last with
  | none =>
    rw [fresh known, check_fresh] at judged
    exact (Prod.mk.inj judged).2.symm
  | some previous =>
    simp only [check, known, Bool.false_eq_true, if_false, if_true, checkPayload] at judged
    split at judged
    · cases judged
      rfl
    · split at judged
      · cases judged
        exact absurd rfl new
      · cases judged
        rfl

/-- What a stream stands for, but for whether the last packet was repeated. -/
def StreamState.unrepeated (stream : StreamState) : StreamState :=
  { stream with continuity := { stream.continuity with duplicateSeen := false } }

namespace Router

variable {host : Host} {router between once twice : Router} {packet : TransportPacket}
variable {stream : StreamState} {pid : Nat}

/-! ### What sections leave of their own PID -/

/-- `Attended pid expected clock pcrPid router`: what is expected on a PID without an output is
still expected, and the clock stands as it did or has started over. -/
structure Attended (pid : Nat) (expected : StreamClass × ContinuityCounter) (clock : Clock)
    (pcrPid : Option Nat) (router : Router) : Prop where
  expects : router.expects pid = some expected
  vacant : router.outputs.get? pid = none
  unheard : router.pcrPid = none → router.clock.first = none
  clock : router.clock = clock ∧ router.pcrPid = pcrPid ∨ router.clock.first = none

/-- Sections of a table neither drop the PID of a table nor redraw its class. -/
theorem attended_enduring {cls : StreamClass} (table : cls ≠ .pes) (counter : ContinuityCounter)
    (clock : Clock) (pcrPid : Option Nat) :
    Enduring (· ≠ pid) (· ≠ cls) (Attended pid (cls, counter) clock pcrPid) where
  idle attended same := by
    refine ⟨?_, same.vacant pid attended.vacant, ?_, ?_⟩
    · rw [same.expects, attended.expects]
    · rw [same.clock, same.pcrPid]
      exact attended.unheard
    · rw [same.clock, same.pcrPid]
      exact attended.clock
  owned attended present := by
    rintro rfl
    rw [attended.vacant] at present
    cases present
  lose attended may := by
    refine ⟨?_, attended.vacant, attended.unheard, attended.clock⟩
    rw [expects_untrack, if_neg may.symm, attended.expects]
  redraw {router other} attended may pids := by
    have outputs := (retrack_rest router other pids).2.2.2.2
    refine ⟨?_, outputs ▸ attended.vacant, ?_, ?_⟩
    · rcases expects_retrack router other pids pid with same | ⟨⟨found, expected⟩, _⟩ | ⟨free, _⟩
      · rw [same, attended.expects]
      · rw [attended.expects] at expected
        cases expected
        exact absurd rfl may
      · rw [attended.expects] at free
        cases free
    · rw [clock_retrack, (retrack_course router other pids).pcrPid]
      exact attended.unheard
    · rw [clock_retrack, (retrack_course router other pids).pcrPid]
      exact attended.clock
  add {router} attended info free := by
    have different : pid ≠ info.pid := by
      rintro rfl
      obtain ⟨stream, found, expected⟩ := Option.map_eq_some_iff.mp attended.expects
      have ofClass : stream.cls = cls := congrArg Prod.fst expected
      simp [carriesTables, found, ofClass, table] at free
    refine ⟨?_, ?_, attended.unheard, attended.clock⟩
    · rw [expects_addOutput, if_neg different, attended.expects]
    · exact (NatMap.get?_insert_ne _ _ different).trans attended.vacant
  follow {router} attended other := by
    obtain ⟨expects, vacant, unheard, clock⟩ := attended
    unfold followPcrPid
    split
    · exact ⟨expects, vacant, unheard, clock⟩
    · split
      · exact ⟨expects, vacant, fun _ => rfl, .inr rfl⟩
      · rename_i idle
        have silent : router.clock.first = none := unheard (by simpa using idle)
        exact ⟨expects, vacant, fun _ => silent, .inr silent⟩
  leave attended := ⟨attended.expects, attended.vacant, fun _ => rfl, .inr rfl⟩

/-- Elementary streams and entitlement messages leave expectations and clock alone. -/
theorem passPayload_idle (found : router.streams.get? packet.pid = some stream)
    (plain : stream.reassembly.isPes = true ∨ stream.cls = .ecm ∨ stream.cls = .emm) :
    Idle router (left (passPayload host packet stream) router) := by
  unfold left passPayload
  cases packet.payload? with
  | none => exact .refl router
  | some payload =>
    dsimp only
    have asked := idle_descramble router host packet payload
    have streams := descramble_streams router host packet payload
    generalize router.descramble host packet payload = outcome at asked streams
    obtain ⟨between, payload⟩ := outcome
    rw [← streams] at found
    change Idle router (left (routePayload host packet payload stream) between)
    unfold left routePayload
    cases kind : stream.reassembly with
    | sections filter =>
      have shown : ∀ data, Keeps (Idle router) (handleSection host packet.pid stream.cls data) := by
        intro data router held
        have silent : stream.cls = .ecm ∨ stream.cls = .emm := by
          simpa [kind, Reassembly.isPes] using plain
        unfold left handleSection
        rcases silent with cls | cls
        all_goals
          rw [cls]
          dsimp only
          cases host.descrambler.isSome
          · exact held
          · exact held.trans (idle_rest ..)
      exact keeps_forEach shown _ (asked.trans (idle_collectFilter _ found))
    | pes reassembler =>
      have delivered : ∀ unit, Keeps (Idle router) (deliver host packet.pid unit) :=
        fun unit between held => held.trans (deliver_idle host packet.pid unit between)
      exact keeps_forEach delivered _ (asked.trans (idle_collectReassembler _ found))

/-- What a payload leaves of the expectation on its own PID, and of the clock. -/
theorem passPayload_own (expectant : Expectant router)
    (found : router.streams.get? packet.pid = some stream)
    (kind : stream.reassembly.isPes = true ↔ stream.cls = .pes)
    (vacant : stream.cls ≠ .pes → router.outputs.get? packet.pid = none)
    (own : packet.pid = patPid → stream.cls = .pat) :
    (left (passPayload host packet stream) router).expects packet.pid = some stream.expectation ∧
      ((left (passPayload host packet stream) router).clock = router.clock ∧
          (left (passPayload host packet stream) router).pcrPid = router.pcrPid ∨
        (left (passPayload host packet stream) router).clock.first = none) := by
  have expected : router.expects packet.pid = some stream.expectation := by
    rw [expects, found, Option.map_some]
  by_cases plain : stream.reassembly.isPes = true ∨ stream.cls = .ecm ∨ stream.cls = .emm
  · have idle : Idle router (left (passPayload host packet stream) router) :=
      passPayload_idle found plain
    exact ⟨(idle.expects packet.pid).trans expected, .inl ⟨idle.clock, idle.pcrPid⟩⟩
  · obtain ⟨sections, noEcm, noEmm⟩ : ¬ stream.reassembly.isPes = true ∧ stream.cls ≠ .ecm ∧
        stream.cls ≠ .emm := by simpa using plain
    have table : stream.cls ≠ .pes := fun pes => sections (kind.mpr pes)
    have announced : packet.pid = patPid → StreamClass.pmt ≠ stream.cls := by
      intro association
      rw [own association]
      decide
    have attended : Attended packet.pid stream.expectation router.clock router.pcrPid router :=
      ⟨expected, vacant table, expectant.unheard, .inl ⟨rfl, rfl⟩⟩
    have handled : Attended packet.pid stream.expectation router.clock router.pcrPid
        (left (passPayload host packet stream) router) :=
      passPayload_enduring
        (attended_enduring table stream.continuity router.clock router.pcrPid) noEcm.symm
        noEmm.symm announced attended found
    exact ⟨handled.expects, handled.clock⟩

/-! ### The same packet twice -/

/-- What the counter of its PID says of a packet, if the packet gets that far. -/
def judges (router : Router) (packet : TransportPacket) : Option Continuity :=
  if router.ignores packet then none
  else (router.streams.get? packet.pid).map fun stream =>
    (stream.continuity.check packet.header.continuity packet.header.hasPayload
      packet.discontinuity).1

/-- Whether a packet brings the clock its first reference. -/
def Awaits (router : Router) (packet : TransportPacket) : Prop :=
  router.keepsTime packet = true ∧ packet.pcr.isSome = true ∧ router.clock.first = none

/-- `Repeated packet once twice`: another handling of a packet counts it, and a repeat of it where
its PID is heard. Nothing else changes, but that a clock which awaits a reference gets one. -/
structure Repeated (packet : TransportPacket) (once twice : Router) : Prop where
  /-- Options, phase, tables, declined PIDs, program, clock PID and stride. -/
  setting : twice.setting = once.setting
  streams : ∀ pid, (twice.streams.get? pid).map StreamState.unrepeated =
    (once.streams.get? pid).map StreamState.unrepeated
  outputs : twice.outputs = once.outputs
  calls : twice.calls = once.calls
  counters : twice.stats =
    let counted := once.stats.recordPacket packet.pid (packet.payload?.getD []).length
      packet.header.isScrambled
    if packet.pid = nullPid then counted else counted.recordDuplicate packet.pid
  clock : once.clock.SameTime twice.clock ∨
    once.Awaits packet ∧ twice.clock = once.clock.hear packet

theorem ignores_intact (router : Router) (intact : packet.header.transportError = false) :
    router.ignores packet = (packet.pid == nullPid) := by
  simp [ignores, intact]

theorem stats_countPacket (router : Router) (intact : packet.header.transportError = false) :
    (router.countPacket packet).stats = router.stats.recordPacket packet.pid
      (packet.payload?.getD []).length packet.header.isScrambled := by
  simp [countPacket, intact]

/-- What a clock was told it is told again in vain, unless it started over between. -/
theorem sameTime_ticked (intact : packet.header.transportError = false)
    (calm : packet.discontinuity = false)
    (kept : once.clock = router.ticked packet ∧ once.pcrPid = router.pcrPid ∨
      once.clock.first = none) :
    once.clock.SameTime (once.ticked packet) ∨
      once.Awaits packet ∧ once.ticked packet = once.clock.hear packet := by
  cases own : once.keepsTime packet with
  | false =>
    have still : once.ticked packet = once.clock := by simp [ticked, own]
    exact .inl (still ▸ .refl _)
  | true =>
    have told : once.ticked packet = once.clock.hear packet := by simp [ticked, own]
    rw [told]
    rcases kept with ⟨clock, pcrPid⟩ | unheard
    · have before : router.keepsTime packet = true := by
        rwa [keepsTime, ignores_intact _ intact, ← pcrPid, ← ignores_intact once intact]
      have heard : once.clock = router.clock.hear packet := by
        rw [clock, ticked, if_pos before]
      rw [heard]
      exact .inl (Clock.hear_again calm router.clock)
    · cases carried : packet.pcr with
      | none =>
        rw [Clock.hear_silent calm carried]
        exact .inl (.refl _)
      | some pcr => exact .inr ⟨⟨own, by rw [carried]; rfl, unheard⟩, rfl⟩

/-- What a packet leaves, that goes on to its stream: its PID expects the next, and the clock stands
as it told it, or started over. -/
theorem handlePacket_admitted (sound : Sound router) (anchored : Anchored router)
    (expectant : Expectant router) (payload : packet.header.hasPayload = true)
    (calm : packet.discontinuity = false)
    (admitted : router.heed packet = (between, some stream)) :
    (left (handlePacket host packet) router).expects packet.pid =
        some (stream.cls, .after packet.header.continuity) ∧
      ((left (handlePacket host packet) router).clock = router.ticked packet ∧
          (left (handlePacket host packet) router).pcrPid = router.pcrPid ∨
        (left (handlePacket host packet) router).clock.first = none) := by
  have heeding := heeding router packet
  have heeded := expectant.heed packet
  rw [left, handlePacket_eq, admitted]
  rw [admitted] at heeding heeded
  have listens := heeding.found
  cases heeding with
  | @admitted former _ status counter stats heeds found judged new expects role =>
    have cls : stream.cls = former.cls := congrArg Prod.fst expects
    have next : stream.continuity = .after packet.header.continuity := by
      rw [payload, calm] at judged
      rw [show stream.continuity = counter from congrArg Prod.snd expects]
      refine ContinuityCounter.check_new judged new (expectant.fresh packet.pid former.cls _ ?_)
      rw [Router.expects, found]
      rfl
    have kind : stream.reassembly.isPes = true ↔ stream.cls = .pes := by
      rw [cls, show stream.reassembly.isPes = former.reassembly.isPes from congrArg Prod.snd role]
      exact sound.kinds packet.pid former found
    have own : packet.pid = patPid → stream.cls = .pat := by
      intro association
      have listened := anchored.pat
      rw [listensAs, ← association, found] at listened
      exact cls.trans (Option.some.inj listened)
    obtain ⟨outputs, _, setting⟩ := observeClock_rest (router.countPacket packet) packet
    have vacant : stream.cls ≠ .pes →
        ((router.countPacket packet).observeClock packet).outputs.get? packet.pid = none := by
      intro table
      rw [outputs]
      cases present : router.outputs.get? packet.pid with
      | none => exact present
      | some output =>
        obtain ⟨heard, there, pes⟩ := sound.heard packet.pid output present
        rw [found] at there
        cases there
        exact absurd (cls.trans pes) table
    obtain ⟨expected, clock⟩ := passPayload_own heeded listens kind vacant own
    refine ⟨expected.trans (congrArg (fun next => some (stream.cls, next)) next), ?_⟩
    rcases clock with ⟨clock, pcrPid⟩ | unheard
    · have same := congrArg Router.pcrPid setting
      exact .inl ⟨clock.trans (observeClock_clock heeds), pcrPid.trans same⟩
    · exact .inr unheard

/-- A packet that brings the value that its counter stands at is a repeat. -/
theorem handlePacket_repeat {cls : StreamClass} (host : Host)
    (payload : packet.header.hasPayload = true) (intact : packet.header.transportError = false)
    (calm : packet.discontinuity = false) (real : packet.pid ≠ nullPid)
    (expected : once.expects packet.pid = some (cls, .after packet.header.continuity))
    (clock : once.clock.SameTime (once.ticked packet) ∨
      once.Awaits packet ∧ once.ticked packet = once.clock.hear packet) :
    ∃ twice, handlePacket host packet once = .ok () twice ∧ Repeated packet once twice := by
  have heeds : once.ignores packet = false := by
    rw [ignores_intact once intact]
    exact beq_false_of_ne real
  obtain ⟨heard, there, expects⟩ := Option.map_eq_some_iff.mp expected
  have next : heard.continuity = .after packet.header.continuity := congrArg Prod.snd expects
  have repeats : heard.continuity.check packet.header.continuity packet.header.hasPayload
      packet.discontinuity =
        (.duplicate, { heard.continuity with duplicateSeen := true }) := by
    rw [payload, calm, next]
    exact ContinuityCounter.check_after_repeat rfl
  have heeding := heeding once packet
  rw [handlePacket_eq]
  generalize once.heed packet = outcome at heeding
  cases heeding with
  | ignored ignores =>
    rw [heeds] at ignores
    cases ignores
  | untracked _ free =>
    rw [there] at free
    cases free
  | admitted _ found judged new _ _ =>
    cases there.symm.trans found
    cases repeats.symm.trans judged
    exact absurd rfl new
  | repeated _ found judged counted =>
    cases there.symm.trans found
    cases repeats.symm.trans judged
    obtain ⟨outputs, calls, setting⟩ := observeClock_rest (once.countPacket packet) packet
    refine ⟨_, rfl, ?_, ?_, outputs, calls, ?_, ?_⟩
    · exact setting
    · exact NatMap.map_get?_insert _ _ there rfl
    · rw [counted, stats_countPacket once intact]
      exact (if_neg real).symm
    · rw [show _ = once.ticked packet from observeClock_clock heeds]
      exact clock

/-- A packet with payload that comes twice in a row, and is no repeat the first time: the second
time succeeds, whatever became of the first, and changes nothing but counters. -/
def DropsRepeats (router : Router) : Prop :=
  ∀ (host : Host) (packet : TransportPacket), packet.header.hasPayload = true →
    packet.header.transportError = false → packet.discontinuity = false →
    router.streams.contains packet.pid = true → router.judges packet ≠ some .duplicate →
    ∃ twice, handlePacket host packet (left (handlePacket host packet) router) = .ok () twice ∧
      Repeated packet (left (handlePacket host packet) router) twice

theorem Visited.dropsRepeats (visited : Visited router) : router.DropsRepeats := by
  intro host packet payload intact calm tracked new
  obtain ⟨sound, anchored⟩ := visited.holds booked_stable
    (fun options => ⟨ofOptions_sound options, ofOptions_anchored options⟩)
  have expectant := visited.expectant
  have heeding := heeding router packet
  cases admitted : router.heed packet with
  | mk between stream =>
    rw [admitted] at heeding
    cases heeding with
    | ignored ignores =>
      have null : packet.pid = nullPid := by
        rw [ignores_intact router intact] at ignores
        exact eq_of_beq ignores
      have dropped : ∀ router, handlePacket host packet router =
          .ok () (router.countPacket packet) := by
        intro router
        simp [handlePacket, ignores_intact _ intact, null]
      rw [left_of_ok (dropped router), dropped]
      refine ⟨_, rfl, rfl, fun _ => rfl, rfl, rfl, ?_, .inl (.refl _)⟩
      rw [stats_countPacket _ intact]
      exact (if_pos null).symm
    | untracked heeds free => simp [NatMap.contains, free] at tracked
    | repeated heeds found judged counted => simp [judges, heeds, found, judged] at new
    | admitted heeds found judged distinct expects role =>
      obtain ⟨expected, clock⟩ :=
        handlePacket_admitted sound anchored expectant payload calm admitted
      have real : packet.pid ≠ nullPid := by
        rw [ignores_intact router intact] at heeds
        exact ne_of_beq_false heeds
      exact handlePacket_repeat host payload intact calm real expected
        (sameTime_ticked intact calm clock)

end Router

/-- Whatever a session was asked, and whatever became of that: a packet that comes twice in a row
is dropped the second time. So it is in every state on the way through what a session is asked. -/
theorem Session.performAll_dropsRepeats {options : Options} {session : Session}
    (created : Session.new options = .ok session) (operations : List (Host × Session.Operation)) :
    (session.performAll operations).router.DropsRepeats ∧
      ∀ router : Router, router.Visited → router.DropsRepeats :=
  ⟨(Session.performAll_visited created operations).dropsRepeats,
    fun _ visited => visited.dropsRepeats⟩

namespace Router

/-- The bytes of a packet that starts a payload behind an adaptation field with these flags. -/
def fieldedBytes (pid : Nat) (flags : UInt8) (fields payload : Bytes) : Bytes :=
  let front := [0x47, UInt8.ofNat (0x40 + pid / 256), UInt8.ofNat pid, 0x30,
    UInt8.ofNat (fields.length + 1), flags] ++ fields ++ payload
  front ++ List.replicate (packetSize - front.length) 0xFF

/-- A packet that starts a PES packet, and may announce a break of its counter. -/
def pesStart (announced : Bool) : TransportPacket where
  header := ⟨false, true, false, 0x101, 0, 3, 0⟩
  adaptation := some { length := 1, discontinuity := announced }
  place := 564
  arrival := none
  bytes := fieldedBytes 0x101 (if announced then 0x80 else 0x00) []
    [0x00, 0x00, 0x01, 0xE0, 0x00, 0x00, 0x80, 0x00, 0x00]

/-- A session with one video stream, a unit of which is open. -/
private def unitOpened : Session :=
  let options : Options := { packetSize := some packetSize, minSyncRun := 2 }
  let session : Session := { sync := .ofOptions options, router := .ofOptions options }
  session.performAll [
    (.willing, .push (Session.sectionPacket patPid 0 Session.loneAssociation.encode)),
    (.willing, .push (Session.sectionPacket 0x100 0 (Session.videoMap 0 [0x101]).encode)),
    (.willing, .push (Session.sectionPacket 0x101 15
      [0x00, 0x01, 0xE0, 0x00, 0x00, 0x80, 0x00, 0x00]))]

/-- A start comes twice in a row. The first time it ends the unit before it, which is delivered;
the second time nothing is. -/
theorem pesStart_handled_twice :
    let router := unitOpened.router
    let once := left (handlePacket .willing (pesStart false)) router
    TransportPacket.parse (pesStart false).bytes 564 = .ok (pesStart false) ∧
      router.streams.contains 0x101 = true ∧ router.judges (pesStart false) = some .ok ∧
      once.calls.length = router.calls.length + 1 ∧
      ∃ twice, handlePacket .willing (pesStart false) once = .ok () twice ∧
        Repeated (pesStart false) once twice := by
  intro router once
  have created := Session.new_of_validate
    (rfl : Options.validate { packetSize := some packetSize, minSyncRun := 2 } = .ok ())
  have tracked : router.streams.contains 0x101 = true := by decide +kernel
  have judged : router.judges (pesStart false) = some .ok := by decide +kernel
  have new : router.judges (pesStart false) ≠ some .duplicate := by
    rw [judged]
    decide
  exact ⟨by decide +kernel, tracked, judged, by decide +kernel,
    (Session.performAll_dropsRepeats created _).1 .willing _ rfl rfl rfl tracked new⟩

/-- A packet that carries a map whose clock goes by the PID of the map, and a reference for it. -/
def clockedMap : TransportPacket where
  header := ⟨false, true, false, 0x100, 0, 3, 0⟩
  adaptation := some { length := 7, pcr := some ⟨3000, 0⟩ }
  place := 376
  arrival := none
  bytes := fieldedBytes 0x100 0x10 (Pcr.encode ⟨3000, 0⟩)
    (0x00 :: ({ Session.loneMap 0 0x1B 0x101 with pcrPid := 0x100 } : Pmt).encode)

/-- A repeat brings the clock that its own map started a first reference; and a repeat of a packet
that announces a break is taken for another packet. -/
theorem repeat_told_anew :
    (let router := (Session.ofMaps []).router
      let once := left (handlePacket .willing clockedMap) router
      let twice := left (handlePacket .willing clockedMap) once
      TransportPacket.parse clockedMap.bytes 376 = .ok clockedMap ∧ router.Visited ∧
        router.streams.contains 0x100 = true ∧ router.judges clockedMap = some .first ∧
        once.clock.first = none ∧ twice.clock.first = some 900000) ∧
    (let router := (Session.ofMaps [Session.loneMap 0 0x1B 0x101]).router
      let once := left (handlePacket .willing (pesStart true)) router
      let twice := left (handlePacket .willing (pesStart true)) once
      TransportPacket.parse (pesStart true).bytes 564 = .ok (pesStart true) ∧ router.Visited ∧
        router.streams.contains 0x101 = true ∧ router.judges (pesStart true) = some .first ∧
        once.calls.length = 1 ∧ twice.calls.length = 2) := by
  constructor
  · exact ⟨by decide +kernel, Session.fed_visited _, by decide +kernel, by decide +kernel,
      by decide +kernel, by decide +kernel⟩
  · exact ⟨by decide +kernel, Session.fed_visited _, by decide +kernel, by decide +kernel,
      by decide +kernel, by decide +kernel⟩

end Router

end TransportStream
