import TransportStream.Proofs.ParallelRuns

/-!
A packet that carries no table concerns the lane of its PID alone: the stream, its output and
its sink; and the clock, if it goes by that PID. What a lane comes to is decided by its own
packets, whatever goes by in between.
-/
namespace TransportStream

variable {timed : Nat → Bool}

/-- What is kept for a PID: its stream, and its output with what the sink was told, as they are
seen, newest call first. -/
structure Lane where
  stream : Option StreamState
  served : Option (Output × List Call)

namespace Lane

/-- An output hands on what it makes of a PES packet. Where times count, it has a time base and
asks no clock. -/
def serve (timed : Nat → Bool) (served : Output × List Call) (packet : PesPacket) :
    Output × List Call :=
  let (output, told) := served
  let (next, unit) := output.deliver packet none
  let calls := unit.map fun unit => (Call.deliver output.sink unit none).seen timed
  (next.seen timed, calls.toList ++ told)

/-- A packet comes in on the PID. -/
def hear (timed : Nat → Bool) (lane : Lane) (packet : TransportPacket) : Lane :=
  match lane.stream with
  | none => lane
  | some stream =>
    let (stream, complete) := stream.receive packet
    { stream := some stream
      served := lane.served.map fun served => complete.foldl (serve timed) served }

end Lane

/-- A time base stays. -/
theorem Output.deliver_timeBase {output : Output} (packet : PesPacket) (firstPcr : Option Nat)
    (set : output.timeBase.isSome = true) :
    (output.deliver packet firstPcr).1.timeBase.isSome = true := by
  obtain ⟨base, set⟩ := Option.isSome_iff_exists.mp set
  unfold deliver
  split <;> simp [baseFor, set]

namespace Router

variable {host : Host} {router before between after : Router} {pid sink : Nat}

/-- The output of a PID with what its sink was told. -/
def served (router : Router) (timed : Nat → Bool) (pid : Nat) : Option (Output × List Call) :=
  (router.outputs.get? pid).map fun output =>
    (output.seen timed, (told router.calls output.sink).map (Call.seen timed))

def lane (router : Router) (timed : Nat → Bool) (pid : Nat) : Lane :=
  { stream := router.streams.get? pid, served := router.served timed pid }

/-- Whether a packet is heard on a PID. -/
def hearsOn (router : Router) (pid : Nat) (packet : TransportPacket) : Bool :=
  packet.pid == pid && !router.ignores packet

/-- Whether outputs have a time base wherever times count. -/
def Based (timed : Nat → Bool) (router : Router) : Prop :=
  ∀ pid output, router.outputs.get? pid = some output → timed output.sink = true →
    output.timeBase.isSome = true

/-- `Handed timed pid before after`: units were handed to the sink of a PID, and nothing else
was done. -/
structure Handed (timed : Nat → Bool) (pid : Nat) (before after : Router) : Prop where
  roles : SameRoles before after
  core : after.core = before.core
  others : ∀ other, other ≠ pid → after.outputs.get? other = before.outputs.get? other
  told : ∀ sink, ¬Feeds before pid sink → told after.calls sink = told before.calls sink
  asked : after.calls.filter Call.asks = before.calls.filter Call.asks
  based : Based timed before → Based timed after

theorem told_append (front back : List Call) (sink : Nat) :
    told (front ++ back) sink = told front sink ++ told back sink := List.filter_append ..

theorem Handed.refl (router : Router) : Handed timed pid router router :=
  ⟨.refl router, rfl, fun _ _ => rfl, fun _ _ => rfl, rfl, id⟩

theorem Handed.trans (first : Handed timed pid before between)
    (second : Handed timed pid between after) : Handed timed pid before after where
  roles := first.roles.trans second.roles
  core := second.core.trans first.core
  others other different := (second.others other different).trans (first.others other different)
  told sink elsewhere := by
    rw [second.told sink (fun feeds => elsewhere (feeds.of_roles first.roles.symm)),
      first.told sink elsewhere]
  asked := second.asked.trans first.asked
  based := second.based ∘ first.based

theorem deliver_handed (reliable : host.Reliable) (pid : Nat) (packet : PesPacket)
    (based : Based timed router) :
    ∃ after, deliver host pid packet router = .ok () after ∧ Handed timed pid router after ∧
      after.served timed pid = (router.served timed pid).map (Lane.serve timed · packet) := by
  have roles := (deliver_steady host pid packet router).roles
  cases found : router.outputs.get? pid with
  | none =>
    refine ⟨router, deliver_absent host packet found, .refl router, ?_⟩
    simp [served, found]
  | some output =>
    have delivered := deliver_reliable reliable packet found
    rw [left_of_ok delivered] at roles
    have owner := Output.owner_deliver output packet router.clock.first
    have sinks : (output.deliver packet router.clock.first).1.sink = output.sink :=
      congrArg Prod.snd owner
    have handed : ∀ sink, told ((output.deliver packet router.clock.first).2.map
        (fun unit => Call.deliver output.sink unit none)).toList sink =
      if output.sink = sink then ((output.deliver packet router.clock.first).2.map
        (fun unit => Call.deliver output.sink unit none)).toList else [] := by
      intro sink
      cases (output.deliver packet router.clock.first).2 with
      | none => simp [told]
      | some unit => by_cases own : output.sink = sink <;> simp [told, Call.tells, own]
    refine ⟨_, delivered, ⟨roles, rfl, ?_, ?_, ?_, ?_⟩, ?_⟩
    · exact fun other different => NatMap.get?_insert_ne _ _ different
    · intro sink elsewhere
      have foreign : output.sink ≠ sink := fun own => elsewhere ⟨output, found, own⟩
      rw [told_append, handed, if_neg foreign, List.nil_append]
    · cases (output.deliver packet router.clock.first).2 <;> rfl
    · intro based other current there counts
      rw [NatMap.get?_insert] at there
      split at there
      · cases there
        rw [sinks] at counts
        exact Output.deliver_timeBase packet _ (based pid output found counts)
      · exact based other current there counts
    · obtain ⟨next, units⟩ := output.deliver_seen packet router.clock.first none
        (fun counts => .inl (based pid output found counts))
      simp only [served, NatMap.get?_insert_self, found, Option.map_some, Lane.serve, sinks,
        Output.seen_sink, ← next, ← units]
      rw [told_append, handed, if_pos rfl, List.map_append, ← Option.toList_map, Option.map_map]
      rfl

theorem deliverEach_handed (reliable : host.Reliable) (pid : Nat) (packets : List PesPacket)
    (based : Based timed router) :
    ∃ after, forEach packets (deliver host pid) router = .ok () after ∧
      Handed timed pid router after ∧
      after.served timed pid =
        (router.served timed pid).map fun served => packets.foldl (Lane.serve timed) served := by
  induction packets generalizing router with
  | nil => exact ⟨router, rfl, .refl router, by simp⟩
  | cons packet others ih =>
    obtain ⟨between, done, handed, served⟩ := deliver_handed reliable pid packet based
    obtain ⟨after, doneToo, handedToo, servedToo⟩ := ih (handed.based based)
    refine ⟨after, by rw [forEach, bind_of_ok done, doneToo], handed.trans handedToo, ?_⟩
    rw [servedToo, served, Option.map_map]
    rfl

/-! ### Packets -/

/-- `Went timed packets before after`: packets went by, and each lane heard its own. -/
structure Went (timed : Nat → Bool) (packets : List TransportPacket) (before after : Router) :
    Prop where
  roles : SameRoles before after
  setting : after.setting = before.setting
  clock : after.clock = (packets.filter before.keepsTime).foldl Clock.hear before.clock
  lane : ∀ pid, after.lane timed pid =
    (packets.filter (before.hearsOn pid)).foldl (Lane.hear timed) (before.lane timed pid)
  told : ∀ sink, (∀ pid, ¬Feeds before pid sink) → told after.calls sink = told before.calls sink
  asked : after.calls.filter Call.asks = before.calls.filter Call.asks
  based : Based timed before → Based timed after

theorem Went.refl (router : Router) : Went timed [] router router :=
  ⟨.refl router, rfl, rfl, fun _ => rfl, fun _ _ => rfl, rfl, id⟩

/-- What is heard where depends on the setting only. -/
theorem keepsTime_of_setting (same : after.setting = before.setting) :
    after.keepsTime = before.keepsTime := by
  have read : ∀ router : Router, router.setting.keepsTime = router.keepsTime := fun _ => rfl
  rw [← read after, same, read]

theorem hearsOn_of_setting (same : after.setting = before.setting) (pid : Nat) :
    after.hearsOn pid = before.hearsOn pid := by
  have read : ∀ router : Router, router.setting.hearsOn pid = router.hearsOn pid := fun _ => rfl
  rw [← read after, same, read]

theorem Went.trans {front back : List TransportPacket} (first : Went timed front before between)
    (second : Went timed back between after) : Went timed (front ++ back) before after where
  roles := first.roles.trans second.roles
  setting := second.setting.trans first.setting
  clock := by
    rw [second.clock, first.clock, keepsTime_of_setting first.setting, List.filter_append,
      List.foldl_append]
  lane pid := by
    rw [second.lane, first.lane, hearsOn_of_setting first.setting, List.filter_append,
      List.foldl_append]
  told sink elsewhere := by
    rw [second.told sink (fun pid feeds => elsewhere pid (feeds.of_roles first.roles.symm)),
      first.told sink elsewhere]
  asked := second.asked.trans first.asked
  based := second.based ∘ first.based

theorem setting_of_core (same : after.core = before.core) : after.setting = before.setting := by
  have read : ∀ router : Router, router.core.setting = router.setting := fun _ => rfl
  rw [← read after, same, read]

theorem served_congr (outputs : after.outputs = before.outputs) (calls : after.calls = before.calls)
    (pid : Nat) : after.served timed pid = before.served timed pid := by
  rw [served, served, outputs, calls]

/-- The lane of another PID is left alone when units are handed on. -/
theorem Handed.served_other {other : Nat} (handed : Handed timed pid before after)
    (sound : Sound before) (different : other ≠ pid) :
    after.served timed other = before.served timed other := by
  unfold served
  rw [handed.others other different]
  cases found : before.outputs.get? other with
  | none => rfl
  | some output =>
    have elsewhere : ¬Feeds before pid output.sink := by
      rintro ⟨own, present, shared⟩
      exact different (sound.alone other pid output own found present shared.symm)
    rw [Option.map_some, Option.map_some, handed.told _ elsewhere]

theorem ticked_eq (router : Router) (packet : TransportPacket) :
    ([packet].filter router.keepsTime).foldl Clock.hear router.clock = router.ticked packet := by
  unfold ticked
  by_cases keeps : router.keepsTime packet = true <;> simp [keeps]

/-- A packet that goes no further than the counters and the clock. -/
theorem went_unheard {packet : TransportPacket} (roles : SameRoles before after)
    (setting : after.setting = before.setting) (streams : after.streams = before.streams)
    (outputs : after.outputs = before.outputs) (calls : after.calls = before.calls)
    (clock : after.clock = before.ticked packet)
    (unheard : before.ignores packet = true ∨ before.streams.get? packet.pid = none) :
    Went timed [packet] before after where
  roles := roles
  setting := setting
  clock := by rw [ticked_eq, clock]
  lane pid := by
    have same : after.lane timed pid = before.lane timed pid := by
      rw [lane, lane, streams, served_congr outputs calls]
    by_cases hears : before.hearsOn pid packet = true
    · obtain ⟨own, heeds⟩ := Bool.and_eq_true_iff.mp hears
      have deaf : before.streams.get? pid = none := by
        rw [beq_iff_eq] at own
        subst own
        exact unheard.resolve_left (by simpa using heeds)
      rw [List.filter_cons_of_pos hears, same]
      simp [Lane.hear, lane, deaf]
    · rw [List.filter_cons_of_neg hears, same]
      rfl
  told sink _ := by rw [calls]
  asked := by rw [calls]
  based based := by
    unfold Based
    rw [outputs]
    exact based

/-- A packet that is received on its PID, with the units that it completes. -/
theorem went_heard {packet : TransportPacket} {stream : StreamState} (sound : Sound before)
    (heeds : before.ignores packet = false)
    (found : before.streams.get? packet.pid = some stream)
    (heard : Heard packet.pid (stream.receive packet).1 before between)
    (clock : between.clock = before.ticked packet)
    (handed : Handed timed packet.pid between after)
    (served : after.served timed packet.pid = (between.served timed packet.pid).map fun served =>
      (stream.receive packet).2.foldl (Lane.serve timed) served) :
    Went timed [packet] before after where
  roles := heard.roles.trans handed.roles
  setting := (setting_of_core handed.core).trans heard.setting
  clock := by
    have clocks : after.core.clock = between.core.clock := by rw [handed.core]
    rw [ticked_eq, ← clock]
    exact clocks
  lane pid := by
    have streams : after.core.streams = between.core.streams := by rw [handed.core]
    change after.streams = between.streams at streams
    rw [heard.streams] at streams
    by_cases own : packet.pid = pid
    · subst own
      have hears : before.hearsOn packet.pid packet = true := by simp [hearsOn, heeds]
      rw [List.filter_cons_of_pos hears, lane, streams, served,
        served_congr heard.outputs heard.calls]
      simp [Lane.hear, lane, found]
    · have deaf : ¬before.hearsOn pid packet = true := by simp [hearsOn, own]
      rw [List.filter_cons_of_neg deaf, lane, streams, NatMap.get?_insert_ne _ _ (Ne.symm own),
        handed.served_other (sound.quiet heard.roles) (Ne.symm own),
        served_congr heard.outputs heard.calls]
      rfl
  told sink elsewhere := by
    rw [handed.told sink (fun feeds => elsewhere _ (feeds.of_roles heard.roles.symm)), heard.calls]
  asked := by rw [handed.asked, heard.calls]
  based based := by
    apply handed.based
    unfold Based
    rw [heard.outputs]
    exact based

/-- A packet that carries no table. -/
theorem handlePacket_went (reliable : host.Reliable) (undescrambled : host.descrambler = none)
    (sound : Sound router) (based : Based timed router) {packet : TransportPacket}
    (untabled : Untabled router packet) :
    ∃ after, handlePacket host packet router = .ok () after ∧ Went timed [packet] router after := by
  have counted := sameRoles_countPacket router packet
  by_cases ignored : router.ignores packet = true
  · have still : router.ticked packet = router.clock := by simp [ticked, keepsTime, ignored]
    have passed : handlePacket host packet router = .ok () (router.countPacket packet) := by
      unfold handlePacket
      exact if_pos ignored
    exact ⟨_, passed, went_unheard counted rfl rfl rfl rfl still.symm (.inl ignored)⟩
  · have heeds := eq_false_of_ne_true ignored
    cases found : router.streams.get? packet.pid with
    | none =>
      obtain ⟨outputs, calls, setting⟩ := observeClock_rest (router.countPacket packet) packet
      have streams := observeClock_streams (router.countPacket packet) packet
      have passed : handlePacket host packet router =
          .ok () ((router.countPacket packet).observeClock packet) := by
        have heedsCounted : (router.countPacket packet).ignores packet = false := heeds
        have unheard : ((router.countPacket packet).observeClock packet).streams.get? packet.pid =
          none := by rw [streams]; exact found
        simp only [handlePacket, heedsCounted, Bool.false_eq_true, if_false, unheard]
      exact ⟨_, passed, went_unheard (counted.trans (sameRoles_observeClock _ packet)) setting
        streams outputs calls (observeClock_clock heeds) (.inr found)⟩
    | some stream =>
      obtain ⟨between, equation, heard, clock⟩ := handlePacket_receive heeds
        (.inl undescrambled) (untabled.pes sound heeds found) found
      have basedStill : Based timed between := by
        unfold Based
        rw [heard.outputs]
        exact based
      obtain ⟨after, done, handed, served⟩ :=
        deliverEach_handed reliable packet.pid (stream.receive packet).2 basedStill
      exact ⟨after, equation.trans done,
        went_heard sound heeds found heard clock handed served⟩

/-- Packets that carry no table go by one after another. -/
theorem handleEach_went (reliable : host.Reliable) (undescrambled : host.descrambler = none)
    (sound : Sound router) (based : Based timed router) {packets : List TransportPacket}
    (untabled : ∀ packet ∈ packets, Untabled router packet) :
    ∃ after, forEach packets (handlePacket host) router = .ok () after ∧
      Went timed packets router after := by
  induction packets generalizing router with
  | nil => exact ⟨router, rfl, .refl router⟩
  | cons packet others ih =>
    obtain ⟨first, later⟩ := List.forall_mem_cons.mp untabled
    obtain ⟨between, done, went⟩ := handlePacket_went reliable undescrambled sound based first
    have still : ∀ other ∈ others, Untabled between other := by
      intro other member
      unfold Untabled
      rw [went.roles.carriesTables]
      exact later other member
    obtain ⟨after, doneToo, wentToo⟩ := ih (sound.quiet went.roles) (went.based based) still
    exact ⟨after, by rw [forEach, bind_of_ok done, doneToo], went.trans wentToo⟩

/-! ### Two ways to interleave -/

/-- The packets of a PID are the same in both, in the same order. -/
def SameLanes (first second : List TransportPacket) : Prop :=
  ∀ pid, first.filter (fun packet => packet.pid == pid) =
    second.filter (fun packet => packet.pid == pid)

variable {first second : List TransportPacket}

/-- Only the PIDs that packets have can tell two interleavings apart. -/
theorem SameLanes.of_pids {pids : List Nat} (within : ∀ packet ∈ first ++ second, packet.pid ∈ pids)
    (each : ∀ pid ∈ pids, first.filter (fun packet => packet.pid == pid) =
      second.filter (fun packet => packet.pid == pid)) : SameLanes first second := by
  intro pid
  by_cases own : pid ∈ pids
  · exact each pid own
  · have nothing : ∀ packets ⊆ first ++ second,
        packets.filter (fun packet => packet.pid == pid) = [] := by
      intro packets inside
      refine List.filter_eq_nil_iff.mpr fun packet member same => own ?_
      exact eq_of_beq same ▸ within packet (inside member)
    rw [nothing first (List.subset_append_left ..), nothing second (List.subset_append_right ..)]

theorem SameLanes.mem_iff (same : SameLanes first second) (packet : TransportPacket) :
    packet ∈ first ↔ packet ∈ second := by
  have own : ∀ packets : List TransportPacket,
      packet ∈ packets ↔ packet ∈ packets.filter (fun other => other.pid == packet.pid) := by
    simp [List.mem_filter]
  rw [own first, own second, same packet.pid]

theorem SameLanes.heard (same : SameLanes first second) (router : Router) (pid : Nat) :
    first.filter (router.hearsOn pid) = second.filter (router.hearsOn pid) := by
  have within : ∀ packets : List TransportPacket, packets.filter (router.hearsOn pid) =
      (packets.filter (fun packet => packet.pid == pid)).filter
        (fun packet => !router.ignores packet) := by
    intro packets
    rw [List.filter_filter]
    exact List.filter_congr (fun packet _ => Bool.and_comm ..)
  rw [within, within, same]

/-- The clock goes by the packets of one PID. -/
theorem SameLanes.clocked (same : SameLanes first second) (router : Router) :
    first.filter router.keepsTime = second.filter router.keepsTime := by
  cases clockPid : router.pcrPid with
  | none =>
    have idle : ∀ packets : List TransportPacket, packets.filter router.keepsTime = [] :=
      fun packets => List.filter_eq_nil_iff.mpr (by simp [keepsTime, clockPid])
    rw [idle, idle]
  | some pid =>
    have own : router.keepsTime = router.hearsOn pid := by
      funext packet
      simp [keepsTime, hearsOn, clockPid, Bool.and_comm, Bool.beq_comm]
    rw [own, same.heard]

/-- However packets that carry no table are interleaved, the routers behind them are parallel. -/
theorem Went.parallel {one two : Router} (went : Went timed first router one)
    (wentToo : Went timed second router two) (same : SameLanes first second) :
    Parallel timed one two := by
  have lanes : ∀ pid, one.lane timed pid = two.lane timed pid := by
    intro pid
    rw [went.lane, wentToo.lane, same.heard]
  have streams : one.streams = two.streams :=
    NatMap.ext_get? (fun pid => congrArg Lane.stream (lanes pid))
  have served : ∀ pid, one.served timed pid = two.served timed pid :=
    fun pid => congrArg Lane.served (lanes pid)
  have clocks : one.clock = two.clock := by rw [went.clock, wentToo.clock, same.clocked]
  refine ⟨?_, ?_, ?_, ?_⟩
  · have settings := went.setting.trans wentToo.setting.symm
    have put : ∀ router : Router,
        { router.setting with streams := router.streams, clock := router.clock } = router.core :=
      fun _ => rfl
    rw [← put one, ← put two, settings, streams, clocks]
  · apply NatMap.ext_get?
    intro pid
    have outputs := congrArg (Option.map Prod.fst) (served pid)
    simpa [Router.served, Function.comp_def] using outputs
  · rw [went.asked, wentToo.asked]
  · intro sink
    by_cases fed : ∃ pid, Feeds router pid sink
    · obtain ⟨pid, feeds⟩ := fed
      obtain ⟨output, found, own⟩ := feeds.of_roles went.roles
      obtain ⟨other, there, otherOwn⟩ := feeds.of_roles wentToo.roles
      have told := congrArg (Option.map Prod.snd) (served pid)
      simpa [Router.served, found, there, own, otherOwn] using told
    · rw [went.told sink (fun pid feeds => fed ⟨pid, feeds⟩),
        wentToo.told sink (fun pid feeds => fed ⟨pid, feeds⟩)]

end Router

end TransportStream
