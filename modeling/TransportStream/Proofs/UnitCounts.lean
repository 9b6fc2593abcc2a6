import TransportStream.Proofs.Closing
import TransportStream.Proofs.Durability

/-!
What the counters of access units count. A packet that completes on a PID with an output is counted
before the output is asked for a unit, and an output that has ended makes none. So the counters
come to the units that were handed to sinks and the packets that were missed in this way, which
can only be once an end of input has ended outputs and the session goes on.
-/
namespace TransportStream

namespace Call

/-- Whether a call hands a unit to a sink. -/
def isUnit : Call → Bool
  | .deliver _ _ _ => true
  | .create _ _ | .finish _ _ _ | .entitlement _ _ _ | .descramble _ _ _ _ => false

/-- Whether a call hands a unit of a PID to a sink. -/
def isUnitOf (pid : Nat) : Call → Bool
  | .deliver _ unit _ => unit.pid == pid
  | .create _ _ | .finish _ _ _ | .entitlement _ _ _ | .descramble _ _ _ _ => false

/-- Whether a call opens this sink for a stream on a PID. -/
def opens (pid sink : Nat) : Call → Bool
  | .create info opened => info.pid == pid && opened == some sink
  | .deliver _ _ _ | .finish _ _ _ | .entitlement _ _ _ | .descramble _ _ _ _ => false

theorem isUnitOf_of_silent {call : Call} (silent : call.isUnit = false) (pid : Nat) :
    call.isUnitOf pid = false := by
  cases call with
  | deliver => cases silent
  | create | finish | entitlement | descramble => rfl

theorem silent_of_nobody {call : Call} (nobody : call.sink? = none) :
    call.isUnit = false ∧ ∀ pid sink, call.opens pid sink = false := by
  cases call with
  | create info opened =>
    obtain rfl : opened = none := nobody
    exact ⟨rfl, fun pid sink => by simp [opens]⟩
  | deliver | finish => cases nobody
  | entitlement | descramble => exact ⟨rfl, fun _ _ => rfl⟩

end Call

/-- Whether one of these calls opened a sink for a stream on a PID. -/
def opened (calls : List Call) (pid sink : Nat) : Bool := calls.any (Call.opens pid sink)

/-- Whether a call hands a unit to a sink that one of these calls opened on a PID. -/
def Call.isUnitFor (calls : List Call) (pid : Nat) : Call → Bool
  | .deliver sink _ _ => opened calls pid sink
  | .create _ _ | .finish _ _ _ | .entitlement _ _ _ | .descramble _ _ _ _ => false

theorem opened_cons (call : Call) (calls : List Call) (pid sink : Nat) :
    opened (call :: calls) pid sink = (call.opens pid sink || opened calls pid sink) :=
  List.any_cons

theorem opened_later {calls : List Call} {pid sink : Nat} (former : opened calls pid sink = true)
    (call : Call) : opened (call :: calls) pid sink = true := by
  rw [opened_cons, former, Bool.or_true]

/-! ### Counts -/

theorem Stats.units?_recordAccessUnit (stats : Stats) (pid : Nat) (pts : Option Nat)
    (other : Nat) : (stats.recordAccessUnit pid pts).units? other =
      if other = pid then (stats.units? pid).map (· + 1) else stats.units? other := by
  unfold units? recordAccessUnit
  rw [NatMap.get?_modify]
  split
  · simp [Function.comp_def]
  · rfl

theorem Stats.counted_recordAccessUnit (stats : Stats) (pid : Nat) (pts : Option Nat)
    (other : Nat) (counted : (stats.units? other).isSome = true) :
    ((stats.recordAccessUnit pid pts).units? other).isSome = true := by
  rw [units?_recordAccessUnit]
  split
  · rename_i same
    rw [Option.isSome_map, ← same]
    exact counted
  · exact counted

theorem Stats.SameUnits.counted {before after : Stats} (same : before.SameUnits after) {pid : Nat}
    (counted : (before.units? pid).isSome = true) : (after.units? pid).isSome = true := by
  rcases same.each pid with units | ⟨-, fresh⟩
  · rw [units]
    exact counted
  · rw [fresh]
    rfl

/-- The counters come to the units that calls handed over and the packets that were missed, each
listed by its PID. -/
structure Tallies (calls : List Call) (missed : List Nat) (stats : Stats) : Prop where
  total : stats.session.accessUnits = calls.countP Call.isUnit + missed.length
  each : ∀ pid, (stats.units? pid).getD 0 = calls.countP (Call.isUnitOf pid) + missed.count pid

namespace Tallies

variable {calls : List Call} {missed : List Nat} {stats after : Stats} {pid : Nat}

theorem quiet (tallies : Tallies calls missed stats) (same : stats.SameUnits after) :
    Tallies calls missed after where
  total := same.total.trans tallies.total
  each pid := by
    rw [← tallies.each pid]
    rcases same.each pid with units | ⟨uncounted, fresh⟩
    · rw [units]
    · rw [uncounted, fresh]
      rfl

theorem silent (tallies : Tallies calls missed stats) {call : Call}
    (silent : call.isUnit = false) : Tallies (call :: calls) missed stats where
  total := by
    rw [List.countP_cons_of_neg (by simp [silent])]
    exact tallies.total
  each pid := by
    rw [List.countP_cons_of_neg (by simp [Call.isUnitOf_of_silent silent])]
    exact tallies.each pid

theorem units_recordAccessUnit (tallies : Tallies calls missed stats)
    (counted : (stats.units? pid).isSome = true) (pts : Option Nat) (other : Nat) :
    ((stats.recordAccessUnit pid pts).units? other).getD 0 =
      calls.countP (Call.isUnitOf other) + missed.count other + if pid = other then 1 else 0 := by
  obtain ⟨units, found⟩ := Option.isSome_iff_exists.mp counted
  rw [Stats.units?_recordAccessUnit, ← tallies.each other]
  by_cases same : other = pid
  · subst same
    simp [found]
  · simp [same, Ne.symm same]

/-- A packet is counted and no unit made of it. -/
theorem miss (tallies : Tallies calls missed stats)
    (counted : (stats.units? pid).isSome = true) (pts : Option Nat) :
    Tallies calls (missed ++ [pid]) (stats.recordAccessUnit pid pts) where
  total := by
    have total := tallies.total
    simp only [Stats.recordAccessUnit, List.length_append, List.length_singleton]
    omega
  each other := by
    rw [tallies.units_recordAccessUnit counted pts other, List.count_append,
      List.count_singleton, Nat.add_assoc]
    simp only [beq_iff_eq]

/-- A packet is counted and its unit handed over. -/
theorem hand (tallies : Tallies calls missed stats) {unit : AccessUnit}
    (counted : (stats.units? unit.pid).isSome = true) (pts : Option Nat) (sink : Nat)
    (failure : Option String) :
    Tallies (.deliver sink unit failure :: calls) missed
      (stats.recordAccessUnit unit.pid pts) where
  total := by
    have total := tallies.total
    rw [List.countP_cons_of_pos rfl]
    simp only [Stats.recordAccessUnit]
    omega
  each other := by
    rw [tallies.units_recordAccessUnit counted pts other, List.countP_cons]
    simp only [Call.isUnitOf, beq_iff_eq]
    omega

end Tallies

namespace Router

variable {host : Host} {router before after : Router} {pid : Nat} {missed older : List Nat}

/-! ### The books of a router -/

/-- The counters of a router tally, those of packets `missed` included. Outputs stand under the
PIDs of their streams, which are counted and for which their sinks were opened; so were those that
units went to, and no sink was opened for two PIDs. -/
structure Ledger (missed : List Nat) (router : Router) : Prop where
  tallies : Tallies router.calls missed router.stats
  named : router.Named
  counted : ∀ pid output, router.outputs.get? pid = some output →
    (router.stats.units? pid).isSome = true
  held : ∀ pid output, router.outputs.get? pid = some output →
    opened router.calls pid output.sink = true
  fed : ∀ sink unit failure, .deliver sink unit failure ∈ router.calls →
    opened router.calls unit.pid sink = true
  bounded : ∀ pid sink, opened router.calls pid sink = true → sink < router.sinks
  alone : ∀ pid other sink, opened router.calls pid sink = true →
    opened router.calls other sink = true → pid = other

/-- An output is replaced by one of the same stream and sink. -/
theorem outputs_insert {output next : Output} (found : router.outputs.get? pid = some output)
    (owner : next.owner = output.owner) (other : Nat) (current : Output)
    (present : (router.outputs.insert pid next).get? other = some current) :
    ∃ former, router.outputs.get? other = some former ∧ current.owner = former.owner := by
  rw [NatMap.get?_insert] at present
  split at present
  · rename_i same
    cases present
    exact ⟨output, same ▸ found, owner⟩
  · exact ⟨current, present, rfl⟩

namespace Ledger

/-- The counters tally anew. No sink is opened, outputs go or are replaced by others of the same
stream and sink, and units go to sinks that were opened for their PIDs. -/
theorem step {missing : List Nat} (ledger : Ledger missed before)
    (tallies : Tallies after.calls missing after.stats)
    (counted : ∀ pid, (before.stats.units? pid).isSome = true →
      (after.stats.units? pid).isSome = true)
    (outputs : ∀ pid output, after.outputs.get? pid = some output →
      ∃ former, before.outputs.get? pid = some former ∧ output.owner = former.owner)
    (same : ∀ pid sink, opened after.calls pid sink = opened before.calls pid sink)
    (fed : ∀ sink unit failure, .deliver sink unit failure ∈ after.calls →
      opened before.calls unit.pid sink = true)
    (sinks : after.sinks = before.sinks) : Ledger missing after where
  tallies := tallies
  named pid output found := by
    obtain ⟨former, present, owner⟩ := outputs pid output found
    rw [← ledger.named pid former present]
    exact congrArg (fun owner => owner.1.pid) owner
  counted pid output found := by
    obtain ⟨former, present, -⟩ := outputs pid output found
    exact counted pid (ledger.counted pid former present)
  held pid output found := by
    obtain ⟨former, present, owner⟩ := outputs pid output found
    have sink : output.sink = former.sink := congrArg Prod.snd owner
    rw [same, sink]
    exact ledger.held pid former present
  fed sink unit failure member := (same _ _).trans (fed sink unit failure member)
  bounded := by simpa only [same, sinks] using ledger.bounded
  alone := by simpa only [same] using ledger.alone

/-- No unit is counted and no call made. -/
theorem reoutput (ledger : Ledger missed before)
    (outputs : ∀ pid output, after.outputs.get? pid = some output →
      ∃ former, before.outputs.get? pid = some former ∧ output.owner = former.owner)
    (calls : after.calls = before.calls) (sinks : after.sinks = before.sinks)
    (units : before.stats.SameUnits after.stats) : Ledger missed after :=
  ledger.step (calls ▸ ledger.tallies.quiet units) (fun _ => units.counted) outputs
    (fun _ _ => by rw [calls]) (calls ▸ ledger.fed) sinks

theorem quiet (ledger : Ledger missed before) (same : Quiet before after) :
    Ledger missed after :=
  ledger.reoutput (fun _ output found => ⟨output, same.outputs ▸ found, rfl⟩) same.calls
    same.sinks same.units

/-- A call that neither opens a sink nor hands it a unit. -/
theorem recorded (ledger : Ledger missed router) {call : Call} (silent : call.isUnit = false)
    (closed : ∀ pid sink, call.opens pid sink = false) : Ledger missed (router.record call) := by
  refine ledger.step (ledger.tallies.silent silent) (fun _ counted => counted)
    (fun _ output found => ⟨output, found, rfl⟩) ?_ ?_ rfl
  · intro pid sink
    simp [record, opened_cons, closed]
  · intro sink unit failure member
    rcases List.mem_cons.mp member with rfl | former
    · cases silent
    · exact ledger.fed sink unit failure former

/-- A packet is given to an output that makes no unit of it. -/
theorem miss (ledger : Ledger missed router) {output next : Output}
    (found : router.outputs.get? pid = some output) (owner : next.owner = output.owner)
    (pts : Option Nat) : Ledger (missed ++ [pid]) { router with
      stats := router.stats.recordAccessUnit pid pts
      outputs := router.outputs.insert pid next } :=
  ledger.step (ledger.tallies.miss (ledger.counted pid output found) pts)
    (Stats.counted_recordAccessUnit _ pid pts) (outputs_insert found owner) (fun _ _ => rfl)
    ledger.fed rfl

/-- A packet is given to an output, and the unit made of it to the sink. -/
theorem hand (ledger : Ledger missed router) {output next : Output} {unit : AccessUnit}
    (found : router.outputs.get? pid = some output) (owner : next.owner = output.owner)
    (own : unit.pid = output.info.pid) (pts : Option Nat) (failure : Option String) :
    Ledger missed ({ router with
      stats := router.stats.recordAccessUnit pid pts
      outputs := router.outputs.insert pid next }.record
        (.deliver output.sink unit failure)) := by
  obtain rfl : unit.pid = pid := own.trans (ledger.named pid output found)
  refine ledger.step (ledger.tallies.hand (ledger.counted _ output found) pts output.sink failure)
    (Stats.counted_recordAccessUnit _ _ pts) (outputs_insert found owner) ?_ ?_ rfl
  · intro pid sink
    exact opened_cons ..
  · intro sink other failure member
    rcases List.mem_cons.mp member with new | former
    · cases new
      exact ledger.held _ output found
    · exact ledger.fed sink other failure former

/-- A sink is opened for a stream, and its output starts. -/
theorem create (ledger : Ledger missed router) (info : StreamInfo) :
    Ledger missed ((router.record (.create info (some router.sinks))).addOutput info) := by
  have opens : ∀ pid sink,
      opened (.create info (some router.sinks) :: router.calls) pid sink = true ↔
        (info.pid = pid ∧ router.sinks = sink) ∨ opened router.calls pid sink = true := by
    intro pid sink
    simp [opened_cons, Call.opens]
  have grown := Stats.sameUnits_addStream router.stats info.pid .pes
  exact {
    tallies := (ledger.tallies.silent rfl).quiet grown
    named := ledger.named.insert rfl
    counted pid output found := by
      simp only [addOutput, record] at found ⊢
      rw [NatMap.get?_insert] at found
      split at found
      · rename_i here
        subst here
        simp [Stats.units?, Stats.addStream]
      · exact grown.counted (ledger.counted pid output found)
    held pid output found := by
      simp only [addOutput, record] at found ⊢
      rw [opens]
      rw [NatMap.get?_insert] at found
      split at found
      · rename_i here
        cases found
        exact .inl ⟨here.symm, rfl⟩
      · exact .inr (ledger.held pid output found)
    fed sink unit failure member := by
      rcases List.mem_cons.mp member with new | former
      · cases new
      · exact opened_later (ledger.fed sink unit failure former) _
    bounded pid sink known := by
      rcases (opens pid sink).mp known with ⟨-, rfl⟩ | former
      · exact Nat.lt_succ_self _
      · exact Nat.lt_succ_of_lt (ledger.bounded pid sink former)
    alone pid other sink one two := by
      -- serial numbers are not used twice
      have fresh : ∀ pid, opened router.calls pid router.sinks ≠ true := fun pid former =>
        absurd (ledger.bounded pid _ former) (Nat.lt_irrefl _)
      rcases (opens pid sink).mp one with ⟨rfl, rfl⟩ | former
      · rcases (opens other router.sinks).mp two with ⟨rfl, -⟩ | former
        · rfl
        · exact absurd former (fresh other)
      · rcases (opens other sink).mp two with ⟨rfl, rfl⟩ | formerToo
        · exact absurd former (fresh pid)
        · exact ledger.alone pid other sink former formerToo }

theorem start (options : Options) : Ledger [] (ofOptions options) := by
  have fresh : Stats.SameUnits {} (ofOptions options).stats :=
    (Stats.sameUnits_addStream _ patPid .pat).trans (Stats.sameUnits_addStream _ catPid .cat)
  have empty : Tallies [] [] {} := ⟨rfl, fun _ => rfl⟩
  exact {
    tallies := empty.quiet fresh
    named := fun pid output found => by cases found
    counted := fun pid output found => by cases found
    held := fun pid output found => by cases found
    fed := fun sink unit failure member => by cases member
    bounded := fun pid sink known => by cases known
    alone := fun pid other sink known => by cases known }

/-- Units of a PID are the units that went to the sinks opened for it. -/
theorem countP_isUnitFor (ledger : Ledger missed router) (pid : Nat) :
    router.calls.countP (Call.isUnitFor router.calls pid) =
      router.calls.countP (Call.isUnitOf pid) := by
  apply List.countP_congr
  intro call member
  cases call with
  | create | finish | entitlement | descramble => rfl
  | deliver sink unit failure =>
    have own := ledger.fed sink unit failure member
    simp only [Call.isUnitFor, Call.isUnitOf, beq_iff_eq]
    constructor
    · exact ledger.alone unit.pid pid sink own
    · rintro rfl
      exact own

end Ledger

/-! ### What a delivery counts -/

/-- Whether a PID has an output that has ended. -/
def HasEnded (router : Router) (pid : Nat) : Prop :=
  ∃ output, router.outputs.get? pid = some output ∧ output.ended = true

/-- An output is replaced by one that has not ended, unless it had. -/
theorem HasEnded.of_insert {output next : Output} {other : Nat}
    (hasEnded : after.HasEnded other) (outputs : after.outputs = router.outputs.insert pid next)
    (found : router.outputs.get? pid = some output)
    (ends : next.ended = true → output.ended = true) : router.HasEnded other := by
  obtain ⟨current, present, ended⟩ := hasEnded
  rw [outputs, NatMap.get?_insert] at present
  split at present
  · rename_i same
    cases present
    exact ⟨output, same ▸ found, ends ended⟩
  · exact ⟨current, present, ended⟩

/-- What a packet for an output leaves behind. It is counted; an output that has ended makes no
unit of it, any other one that goes to its sink. -/
inductive Delivered (pid : Nat) (pts : Option Nat) (router : Router) (output : Output) :
    Router → Prop where
  | missed (ended : output.ended = true) : Delivered pid pts router output { router with
      stats := router.stats.recordAccessUnit pid pts
      outputs := router.outputs.insert pid output }
  | handed {next : Output} {unit : AccessUnit} {failure : Option String}
      (running : output.ended = false) (still : next.ended = false)
      (owner : next.owner = output.owner) (own : unit.pid = output.info.pid) :
      Delivered pid pts router output ({ router with
        stats := router.stats.recordAccessUnit pid pts
        outputs := router.outputs.insert pid next }.record (.deliver output.sink unit failure))

theorem deliver_spec (host : Host) (packet : PesPacket) {output : Output}
    (found : router.outputs.get? pid = some output) :
    Delivered pid packet.header.pts router output (left (deliver host pid packet) router) := by
  unfold left deliver
  rw [found]
  by_cases ended : output.ended = true
  · simp only [Output.deliver, if_pos ended]
    exact .missed ended
  · have running : output.ended = false := eq_false_of_ne_true ended
    obtain ⟨next, unit, made, owner, still, own⟩ : ∃ next unit,
        output.deliver packet router.clock.first = (next, some unit) ∧
          next.owner = output.owner ∧ next.ended = false ∧ unit.pid = output.info.pid := by
      unfold Output.deliver
      rw [if_neg ended]
      exact ⟨_, _, rfl, rfl, running, rfl⟩
    have sink : next.sink = output.sink := congrArg Prod.snd owner
    simp only [made]
    change Delivered _ _ _ _ (left (handUnit host next.sink unit) _)
    rw [left_handUnit, sink]
    exact .handed running still owner own

/-- Whatever becomes of a packet, it is counted, and it is handed over as a unit unless its output
has ended. -/
theorem Delivered.counts {output : Output} {pts : Option Nat}
    (delivered : Delivered pid pts router output after) :
    after.stats.session.accessUnits = router.stats.session.accessUnits + 1 ∧
      after.calls.countP Call.isUnit =
        router.calls.countP Call.isUnit + if output.ended then 0 else 1 := by
  cases delivered with
  | missed ended => exact ⟨rfl, by rw [if_pos ended]; rfl⟩
  | handed running still owner own =>
    refine ⟨rfl, ?_⟩
    rw [running]
    exact List.countP_cons_of_pos rfl

/-! ### While an operation runs -/

/-- `During waits ended older router`: an operation is under way that found ended outputs on the
PIDs `ended`, when `older` had been missed. Since then only packets on such PIDs were missed, and
of the PIDs that packets still wait for, only such have an output that has ended. -/
structure During (waits ended : Nat → Prop) (older : List Nat) (router : Router) : Prop where
  ledger : ∃ late, Ledger (older ++ late) router ∧ ∀ pid ∈ late, ended pid
  waiting : ∀ pid, waits pid → router.HasEnded pid → ended pid

variable {waits waitsThen ended : Nat → Prop}

namespace During

theorem mono (during : During waits ended older router)
    (fewer : ∀ pid, waitsThen pid → waits pid) : During waitsThen ended older router :=
  ⟨during.ledger, fun pid waiting => during.waiting pid (fewer pid waiting)⟩

/-- No packet is missed and no output that waits ends. -/
theorem step (during : During waits ended older before)
    (books : ∀ {missed}, Ledger missed before → Ledger missed after)
    (ends : ∀ pid, waitsThen pid → after.HasEnded pid → waits pid ∧ before.HasEnded pid) :
    During waitsThen ended older after := by
  obtain ⟨late, ledger, ended⟩ := during.ledger
  refine ⟨⟨late, books ledger, ended⟩, fun pid waiting hasEnded => ?_⟩
  obtain ⟨waited, ending⟩ := ends pid waiting hasEnded
  exact during.waiting pid waited ending

theorem quiet (during : During waits ended older before) (same : Quiet before after) :
    During waits ended older after := by
  refine during.step (fun ledger => ledger.quiet same) ?_
  rintro pid waiting ⟨output, found, ending⟩
  exact ⟨waiting, output, same.outputs ▸ found, ending⟩

end During

theorem deliver_during (host : Host) (packet : PesPacket) (waiting : waits pid) :
    Keeps (During waits ended older) (deliver host pid packet) := by
  intro router during
  cases found : router.outputs.get? pid with
  | none =>
    unfold left deliver
    rw [found]
    exact during
  | some output =>
    have delivered := deliver_spec host packet found
    generalize left (deliver host pid packet) router = after at delivered
    obtain ⟨late, ledger, ending⟩ := during.ledger
    cases delivered with
    | missed spent =>
      -- no output on a PID that waits has ended since the operation began
      have there : router.HasEnded pid := ⟨output, found, spent⟩
      have booked := ledger.miss found rfl packet.header.pts
      rw [List.append_assoc] at booked
      refine ⟨⟨late ++ [pid], booked, ?_⟩, fun other waits hasEnded => ?_⟩
      · exact List.forall_mem_append.mpr
          ⟨ending, List.forall_mem_singleton.mpr (during.waiting pid waiting there)⟩
      · exact during.waiting other waits (hasEnded.of_insert rfl found id)
    | handed running still owner own =>
      refine during.step (fun ledger => ledger.hand found owner own _ _) ?_
      intro other waits hasEnded
      exact ⟨waits, hasEnded.of_insert rfl found (fun spent => by rw [still] at spent; cases spent)⟩

theorem durable_during (host : Host) (ended : Nat → Prop) (older : List Nat) :
    Durable host (During (fun _ => True) ended older) where
  quiet := During.quiet
  deliver pid packet := deliver_during host packet trivial
  ask during call nobody := by
    obtain ⟨silent, closed⟩ := Call.silent_of_nobody nobody
    exact during.step (fun ledger => ledger.recorded silent closed)
      (fun pid _ hasEnded => ⟨trivial, hasEnded⟩)
  create during info := by
    refine during.step (fun ledger => ledger.create info) ?_
    rintro pid - ⟨output, found, spent⟩
    simp only [addOutput, record] at found
    rw [NatMap.get?_insert] at found
    split at found
    · cases found
      cases spent
    · exact ⟨trivial, output, found, spent⟩
  remove {router} during pid := by
    have kept : ∀ other output, (router.outputs.erase pid).get? other = some output →
        router.outputs.get? other = some output := by
      intro other output found
      rw [NatMap.get?_erase] at found
      split at found
      · cases found
      · exact found
    refine during.step (fun ledger => ledger.reoutput
      (fun other output found => ⟨output, kept other output found, rfl⟩) rfl rfl (.refl _)) ?_
    rintro other - ⟨output, found, spent⟩
    exact ⟨trivial, output, kept other output found, spent⟩
  finish during sink pid failure :=
    during.step (fun ledger => ledger.recorded rfl (fun _ _ => rfl))
      (fun pid _ hasEnded => ⟨trivial, hasEnded⟩)

/-! ### Closing -/

theorem endOutput_during (host : Host) {others : List Nat} (apart : pid ∉ others)
    (during : During (· ∈ pid :: others) ended older router) :
    During (· ∈ others) ended older (left (endOutput host pid) router) := by
  have fewer : During (· ∈ others) ended older router :=
    during.mono (fun other member => List.mem_cons_of_mem pid member)
  unfold left
  rw [endOutput_eq]
  cases found : router.outputs.get? pid with
  | none => exact fewer
  | some output =>
    by_cases spent : output.ended = true
    · simp only [spent, if_true]
      exact fewer
    · simp only [spent]
      change During _ _ _ (left (endSink host output.sink pid) _)
      rw [left_endSink]
      have marked : ∀ {missed}, Ledger missed router → Ledger missed { router with
          outputs := router.outputs.insert pid output.markEnded } :=
        fun ledger => ledger.reoutput (outputs_insert found rfl) rfl rfl (.refl _)
      refine fewer.step (fun ledger => (marked ledger).recorded rfl (fun _ _ => rfl)) ?_
      -- the output that ends does not wait any more
      rintro other waits ⟨current, present, ending⟩
      have different : other ≠ pid := fun same => apart (same ▸ waits)
      rw [record, NatMap.get?_insert_ne _ _ different] at present
      exact ⟨waits, current, present, ending⟩

theorem closeOutput_during (host : Host) {others : List Nat} (apart : pid ∉ others)
    (during : During (· ∈ pid :: others) ended older router) :
    During (· ∈ others) ended older (left (closeOutput host pid) router) := by
  have drained : During (· ∈ pid :: others) ended older (left (drainOutput host pid) router) :=
    drainOutput_durable During.quiet
      (fun packet => deliver_during host packet List.mem_cons_self) router during
  exact leads_bind drained
    (fun _ held => held.mono (fun other member => List.mem_cons_of_mem pid member))
    (fun _ _ held => endOutput_during host apart held)

/-- Every output is drained before it ends. -/
theorem closeEach_during (host : Host) {pids : List Nat} (distinct : pids.Nodup)
    (during : During (· ∈ pids) ended older router) :
    During (fun _ => False) ended older (left (forEach pids (closeOutput host)) router) := by
  induction pids generalizing router with
  | nil => exact during.mono (fun _ none => none.elim)
  | cons pid others ih =>
    obtain ⟨apart, rest⟩ := List.nodup_cons.mp distinct
    exact leads_bind (closeOutput_during host apart during)
      (fun _ held => held.mono (fun _ none => none.elim)) (fun _ _ held => ih rest held)

theorem closeAll_during (host : Host) (during : During (fun _ => True) ended older router) :
    During (fun _ => False) ended older (left (closeAll host) router) :=
  closeEach_during host (NatMap.keys_nodup router.outputs) (during.mono (fun _ _ => trivial))

theorem flush_during (during : During waits ended older router) :
    During waits ended older router.flush := by
  have marked : ∀ pid output, router.flush.outputs.get? pid = some output →
      ∃ former, router.outputs.get? pid = some former ∧ output.owner = former.owner ∧
        output.ended = former.ended := by
    intro pid output found
    rw [flush, NatMap.get?_map, Option.map_eq_some_iff] at found
    obtain ⟨former, present, rfl⟩ := found
    exact ⟨former, present, rfl, rfl⟩
  refine during.step (fun ledger => ledger.reoutput ?_ rfl rfl (.refl _)) ?_
  · intro pid output found
    obtain ⟨former, present, owner, -⟩ := marked pid output found
    exact ⟨former, present, owner⟩
  · rintro pid waits ⟨output, found, spent⟩
    obtain ⟨former, present, -, same⟩ := marked pid output found
    exact ⟨waits, former, present, same ▸ spent⟩

end Router

namespace Session

open Router (During Ledger)

variable {host : Host} {session : Session} {ended : Nat → Prop} {missed older : List Nat}

theorem push_during (host : Host) (session : Session) (data : Bytes)
    (during : During (fun _ => True) ended older session.router) :
    During (fun _ => True) ended older (left (session.push host data)).router :=
  push_durable (Router.durable_during host ended older) during data

theorem finish_during (host : Host) (session : Session)
    (during : During (fun _ => True) ended older session.router) :
    During (fun _ => False) ended older (left (session.finish host)).router := by
  by_cases spent : session.phase = .ended
  · unfold finish
    rw [if_pos spent]
    exact during.mono (fun _ _ => trivial)
  · have drained : During (fun _ => True) ended older (session.atEnd host).router :=
      drain_durable (Router.durable_during host ended older) during
    have closed := Router.closeAll_during host drained
    unfold Router.left at closed
    cases result : Router.closeAll host (session.atEnd host).router with
    | ok value after =>
      rw [result] at closed
      rw [finish_of_ok spent result]
      exact closed.quiet ⟨rfl, rfl, rfl, .refl _⟩
    | error error after =>
      rw [result] at closed
      rw [finish_of_error spent result]
      exact closed

/-- Before the end of input, no output ends. -/
theorem perform_during_running (operation : Operation) (running : operation.finishes = false)
    (during : During (fun _ => True) ended older session.router) :
    During (fun _ => True) ended older (session.perform host operation).router :=
  perform_running (push_during host) (fun _ _ held => Router.flush_during held) operation running
    during

theorem perform_during (operation : Operation)
    (during : During (fun _ => True) ended older session.router) :
    During (fun _ => False) ended older (session.perform host operation).router := by
  cases running : operation.finishes with
  | false => exact (perform_during_running operation running during).mono (fun _ _ => trivial)
  | true =>
    cases operation with
    | finish => exact finish_during host session during
    | run source =>
      exact run_holds (push_during host) (fun _ held => held.mono (fun _ _ => trivial))
        (finish_during host) source during
    | push | flush | seek | seekSource | pump => cases running

/-- The packets missed, operation by operation: none but on PIDs whose outputs an operation found
ended. -/
theorem performAll_ledger (operations : List (Host × Operation))
    (ledger : Ledger older session.router) :
    ∃ missed : List (List Nat), missed.length = operations.length ∧
      (∀ n, Ledger (older ++ (missed.take n).flatten)
        (session.performAll (operations.take n)).router) ∧
      ∀ n late, missed[n]? = some late →
        ∀ pid ∈ late, (session.performAll (operations.take n)).router.HasEnded pid := by
  induction operations generalizing session older with
  | nil =>
    refine ⟨[], rfl, fun n => ?_, fun n late present => by cases present⟩
    rw [List.take_nil, List.take_nil, List.flatten_nil, List.append_nil]
    exact ledger
  | cons step others ih =>
    have start : During (fun _ => True) session.router.HasEnded older session.router := by
      refine ⟨⟨[], ?_, List.forall_mem_nil _⟩, fun _ _ hasEnded => hasEnded⟩
      rwa [List.append_nil]
    obtain ⟨early, booked, ended⟩ := (@perform_during step.1 session _ _ step.2 start).ledger
    obtain ⟨missed, length, books, places⟩ := ih booked
    refine ⟨early :: missed, congrArg Nat.succ length, fun n => ?_, fun n late present => ?_⟩
    · cases n with
      | zero =>
        rw [List.take_zero, List.take_zero, List.flatten_nil, List.append_nil]
        exact ledger
      | succ n =>
        rw [List.take_succ_cons, List.take_succ_cons, List.flatten_cons, ← List.append_assoc]
        exact books n
    · cases n with
      | zero =>
        cases present
        exact ended
      | succ n => exact places n late present

/-- No output has ended before an end of input came. -/
theorem performAll_running {operations : List (Host × Operation)}
    (running : ∀ step ∈ operations, step.2.finishes = false)
    (during : During (fun _ => True) ended older session.router) :
    During (fun _ => True) ended older (session.performAll operations).router := by
  induction operations generalizing session with
  | nil => exact during
  | cons step others ih =>
    obtain ⟨first, rest⟩ := List.forall_mem_cons.mp running
    exact ih rest (perform_during_running step.2 first during)

theorem new_ledger {options : Options} (created : new options = .ok session) :
    Ledger [] session.router := by
  rw [new_ok created]
  exact .start options

/-- An output of a new session can only have ended once an end of input came. -/
theorem finishes_of_hasEnded {options : Options} (created : new options = .ok session)
    {operations : List (Host × Operation)} {pid : Nat}
    (hasEnded : (session.performAll operations).router.HasEnded pid) :
    ∃ step ∈ operations, step.2.finishes = true := by
  cases finishing : operations.any (fun step => step.2.finishes) with
  | true => exact List.any_eq_true.mp finishing
  | false =>
    have running : ∀ step ∈ operations, step.2.finishes = false :=
      fun step member => eq_false_of_ne_true (List.any_eq_false.mp finishing step member)
    have start : During (fun _ => True) (fun _ => False) [] session.router := by
      refine ⟨⟨[], new_ledger created, List.forall_mem_nil _⟩, ?_⟩
      rintro pid - ⟨output, found, -⟩
      rw [new_ok created] at found
      cases found
    exact ((performAll_running running start).waiting pid trivial hasEnded).elim

/-- Whatever is asked of a session, its counters of access units come at any time to the units
that were handed to sinks, failures included, and the packets that were missed so far, in all and
for each PID. What an operation misses are packets on PIDs whose outputs it found ended, behind
another operation that came to the end of input. For, of all packets that are given to outputs,
each is counted, and handed over as a unit only if the output has not ended. -/
theorem units_tally {options : Options} (created : new options = .ok session)
    (operations : List (Host × Operation)) :
    (∃ missed : List (List Nat), missed.length = operations.length ∧
      (∀ n, let router := (session.performAll (operations.take n)).router
        router.stats.session.accessUnits =
          router.calls.countP Call.isUnit + (missed.take n).flatten.length ∧
        ∀ pid, (router.stats.units? pid).getD 0 =
          router.calls.countP (Call.isUnitFor router.calls pid) +
            (missed.take n).flatten.count pid) ∧
      ∀ n late, missed[n]? = some late →
        ∀ pid ∈ late, (session.performAll (operations.take n)).router.HasEnded pid ∧
          ∃ former ∈ operations.take n, former.2.finishes = true) ∧
    let router := (session.performAll operations).router
    ∀ host pid packet output, router.outputs.get? pid = some output →
      let after := Router.left (Router.deliver host pid packet) router
      after.stats.session.accessUnits = router.stats.session.accessUnits + 1 ∧
        after.calls.countP Call.isUnit =
          router.calls.countP Call.isUnit + if output.ended then 0 else 1 := by
  obtain ⟨missed, length, books, places⟩ := performAll_ledger operations (new_ledger created)
  refine ⟨⟨missed, length, fun n => ?_, fun n late present pid member => ?_⟩, ?_⟩
  · have ledger := books n
    rw [List.nil_append] at ledger
    refine ⟨ledger.tallies.total, fun pid => ?_⟩
    rw [ledger.countP_isUnitFor]
    exact ledger.tallies.each pid
  · have hasEnded := places n late present pid member
    exact ⟨hasEnded, finishes_of_hasEnded created hasEnded⟩
  · intro router host pid packet output found
    exact (Router.deliver_spec host packet found).counts

/-- A stream is announced and the input ends. It goes on with two packets on the stream's PID, and
ends again. -/
def resumed : List (Host × Operation) :=
  let association : Pat :=
    { version := 0, currentNext := true, number := 0, last := 0, streamId := 1
      programs := [⟨1, 0x100⟩], networkPid := none }
  -- what opens a PES packet without timestamps, behind its first byte
  let opening : Bytes := [0x00, 0x01, 0xE0, 0x00, 0x00, 0x80, 0x00, 0x00]
  [(.willing, .push (sectionPacket patPid 0 association.encode)),
    (.willing, .push (sectionPacket 0x100 0 (loneMap 0 0x1B 0x101).encode)),
    (.willing, .finish), (.willing, .flush),
    (.willing, .push (sectionPacket 0x101 0 opening ++ sectionPacket 0x101 1 opening)),
    (.willing, .finish)]

/-- Two units were counted and none was handed over. -/
theorem resumed_counts :
    let options : Options := { packetSize := some packetSize, minSyncRun := 2 }
    let session : Session := { sync := .ofOptions options, router := .ofOptions options }
    let router := (session.performAll resumed).router
    new options = .ok session ∧ router.stats.session.accessUnits = 2 ∧
      router.stats.units? 0x101 = some 2 ∧ router.calls.countP Call.isUnit = 0 :=
  ⟨rfl, by decide +kernel, by decide +kernel, by decide +kernel⟩

/-- So some of the operations found the output of the stream ended. -/
theorem resumed_finds_ended :
    let options : Options := { packetSize := some packetSize, minSyncRun := 2 }
    let session : Session := { sync := .ofOptions options, router := .ofOptions options }
    ∃ n, (session.performAll (resumed.take n)).router.HasEnded 0x101 ∧
      ∃ former ∈ resumed.take n, former.2.finishes = true := by
  have created := new_of_validate
    (rfl : Options.validate { packetSize := some packetSize, minSyncRun := 2 } = .ok ())
  intro options session
  obtain ⟨⟨missed, length, tallies, places⟩, -⟩ := units_tally created resumed
  have counted : ((session.performAll resumed).router.stats.units? 0x101).getD 0 = 2 := by
    decide +kernel
  have handed : (session.performAll resumed).router.calls.countP
      (Call.isUnitFor (session.performAll resumed).router.calls 0x101) = 0 := by
    decide +kernel
  have own := (tallies resumed.length).2 0x101
  rw [List.take_length, ← length, List.take_length, counted, handed] at own
  have missing : 0x101 ∈ missed.flatten := List.count_pos_iff.mp (by omega)
  obtain ⟨late, among, member⟩ := List.mem_flatten.mp missing
  obtain ⟨n, present⟩ := List.mem_iff_getElem?.mp among
  exact ⟨n, places n late present 0x101 member⟩

end Session

end TransportStream
