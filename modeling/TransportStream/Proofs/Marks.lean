import TransportStream.Proofs.PresentationTimes

/-!
Marks on an output: the next unit is to carry the discontinuity flag. A mark is used up by the next
packet that does not carry the flag by itself. Packets that do leave it waiting, so that one mark
can be behind the flag of two units: of a flagged one, and of the next that is not.
-/
namespace TransportStream

/-- What an output is asked to do while its stream runs. -/
inductive OutputCall where
  | mark
  | deliver (packet : PesPacket) (firstPcr : Option Nat)
  deriving DecidableEq, Repr

namespace OutputCall

def isDelivery : OutputCall → Bool
  | .mark => false
  | .deliver _ _ => true

/-- Whether a call delivers a packet that does not carry the flag by itself. -/
def isPlainDelivery : OutputCall → Bool
  | .mark => false
  | .deliver packet _ => !packet.discontinuity

/-- Whether a mark was made, with no call of a kind since then. -/
def MarkedSince (kind : OutputCall → Bool) (calls : List OutputCall) : Prop :=
  ∃ front back, calls = front ++ .mark :: back ∧ ∀ call ∈ back, kind call = false

theorem markedSince_cons {kind : OutputCall → Bool} {call : OutputCall}
    {others : List OutputCall} :
    MarkedSince kind (call :: others) ↔
      (call = .mark ∧ ∀ other ∈ others, kind other = false) ∨ MarkedSince kind others := by
  constructor
  · rintro ⟨front, back, split, none⟩
    rcases List.cons_eq_append_iff.mp split with ⟨_, same⟩ | ⟨front, _, same⟩
    · obtain ⟨mark, rfl⟩ := List.cons.inj same
      exact .inl ⟨mark.symm, none⟩
    · exact .inr ⟨front, back, same, none⟩
  · rintro (⟨rfl, none⟩ | ⟨front, back, rfl, none⟩)
    · exact ⟨[], others, rfl, none⟩
    · exact ⟨call :: front, back, rfl, none⟩

instance decidableMarkedSince (kind : OutputCall → Bool) :
    (calls : List OutputCall) → Decidable (MarkedSince kind calls)
  | [] => .isFalse (by simp [MarkedSince])
  | call :: others =>
    have := decidableMarkedSince kind others
    decidable_of_iff _ (@markedSince_cons kind call others).symm

/-- A mark that no packet followed was followed by no packet of a kind either. -/
theorem MarkedSince.of_isDelivery {calls : List OutputCall}
    (marked : MarkedSince isDelivery calls) : MarkedSince isPlainDelivery calls := by
  obtain ⟨front, back, split, none⟩ := marked
  refine ⟨front, back, split, fun call member => ?_⟩
  have idle := none call member
  cases call with
  | mark => rfl
  | deliver packet firstPcr => cases idle

end OutputCall

namespace Output

open OutputCall (MarkedSince isDelivery isPlainDelivery)

/-- Does what a call asks; the unit it makes is left out. -/
def perform (output : Output) : OutputCall → Output
  | .mark => output.markDiscontinuity
  | .deliver packet firstPcr => (output.deliver packet firstPcr).1

/-- Answers calls in turn. -/
def performAll (output : Output) (calls : List OutputCall) : Output := calls.foldl perform output

variable {output : Output} {packet : PesPacket}

/-- A running output makes a unit of every packet, flagged if the packet is or a mark waits. -/
theorem deliver_flag (running : output.ended = false) (packet : PesPacket)
    (firstPcr : Option Nat) :
    ∃ unit, (output.deliver packet firstPcr).2 = some unit ∧
      unit.discontinuity = (packet.discontinuity || output.pendingDiscontinuity) ∧
      (output.deliver packet firstPcr).1.ended = false ∧
      (output.deliver packet firstPcr).1.pendingDiscontinuity =
        (packet.discontinuity && output.pendingDiscontinuity) := by
  simp [deliver, running]

/-- The step lemma: a mark waits, and waits on unless a plain packet is delivered. -/
theorem perform_pending (running : output.ended = false) (call : OutputCall) :
    (output.perform call).ended = false ∧
      ((output.perform call).pendingDiscontinuity = true ↔
        call = .mark ∨ output.pendingDiscontinuity = true ∧ call.isPlainDelivery = false) := by
  cases call with
  | mark => exact ⟨running, by simp [perform, markDiscontinuity]⟩
  | deliver packet firstPcr =>
    obtain ⟨_, _, _, still, pending⟩ := deliver_flag running packet firstPcr
    refine ⟨still, ?_⟩
    rw [perform, pending]
    simp [isPlainDelivery, and_comm]

/-- The run lemma: a mark waits if one was made, or waited before, and no plain packet was
delivered since. -/
theorem performAll_pending (running : output.ended = false) (calls : List OutputCall) :
    (output.performAll calls).ended = false ∧
      ((output.performAll calls).pendingDiscontinuity = true ↔
        MarkedSince isPlainDelivery calls ∨
          output.pendingDiscontinuity = true ∧ ∀ call ∈ calls, call.isPlainDelivery = false) := by
  induction calls generalizing output with
  | nil => exact ⟨running, by simp [performAll, MarkedSince]⟩
  | cons call others ih =>
    obtain ⟨still, waits⟩ := perform_pending running call
    obtain ⟨ended, pending⟩ := ih still
    refine ⟨ended, ?_⟩
    rw [performAll, List.foldl_cons, ← performAll, pending, waits,
      OutputCall.markedSince_cons, List.forall_mem_cons]
    constructor
    · rintro (marked | ⟨mark | ⟨waited, passed⟩, none⟩)
      · exact .inl (.inr marked)
      · exact .inl (.inl ⟨mark, none⟩)
      · exact .inr ⟨waited, passed, none⟩
    · rintro ((⟨mark, none⟩ | marked) | ⟨waited, passed, none⟩)
      · exact .inr ⟨.inl mark, none⟩
      · exact .inl marked
      · exact .inr ⟨.inr ⟨waited, passed⟩, none⟩

/-- Whatever a fresh output was asked before: the next packet makes a unit, and that carries the
flag exactly if the packet does, or a mark was made and every packet delivered since was flagged
itself. Marks made since the packet before decide it exactly if the packet is flagged, or no mark
from before that packet waits. -/
theorem next_unit_flagged_iff (info : StreamInfo) (sink : Nat) (calls : List OutputCall)
    (packet : PesPacket) (firstPcr : Option Nat) :
    ∃ unit, ((performAll { info, sink } calls).deliver packet firstPcr).2 = some unit ∧
      (unit.discontinuity = true ↔
        packet.discontinuity = true ∨ MarkedSince isPlainDelivery calls) ∧
      ((unit.discontinuity = true ↔
          packet.discontinuity = true ∨ MarkedSince isDelivery calls) ↔
        packet.discontinuity = true ∨
          (MarkedSince isPlainDelivery calls → MarkedSince isDelivery calls)) := by
  have fresh : ({ info, sink } : Output).ended = false := rfl
  obtain ⟨running, pending⟩ := performAll_pending fresh calls
  obtain ⟨unit, made, flag, _⟩ := deliver_flag running packet firstPcr
  have flagged : unit.discontinuity = true ↔
      packet.discontinuity = true ∨ MarkedSince isPlainDelivery calls := by
    rw [flag, Bool.or_eq_true, pending]
    simp
  refine ⟨unit, made, flagged, ?_⟩
  rw [flagged]
  constructor
  · intro decided
    by_cases own : packet.discontinuity = true
    · exact .inl own
    · exact .inr fun waits => (decided.mp (.inr waits)).resolve_left own
  · rintro (own | since)
    · exact ⟨fun _ => .inl own, fun _ => .inl own⟩
    · exact ⟨Or.imp_right since, Or.imp_right MarkedSince.of_isDelivery⟩

/-- A PES packet with one byte, flagged or not. -/
def shortPacket (discontinuity : Bool) : PesPacket where
  header := {
    streamId := 0xE0, packetLength := 0, dataAlignment := false, pts := none, dts := none
    size := 9 }
  payload := [0x78]
  discontinuity := discontinuity
  randomAccess := false
  offset := 0

/-- A mark, then a flagged packet, which uses nothing up: the unit of the plain packet behind it
carries the flag as well, though no mark was made in between. -/
theorem flag_told_twice :
    let calls : List OutputCall := [.mark, .deliver (shortPacket true) none]
    ((videoOutput.performAll calls).deliver (shortPacket false) none).2.map
        AccessUnit.discontinuity = some true ∧
      (shortPacket false).discontinuity = false ∧ ¬ MarkedSince isDelivery calls := by
  exact ⟨rfl, rfl, by decide⟩

end Output

end TransportStream
