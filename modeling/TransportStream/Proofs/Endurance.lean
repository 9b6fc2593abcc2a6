import TransportStream.Proofs.Chunking
import TransportStream.Proofs.FramingBudget

/-!
What a session endures. Whatever bytes are pushed, it fails for want of a frame only: when a search
for the frame went behind too much, or when the stream ends and there never was one. It then
fails at every further piece, and its end closes all outputs nevertheless.
-/
namespace TransportStream

open Synchronizer (Accounts Exhausted Overspends)

namespace Session

variable {host : Host} {session start : Session} {items : List SyncItem} {limit total : Nat}

/-! ### Pieces of a stream -/

/-- The session behind pieces of its stream, also of those at which it failed. -/
def pushEach (host : Host) (session : Session) (chunks : List Bytes) : Session :=
  chunks.foldl (fun session chunk => left (session.push host chunk)) session

/-- The items that framing gives for a piece of the stream. -/
def pieceItems (session : Session) (data : Bytes) : List SyncItem :=
  if session.phase = .ended ∨ data = [] then [] else (session.sync.push data).drain.2.1

/-- The items that framing gives for pieces of the stream. -/
def itemsOf (host : Host) (session : Session) : List Bytes → List SyncItem
  | [] => []
  | chunk :: chunks =>
    session.pieceItems chunk ++ itemsOf host (left (session.push host chunk)) chunks

/-- The items that framing gives when the stream ends. -/
def endItems (session : Session) : List SyncItem := session.sync.finish.drain.2.1

theorem sync_awaken (session : Session) : session.awaken.sync = session.sync := by
  unfold awaken
  split <;> rfl

/-- What an operation failed with, if it did. -/
def failure {α : Type} : SessionResult α → Option Error
  | .ok _ _ => none
  | .error error _ => some error

/-- With sinks that never fail, a session fares with a piece as framing does. -/
theorem push_framing (reliable : host.Reliable) {data : Bytes}
    (heeded : ¬(session.phase = .ended ∨ data = [])) :
    failure (session.push host data) = (session.sync.push data).drain.2.2 ∧
      (left (session.push host data)).sync = (session.sync.push data).drain.1 := by
  unfold push
  rw [if_neg heeded]
  dsimp only
  rw [drain_eq reliable, sync_awaken]
  dsimp only
  cases (session.sync.push data).drain.2.2 <;> exact ⟨rfl, rfl⟩

theorem push_unheeded {data : Bytes} (unheeded : session.phase = .ended ∨ data = []) :
    session.push host data = .ok () session := if_pos unheeded

/-! ### What is kept while pieces come in -/

/-- A session that took in so many bytes and has not ended, with what framing gave so far. -/
structure Running (limit total : Nat) (items : List SyncItem) (session : Session) : Prop where
  phase : session.phase ≠ .ended
  orderly : session.Orderly
  accounts : Accounts limit items session.sync
  received : session.sync.received = total

theorem new_running {options : Options} (created : new options = .ok session) :
    Running options.maxResyncBytes 0 [] session := by
  have orderly := new_orderly created
  rw [new_ok created] at orderly ⊢
  exact ⟨by simp [phase, Router.ofOptions, Router.trackTable], orderly,
    Synchronizer.accounts_start options, rfl⟩

theorem push_running (host : Host) (running : session.phase ≠ .ended) (data : Bytes) :
    (left (session.push host data)).phase ≠ .ended := by
  unfold push
  split
  · exact running
  · have changes : Router.Changes host session.router _ :=
      (awaken_changes host session).trans
        (drain_changes host { session.awaken with sync := session.awaken.sync.push data })
    exact changes.phase_ne (.inr rfl) running

theorem Running.pushed (reliable : host.Reliable) (running : session.Running limit total items)
    (data : Bytes) :
    (left (session.push host data)).Running limit (total + data.length)
      (items ++ session.pieceItems data) := by
  have phase := push_running host running.phase data
  have orderly := @push_orderly host session running.orderly data
  by_cases unheeded : session.phase = .ended ∨ data = []
  · have empty := unheeded.resolve_left running.phase
    rw [push_unheeded unheeded, pieceItems, if_pos unheeded, List.append_nil, empty]
    exact running
  · obtain ⟨_, framed⟩ := push_framing reliable unheeded
    refine ⟨phase, orderly, ?_, ?_⟩
    · rw [framed, pieceItems, if_neg unheeded]
      exact (running.accounts.push data).drained
    · rw [framed, (Synchronizer.drain_input _).2, ← running.received]
      rfl

theorem Running.eachPushed (reliable : host.Reliable) (chunks : List Bytes)
    (running : session.Running limit total items) :
    (session.pushEach host chunks).Running limit (total + chunks.flatten.length)
      (items ++ session.itemsOf host chunks) := by
  induction chunks generalizing session items total with
  | nil => simpa [itemsOf, pushEach] using running
  | cons chunk chunks ih =>
    have later := ih (running.pushed reliable chunk)
    rw [List.append_assoc, Nat.add_assoc, ← List.length_append] at later
    exact later

/-! ### Failures -/

theorem Running.push_overspends (reliable : host.Reliable)
    (running : session.Running limit total items) {data : Bytes} {error : Error}
    (failed : failure (session.push host data) = some error) :
    Overspends limit (items ++ session.pieceItems data)
      (left (session.push host data)).sync.base error := by
  by_cases unheeded : session.phase = .ended ∨ data = []
  · rw [push_unheeded unheeded] at failed
    cases failed
  · obtain ⟨told, framed⟩ := push_framing reliable unheeded
    rw [told] at failed
    rw [framed, pieceItems, if_neg unheeded]
    exact (running.accounts.push data).drain_overspends failed

/-- A piece at which a session fails leaves its search exhausted. -/
theorem exhausted_of_failure (reliable : host.Reliable) {data : Bytes}
    (failed : (failure (session.push host data)).isSome = true) :
    (left (session.push host data)).sync.Exhausted := by
  by_cases unheeded : session.phase = .ended ∨ data = []
  · rw [push_unheeded unheeded] at failed
    cases failed
  · obtain ⟨told, framed⟩ := push_framing reliable unheeded
    rw [told] at failed
    obtain ⟨error, fault⟩ := Option.isSome_iff_exists.mp failed
    rw [framed]
    exact (Synchronizer.drain_error fault).1

/-- A session whose search is exhausted fails at every piece. -/
theorem push_exhausted (reliable : host.Reliable) (exhausted : session.sync.Exhausted)
    {data : Bytes} (heeded : ¬(session.phase = .ended ∨ data = [])) :
    (failure (session.push host data)).isSome = true := by
  have more : (session.sync.push data).Exhausted := ⟨exhausted.searching, exhausted.spent⟩
  obtain ⟨error, failed⟩ := more.drain_fails
  rw [(push_framing reliable heeded).1, failed]
  rfl

theorem pushEach_exhausted (reliable : host.Reliable) (chunks : List Bytes)
    (exhausted : session.sync.Exhausted) : (session.pushEach host chunks).sync.Exhausted := by
  induction chunks generalizing session with
  | nil => exact exhausted
  | cons chunk chunks ih =>
    apply ih
    dsimp only
    by_cases unheeded : session.phase = .ended ∨ chunk = []
    · rwa [push_unheeded unheeded]
    · exact exhausted_of_failure reliable (push_exhausted reliable exhausted unheeded)

/-- The end of input fails where framing does, or because there never was a frame. -/
theorem Running.finish_failure (reliable : host.Reliable)
    (running : session.Running limit total items) {error : Error}
    (failed : failure (session.finish host) = some error) :
    Overspends limit (items ++ session.endItems) (left (session.finish host)).sync.base error ∨
      error = .noSync total ∧ 0 < total ∧
        (items ++ session.endItems).any SyncItem.isLock = false := by
  have accounts := running.accounts.finish.drained
  have overspends := @Accounts.drain_overspends _ _ _ error running.accounts.finish
  have received : session.sync.finish.drain.1.received = total :=
    (Synchronizer.drain_input _).2.trans running.received
  rw [finish_eq reliable running.phase] at failed ⊢
  dsimp only at failed ⊢
  rw [left_conclude]
  unfold conclude at failed
  cases ended : session.sync.finish.drain.2.2 with
  | some fault =>
    simp only [ended, failure, Option.some.injEq] at failed
    exact .inl (overspends (ended.trans (congrArg some failed)))
  | none =>
    right
    simp only [ended, received] at failed
    split at failed
    · rename_i never
      simp only [Bool.and_eq_true, decide_eq_true_eq, Bool.not_eq_true', accounts.locks] at never
      exact ⟨(Option.some.inj failed).symm, never⟩
    · cases failed

/-- Once input has ended, so has every output, and its sink was told. -/
theorem Running.finish_closes (reliable : host.Reliable)
    (running : session.Running limit total items) :
    let finished := left (session.finish host)
    finished.phase = .ended ∧ ∀ pid output, finished.router.outputs.get? pid = some output →
      output.ended = true ∧ Finished finished.router.calls output.sink := by
  intro finished
  have ended : finished.phase = .ended := by
    rw [Session.phase, (finish_running reliable running.phase).1]
  obtain ⟨orderly, _⟩ := @finish_orderly host _ running.orderly
  refine ⟨ended, fun pid output found => ?_⟩
  have held := Router.hold_of_found found
  have closed := orderly.closed ended pid output.sink output.ended held
  exact ⟨closed, (orderly.router.ended pid output.sink output.ended held).mp closed⟩

/-- With sinks that never fail, a session that is pushed any bytes fails only because a search for
the frame went behind too much, and then at every further piece; its end fails besides only when
there never was a frame, and closes all outputs even then. -/
theorem pushEach_failures {options : Options} (created : new options = .ok start)
    (reliable : host.Reliable) (chunks : List Bytes) :
    let session := start.pushEach host chunks
    let items := start.itemsOf host chunks
    let finished := left (session.finish host)
    (∀ data error, failure (session.push host data) = some error →
      Overspends options.maxResyncBytes (items ++ session.pieceItems data)
        (left (session.push host data)).sync.base error) ∧
    (∀ front data back, chunks = front ++ data :: back →
      (failure ((start.pushEach host front).push host data)).isSome = true →
      ∀ next, next ≠ [] → (failure (session.push host next)).isSome = true) ∧
    (∀ error, failure (session.finish host) = some error →
      Overspends options.maxResyncBytes (items ++ session.endItems) finished.sync.base error ∨
        error = .noSync chunks.flatten.length ∧ 0 < chunks.flatten.length ∧
          (items ++ session.endItems).any SyncItem.isLock = false) ∧
    finished.phase = .ended ∧ ∀ pid output, finished.router.outputs.get? pid = some output →
      output.ended = true ∧ Finished finished.router.calls output.sink := by
  intro session items finished
  have running := (new_running created).eachPushed reliable chunks
  rw [Nat.zero_add, List.nil_append] at running
  refine ⟨fun _ _ => running.push_overspends reliable, ?_,
    fun _ => running.finish_failure reliable, running.finish_closes reliable⟩
  intro front data back cut failed next filled
  apply push_exhausted reliable
  · have exhausted := exhausted_of_failure reliable failed
    have later := pushEach_exhausted reliable back exhausted
    simp only [session, cut, pushEach, List.foldl_append, List.foldl_cons]
    exact later
  · rintro (ended | empty)
    · exact running.phase ended
    · exact filled empty

/-- A stream that two tables announce, and then nothing but zeros: the frame is lost and not found
again, the next piece fails as well, and the output is closed nevertheless. -/
theorem lost_frame_closes :
    let options : Options :=
      { packetSize := some packetSize, minSyncRun := 2, maxResyncBytes := 416 }
    let association : Pat :=
      { version := 0, currentNext := true, number := 0, last := 0, streamId := 1
        programs := [⟨1, 0x100⟩], networkPid := none }
    let start : Session := { sync := .ofOptions options, router := .ofOptions options }
    let damaged := sectionPacket patPid 0 association.encode ++
      sectionPacket 0x100 0 (loneMap 0 0x1B 0x101).encode ++ List.replicate 500 0
    let session := start.pushEach .willing [damaged]
    let finished := left (session.finish .willing)
    failure (start.push .willing damaged) = some (.syncLost 500) ∧
      (failure (session.push .willing [0x47])).isSome = true ∧ finished.phase = .ended ∧
        ∃ output, finished.router.outputs.get? 0x101 = some output ∧ output.ended = true ∧
          Finished finished.router.calls output.sink := by
  have created := new_of_validate
    (rfl : Options.validate { packetSize := some packetSize, minSyncRun := 2, maxResyncBytes := 416 } = .ok ())
  have reliable : Host.willing.Reliable := ⟨fun _ _ _ => rfl, fun _ _ => rfl⟩
  intro options association start damaged session finished
  obtain ⟨_, again, _, ended, closed⟩ := pushEach_failures created reliable [damaged]
  have lost : failure (start.push .willing damaged) = some (.syncLost 500) := by decide +kernel
  have present : (finished.router.outputs.get? 0x101).isSome = true := by decide +kernel
  obtain ⟨output, found⟩ := Option.isSome_iff_exists.mp present
  exact ⟨lost, again [] damaged [] rfl (congrArg Option.isSome lost) [0x47] (by simp), ended,
    output, found, closed 0x101 output found⟩

end Session

end TransportStream
