import TransportStream.Proofs.FramingCounters
import TransportStream.Proofs.FramingPieces
import TransportStream.Proofs.SinkProtocol

/-!
A session under a forced stride does the same however its input is cut into pieces. Framing
gives the same items, routing takes no notice of when, and with sinks that never fail nothing
but framing ends a run early.
-/
namespace TransportStream

namespace Router

variable {host : Host} {router other : Router} {sync : Synchronizer}

/-- The router behind items that framing gave. -/
def handleAll (router : Router) (host : Host) (items : List SyncItem) : Router :=
  left (forEach items (handleItem host)) router

theorem handleAll_changes (host : Host) (items : List SyncItem) (router : Router) :
    Changes host router (router.handleAll host items) := by
  have traced : Traced host router (forEach items (handleItem host) router) :=
    traced_forEach (handleItem_traced host) router
  unfold handleAll left
  cases result : forEach items (handleItem host) router with
  | ok value after =>
    rw [result] at traced
    exact traced
  | error error after =>
    rw [result] at traced
    exact traced.1

theorem left_note {action : Routing Unit} (same : UnawareAt sync action router) :
    left action (router.noteFraming sync) = (left action router).noteFraming sync := by
  unfold left
  rw [same]
  cases action router <;> rfl

theorem handleAll_note (host : Host) (items : List SyncItem) (router : Router) :
    (router.noteFraming sync).handleAll host items =
      (router.handleAll host items).noteFraming sync :=
  left_note (unaware_forEach (handleItem_unaware host) router)

/-- An action that only a sink can end succeeds if none fails. -/
theorem Traced.ok {action : Routing Unit} (traced : Traced host router (action router))
    (reliable : host.Reliable) : action router = .ok () (left action router) := by
  unfold left
  cases result : action router with
  | ok value after => rfl
  | error error after =>
    rw [result] at traced
    exact absurd reliable traced.2.unreliable

theorem handleAll_cons (reliable : host.Reliable) (item : SyncItem) (items : List SyncItem)
    (router : Router) :
    router.handleAll host (item :: items) =
      (left (handleItem host item) router).handleAll host items := by
  have handled := Traced.ok (handleItem_traced host item router) reliable
  rw [handleAll, forEach, left, bind_of_ok handled]
  rfl

theorem handleAll_append (reliable : host.Reliable) (items others : List SyncItem)
    (router : Router) :
    router.handleAll host (items ++ others) =
      (router.handleAll host items).handleAll host others := by
  induction items generalizing router with
  | nil => rfl
  | cons item items ih =>
    rw [List.cons_append, handleAll_cons reliable, handleAll_cons reliable, ih]

/-- It does not matter whether the stamp of a packet is known. -/
theorem handleItem_unstamped (host : Host) (item : SyncItem) :
    handleItem host item.unstamped = handleItem host item := by
  cases item with
  | locked stride place => rfl
  | lost place => rfl
  | packet packet => rfl

theorem handleAll_unstamped (host : Host) {items others : List SyncItem}
    (same : items.map SyncItem.unstamped = others.map SyncItem.unstamped) (router : Router) :
    router.handleAll host items = router.handleAll host others := by
  have unstamped : ∀ items : List SyncItem,
      forEach (items.map SyncItem.unstamped) (handleItem host) =
        forEach items (handleItem host) := by
    intro items
    induction items with
    | nil => rfl
    | cons item items ih => rw [List.map_cons, forEach, forEach, handleItem_unstamped, ih]
  unfold handleAll
  rw [← unstamped items, same, unstamped others]

/-- Whether routers differ at most in what framing counted. -/
def Alike (router other : Router) : Prop :=
  ∀ sync, router.noteFraming sync = other.noteFraming sync

theorem Alike.trans {final : Router} (first : Alike router other) (second : Alike other final) :
    Alike router final := fun sync => (first sync).trans (second sync)

theorem Alike.symm (alike : Alike router other) : Alike other router :=
  fun sync => (alike sync).symm

theorem Alike.calls (alike : Alike router other) : router.calls = other.calls := by
  have same := congrArg Router.calls (alike (.ofOptions {}))
  exact same

theorem Alike.phase (alike : Alike router other) : router.phase = other.phase := by
  have same := congrArg Router.phase (alike (.ofOptions {}))
  exact same

theorem alike_note (router : Router) (sync : Synchronizer) :
    Alike (router.noteFraming sync) router := fun _ => rfl

theorem Alike.handleAll (alike : Alike router other) (host : Host) (items : List SyncItem) :
    Alike (router.handleAll host items) (other.handleAll host items) := by
  intro sync
  rw [← handleAll_note, ← handleAll_note, alike]

theorem Alike.closeAll (alike : Alike router other) (host : Host) :
    Alike (left (closeAll host) router) (left (closeAll host) other) := by
  intro sync
  rw [← left_note (closeAll_unaware host router), ← left_note (closeAll_unaware host other)]
  rw [alike]

end Router

namespace Synchronizer

/-- Under a forced stride, the pieces of an input leave framing where all of it does. -/
theorem pushAll_agree_of_forced {sync : Synchronizer} {stride : Nat} {chunks others : List Bytes}
    (forced : sync.forced = some stride) (unended : sync.ended = false)
    (same : chunks.flatten = others.flatten) (input : chunks ≠ []) (otherInput : others ≠ []) :
    (sync.pushAll chunks).2.1.map SyncItem.unstamped =
        (sync.pushAll others).2.1.map SyncItem.unstamped ∧
      standing (sync.pushAll chunks) = standing (sync.pushAll others) := by
  have trace := pushAll_trace unended (.inr input)
  have otherTrace := pushAll_trace unended (.inr otherInput)
  rw [← same] at otherTrace
  have unparted : ∀ items others, ¬Part (sync.ahead chunks.flatten) items others :=
    fun _ _ => not_part_of_forced forced
  exact (trace.agree otherTrace).resolve_right (unparted _ _)

theorem pushAll_received {sync : Synchronizer} {chunks : List Bytes}
    (success : (sync.pushAll chunks).2.2 = none) :
    (sync.pushAll chunks).1.received = sync.received + chunks.flatten.length := by
  fun_induction pushAll sync chunks with
  | case1 sync => rfl
  | case2 sync chunk chunks next items error drained => cases success
  | case3 sync chunk chunks next items drained last others error result ih =>
    have input := (drain_input (sync.push chunk)).2
    rw [drained] at input
    rw [result] at ih
    have later := ih success
    simp only [push] at input
    simp only [List.flatten_cons, List.length_append] at later ⊢
    omega

end Synchronizer

namespace Session

variable {host : Host} {session : Session}

/-- Whether an operation failed. -/
def fails {α : Type} : SessionResult α → Bool
  | .ok _ _ => false
  | .error _ _ => true

/-- A whole input in pieces, up to the first failure. -/
def feed (host : Host) (session : Session) : List Bytes → SessionResult Unit
  | [] => session.finish host
  | chunk :: chunks =>
    match session.push host chunk with
    | .ok () session => feed host session chunks
    | .error error session => .error error session

/-- What framing gives is handled, and nothing else ends a run early. -/
theorem drain_eq (reliable : host.Reliable) (session : Session) :
    drain host session =
      let run := session.sync.drain
      let after : Session :=
        { sync := run.1
          router := (session.router.handleAll host run.2.1).noteFraming run.1 }
      match run.2.2 with
      | none => .ok () after
      | some error => .error error after := by
  fun_induction drain host session with
  | case1 session sync error step =>
    rw [Synchronizer.drain_eq, step]
    rfl
  | case2 session sync step =>
    rw [Synchronizer.drain_eq, step]
    rfl
  | case3 session sync item step error router result =>
    have handled := Router.Traced.ok
      (Router.handleItem_traced host item (session.router.noteFraming sync)) reliable
    rw [result] at handled
    cases handled
  | case4 session sync item step router result ih =>
    have handled := Router.left_of_ok result
    rw [Router.left_note (Router.handleItem_unaware host item session.router)] at handled
    rw [ih, Synchronizer.drain_eq session.sync, step, ← handled]
    simp only [Router.handleAll_note, Router.handleAll_cons reliable]
    rfl

theorem awaken_of_running (running : session.phase ≠ .init) : session.awaken = session := by
  unfold awaken
  split
  · rename_i init
    exact absurd init running
  · rfl

/-- Pieces pushed into a session that has begun: framing gives items, which are handled. -/
theorem feed_running (reliable : host.Reliable) {chunks : List Bytes}
    (running : session.phase ≠ .init ∧ session.phase ≠ .ended)
    (filled : ∀ chunk ∈ chunks, chunk ≠ []) :
    let run := session.sync.pushAll chunks
    ∃ after : Session, after.sync = run.1 ∧
      Router.Alike after.router (session.router.handleAll host run.2.1) ∧
      feed host session chunks =
        match run.2.2 with
        | none => after.finish host
        | some error => .error error after := by
  induction chunks generalizing session with
  | nil => exact ⟨session, rfl, fun _ => rfl, rfl⟩
  | cons chunk chunks ih =>
    have pushed : session.push host chunk =
        drain host { session with sync := session.sync.push chunk } := by
      unfold push
      rw [if_neg (by simp [running.2, filled chunk]), awaken_of_running running.1]
    have drained := drain_eq reliable { session with sync := session.sync.push chunk }
    rw [← pushed] at drained
    unfold feed
    rw [drained, Synchronizer.pushAll]
    generalize (session.sync.push chunk).drain = run
    obtain ⟨next, items, _ | error⟩ := run
    · have changes := Router.handleAll_changes host items session.router
      let between : Session :=
        { sync := next, router := (session.router.handleAll host items).noteFraming next }
      have runningStill : between.phase ≠ .init ∧ between.phase ≠ .ended :=
        ⟨changes.phase_ne (.inl rfl) running.1, changes.phase_ne (.inr rfl) running.2⟩
      obtain ⟨after, framed, alike, fed⟩ :=
        ih runningStill (fun other member => filled other (List.mem_cons_of_mem _ member))
      -- counters are noted behind each piece, so the routers are alike but not the same
      have noted := Router.alike_note (session.router.handleAll host items) next
      refine ⟨after, framed, ?_, fed⟩
      dsimp only
      rw [Router.handleAll_append reliable]
      exact alike.trans (noted.handleAll host _)
    · exact ⟨_, rfl, Router.alike_note _ _, rfl⟩

theorem fails_conclude (session : Session) (drained : Option Error) (neverFramed : Bool) :
    fails (session.conclude drained neverFramed) = (drained.isSome || neverFramed) := by
  unfold conclude
  cases drained with
  | some error => rfl
  | none => cases neverFramed <;> rfl

/-- The end of input: what is left is handled and all outputs are closed. -/
theorem finish_eq (reliable : host.Reliable) (running : session.phase ≠ .ended) :
    session.finish host =
      let run := session.sync.finish.drain
      let closed := Router.left (Router.closeAll host) (session.router.handleAll host run.2.1)
      conclude run.2.2 (decide (0 < run.1.received) && !run.1.everLocked)
        { sync := run.1, router := closed.noteFraming run.1 } := by
  unfold finish
  rw [if_neg running, drain_eq reliable]
  dsimp only
  generalize session.sync.finish.drain = run
  obtain ⟨next, items, error⟩ := run
  let drained : Session :=
    { sync := next, router := (session.router.handleAll host items).noteFraming next }
  have closed := Router.Traced.ok (Router.closeAll_traced host drained.router) reliable
  have routed : drained.route (Router.closeAll host) =
      .ok () { drained with router := Router.left (Router.closeAll host) drained.router } := by
    rw [route, closed]
  have noted : Router.left (Router.closeAll host) drained.router =
      (Router.left (Router.closeAll host) (session.router.handleAll host items)).noteFraming next :=
    Router.left_note (Router.closeAll_unaware host _)
  rw [noted] at routed
  cases error with
  | none =>
    simp only [drained] at routed
    simp only [routed]
    rfl
  | some error =>
    simp only [drained] at routed
    simp only [routed]
    rfl

theorem finish_running (reliable : host.Reliable) (running : session.phase ≠ .ended) :
    let run := session.sync.finish.drain
    let closed := Router.left (Router.closeAll host) (session.router.handleAll host run.2.1)
    (left (session.finish host)).router = { closed.noteFraming run.1 with phase := .ended } ∧
      fails (session.finish host) =
        (run.2.2.isSome || decide (0 < run.1.received) && !run.1.everLocked) := by
  rw [finish_eq reliable running]
  dsimp only
  rw [left_conclude, fails_conclude]
  exact ⟨rfl, rfl⟩

/-- Empty pieces change nothing. -/
theorem feed_filled (host : Host) (session : Session) (chunks : List Bytes) :
    feed host session (chunks.filter (fun chunk => !chunk.isEmpty)) = feed host session chunks := by
  induction chunks generalizing session with
  | nil => rfl
  | cons chunk chunks ih =>
    by_cases empty : chunk = []
    · have skipped : session.push host chunk = .ok () session := if_pos (.inr empty)
      rw [List.filter_cons_of_neg (by simp [empty]), feed, skipped]
      exact ih session
    · rw [List.filter_cons_of_pos (by simpa using empty), feed, feed]
      cases session.push host chunk with
      | ok value after => exact ih after
      | error error after => rfl

/-- Input wakes a session that has not begun. -/
theorem feed_awaken (host : Host) {chunks : List Bytes} (init : session.phase = .init)
    (filled : ∀ chunk ∈ chunks, chunk ≠ []) (input : chunks ≠ []) :
    feed host session chunks = feed host session.awaken chunks := by
  have awake : session.awaken.phase = .syncing := by
    unfold awaken
    rw [init]
    rfl
  cases chunks with
  | nil => exact absurd rfl input
  | cons chunk chunks =>
    have data := filled chunk List.mem_cons_self
    have pushed : session.push host chunk = session.awaken.push host chunk := by
      unfold push
      rw [if_neg (by simp [init, data]), if_neg (by simp [awake, data]),
        @awaken_of_running session.awaken (by simp [awake])]
    rw [feed, feed, pushed]

/-- Two runs that come to like routers and framing end alike. -/
theorem finish_agree {other : Session} (reliable : host.Reliable)
    (running : session.phase ≠ .ended) (alike : Router.Alike session.router other.router)
    (framed : session.sync.bare = other.sync.bare)
    (received : session.sync.received = other.sync.received) :
    (left (session.finish host)).router.calls = (left (other.finish host)).router.calls ∧
      fails (session.finish host) = fails (other.finish host) := by
  have phases : session.phase = other.phase := alike.phase
  obtain ⟨ended, failed⟩ := finish_running reliable running
  obtain ⟨otherEnded, otherFailed⟩ := finish_running reliable (phases ▸ running)
  have finished : session.sync.finish.bare = other.sync.finish.bare :=
    congrArg Synchronizer.finish framed
  have drained := Synchronizer.bareRun_drain finished
  have input := (Synchronizer.drain_input session.sync.finish).2
  have otherInput := (Synchronizer.drain_input other.sync.finish).2
  simp only [Synchronizer.bareRun, Prod.mk.injEq] at drained
  obtain ⟨bare, items, errors⟩ := drained
  have locks := congrArg Synchronizer.everLocked bare
  simp only [Synchronizer.bare] at locks
  refine ⟨?_, ?_⟩
  · rw [ended, otherEnded, Router.handleAll_unstamped host items]
    exact ((alike.handleAll host _).closeAll host).calls
  · have total : session.sync.finish.drain.1.received = other.sync.finish.drain.1.received :=
      input.trans (received.trans otherInput.symm)
    rw [failed, otherFailed, errors, locks, total]

/-- Two ways to cut the input of a session that has begun. -/
theorem feed_agree {stride : Nat} {chunks others : List Bytes} (reliable : host.Reliable)
    (running : session.phase ≠ .init ∧ session.phase ≠ .ended)
    (unended : session.sync.ended = false) (forced : session.sync.forced = some stride)
    (same : chunks.flatten = others.flatten) (filled : ∀ chunk ∈ chunks, chunk ≠ [])
    (otherFilled : ∀ chunk ∈ others, chunk ≠ [])
    (input : chunks ≠ []) (otherInput : others ≠ []) :
    (left (feed host session chunks)).router.calls =
        (left (feed host session others)).router.calls ∧
      fails (feed host session chunks) = fails (feed host session others) := by
  obtain ⟨items, standing⟩ :=
    Synchronizer.pushAll_agree_of_forced forced unended same input otherInput
  have received := @Synchronizer.pushAll_received session.sync chunks
  have otherReceived := @Synchronizer.pushAll_received session.sync others
  have handled := Router.handleAll_unstamped host items session.router
  have changes := Router.handleAll_changes host (session.sync.pushAll chunks).2.1 session.router
  obtain ⟨after, framed, alike, fed⟩ := feed_running reliable running filled
  obtain ⟨otherAfter, otherFramed, otherAlike, otherFed⟩ :=
    feed_running reliable running otherFilled
  rw [fed, otherFed]
  have agree : Router.Alike after.router otherAfter.router :=
    alike.trans (handled ▸ otherAlike.symm)
  generalize session.sync.pushAll chunks = run at *
  generalize session.sync.pushAll others = otherRun at *
  obtain ⟨next, items, _ | error⟩ := run <;>
    obtain ⟨otherNext, others, _ | otherError⟩ := otherRun
  · apply finish_agree reliable
    · rw [phase, alike.phase]
      exact changes.phase_ne (.inr rfl) running.2
    · exact agree
    · rw [framed, otherFramed]
      exact Option.some.inj standing
    · rw [framed, otherFramed, received rfl, otherReceived rfl, same]
  · cases standing
  · cases standing
  · exact ⟨agree.calls, rfl⟩

theorem eq_nil_of_flatten {chunks : List Bytes} (filled : ∀ chunk ∈ chunks, chunk ≠ [])
    (empty : chunks.flatten = []) : chunks = [] := by
  cases chunks with
  | nil => rfl
  | cons chunk others =>
    exact absurd (List.flatten_eq_nil_iff.mp empty chunk List.mem_cons_self)
      (filled chunk List.mem_cons_self)

/-- Under a forced stride, and with sinks that never fail, a session makes the same calls
however its input is cut into pieces, and either both runs fail or none does. -/
theorem feed_cuts {options : Options} {stride : Nat} {chunks others : List Bytes}
    (created : new options = .ok session) (forced : options.forcedStride = some stride)
    (reliable : host.Reliable) (same : chunks.flatten = others.flatten) :
    (left (feed host session chunks)).router.calls =
        (left (feed host session others)).router.calls ∧
      fails (feed host session chunks) = fails (feed host session others) := by
  have fresh := new_ok created
  have filled : ∀ (chunks : List Bytes) (chunk : Bytes),
      chunk ∈ chunks.filter (fun chunk => !chunk.isEmpty) → chunk ≠ [] := by
    intro chunks chunk member
    simpa using (List.mem_filter.mp member).2
  have pieces := filled chunks
  have otherPieces := filled others
  rw [← feed_filled host session chunks, ← feed_filled host session others]
  rw [← List.flatten_filter_not_isEmpty, ← @List.flatten_filter_not_isEmpty _ others] at same
  generalize chunks.filter (fun chunk => !chunk.isEmpty) = chunks at *
  generalize others.filter (fun chunk => !chunk.isEmpty) = others at *
  by_cases input : chunks = []
  · rw [input, List.flatten_nil] at same
    rw [input, eq_nil_of_flatten otherPieces same.symm]
    exact ⟨rfl, rfl⟩
  · have otherInput : others ≠ [] := by
      intro empty
      rw [empty, List.flatten_nil] at same
      exact input (eq_nil_of_flatten pieces same)
    have init : session.phase = .init := by
      rw [fresh]
      rfl
    have awake : session.awaken = { session with
        router := { session.router with phase := .syncing } } := by
      unfold awaken
      rw [init]
    rw [feed_awaken host init pieces input, feed_awaken host init otherPieces otherInput, awake]
    have unended : session.sync.ended = false := by
      rw [fresh]
      rfl
    have framing : session.sync.forced = some stride := by
      rw [fresh]
      exact forced
    exact feed_agree reliable ⟨by simp [phase], by simp [phase]⟩ unended framing same pieces
      otherPieces input otherInput

/-- Two tables that announce a stream, at once and byte by byte. -/
theorem bytes_fed_singly :
    let options : Options := { packetSize := some packetSize, minSyncRun := 2 }
    let association : Pat :=
      { version := 0, currentNext := true, number := 0, last := 0, streamId := 1
        programs := [⟨1, 0x100⟩], networkPid := none }
    let session : Session := { sync := .ofOptions options, router := .ofOptions options }
    let data := sectionPacket patPid 0 association.encode ++
      sectionPacket 0x100 0 (loneMap 0 0x1B 0x101).encode
    (left (feed .willing session [data])).router.calls =
        (left (feed .willing session (data.map fun byte => [byte]))).router.calls ∧
      fails (feed .willing session [data]) =
        fails (feed .willing session (data.map fun byte => [byte])) := by
  have created := new_of_validate
    (rfl : Options.validate { packetSize := some packetSize, minSyncRun := 2 } = .ok ())
  have reliable : Host.willing.Reliable := ⟨fun _ _ _ => rfl, fun _ _ => rfl⟩
  intro options association session data
  have same : [data].flatten = (data.map fun byte => [byte]).flatten := by
    rw [← List.flatMap_def, List.flatMap_singleton', List.flatten_singleton]
  exact feed_cuts created rfl reliable same

end Session

end TransportStream
