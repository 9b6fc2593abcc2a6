import TransportStream.Proofs.Adoption
import TransportStream.Proofs.SinkProtocol

/-!
Streams, outputs and declined PIDs stay in step through every operation, also through those
that a sink ends early.
-/
namespace TransportStream

namespace Router

variable {host : Host} {router before after : Router}

/-- What a PID is listened to for. -/
def listensAs (router : Router) (pid : Nat) : Option StreamClass :=
  (router.streams.get? pid).map StreamState.cls

/-- The books of a router agree with each other. -/
structure InStep (router : Router) : Prop where
  /-- Elementary streams are listened to exactly where there is an output. -/
  outputs : ∀ pid, router.listensAs pid = some .pes ↔ router.outputs.contains pid = true
  /-- Elementary streams alone put PES packets together. -/
  kinds : ∀ pid stream, router.streams.get? pid = some stream →
    (stream.reassembly.isPes = true ↔ stream.cls = .pes)
  pat : router.listensAs patPid = some .pat
  cat : router.listensAs catPid = some .cat
  keyed : ∀ pid stream, router.streams.get? pid = some stream → stream.pid = pid
  apart : ∀ pid, router.declined.contains pid = true → router.outputs.contains pid = false

/-- The two tables with fixed PIDs are listened to there, and every stream stands for the PID
it is kept under. -/
structure Anchored (router : Router) : Prop where
  pat : router.listensAs patPid = some .pat
  cat : router.listensAs catPid = some .cat
  keyed : ∀ pid stream, router.streams.get? pid = some stream → stream.pid = pid

theorem SameRoles.listensAs (same : SameRoles before after) (pid : Nat) :
    after.listensAs pid = before.listensAs pid := by
  have byRole : ∀ router : Router, router.listensAs pid =
      ((router.streams.get? pid).map StreamState.role).map Prod.fst := by
    intro router
    rw [Option.map_map]
    rfl
  rw [byRole, byRole, same.streams]

theorem SamePids.stream {pid : Nat} {stream : StreamState} (same : SamePids before after)
    (found : after.streams.get? pid = some stream) :
    ∃ former, before.streams.get? pid = some former ∧ former.pid = stream.pid := by
  have pids := same pid
  rw [found, Option.map_some] at pids
  exact Option.map_eq_some_iff.mp pids.symm

/-! ### What keeps the fixed PIDs -/

theorem Anchored.quiet (anchored : Anchored before) (same : SameRoles before after)
    (pids : SamePids before after) : Anchored after where
  pat := (same.listensAs patPid).trans anchored.pat
  cat := (same.listensAs catPid).trans anchored.cat
  keyed pid stream found := by
    obtain ⟨former, present, same⟩ := pids.stream found
    exact same.symm.trans (anchored.keyed pid former present)

/-- A PID that is listened to for a table stays so when an output is dropped. -/
theorem listensAs_without {pid other : Nat} {cls : StreamClass} {output : Output}
    (sound : Sound router) (present : router.outputs.get? pid = some output)
    (listened : router.listensAs other = some cls) (table : cls ≠ .pes) :
    (router.without pid).listensAs other = some cls := by
  obtain ⟨stream, found, ofClass⟩ := sound.heard pid output present
  have different : other ≠ pid := by
    rintro rfl
    rw [listensAs, found, Option.map_some, ofClass, Option.some.injEq] at listened
    exact table listened.symm
  rw [listensAs, streams_without, if_neg different]
  exact listened

theorem Anchored.without {pid : Nat} {output : Output} (anchored : Anchored router)
    (sound : Sound router) (present : router.outputs.get? pid = some output) :
    Anchored (router.without pid) where
  pat := listensAs_without sound present anchored.pat (by decide)
  cat := listensAs_without sound present anchored.cat (by decide)
  keyed other stream found := anchored.keyed other stream (streams_of_without found).2

/-- A PID of one class keeps it when those of another are drawn anew. -/
theorem listensAs_retrack {cls other : StreamClass} {pid : Nat} (pids : List Nat)
    (listened : router.listensAs pid = some cls) (different : cls ≠ other) :
    (router.retrack other pids).listensAs pid = some cls := by
  obtain ⟨stream, found, ofClass⟩ := Option.map_eq_some_iff.mp listened
  cases retracked router other pids pid with
  | stays same _ _ => rw [listensAs, same, found, Option.map_some, ofClass]
  | gone there former _ _ _ =>
    rw [found] at there
    cases there
    exact absurd (ofClass.symm.trans former) different
  | added free _ _ _ =>
    rw [found] at free
    cases free

theorem Anchored.retrack {cls : StreamClass} (anchored : Anchored router) (noPat : cls ≠ .pat)
    (noCat : cls ≠ .cat) (pids : List Nat) : Anchored (router.retrack cls pids) where
  pat := listensAs_retrack pids anchored.pat noPat.symm
  cat := listensAs_retrack pids anchored.cat noCat.symm
  keyed pid stream found := by
    rcases (retracked router cls pids pid).found found with ⟨former, _⟩ | ⟨rfl, _⟩
    · exact anchored.keyed pid stream former
    · rfl

/-- An elementary stream takes a PID that is free or carries one. -/
theorem Anchored.insert {pid limit : Nat} (anchored : Anchored router)
    (free : router.carriesTables pid = false)
    (taken : after.streams = router.streams.insert pid (.elementary pid limit)) :
    Anchored after := by
  have kept : ∀ {other cls}, router.listensAs other = some cls → cls ≠ .pes →
      after.listensAs other = some cls := by
    intro other cls listened table
    obtain ⟨stream, found, ofClass⟩ := Option.map_eq_some_iff.mp listened
    have different : other ≠ pid := by
      rintro rfl
      simp [carriesTables, found, ofClass, table] at free
    rw [listensAs, taken, NatMap.get?_insert_ne _ _ different]
    exact listened
  refine ⟨kept anchored.pat (by decide), kept anchored.cat (by decide), ?_⟩
  intro other stream found
  rw [taken, NatMap.get?_insert] at found
  by_cases same : other = pid
  · rw [if_pos same] at found
    cases found
    exact same.symm
  · rw [if_neg same] at found
    exact anchored.keyed other stream found

theorem Anchored.congr (anchored : Anchored before) (same : after.streams = before.streams) :
    Anchored after := by
  obtain ⟨pat, cat, keyed⟩ := anchored
  refine ⟨?_, ?_, ?_⟩
  · rwa [listensAs, same]
  · rwa [listensAs, same]
  · rwa [same]

theorem Anchored.considerStream (anchored : Anchored router) (host : Host) (pmt : Pmt)
    (stream : PmtStream) : Anchored (considerStream host pmt router stream) := by
  have outcome := considerStream_outcome host pmt router stream
  generalize Router.considerStream host pmt router stream = after at outcome ⊢
  cases outcome with
  | settled decided => exact anchored
  | refused stats asked => exact anchored.congr rfl
  | added free => exact anchored.insert free rfl

theorem Anchored.adoptMap (anchored : Anchored router) (host : Host) (pmt : Pmt) :
    Anchored (router.adoptMap host pmt) := by
  have filtered : ∀ declined, Anchored { router with declined } := fun _ => anchored.congr rfl
  have ready : Anchored (router.readyFor pmt) := (filtered _).retrack (by decide) (by decide) _
  exact considerAll_holds Anchored
    (fun router stream anchored => anchored.considerStream host pmt stream) pmt.streams ready

theorem ofOptions_anchored (options : Options) : Anchored (.ofOptions options) := by
  refine ⟨rfl, rfl, ?_⟩
  intro pid stream found
  have idle : ∀ pid stream, (∅ : NatMap StreamState).get? pid = some stream → stream.pid = pid :=
    fun _ _ found => nomatch found
  simp only [ofOptions, trackTable, NatMap.get?_insert] at found
  split at found
  · cases found
    simp [*, StreamState.table]
  · split at found
    · cases found
      simp [*, StreamState.table]
    · cases found

/-! ### The invariant -/

/-- Sound roles and the fixed PIDs outlive every step together: a PID with an output carries
no table, and it is soundness that says so. -/
theorem booked_stable (host : Host) :
    Stable host (fun router => Sound router ∧ Anchored router) where
  quiet := by
    rintro before after ⟨sound, anchored⟩ roles pids
    exact ⟨sound.quiet roles, anchored.quiet roles pids⟩
  remove := by
    rintro router pid output ⟨sound, anchored⟩ present
    exact ⟨sound.without pid, anchored.without sound present⟩
  associate := by
    rintro router tables pat ⟨sound, anchored⟩ applied
    have replaced : Anchored { router with tables } := anchored.congr rfl
    exact ⟨(sound_stable host).associate sound applied,
      replaced.retrack (by decide) (by decide) _⟩
  entitle := by
    rintro router ⟨sound, anchored⟩ pids
    exact ⟨(sound_stable host).entitle sound pids,
      anchored.retrack (by decide) (by decide) pids⟩
  forget := by
    rintro router ⟨sound, anchored⟩
    have retracked : Anchored (router.retrack .ecm []) :=
      anchored.retrack (by decide) (by decide) []
    exact ⟨(sound_stable host).forget sound, retracked.congr rfl⟩
  adopt := by
    rintro router ⟨sound, anchored⟩ pmt
    exact ⟨sound.adoptMap host pmt, anchored.adoptMap host pmt⟩

theorem Sound.inStep (sound : Sound router) (anchored : Anchored router) : InStep router where
  outputs pid := by
    rw [NatMap.contains_iff, listensAs, Option.map_eq_some_iff]
    constructor
    · rintro ⟨stream, found, ofClass⟩
      exact sound.owned pid stream found ofClass
    · rintro ⟨output, present⟩
      exact sound.heard pid output present
  kinds := sound.kinds
  pat := anchored.pat
  cat := anchored.cat
  keyed := anchored.keyed
  apart pid declined := by
    rw [← Bool.not_eq_true, NatMap.contains_iff]
    rintro ⟨output, present⟩
    rw [NatMap.contains, sound.apart pid output present] at declined
    cases declined

end Router

namespace Session

variable {session : Session}

/-- What is stable under all surroundings outlives all operations. -/
theorem performAll_keeps {invariant : Router → Prop}
    (stable : ∀ host, Router.Stable host invariant) (operations : List (Host × Operation))
    (held : invariant session.router) : invariant (session.performAll operations).router := by
  induction operations generalizing session with
  | nil => exact held
  | cons step others ih =>
    apply ih
    exact @perform_holds step.1 session (fun session => invariant session.router)
      (fun _ data held => push_keeps (stable step.1) held data)
      (fun _ held => finish_keeps (stable step.1) held)
      (fun _ _ held => Router.flush_keeps (stable step.1) held) step.2 held

/-- Whatever is asked of a session, and however its surroundings answer, its books agree. -/
theorem performAll_inStep {options : Options} (created : new options = .ok session)
    (operations : List (Host × Operation)) : (session.performAll operations).router.InStep := by
  have start : session.router.Sound ∧ session.router.Anchored := by
    rw [new_ok created]
    exact ⟨Router.ofOptions_sound options, Router.ofOptions_anchored options⟩
  obtain ⟨sound, anchored⟩ := performAll_keeps Router.booked_stable operations start
  exact sound.inStep anchored

/-- A map replaces the only stream, and the sink of that stream fails at its end: the output is
gone all the same, and so is its PID. -/
theorem inStep_when_dropped :
    let options : Options := { packetSize := some packetSize, minSyncRun := 2 }
    let association : Pat :=
      { version := 0, currentNext := true, number := 0, last := 0, streamId := 1
        programs := [⟨1, 0x100⟩], networkPid := none }
    let session : Session := { sync := .ofOptions options, router := .ofOptions options }
    let failing : Host := { Host.willing with finishFailure := fun _ _ => some "full" }
    let stopped := session.performAll [
      (.willing, .push (sectionPacket patPid 0 association.encode)),
      (.willing, .push (sectionPacket 0x100 0 (loneMap 0 0x1B 0x101).encode)),
      (failing, .push (sectionPacket 0x100 1 (loneMap 1 0x1B 0x102).encode))]
    (∃ call ∈ stopped.router.calls, call.failed = true) ∧
      stopped.router.listensAs 0x101 = none ∧ stopped.router.InStep := by
  have created := new_of_validate
    (rfl : Options.validate { packetSize := some packetSize, minSyncRun := 2 } = .ok ())
  intro options association session failing stopped
  exact ⟨by decide +kernel, by decide +kernel, performAll_inStep created _⟩

end Session

end TransportStream
