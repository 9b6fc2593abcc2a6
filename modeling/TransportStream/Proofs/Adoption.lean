import TransportStream.Proofs.MapOutputs

/-!
What a map that comes into force leaves alone: the course of the session, and every output
that it does not add or drop.
-/
namespace TransportStream

namespace Router

variable {host : Host} {router between after : Router} {pmt : Pmt}

/-! ### The course of the session -/

theorem trackIfFree_course (router : Router) (cls : StreamClass) (pid : Nat) :
    SameCourse router (router.trackIfFree cls pid) := by
  unfold trackIfFree
  split
  · exact .refl router
  · exact ⟨rfl, rfl, rfl, rfl, rfl⟩

theorem retrack_course (router : Router) (cls : StreamClass) (pids : List Nat) :
    SameCourse router (router.retrack cls pids) := by
  apply List.foldlRecOn pids
  · exact ⟨rfl, rfl, rfl, rfl, rfl⟩
  · intro between same pid _
    exact same.trans (trackIfFree_course between cls pid)

theorem withoutAll_course (pids : List Nat) (router : Router) :
    SameCourse router (pids.foldl without router) := by
  apply List.foldlRecOn pids
  · exact .refl router
  · intro between same pid _
    exact ⟨same.options, same.phase, same.tables, same.program, same.pcrPid⟩

/-- What the consideration of a stream makes of a router: nothing, if the stream was decided
before; else the stream is declined, the host asked or not, or gets an output. -/
inductive Outcome (host : Host) (pmt : Pmt) (router : Router) (stream : PmtStream) :
    Router → Prop where
  | settled (decided : router.outputs.contains stream.pid = true ∨
      router.declined.contains stream.pid = true) : Outcome host pmt router stream router
  | refused (stats : Stats) {calls : List Call} (asked : calls = router.calls ∨
      calls = .create (infoOf pmt stream) none :: router.calls) :
      Outcome host pmt router stream { router.decline stream.pid with stats, calls }
  | added (free : router.carriesTables stream.pid = false) :
      Outcome host pmt router stream
        ((router.record (.create (infoOf pmt stream) (some router.sinks))).addOutput
          (infoOf pmt stream))

theorem considerStream_outcome (host : Host) (pmt : Pmt) (router : Router) (stream : PmtStream) :
    Outcome host pmt router stream (considerStream host pmt router stream) := by
  unfold considerStream
  split
  · rename_i decided
    exact .settled (by simpa using decided)
  · dsimp only
    split
    · exact .refused _ (.inl rfl)
    · split
      · exact .refused router.stats (.inl rfl)
      · rename_i free
        unfold requestOutput
        split
        · exact .added (by simpa using free)
        · exact .refused _ (.inr rfl)

theorem considerStream_course (host : Host) (pmt : Pmt) (router : Router) (stream : PmtStream) :
    SameCourse router (considerStream host pmt router stream) := by
  have outcome := considerStream_outcome host pmt router stream
  generalize considerStream host pmt router stream = after at outcome ⊢
  cases outcome with
  | settled decided => exact .refl router
  | refused stats asked => exact ⟨rfl, rfl, rfl, rfl, rfl⟩
  | added free => exact ⟨rfl, rfl, rfl, rfl, rfl⟩

theorem readyFor_course (router : Router) (pmt : Pmt) :
    SameCourse router (router.readyFor pmt) := by
  have filtered : ∀ declined, SameCourse router { router with declined } :=
    fun _ => ⟨rfl, rfl, rfl, rfl, rfl⟩
  exact (filtered _).trans (retrack_course _ .ecm pmt.ecmPids)

theorem adoptMap_course (router : Router) (host : Host) (pmt : Pmt) :
    SameCourse router (router.adoptMap host pmt) := by
  apply List.foldlRecOn pmt.streams
  · exact readyFor_course router pmt
  · intro between same stream _
    exact same.trans (considerStream_course host pmt between stream)

theorem pcrPid_followPcrPid (router : Router) (pcrPid : Nat) :
    (router.followPcrPid pcrPid).pcrPid = some pcrPid := by
  unfold followPcrPid
  split
  · assumption
  · split <;> rfl

/-! ### Outputs -/

/-- An output after a map was adopted is one from before, or one of a stream of the map. -/
theorem owner_of_adoptMap {pid : Nat} {output : Output}
    (found : (router.adoptMap host pmt).outputs.get? pid = some output) :
    (∃ former, router.outputs.get? pid = some former ∧ former.owner = output.owner) ∨
      ∃ stream ∈ pmt.streams, stream.pid = pid ∧ output.info = infoOf pmt stream := by
  revert pid output
  apply List.foldlRecOn (motive := fun after : Router => ∀ {pid : Nat} {output : Output},
    after.outputs.get? pid = some output →
      (∃ former, router.outputs.get? pid = some former ∧ former.owner = output.owner) ∨
        ∃ stream ∈ pmt.streams, stream.pid = pid ∧ output.info = infoOf pmt stream) pmt.streams
  · intro pid output found
    rw [readyFor_outputs] at found
    exact .inl ⟨output, found, rfl⟩
  · intro between held stream listed pid output found
    have considered := considered host pmt between stream
    generalize considerStream host pmt between stream = after at considered found
    cases considered with
    | settled decided => exact held found
    | declined _ _ _ same =>
      obtain ⟨former, present, owner⟩ := same.output found
      have info : former.info = output.info := congrArg Prod.fst owner
      rcases held present with ⟨first, there, ownerThen⟩ | ⟨stream, member, same, created⟩
      · exact .inl ⟨first, there, ownerThen.trans owner⟩
      · exact .inr ⟨stream, member, same, info.symm.trans created⟩
    | added _ _ _ _ _ =>
      rcases outputs_of_addOutput found with ⟨same, rfl⟩ | ⟨_, present⟩
      · exact .inr ⟨stream, listed, same.symm, rfl⟩
      · exact held present

end Router

end TransportStream
