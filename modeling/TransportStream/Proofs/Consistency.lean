import TransportStream.Proofs.Adoption
import TransportStream.Proofs.FramingCounters
import TransportStream.Proofs.MapOwnership
import TransportStream.Proofs.SinkProtocol

/-!
The phase, the program and the outputs of a session agree with its tables, as long as no sink
fails. Each event restores the agreement with its last step; a failure before that step may
leave the parts at odds.
-/
namespace TransportStream

/-- The phases in which framing has yet to be found. -/
def Phase.seeks : Phase → Bool
  | .init | .syncing | .flushing => true
  | .patPending | .pmtPending | .streaming | .ended => false

/-- The phases that tables and outputs call for. -/
def Phase.settled : Phase → Bool
  | .patPending | .pmtPending | .streaming => true
  | .init | .syncing | .flushing | .ended => false

/-- A lock has to be found before anything else comes from framing. -/
theorem Synchronizer.nextItem_locked {sync next : Synchronizer}
    {result : Except Error (Option SyncItem)} (step : sync.nextItem = (next, result))
    (locked : next.locked = true) :
    sync.locked = true ∨ ∃ stride place, result = .ok (some (.locked stride place)) := by
  cases before : sync.locked with
  | true => exact .inl rfl
  | false =>
    right
    rw [nextItem, if_neg (by simp [before])] at step
    unfold tryLock giveUp at step
    dsimp only at step
    split at step
    · rename_i position stride _
      unfold lock at step
      dsimp only at step
      split at step
      · cases step
        simp [discard, before] at locked
      · cases step
        exact ⟨_, _, rfl⟩
    · cases step
      simp [discard, before] at locked
    · cases step
      simp [discard, before] at locked

namespace Router

variable {host : Host} {router before between after : Router} {framed : Bool}

/-- Every output is one of the program. -/
def Serves (router : Router) (program : Option Nat) : Prop :=
  ∀ pid output, router.outputs.get? pid = some output → some output.info.program = program

/-- Program, outputs and phase agree with the tables. -/
structure Consistent (router : Router) : Prop where
  selected : router.program = router.tables.selectProgram router.options.program
  served : router.Serves router.program
  settled : router.phase.settled = true → router.phase = router.settledPhase

/-- What holds also while a table is applied. Once framing was found, the phase says so. -/
structure Serving (framed : Bool) (router : Router) : Prop where
  served : router.Serves router.program
  owned : router.tables.Owned
  framed : framed = true → router.phase.seeks = false

/-- What holds between events. -/
structure Coherent (framed : Bool) (router : Router) : Prop extends Serving framed router where
  selected : router.program = router.tables.selectProgram router.options.program
  settled : router.phase.settled = true → router.phase = router.settledPhase

theorem Coherent.consistent (coherent : Coherent framed router) : Consistent router :=
  ⟨coherent.selected, coherent.served, coherent.settled⟩

/-- The same program is selected by the same tables. -/
structure SameSelection (before after : Router) : Prop where
  options : after.options = before.options
  tables : after.tables = before.tables
  program : after.program = before.program

theorem SameSelection.trans (first : SameSelection before between)
    (second : SameSelection between after) : SameSelection before after :=
  ⟨second.options.trans first.options, second.tables.trans first.tables,
    second.program.trans first.program⟩

theorem SameCourse.selection (same : SameCourse before after) : SameSelection before after :=
  ⟨same.options, same.tables, same.program⟩

/-! ### What the outputs and the phase depend on -/

theorem SameRoles.settledPhase (same : SameRoles before after) :
    after.settledPhase = before.settledPhase := by
  have empty : after.outputs.isEmpty = before.outputs.isEmpty := by
    rw [Bool.eq_iff_iff, NatMap.isEmpty_iff, NatMap.isEmpty_iff]
    exact forall_congr' (fun pid => (same.at pid).absent)
  rw [Router.settledPhase, Router.settledPhase, same.pat, empty]

theorem SameRoles.serves {program : Option Nat} (same : SameRoles before after)
    (served : before.Serves program) : after.Serves program := by
  intro pid output found
  obtain ⟨former, present, owner⟩ := same.output found
  have info : former.info = output.info := congrArg Prod.fst owner
  rw [← info]
  exact served pid former present

theorem Serving.of_steady (serving : Serving framed before) (steady : Steady before after) :
    Serving framed after where
  served := by
    rw [steady.course.program]
    exact steady.roles.serves serving.served
  owned := steady.course.tables ▸ serving.owned
  framed := steady.course.phase ▸ serving.framed

theorem coherent_lasting (framed : Bool) : Lasting (Coherent framed) := by
  intro before after coherent steady
  refine ⟨coherent.toServing.of_steady steady, ?_, ?_⟩
  · rw [steady.course.program, steady.course.tables, steady.course.options]
    exact coherent.selected
  · rw [steady.course.phase, steady.roles.settledPhase]
    exact coherent.settled

/-! ### Phases -/

theorem seeks_settledPhase (router : Router) : router.settledPhase.seeks = false := by
  unfold settledPhase
  split
  · rfl
  · split <;> rfl

theorem settleIfFramed_settled (router : Router)
    (settled : router.settleIfFramed.phase.settled = true) :
    router.settleIfFramed.phase = router.settleIfFramed.settledPhase := by
  unfold settleIfFramed at settled ⊢
  split
  · simp_all [Phase.settled]
  · simp_all [Phase.settled]
  · rfl

theorem settleIfFramed_seeks (found : router.phase.seeks = false) :
    router.settleIfFramed.phase.seeks = false := by
  unfold settleIfFramed
  split
  · exact found
  · exact found
  · exact seeks_settledPhase router

theorem settleIfFramed_selection (router : Router) :
    SameSelection router router.settleIfFramed := by
  unfold settleIfFramed
  split
  · exact ⟨rfl, rfl, rfl⟩
  · exact ⟨rfl, rfl, rfl⟩
  · exact ⟨rfl, rfl, rfl⟩

/-- Deciding the phase anew restores what the phase has to agree with. -/
theorem Serving.settleIfFramed (serving : Serving framed router) :
    Serving framed router.settleIfFramed where
  served := by
    rw [(settleIfFramed_selection router).program]
    exact (sameRoles_settleIfFramed router).serves serving.served
  owned := (settleIfFramed_selection router).tables ▸ serving.owned
  framed locked := settleIfFramed_seeks (serving.framed locked)

theorem followPcrPid_course (router : Router) (pcrPid : Nat) :
    SameSelection router (router.followPcrPid pcrPid) ∧
      (router.followPcrPid pcrPid).phase = router.phase := by
  unfold followPcrPid
  split
  · exact ⟨⟨rfl, rfl, rfl⟩, rfl⟩
  · split
    · exact ⟨⟨rfl, rfl, rfl⟩, rfl⟩
    · exact ⟨⟨rfl, rfl, rfl⟩, rfl⟩

/-! ### PIDs -/

theorem retrack_outputs (router : Router) (cls : StreamClass) (pids : List Nat) :
    (router.retrack cls pids).outputs = router.outputs := (retrack_rest ..).2.2.2.2

theorem Serving.retrack (serving : Serving framed router) (cls : StreamClass) (pids : List Nat) :
    Serving framed (router.retrack cls pids) := by
  have course := retrack_course router cls pids
  refine ⟨?_, course.tables ▸ serving.owned, course.phase ▸ serving.framed⟩
  intro pid output found
  rw [retrack_outputs] at found
  rw [course.program]
  exact serving.served pid output found

theorem Coherent.retrack (coherent : Coherent framed router) (cls : StreamClass)
    (pids : List Nat) : Coherent framed (router.retrack cls pids) := by
  have course := retrack_course router cls pids
  refine ⟨coherent.toServing.retrack cls pids, ?_, ?_⟩
  · rw [course.program, course.tables, course.options]
    exact coherent.selected
  · rw [course.phase, settledPhase, course.tables, retrack_outputs]
    exact coherent.settled

/-! ### Maps -/

/-- A map of the program brings outputs of that program alone. -/
theorem applyPmt_serving {pmt : Pmt} (serving : Serving framed router)
    (ofProgram : router.program = some pmt.program)
    (success : applyPmt host pmt router = .ok () after) :
    Serving framed after ∧ SameSelection router after ∧
      (after.phase.settled = true → after.phase = after.settledPhase) := by
  obtain ⟨between, dropped, rfl⟩ := applyPmt_ok success
  have followed := followPcrPid_course router pmt.pcrPid
  have course := ((withoutAll_course _ _).trans dropped.course).trans
    (adoptMap_course between host pmt)
  have selection := followed.1.trans course.selection
  have settled := settleIfFramed_selection (between.adoptMap host pmt)
  refine ⟨Serving.settleIfFramed ⟨?_, ?_, ?_⟩, selection.trans settled,
    settleIfFramed_settled _⟩
  · rw [selection.program]
    intro pid output found
    rcases owner_of_adoptMap found with ⟨kept, present, owner⟩ | ⟨stream, _, _, created⟩
    · obtain ⟨former, there, ownerThen⟩ := dropped.roles.output present
      rw [outputs_withoutAll] at there
      split at there
      · cases there
      · obtain ⟨first, presentFirst, ownerFirst⟩ :=
          (sameRoles_followPcrPid router pmt.pcrPid).output there
        have info : first.info = output.info :=
          congrArg Prod.fst ((ownerFirst.trans ownerThen).trans owner)
        rw [← info]
        exact serving.served pid first presentFirst
    · rw [created, ofProgram]
      rfl
  · exact selection.tables ▸ serving.owned
  · rw [course.phase, followed.2]
    exact serving.framed

theorem applySelectedMap_serving (serving : Serving framed router)
    (success : applySelectedMap host router = .ok () after) :
    Serving framed after ∧ SameSelection router after := by
  cases selected : router.program.bind router.tables.pmt? with
  | none =>
    rw [applySelectedMap_none selected] at success
    cases success
    exact ⟨serving, rfl, rfl, rfl⟩
  | some pmt =>
    rw [applySelectedMap_some selected] at success
    obtain ⟨program, ofProgram, inForce⟩ := Option.bind_eq_some_iff.mp selected
    rw [← serving.owned.maps program pmt inForce] at ofProgram
    obtain ⟨serving, selection, _⟩ := applyPmt_serving serving ofProgram success
    exact ⟨serving, selection⟩

/-! ### Programs -/

/-- Once a program is left, no output is. -/
theorem teardownProgram_ok (success : teardownProgram host router = .ok () after) :
    (∀ pid, after.outputs.get? pid = none) ∧ SameSelection router after ∧
      after.phase = router.phase := by
  rw [teardownProgram_eq] at success
  obtain ⟨_, torn, dropped, rest⟩ := ok_of_bind success
  have dropped := dropAll_ok (NatMap.keys_nodup _) (keys_present router) dropped
  have course := ((withoutAll_course _ _).trans dropped.course).trans
    (retrack_course torn .ecm [])
  cases rest
  refine ⟨?_, ⟨course.options, course.tables, course.program⟩, course.phase⟩
  intro pid
  change (torn.retrack .ecm []).outputs.get? pid = none
  rw [retrack_outputs, ← Option.map_eq_none_iff, dropped.roles.outputs, outputs_withoutAll]
  split
  · rfl
  · rename_i absent
    rw [NatMap.mem_keys_iff] at absent
    simpa [Option.eq_none_iff_forall_ne_some] using absent

/-- Outputs of another program do not outlive the selection of a program. -/
theorem selectProgram_serving {selected : Option Nat} (serving : Serving framed router)
    (success : selectProgram host selected router = .ok () after) :
    Serving framed after ∧ after.program = selected ∧ after.options = router.options ∧
      after.tables = router.tables := by
  unfold selectProgram at success
  obtain ⟨_, _, first, success⟩ := ok_of_bind success
  cases first
  dsimp only at success
  split at success
  · rename_i same
    cases success
    exact ⟨serving, same.symm, rfl, rfl⟩
  · split at success
    · obtain ⟨_, torn, left, success⟩ := ok_of_bind success
      obtain ⟨none, selection, phase⟩ := teardownProgram_ok left
      cases success
      refine ⟨⟨?_, ?_, ?_⟩, rfl, selection.options, selection.tables⟩
      · intro pid output found
        cases (none pid).symm.trans found
      · exact selection.tables ▸ serving.owned
      · exact phase ▸ serving.framed
    · rename_i idle
      cases success
      refine ⟨⟨?_, serving.owned, serving.framed⟩, rfl, rfl, rfl⟩
      -- without a program there was no output
      intro pid output found
      have ofProgram := serving.served pid output found
      simp [← ofProgram] at idle

/-! ### Events -/

theorem applyPat_coherent {previous : Option Pat} {current : Pat}
    (serving : Serving framed router)
    (success : applyEvent host (.pat previous current) router = .ok () after) :
    Coherent framed after := by
  rw [applyPat_eq] at success
  have followed : Serving framed (router.followMaps current) := serving.retrack .pmt _
  obtain ⟨_, between, selecting, success⟩ := ok_of_bind success
  obtain ⟨serving, program, options, tables⟩ := selectProgram_serving followed selecting
  obtain ⟨_, last, mapped, success⟩ := ok_of_bind success
  obtain ⟨serving, selection⟩ := applySelectedMap_serving serving mapped
  cases success
  refine ⟨serving.settleIfFramed, ?_, settleIfFramed_settled last⟩
  have selection := selection.trans (settleIfFramed_selection last)
  rw [selection.program, selection.tables, selection.options, program, tables, options]

theorem applyEvent_coherent {event : TableEvent}
    (other : ∀ previous current, event ≠ .pat previous current)
    (coherent : Coherent framed router) (success : applyEvent host event router = .ok () after) :
    Coherent framed after := by
  cases event with
  | pat previous current => exact absurd rfl (other previous current)
  | pmt mapPid previous current =>
    obtain ⟨_, _, first, success⟩ := ok_of_bind success
    cases first
    split at success
    · rename_i ofProgram
      obtain ⟨serving, selection, settled⟩ :=
        applyPmt_serving coherent.toServing ofProgram success
      refine ⟨serving, ?_, settled⟩
      rw [selection.program, selection.tables, selection.options]
      exact coherent.selected
    · cases success
      exact coherent
  | cat previous current =>
    cases success
    exact coherent.retrack .emm _

/-! ### Sections -/

theorem Serving.retable (serving : Serving framed router) {tables : TableTracker} {stats : Stats}
    (owned : tables.Owned) : Serving framed { router with tables, stats } :=
  ⟨serving.served, owned, serving.framed⟩

theorem Coherent.retable (coherent : Coherent framed router) {tables : TableTracker}
    {stats : Stats} (same : tables.pat = router.tables.pat) (owned : tables.Owned) :
    Coherent framed { router with tables, stats } := by
  refine ⟨coherent.toServing.retable owned, ?_, ?_⟩
  · have selected := coherent.selected
    unfold TableTracker.selectProgram at selected ⊢
    rwa [same]
  · have settled := coherent.settled
    unfold settledPhase at settled ⊢
    rwa [same]

theorem takeTable_coherent {pid : Nat} {data : Bytes} (coherent : Coherent framed router)
    (success : handleSection host pid .pat data router = .ok () after) :
    Coherent framed after := by
  have announces := router.tables.handleSection_announces pid data
  have owned := coherent.owned.handleSection pid data
  unfold handleSection takeSection at success
  cases result : router.tables.handleSection pid data with
  | mk tables event =>
    rw [result] at announces owned
    rw [result] at success
    let emptied : TableTracker := { tables with malformed := 0, versionChanges := 0 }
    have emptiedOwned : emptied.Owned := owned.of_live rfl
    cases announces with
    | kept same silent =>
      have kept : emptied.pat = router.tables.pat := same
      cases event with
      | none =>
        cases success
        exact coherent.retable kept emptiedOwned
      | some event =>
        refine applyEvent_coherent ?_ (coherent.retable kept emptiedOwned) success
        intro previous current same
        exact silent previous current (congrArg some same)
    | changed previous applied =>
      exact applyPat_coherent (coherent.toServing.retable emptiedOwned) success

theorem handleSection_coherent {pid : Nat} {cls : StreamClass} {data : Bytes}
    (coherent : Coherent framed router)
    (success : handleSection host pid cls data router = .ok () after) : Coherent framed after := by
  have entitlement : ∀ cls, (if host.descrambler.isSome then
      EStateM.Result.ok () (router.record (.entitlement pid cls data)) else .ok () router) =
        (.ok () after : EStateM.Result Error Router Unit) → Coherent framed after := by
    intro cls success
    split at success
    · cases success
      exact coherent_lasting framed coherent (steady_record ..)
    · cases success
      exact coherent
  cases cls with
  | pat => exact takeTable_coherent coherent success
  | pmt => exact takeTable_coherent coherent success
  | cat => exact takeTable_coherent coherent success
  | pes =>
    cases success
    exact coherent
  | ecm => exact entitlement .ecm success
  | emm => exact entitlement .emm success

/-! ### Failures -/

/-- Whether a sink ever failed. -/
def Failed (router : Router) : Prop := ∃ call ∈ router.calls, call.failed = true

theorem Failed.mono (failed : Failed before) (grown : before.calls <:+ after.calls) :
    Failed after := by
  obtain ⟨call, made, failed⟩ := failed
  exact ⟨call, grown.subset made, failed⟩

theorem Blamed.failure {error : Error} (blamed : Blamed host error after) : Failed after := by
  obtain ⟨call, older, calls, failed⟩ := blamed.failed
  exact ⟨call, by simp [calls], failed⟩

/-- What holds unless a sink failed lasts if it would without failures. -/
theorem lasting_or_failed {invariant : Router → Prop} (lasting : Lasting invariant) :
    Lasting (fun router => Failed router ∨ invariant router) := by
  rintro before after (failed | held) steady
  · exact .inl (failed.mono steady.calls)
  · exact .inr (lasting held steady)

/-- An action fails only where a sink does, so it is enough to look at its success. -/
theorem keeps_or_failed {invariant : Router → Prop} {action : Routing Unit}
    (traced : ∀ router, Traced host router (action router))
    (success : ∀ {router after}, invariant router → action router = .ok () after →
      invariant after) :
    Keeps (fun router => Failed router ∨ invariant router) action := by
  intro router held
  have traced := traced router
  unfold left
  cases result : action router with
  | error error after =>
    rw [result] at traced
    exact .inl traced.2.failure
  | ok value after =>
    rw [result] at traced
    rcases held with failed | held
    · exact .inl (failed.mono traced.calls_suffix)
    · exact .inr (success held result)

theorem handlePacket_coherent (host : Host) (framed : Bool) (packet : TransportPacket) :
    Keeps (fun router => Failed router ∨ Coherent framed router) (handlePacket host packet) :=
  handlePacket_keeps (lasting_or_failed (coherent_lasting framed))
    (fun pid cls data => keeps_or_failed (handleSection_traced host pid cls data)
      handleSection_coherent) packet

/-- A lock decides the phase anew, whether framing had been found before or not. -/
theorem Coherent.noteLock {former : Bool} (coherent : Coherent former router) (stride : Nat) :
    Coherent framed (router.noteLock stride) where
  served := coherent.served
  owned := coherent.owned
  framed _ := seeks_settledPhase _
  selected := coherent.selected
  settled _ := rfl

theorem Coherent.flush (coherent : Coherent framed router) : Coherent false router.flush where
  served := (sameRoles_flush router).serves coherent.served
  owned := coherent.owned.discardPartial
  framed := nofun
  selected := coherent.selected
  settled := nofun

/-- Input comes in before framing was found. -/
theorem Coherent.awaken (coherent : Coherent framed router) (start : router.phase = .init) :
    Coherent framed { router with phase := .syncing } where
  served := coherent.served
  owned := coherent.owned
  framed locked := by
    have found := coherent.framed locked
    rw [start] at found
    cases found
  selected := coherent.selected
  settled := nofun

/-- A phase that says neither that framing is sought nor what tables call for. -/
theorem Coherent.ended {former : Bool} (coherent : Coherent former router) :
    Coherent framed { router with phase := .ended } :=
  ⟨⟨coherent.served, coherent.owned, fun _ => rfl⟩, coherent.selected, nofun⟩

theorem Coherent.weaker {former : Bool} (coherent : Coherent former router)
    (weaker : framed = true → former = true) : Coherent framed router :=
  { coherent with framed := fun locked => coherent.framed (weaker locked) }

theorem ofOptions_coherent (options : Options) : Coherent false (.ofOptions options) where
  served := fun _ _ found => nomatch found
  owned := TableTracker.owned_start
  framed := nofun
  selected := rfl
  settled := nofun

end Router

namespace Session

variable {host : Host} {session : Session}

/-- The parts of a session agree, framing included, unless a sink failed. -/
def Agrees (session : Session) : Prop :=
  session.router.Failed ∨ session.router.Coherent session.sync.locked

/-- Framing goes on: unless it locks, it is locked only if it was. -/
theorem Agrees.frame (agrees : session.Agrees) {sync : Synchronizer}
    {result : Except Error (Option SyncItem)} (step : session.sync.nextItem = (sync, result))
    (noLock : ∀ stride place, result ≠ .ok (some (.locked stride place))) :
    (session.frame sync).Agrees := by
  apply Router.lasting_or_failed (Router.coherent_lasting _) _
    (Router.steady_noteFraming session.router sync)
  refine agrees.imp_right fun coherent => coherent.weaker fun locked => ?_
  rcases Synchronizer.nextItem_locked step locked with before | ⟨stride, place, lock⟩
  · exact before
  · exact absurd lock (noLock stride place)

/-- What framing hands on is handled, and the parts agree again. -/
theorem handleItem_agrees (agrees : session.Agrees) {sync : Synchronizer} {item : SyncItem}
    (step : session.sync.nextItem = (sync, .ok (some item))) (router : Router)
    (result : router =
      Router.left (Router.handleItem host item) (session.router.noteFraming sync)) :
    ({ sync, router } : Session).Agrees := by
  rw [result]
  cases item with
  | locked stride place =>
    have framed := Router.lasting_or_failed (Router.coherent_lasting _) agrees
      (Router.steady_noteFraming session.router sync)
    exact framed.imp_right (fun coherent => coherent.noteLock stride)
  | lost place =>
    have framed := agrees.frame step (by simp)
    exact Router.lasting_or_failed (Router.coherent_lasting _) framed
      (Router.steady_noteLoss _)
  | packet packet => 
    have framed := agrees.frame step (by simp)
    exact Router.handlePacket_coherent host _ packet _ framed

theorem drain_agrees (host : Host) (agrees : session.Agrees) :
    (left (drain host session)).Agrees := by
  fun_induction drain host session with
  | case1 session sync error step => exact agrees.frame step (by simp)
  | case2 session sync step => exact agrees.frame step (by simp)
  | case3 session sync item step error router result =>
    have handled : router = Router.left (Router.handleItem host item)
        (session.router.noteFraming sync) := by rw [Router.left, result]
    exact handleItem_agrees agrees step router handled
  | case4 session sync item step router result ih =>
    have handled : router = Router.left (Router.handleItem host item)
        (session.router.noteFraming sync) := by rw [Router.left, result]
    exact ih (handleItem_agrees agrees step router handled)

theorem push_agrees (agrees : session.Agrees) (data : Bytes) :
    (left (session.push host data)).Agrees := by
  unfold push
  split
  · exact agrees
  · apply drain_agrees
    unfold awaken
    split
    · rename_i start
      exact agrees.imp_right (fun coherent => coherent.awaken start)
    · exact agrees

theorem resume_agrees (agrees : session.Agrees) (offset : Option Nat) :
    (session.resume offset).Agrees :=
  agrees.imp_right Router.Coherent.flush

theorem close_agrees (agrees : session.Agrees) (drained : Option Error) :
    (left (match session.route (Router.closeAll host) with
      | .error error session => .error error session
      | .ok () closed => closed.conclude drained session.neverFramed)).Agrees := by
  have closed := Router.closeAll_keeps
    (Router.lasting_or_failed (Router.coherent_lasting session.sync.locked)) host _ agrees
  unfold route
  cases outcome : Router.closeAll host session.router with
  | error error after =>
    rw [Router.left, outcome] at closed
    exact closed
  | ok value after =>
    rw [Router.left_of_ok outcome] at closed
    simp only [left_conclude]
    exact closed.imp_right (fun coherent => coherent.ended)

theorem finish_agrees (agrees : session.Agrees) : (left (session.finish host)).Agrees := by
  unfold finish
  split
  · exact agrees
  · have drained : (left (drain host { session with sync := session.sync.finish })).Agrees :=
      drain_agrees host agrees
    cases outcome : drain host { session with sync := session.sync.finish } with
    | error error after =>
      rw [outcome] at drained
      exact close_agrees drained (some error)
    | ok value after =>
      rw [outcome] at drained
      exact close_agrees drained none

theorem performAll_agrees (agrees : session.Agrees) (operations : List (Host × Operation)) :
    (session.performAll operations).Agrees := by
  induction operations generalizing session with
  | nil => exact agrees
  | cons step others ih =>
    apply ih
    exact @perform_holds step.1 session Agrees (fun _ data agrees => push_agrees agrees data)
      (fun _ agrees => finish_agrees agrees) (fun _ offset agrees => resume_agrees agrees offset)
      step.2 agrees

/-- Whatever is asked of a session, as long as no sink failed its program is the one that its
tables select, its outputs are of that program, and its phase is the one that tables and outputs
call for. While it seeks its frame, framing has found none. -/
theorem performAll_consistent {options : Options} (created : new options = .ok session)
    (operations : List (Host × Operation))
    (sound : ∀ call ∈ (session.performAll operations).router.calls, call.failed = false) :
    (session.performAll operations).router.Consistent ∧
      ((session.performAll operations).phase.seeks = true →
        (session.performAll operations).sync.locked = false) := by
  have start : session.Agrees := by
    rw [new_ok created]
    exact .inr (Router.ofOptions_coherent options)
  rcases performAll_agrees start operations with ⟨call, made, failed⟩ | coherent
  · rw [sound call made] at failed
    cases failed
  · refine ⟨coherent.consistent, fun seeking => ?_⟩
    rw [← Bool.not_eq_true]
    intro locked
    rw [phase, coherent.framed locked] at seeking
    cases seeking

/-- Two tables announce a stream, and the session is restarted while it streams. -/
theorem consistent_when_restarted :
    let options : Options := { packetSize := some packetSize, minSyncRun := 2 }
    let association : Pat :=
      { version := 0, currentNext := true, number := 0, last := 0, streamId := 1
        programs := [⟨1, 0x100⟩], networkPid := none }
    let session : Session := { sync := .ofOptions options, router := .ofOptions options }
    let announce : List (Host × Operation) := [
      (.willing, .push (sectionPacket patPid 0 association.encode)),
      (.willing, .push (sectionPacket 0x100 0 (loneMap 0 0x1B 0x101).encode))]
    let restarted := session.performAll (announce ++ [(.willing, .flush)])
    (session.performAll announce).phase = .streaming ∧
      (∀ call ∈ restarted.router.calls, call.failed = false) ∧ restarted.phase.seeks = true ∧
      restarted.router.Consistent ∧ restarted.sync.locked = false := by
  have created := new_of_validate
    (rfl : Options.validate { packetSize := some packetSize, minSyncRun := 2 } = .ok ())
  intro options association session announce restarted
  have sound : ∀ call ∈ restarted.router.calls, call.failed = false := by decide +kernel
  have seeking : restarted.phase.seeks = true := by decide +kernel
  obtain ⟨consistent, unlocked⟩ :=
    performAll_consistent created (announce ++ [(.willing, .flush)]) sound
  exact ⟨by decide +kernel, sound, seeking, consistent, unlocked seeking⟩

end Session

end TransportStream
