import TransportStream.Proofs.Adoption
import TransportStream.Proofs.Bookkeeping

/-!
Streams that a map lists as they were keep flowing while it comes into force: nothing about
them changes, and no call is made for them. Once it is in force, applying it again does
nothing at all.
-/
namespace TransportStream

/-- Whether a call is made for a PID, or for the sink of its output. -/
def Call.concerns (pid sink : Nat) : Call → Bool
  | .create info _ => info.pid == pid
  | .deliver target _ _ => target == sink
  | .finish target of _ => target == sink || of == pid
  | .entitlement of _ _ => of == pid
  | .descramble of _ _ _ => of == pid

namespace Router

variable {host : Host} {router before between after : Router} {pmt : Pmt} {pid sink : Nat}

/-! ### Maps in force -/

/-- Whether it is decided if a PID has an output. -/
def Decided (router : Router) (pid : Nat) : Prop :=
  router.outputs.contains pid = true ∨ router.declined.contains pid = true

/-- What a map determines once its entitlement PIDs are followed. -/
structure Followed (pmt : Pmt) (router : Router) : Prop where
  declined : ∀ pid decision, router.declined.get? pid = some decision →
    (wantedTypes pmt).contains pid = true
  entitled : ∀ pid stream, router.streams.get? pid = some stream → stream.cls = .ecm →
    pid ∈ pmt.ecmPids
  heard : ∀ pid ∈ pmt.ecmPids, router.streams.contains pid = true

/-- A map is in force: all that it determines is as it says. -/
structure InForce (pmt : Pmt) (router : Router) : Prop extends Followed pmt router where
  pcrPid : router.pcrPid = some pmt.pcrPid
  fresh : ∀ pid output, router.outputs.get? pid = some output →
    (wantedTypes pmt).get? pid = some output.info.streamType
  decided : ∀ stream ∈ pmt.streams, router.Decided stream.pid
  settled : router.settleIfFramed = router

theorem retrack_eq_self {cls : StreamClass} {pids : List Nat}
    (listed : ∀ pid stream, router.streams.get? pid = some stream → stream.cls = cls → pid ∈ pids)
    (heard : ∀ pid ∈ pids, router.streams.contains pid = true) :
    router.retrack cls pids = router := by
  have kept : router.streams.filter (fun pid stream => stream.cls != cls || pids.contains pid) =
      router.streams := by
    apply NatMap.filter_eq_self
    intro pid stream found
    by_cases ofClass : stream.cls = cls
    · simp [listed pid stream found ofClass]
    · simp [ofClass]
  unfold retrack
  dsimp only
  rw [kept]
  apply List.foldlRecOn (motive := (· = router)) pids
  · rfl
  · rintro _ rfl pid member
    exact if_pos (heard pid member)

theorem Followed.readyFor (followed : Followed pmt router) : router.readyFor pmt = router := by
  have kept : router.declined.filter (fun pid _ => (wantedTypes pmt).contains pid) =
      router.declined := NatMap.filter_eq_self followed.declined
  unfold Router.readyFor
  rw [kept]
  exact retrack_eq_self followed.entitled followed.heard

theorem considerStream_decided {stream : PmtStream} (decided : router.Decided stream.pid) :
    considerStream host pmt router stream = router := by
  unfold considerStream
  rw [if_pos]
  simpa [Decided] using decided

/-- A map in force has nothing left to do. -/
theorem InForce.applyPmt (inForce : InForce pmt router) (host : Host) :
    applyPmt host pmt router = .ok () router := by
  have followed : router.followPcrPid pmt.pcrPid = router := if_pos inForce.pcrPid
  have stale : router.staleOutputs (wantedTypes pmt) = [] := by
    apply List.eq_nil_iff_forall_not_mem.mpr
    intro pid member
    obtain ⟨output, found, unwanted⟩ := mem_staleOutputs.mp member
    exact unwanted (inForce.fresh pid output found)
  have adopted : router.adoptMap host pmt = router := by
    rw [adoptMap, inForce.toFollowed.readyFor]
    apply List.foldlRecOn (motive := (· = router)) pmt.streams
    · rfl
    · rintro _ rfl stream member
      exact considerStream_decided (inForce.decided stream member)
  rw [applyPmt_eq, followed, stale]
  change EStateM.Result.ok () (router.adoptMap host pmt).settleIfFramed = _
  rw [adopted, inForce.settled]

/-! ### How a map comes into force -/

/-- Who is listened to for entitlements is what the map says. -/
theorem readyFor_followed (router : Router) (pmt : Pmt) : Followed pmt (router.readyFor pmt) := by
  let narrowed : Router := { router with
    declined := router.declined.filter (fun pid _ => (wantedTypes pmt).contains pid) }
  have ready : router.readyFor pmt = narrowed.retrack .ecm pmt.ecmPids := rfl
  have drawn := (retrack_tracks narrowed .ecm pmt.ecmPids).streams
  rw [← ready] at drawn
  refine ⟨?_, ?_, ?_⟩
  · intro pid decision found
    rw [readyFor_declined, NatMap.get?_filter, Option.filter_eq_some_iff] at found
    exact found.2
  · intro pid stream found ofClass
    by_cases listed : pid ∈ pmt.ecmPids
    · exact listed
    · have former := (drawn pid).symm.trans found
      simp only [kept, NatMap.get?_filter, if_neg listed, Option.or_none,
        Option.filter_eq_some_iff, ofClass] at former
      simpa using former.2
  · intro pid listed
    rw [NatMap.contains, drawn, if_pos listed]
    cases NatMap.get? _ pid <;> rfl

theorem contains_insert {α : Type} {map : NatMap α} {key : Nat} (other : Nat) (value : α)
    (present : map.contains key = true) : (map.insert other value).contains key = true := by
  rw [NatMap.contains_iff] at present ⊢
  rw [NatMap.get?_insert]
  split
  · exact ⟨value, rfl⟩
  · exact present

theorem Outcome.followed {stream : PmtStream} (outcome : Outcome host pmt router stream after)
    (listed : (wantedTypes pmt).contains stream.pid = true) (followed : Followed pmt router) :
    Followed pmt after := by
  cases outcome with
  | settled decided => exact followed
  | refused stats asked =>
    refine ⟨?_, followed.entitled, followed.heard⟩
    intro pid decision found
    change (router.declined.insert stream.pid ()).get? pid = some decision at found
    rw [NatMap.get?_insert] at found
    split at found
    · rename_i same
      exact same ▸ listed
    · exact followed.declined pid decision found
  | added free =>
    refine ⟨followed.declined, ?_, ?_⟩
    · intro pid other found ofClass
      rcases streams_of_addOutput found with ⟨_, rfl⟩ | ⟨_, present⟩
      · cases ofClass
      · exact followed.entitled pid other present ofClass
    · intro pid listed
      exact contains_insert _ _ (followed.heard pid listed)

theorem Outcome.decided_mono {stream : PmtStream} (outcome : Outcome host pmt router stream after)
    (decided : router.Decided pid) : after.Decided pid := by
  cases outcome with
  | settled _ => exact decided
  | refused stats asked => exact decided.imp_right (contains_insert _ _)
  | added free => exact decided.imp_left (contains_insert _ _)

theorem Outcome.decides {stream : PmtStream} (outcome : Outcome host pmt router stream after) :
    after.Decided stream.pid := by
  cases outcome with
  | settled decided => exact decided
  | refused stats asked =>
    right
    rw [NatMap.contains_iff]
    exact ⟨(), NatMap.get?_insert_self ..⟩
  | added free =>
    left
    rw [NatMap.contains_iff]
    exact ⟨_, NatMap.get?_insert_self ..⟩

theorem considerAll_decided (streams : List PmtStream) (router : Router) :
    (∀ pid, router.Decided pid → (streams.foldl (considerStream host pmt) router).Decided pid) ∧
      ∀ stream ∈ streams, (streams.foldl (considerStream host pmt) router).Decided stream.pid := by
  induction streams generalizing router with
  | nil => exact ⟨fun _ decided => decided, nofun⟩
  | cons first others ih =>
    have outcome := considerStream_outcome host pmt router first
    obtain ⟨lasting, decided⟩ := ih (considerStream host pmt router first)
    refine ⟨fun pid early => lasting pid (outcome.decided_mono early), ?_⟩
    intro stream member
    rcases List.mem_cons.mp member with rfl | later
    · exact lasting _ outcome.decides
    · exact decided stream later

theorem wantedTypes_listed (distinct : (pmt.streams.map (·.pid)).Nodup) {stream : PmtStream}
    (member : stream ∈ pmt.streams) :
    (wantedTypes pmt).get? stream.pid = some (.ofCode stream.streamType) :=
  (wantedTypes_iff distinct).mpr ⟨stream, member, rfl, rfl⟩

theorem adoptMap_followed (distinct : (pmt.streams.map (·.pid)).Nodup) (router : Router)
    (host : Host) : Followed pmt (router.adoptMap host pmt) := by
  apply List.foldlRecOn (motive := Followed pmt) pmt.streams
  · exact readyFor_followed router pmt
  · intro between followed stream member
    refine (considerStream_outcome host pmt between stream).followed ?_ followed
    rw [NatMap.contains, wantedTypes_listed distinct member]
    rfl

/-- What was dropped and added leaves the outputs that the map lists. -/
theorem adoptMap_fresh (distinct : (pmt.streams.map (·.pid)).Nodup)
    (kept : ∀ pid output, router.outputs.get? pid = some output →
      (wantedTypes pmt).get? pid = some output.info.streamType) {output : Output}
    (found : (router.adoptMap host pmt).outputs.get? pid = some output) :
    (wantedTypes pmt).get? pid = some output.info.streamType := by
  rcases owner_of_adoptMap found with ⟨former, present, owner⟩ | ⟨stream, member, same, created⟩
  · have info : former.info = output.info := congrArg Prod.fst owner
    rw [← info]
    exact kept pid former present
  · rw [created, ← same]
    exact wantedTypes_listed distinct member

theorem withoutStale_fresh {wanted : NatMap StreamType} {output : Output}
    (found : ((router.staleOutputs wanted).foldl without router).outputs.get? pid = some output) :
    wanted.get? pid = some output.info.streamType := by
  rw [outputs_withoutAll] at found
  split at found
  · cases found
  · rename_i fresh
    by_cases listed : wanted.get? pid = some output.info.streamType
    · exact listed
    · exact absurd (mem_staleOutputs.mpr ⟨output, found, listed⟩) fresh

theorem settleIfFramed_settleIfFramed (router : Router) :
    router.settleIfFramed.settleIfFramed = router.settleIfFramed := by
  have again : ∀ router : Router, router.settle.settleIfFramed = router.settle := by
    intro router
    unfold settleIfFramed
    split <;> rfl
  unfold settleIfFramed
  cases phase : router.phase with
  | syncing => simp only [phase]
  | flushing => simp only [phase]
  | init | patPending | pmtPending | streaming | ended => exact again router

/-- Deciding the phase anew changes nothing else. -/
theorem settleIfFramed_eq (router : Router) :
    ∃ phase, router.settleIfFramed = { router with phase } := by
  unfold settleIfFramed
  split
  · exact ⟨router.phase, rfl⟩
  · exact ⟨router.phase, rfl⟩
  · exact ⟨router.settledPhase, rfl⟩

/-- A map that was applied is in force, unless a sink failed before it was. -/
theorem applyPmt_inForce (distinct : (pmt.streams.map (·.pid)).Nodup)
    (success : Router.applyPmt host pmt router = .ok () after) : InForce pmt after := by
  obtain ⟨between, dropped, rfl⟩ := applyPmt_ok success
  have kept : ∀ pid output, between.outputs.get? pid = some output →
      (wantedTypes pmt).get? pid = some output.info.streamType := by
    intro pid output found
    obtain ⟨former, present, owner⟩ := dropped.roles.output found
    have info : former.info = output.info := congrArg Prod.fst owner
    rw [← info]
    exact withoutStale_fresh present
  have followed := adoptMap_followed distinct between host
  have pcrPid : (between.adoptMap host pmt).pcrPid = some pmt.pcrPid := by
    rw [(adoptMap_course between host pmt).pcrPid, dropped.course.pcrPid,
      (withoutAll_course _ _).pcrPid, pcrPid_followPcrPid]
  have decided : ∀ stream ∈ pmt.streams, (between.adoptMap host pmt).Decided stream.pid :=
    (considerAll_decided pmt.streams (between.readyFor pmt)).2
  have settled := settleIfFramed_settleIfFramed (between.adoptMap host pmt)
  obtain ⟨phase, last⟩ := settleIfFramed_eq (between.adoptMap host pmt)
  rw [last] at settled ⊢
  exact {
    declined := followed.declined
    entitled := followed.entitled
    heard := followed.heard
    pcrPid := pcrPid
    fresh := fun _ _ found => adoptMap_fresh distinct kept found
    decided := decided
    settled := settled }

/-! ### Streams that stay -/

/-- `Untouched pid sink before after`: what is kept for a PID and its output is the same, and no
call was made for either. -/
structure Untouched (pid sink : Nat) (before after : Router) : Prop where
  stream : after.streams.get? pid = before.streams.get? pid
  output : after.outputs.get? pid = before.outputs.get? pid
  calls : ∃ made, after.calls = made ++ before.calls ∧
    ∀ call ∈ made, call.concerns pid sink = false

theorem Untouched.refl (pid sink : Nat) (router : Router) : Untouched pid sink router router :=
  ⟨rfl, rfl, [], rfl, List.forall_mem_nil _⟩

theorem Untouched.trans (first : Untouched pid sink before between)
    (second : Untouched pid sink between after) : Untouched pid sink before after where
  stream := second.stream.trans first.stream
  output := second.output.trans first.output
  calls := by
    obtain ⟨early, calls, none⟩ := first.calls
    obtain ⟨late, callsThen, noneThen⟩ := second.calls
    refine ⟨late ++ early, by rw [callsThen, calls, List.append_assoc], ?_⟩
    intro call member
    rcases List.mem_append.mp member with last | former
    · exact noneThen call last
    · exact none call former

/-- Whatever makes no call. -/
theorem Untouched.of_calls (stream : after.streams.get? pid = before.streams.get? pid)
    (output : after.outputs.get? pid = before.outputs.get? pid)
    (calls : after.calls = before.calls) : Untouched pid sink before after :=
  ⟨stream, output, [], calls, List.forall_mem_nil _⟩

theorem untouched_record (router : Router) {call : Call}
    (foreign : call.concerns pid sink = false) :
    Untouched pid sink router (router.record call) := by
  refine ⟨rfl, rfl, [call], rfl, ?_⟩
  intro made member
  rwa [List.mem_singleton.mp member]

/-- A PID was untouched so far, and no other output shares its sink. -/
structure Spared (pid sink : Nat) (before after : Router) : Prop
    extends untouched : Untouched pid sink before after where
  alone : ∀ other rival, after.outputs.get? other = some rival → rival.sink = sink → other = pid

variable {other : Nat} {output : Output}

/-- Changes of what is kept for another PID. -/
theorem Spared.restream (spared : Spared pid sink before router) (different : other ≠ pid)
    (stream : StreamState) (stats : Stats) :
    Spared pid sink before { router with streams := router.streams.insert other stream, stats } :=
  ⟨spared.untouched.trans
    (.of_calls (NatMap.get?_insert_ne _ _ different.symm) rfl rfl), spared.alone⟩

theorem Spared.adjust (spared : Spared pid sink before router) (different : other ≠ pid)
    (found : router.outputs.get? other = some output) {next : Output}
    (fed : next.sink = output.sink) (stats : Stats) :
    Spared pid sink before { router with stats, outputs := router.outputs.insert other next } := by
  refine ⟨spared.untouched.trans
    (.of_calls rfl (NatMap.get?_insert_ne _ _ different.symm) rfl), ?_⟩
  intro place rival present shared
  change (router.outputs.insert other next).get? place = some rival at present
  rw [NatMap.get?_insert] at present
  split at present
  · rename_i same
    cases present
    rw [same]
    exact spared.alone other output found (fed.symm.trans shared)
  · exact spared.alone place rival present shared

theorem Spared.record (spared : Spared pid sink before router) {call : Call}
    (foreign : call.concerns pid sink = false) : Spared pid sink before (router.record call) :=
  ⟨spared.untouched.trans (untouched_record router foreign), spared.alone⟩

theorem Spared.without (spared : Spared pid sink before router) (different : other ≠ pid) :
    Spared pid sink before (router.without other) where
  untouched := spared.untouched.trans (.of_calls
    (by rw [streams_without, if_neg different.symm])
    (by rw [outputs_without, if_neg different.symm]) rfl)
  alone place rival found := spared.alone place rival (outputs_of_without found).2

theorem deliver_spared (host : Host) (different : other ≠ pid) (packet : PesPacket) :
    Keeps (Spared pid sink before) (deliver host other packet) := by
  intro router spared
  unfold left deliver
  cases found : router.outputs.get? other with
  | none => exact spared
  | some output =>
    have owner := Output.owner_deliver output packet router.clock.first
    cases made : output.deliver packet router.clock.first with
    | mk next unit =>
      rw [made] at owner
      have fed : next.sink = output.sink := congrArg Prod.snd owner
      have foreign : next.sink ≠ sink :=
        fun shared => different (spared.alone other output found (fed.symm.trans shared))
      have adjusted := spared.adjust different found fed
        (router.stats.recordAccessUnit other packet.header.pts)
      simp only [made]
      cases unit with
      | none => exact adjusted
      | some unit =>
        change Spared pid sink before (left (handUnit host next.sink unit) _)
        rw [left_handUnit]
        exact adjusted.record (by simp [Call.concerns, foreign])

theorem drainOutput_spared (host : Host) (different : other ≠ pid) :
    Keeps (Spared pid sink before) (drainOutput host other) := by
  intro router spared
  have flushed : Spared pid sink before (router.flushReassembly other).1 := by
    unfold flushReassembly
    split
    · exact spared
    · split
      · exact spared
      · exact spared.restream different _ _
  unfold left drainOutput
  cases drained : router.flushReassembly other with
  | mk next last =>
    rw [drained] at flushed
    cases last with
    | none => exact flushed
    | some packet => exact deliver_spared host different packet next flushed

theorem removeOutput_spared (host : Host) (different : other ≠ pid) :
    Keeps (Spared pid sink before) (removeOutput host other) := by
  intro router spared
  have untracked : Spared pid sink before (router.untrack other) :=
    ⟨spared.untouched.trans (.of_calls
      (by rw [untrack, NatMap.get?_erase, if_neg different.symm]) rfl rfl), spared.alone⟩
  unfold left
  rw [removeOutput_eq]
  cases found : router.outputs.get? other with
  | none => simpa only [untrack, found] using untracked
  | some output =>
    have foreign : output.sink ≠ sink :=
      fun shared => different (spared.alone other output found shared)
    simp only [untrack, found]
    by_cases ended : output.ended
    · simp only [ended, if_true]
      exact spared.without different
    · simp only [ended]
      change Spared pid sink before (left (endSink host output.sink other) (router.without other))
      rw [left_endSink]
      exact (spared.without different).record (by simp [Call.concerns, foreign, different])

theorem dropOutput_spared (host : Host) (different : other ≠ pid) :
    Keeps (Spared pid sink before) (dropOutput host other) :=
  keeps_bind (drainOutput_spared host different) (fun _ => removeOutput_spared host different)

/-- A stream of a map is considered: another PID is asked for, at most. -/
theorem Outcome.untouched {stream : PmtStream} (outcome : Outcome host pmt router stream after)
    (different : stream.pid ≠ pid) : Untouched pid sink router after := by
  have named : (infoOf pmt stream).pid ≠ pid := different
  have foreign : ∀ answer, (Call.create (infoOf pmt stream) answer).concerns pid sink = false :=
    fun _ => beq_eq_false_iff_ne.mpr named
  cases outcome with
  | settled decided => exact .refl ..
  | refused stats asked =>
    rcases asked with rfl | rfl
    · exact .of_calls rfl rfl rfl
    · exact ⟨rfl, rfl, (untouched_record router (foreign none)).calls⟩
  | added free =>
    refine ⟨?_, ?_, (untouched_record router (foreign _)).calls⟩
    · rw [streams_addOutput, if_neg named.symm]
      rfl
    · rw [outputs_addOutput, if_neg named.symm]
      rfl

/-- An elementary stream is not among the entitlement PIDs that are drawn anew. -/
theorem readyFor_untouched (pmt : Pmt) {stream : StreamState}
    (heard : router.streams.get? pid = some stream) (ofClass : stream.cls = .pes) :
    Untouched pid sink router (router.readyFor pmt) := by
  let narrowed : Router := { router with
    declined := router.declined.filter (fun pid _ => (wantedTypes pmt).contains pid) }
  have ready : router.readyFor pmt = narrowed.retrack .ecm pmt.ecmPids := rfl
  have calls := (aside_retrack narrowed .ecm pmt.ecmPids).calls
  have drawn := retracked narrowed .ecm pmt.ecmPids pid
  rw [← ready] at calls drawn
  refine .of_calls ?_ (by rw [readyFor_outputs]) calls
  cases drawn with
  | stays same _ _ => exact same
  | gone there former _ _ _ =>
    cases heard.symm.trans there
    rw [ofClass] at former
    cases former
  | added free _ _ _ => cases heard.symm.trans free

/-- The adoption of a map touches no PID that has an output. -/
theorem adoptMap_untouched (host : Host) {stream : StreamState}
    (found : router.outputs.get? pid = some output)
    (heard : router.streams.get? pid = some stream) (ofClass : stream.cls = .pes) :
    Untouched pid sink router (router.adoptMap host pmt) := by
  apply List.foldlRecOn (motive := Untouched pid sink router) pmt.streams
  · exact readyFor_untouched pmt heard ofClass
  · intro between untouched stream member
    refine untouched.trans ?_
    by_cases different : stream.pid = pid
    · rw [considerStream_decided]
      · exact .refl ..
      · left
        rw [NatMap.contains_iff, different]
        exact ⟨output, untouched.output.trans found⟩
    · exact (considerStream_outcome host pmt between stream).untouched different

theorem followPcrPid_untouched (router : Router) (pcrPid : Nat) :
    Untouched pid sink router (router.followPcrPid pcrPid) := by
  unfold followPcrPid
  split
  · exact .refl ..
  · split
    · exact .of_calls rfl rfl rfl
    · exact .of_calls rfl rfl rfl

theorem settleIfFramed_untouched (router : Router) :
    Untouched pid sink router router.settleIfFramed := by
  obtain ⟨phase, same⟩ := settleIfFramed_eq router
  rw [same]
  exact .of_calls rfl rfl rfl

/-- A map leaves a stream alone that it lists as it is, also when a sink fails meanwhile. -/
theorem applyPmt_untouched (host : Host) (sound : Sound router)
    (distinct : (pmt.streams.map (·.pid)).Nodup) (found : router.outputs.get? pid = some output)
    (listed : pmt.Lists pid output.info.streamType) :
    Untouched pid output.sink router (left (applyPmt host pmt) router) := by
  obtain ⟨stream, heard, ofClass⟩ := sound.heard pid output found
  have followed := @followPcrPid_untouched pid output.sink router pmt.pcrPid
  have soundThen := sound.quiet (sameRoles_followPcrPid router pmt.pcrPid)
  have start : Spared pid output.sink router (router.followPcrPid pmt.pcrPid) := by
    refine ⟨followed, ?_⟩
    intro other rival present shared
    exact soundThen.alone other pid rival output present (followed.output.trans found) shared
  rw [left, applyPmt_eq]
  apply holds_bind
  · refine (keeps_forEach_of_mem ?_ _ start).untouched
    intro other stale
    apply dropOutput_spared host
    rintro rfl
    obtain ⟨current, present, unwanted⟩ := mem_staleOutputs.mp stale
    cases present.symm.trans (followed.output.trans found)
    exact unwanted ((wantedTypes_iff distinct).mpr listed)
  · intro value between untouched
    exact (untouched.trans (adoptMap_untouched host (untouched.output.trans found)
      (untouched.stream.trans heard) ofClass)).trans (settleIfFramed_untouched _)

end Router

namespace Session

variable {session : Session}

/-- Whatever was asked of a session: when a map comes into force, the streams that it lists as
they are keep flowing, and no call is made for them. Once it has come into force, applying it
again changes nothing and calls nobody. -/
theorem performAll_applyPmt {options : Options} (created : new options = .ok session)
    (operations : List (Host × Operation)) {pmt : Pmt}
    (distinct : (pmt.streams.map (·.pid)).Nodup) (host : Host) :
    let router := (session.performAll operations).router
    (∀ pid output, router.outputs.get? pid = some output →
      pmt.Lists pid output.info.streamType →
        Router.Untouched pid output.sink router (Router.left (Router.applyPmt host pmt) router)) ∧
      ∀ after, Router.applyPmt host pmt router = .ok () after →
        ∀ later : Host, Router.applyPmt later pmt after = .ok () after := by
  intro router
  have sound : router.Sound := by
    apply performAll_keeps Router.sound_stable
    rw [new_ok created]
    exact Router.ofOptions_sound options
  refine ⟨fun pid output found listed => ?_, fun after success later => ?_⟩
  · exact Router.applyPmt_untouched host sound distinct found listed
  · exact (Router.applyPmt_inForce distinct success).applyPmt later

/-- A map of program 1 with video streams on these PIDs. -/
def videoMap (version : Nat) (pids : List Nat) : Pmt :=
  { loneMap version 0x1B 0x101 with streams := pids.map (fun pid => ⟨0x1B, pid, []⟩) }

/-- A session in which two tables announced these video streams. -/
def announced (pids : List Nat) : Session :=
  let options : Options := { packetSize := some packetSize, minSyncRun := 2 }
  let association : Pat :=
    { version := 0, currentNext := true, number := 0, last := 0, streamId := 1
      programs := [⟨1, 0x100⟩], networkPid := none }
  let session : Session := { sync := .ofOptions options, router := .ofOptions options }
  session.performAll [
    (.willing, .push (sectionPacket patPid 0 association.encode)),
    (.willing, .push (sectionPacket 0x100 0 (videoMap 0 pids).encode))]

/-- One of two streams gives way to another, and the map is applied once more. -/
theorem applyPmt_keeps_listed :
    let router := (announced [0x101, 0x102]).router
    let applied := Router.left (Router.applyPmt .willing (videoMap 1 [0x101, 0x103])) router
    (∃ output, router.outputs.get? 0x101 = some output ∧
      Router.Untouched 0x101 output.sink router applied) ∧
      applied.outputs.keys = [0x101, 0x103] ∧
      Router.applyPmt .willing (videoMap 1 [0x101, 0x103]) applied = .ok () applied := by
  have created := new_of_validate
    (rfl : Options.validate { packetSize := some packetSize, minSyncRun := 2 } = .ok ())
  intro router applied
  have distinct : ((videoMap 1 [0x101, 0x103]).streams.map (·.pid)).Nodup := by decide
  obtain ⟨untouched, again⟩ := performAll_applyPmt created _ distinct .willing
  obtain ⟨output, found, ofType⟩ : ∃ output, router.outputs.get? 0x101 = some output ∧
      StreamType.ofCode 0x1B = output.info.streamType := by
    have present : (router.outputs.get? 0x101).map (·.info.streamType) = some (.ofCode 0x1B) := by
      decide +kernel
    obtain ⟨output, found, ofType⟩ := Option.map_eq_some_iff.mp present
    exact ⟨output, found, ofType.symm⟩
  refine ⟨⟨output, found, ?_⟩, by decide +kernel, ?_⟩
  · exact untouched 0x101 output found ⟨⟨0x1B, 0x101, []⟩, by decide, rfl, ofType⟩
  · exact again applied (Router.ok_of_succeeds _ _ (by decide +kernel)) .willing

/-- A sink that fails at its end stops a map halfway: applied again, the map ends the stream that
it had not come to. -/
theorem applyPmt_resumes :
    let failing : Host := { Host.willing with
      finishFailure := fun _ sink => if sink = 0 then some "sink close failed" else none }
    let pmt := videoMap 1 [0x103]
    let once := Router.left (Router.applyPmt failing pmt) (announced [0x101, 0x102]).router
    let twice := Router.left (Router.applyPmt failing pmt) once
    (pmt.streams.map (·.pid)).Nodup ∧ once.program = some pmt.program ∧
      .finish 1 0x102 none ∉ once.calls ∧ .finish 1 0x102 none ∈ twice.calls := by
  decide +kernel

end Session

end TransportStream
