import TransportStream.Proofs.RoleInvariant

/-!
Which outputs a program map leaves. They are those of the streams that it lists, that can be
delivered and that the host accepts, but for PIDs that an earlier map of the program had
declined and this one still lists.
-/
namespace TransportStream

/-- Whether a map lists a stream of a type on a PID. -/
def Pmt.Lists (pmt : Pmt) (pid : Nat) (streamType : StreamType) : Prop :=
  ∃ stream ∈ pmt.streams, stream.pid = pid ∧ StreamType.ofCode stream.streamType = streamType

namespace Router

variable {host : Host} {router before after : Router} {pid : Nat} {streamType : StreamType}

/-- Whether there is an output of a type on a PID. -/
def HasOutput (router : Router) (pid : Nat) (streamType : StreamType) : Prop :=
  ∃ output, router.outputs.get? pid = some output ∧ output.info.streamType = streamType

/-! ### The types a map lists -/

private theorem insertAll_get? {streams : List PmtStream} (wanted : NatMap StreamType)
    (distinct : (streams.map (·.pid)).Nodup) :
    (streams.foldl (fun wanted stream => wanted.insert stream.pid (.ofCode stream.streamType))
        wanted).get? pid = some streamType ↔
      (∃ stream ∈ streams, stream.pid = pid ∧ StreamType.ofCode stream.streamType = streamType) ∨
        pid ∉ streams.map (·.pid) ∧ wanted.get? pid = some streamType := by
  induction streams generalizing wanted with
  | nil => simp
  | cons stream others ih =>
    obtain ⟨notAgain, distinct⟩ := List.nodup_cons.mp distinct
    rw [List.foldl_cons, ih _ distinct, NatMap.get?_insert]
    by_cases same : pid = stream.pid
    · subst same
      have none : ∀ other ∈ others, other.pid ≠ stream.pid := by
        intro other member equal
        exact notAgain (List.mem_map.mpr ⟨other, member, equal⟩)
      constructor
      · rintro (⟨other, member, equal, _⟩ | ⟨_, found⟩)
        · exact absurd equal (none other member)
        · rw [if_pos rfl] at found
          exact .inl ⟨stream, List.mem_cons_self, rfl, Option.some.inj found⟩
      · rintro (⟨other, member, equal, listed⟩ | ⟨absent, _⟩)
        · rcases List.mem_cons.mp member with rfl | member
          · exact .inr ⟨notAgain, by rw [if_pos rfl, listed]⟩
          · exact absurd equal (none other member)
        · exact absurd List.mem_cons_self absent
    · rw [if_neg same]
      simp [same, Ne.symm same]

theorem wantedTypes_iff {pmt : Pmt} (distinct : (pmt.streams.map (·.pid)).Nodup) :
    (wantedTypes pmt).get? pid = some streamType ↔ pmt.Lists pid streamType := by
  unfold wantedTypes
  rw [insertAll_get? _ distinct]
  constructor
  · rintro (listed | ⟨_, found⟩)
    · exact listed
    · cases found
  · exact .inl

/-! ### What is decided about a PID -/

/-- `SameAt pid before after`: the same is decided about a PID on both sides. -/
structure SameAt (pid : Nat) (before after : Router) : Prop where
  output : ∀ streamType, after.HasOutput pid streamType ↔ before.HasOutput pid streamType
  absent : after.outputs.get? pid = none ↔ before.outputs.get? pid = none
  declined : after.declined.get? pid = before.declined.get? pid
  tables : after.carriesTables pid = before.carriesTables pid

theorem hasOutput_iff :
    router.HasOutput pid streamType ↔
      ((router.outputs.get? pid).map Output.owner).any (fun owner => owner.1.streamType = streamType) := by
  unfold HasOutput
  cases router.outputs.get? pid <;> simp [Output.owner]

theorem SameRoles.at (same : SameRoles before after) (pid : Nat) : SameAt pid before after where
  output streamType := by
    rw [hasOutput_iff, hasOutput_iff, same.outputs]
  absent := by
    rw [← Option.map_eq_none_iff, same.outputs, Option.map_eq_none_iff]
  declined := by rw [same.declined]
  tables := same.carriesTables pid

/-- Whether nothing is decided about a PID: it has no output, and was not declined. -/
def Undecided (router : Router) (pid : Nat) : Prop :=
  router.outputs.get? pid = none ∧ router.declined.get? pid = none

/-- Whether a stream of a type may be delivered on a PID. -/
def Deliverable (router : Router) (accepts : Nat → Bool) (pid : Nat) (streamType : StreamType) :
    Prop :=
  streamType.isSupported = true ∧ router.carriesTables pid = false ∧ accepts pid = true

/-- Other PIDs are not concerned by the consideration of a stream. -/
theorem Considered.elsewhere {pmt : Pmt} {stream : PmtStream}
    (considered : Considered host pmt router stream after) (other : pid ≠ stream.pid) :
    SameAt pid router after := by
  cases considered with
  | settled decided => exact (SameRoles.refl router).at pid
  | declined outputs declined refused same =>
    obtain ⟨output, absent, decision, tables⟩ := same.at pid
    refine ⟨output, absent, ?_, tables⟩
    rw [decision, decline, NatMap.get?_insert_ne _ _ other]
  | added outputs declined supported free accepted =>
    have elsewhere : pid ≠ (infoOf pmt stream).pid := other
    refine ⟨?_, ?_, rfl, ?_⟩
    · intro streamType
      rw [HasOutput, outputs_addOutput, if_neg elsewhere]
      exact Iff.rfl
    · rw [outputs_addOutput, if_neg elsewhere]
      exact Iff.rfl
    · rw [carriesTables, streams_addOutput, if_neg elsewhere]
      rfl

theorem Considered.carriesTables {pmt : Pmt} {stream : PmtStream}
    (considered : Considered host pmt router stream after) (pid : Nat) :
    after.carriesTables pid = router.carriesTables pid := by
  by_cases here : pid = stream.pid
  · cases considered with
    | settled decided => rfl
    | declined outputs declined refused same => exact (same.at pid).tables
    | added outputs declined supported free accepted =>
      have named : pid = (infoOf pmt stream).pid := here
      rw [Router.carriesTables, streams_addOutput, if_pos named, here, free]
      rfl
  · exact (considered.elsewhere here).tables

/-- What becomes of the PID of a stream when it is considered. -/
theorem Considered.here {pmt : Pmt} {stream : PmtStream} {accepts : Nat → Bool}
    (policy : ∀ calls info, host.accepts calls info = accepts info.pid)
    (considered : Considered host pmt router stream after) :
    after.HasOutput stream.pid streamType ↔
      router.HasOutput stream.pid streamType ∨
        router.Undecided stream.pid ∧ StreamType.ofCode stream.streamType = streamType ∧
          router.Deliverable accepts stream.pid streamType := by
  cases considered with
  | settled decided =>
    constructor
    · exact .inl
    · rintro (present | ⟨⟨absent, undeclined⟩, _⟩)
      · exact present
      · simp [NatMap.contains, absent, undeclined] at decided
  | declined outputs declined refused same =>
    rw [(same.at stream.pid).output]
    constructor
    · exact .inl
    · rintro (present | ⟨_, rfl, supported, free, accepted⟩)
      · exact present
      · rw [policy] at refused
        change (StreamType.ofCode stream.streamType).isSupported = false ∨ _ ∨
          accepts stream.pid = false at refused
        simp [supported, free, accepted] at refused
  | added outputs declined supported free accepted =>
    rw [policy] at accepted
    have new : ((router.record (.create (infoOf pmt stream) (some router.sinks))).addOutput
        (infoOf pmt stream)).outputs.get? stream.pid =
          some { info := infoOf pmt stream, sink := router.sinks } := by
      rw [outputs_addOutput]
      exact if_pos rfl
    unfold HasOutput
    rw [new, outputs]
    constructor
    · rintro ⟨output, found, rfl⟩
      cases found
      exact .inr ⟨⟨outputs, declined⟩, rfl, supported, free, accepted⟩
    · rintro (⟨output, present, _⟩ | ⟨_, listed, _⟩)
      · cases present
      · exact ⟨_, rfl, listed⟩

/-- What becomes of a PID when the streams of a map are considered in turn. -/
theorem considerAll_outputs (router : Router) (pmt : Pmt) (pid : Nat)
    (streamType : StreamType) {accepts : Nat → Bool} {streams : List PmtStream}
    (policy : ∀ calls info, host.accepts calls info = accepts info.pid)
    (distinct : (streams.map (·.pid)).Nodup) :
    (streams.foldl (considerStream host pmt) router).HasOutput pid streamType ↔
      router.HasOutput pid streamType ∨
        router.Undecided pid ∧
          (∃ stream ∈ streams, stream.pid = pid ∧
            StreamType.ofCode stream.streamType = streamType) ∧
          router.Deliverable accepts pid streamType := by
  induction streams generalizing router with
  | nil => simp
  | cons stream others ih =>
    obtain ⟨notAgain, distinct⟩ := List.nodup_cons.mp distinct
    have considered := considered host pmt router stream
    rw [List.foldl_cons, ih _ distinct]
    by_cases here : pid = stream.pid
    · subst here
      have none : ¬∃ other ∈ others, other.pid = stream.pid ∧
          StreamType.ofCode other.streamType = streamType := by
        rintro ⟨other, member, equal, _⟩
        exact notAgain (List.mem_map.mpr ⟨other, member, equal⟩)
      rw [considered.here policy]
      simp [none]
    · obtain ⟨output, absent, declined, tables⟩ := considered.elsewhere here
      rw [output]
      unfold Undecided Deliverable
      rw [absent, declined, tables]
      simp [Ne.symm here]

/-! ### Before the streams are considered -/

/-- Dropping PIDs one after another. -/
theorem outputs_withoutAll (pids : List Nat) (router : Router) (pid : Nat) :
    (pids.foldl without router).outputs.get? pid =
      if pid ∈ pids then none else router.outputs.get? pid := by
  induction pids generalizing router with
  | nil => simp
  | cons first others ih =>
    rw [List.foldl_cons, ih, outputs_without]
    by_cases same : pid = first
    · simp [same]
    · simp [same]

theorem declined_withoutAll (pids : List Nat) (router : Router) :
    (pids.foldl without router).declined = router.declined := by
  induction pids generalizing router with
  | nil => rfl
  | cons first others ih => exact ih (router.without first)

/-- Once stale outputs are dropped, those left are listed with their type. -/
theorem hasOutput_withoutStale {pmt : Pmt} (distinct : (pmt.streams.map (·.pid)).Nodup) :
    ((router.staleOutputs (wantedTypes pmt)).foldl without router).HasOutput pid streamType ↔
      router.HasOutput pid streamType ∧ pmt.Lists pid streamType := by
  unfold HasOutput
  rw [outputs_withoutAll]
  constructor
  · rintro ⟨output, found, rfl⟩
    split at found
    · cases found
    · rename_i fresh
      refine ⟨⟨output, found, rfl⟩, ?_⟩
      rw [← wantedTypes_iff distinct]
      by_cases wanted : (wantedTypes pmt).get? pid = some output.info.streamType
      · exact wanted
      · exact absurd (mem_staleOutputs.mpr ⟨output, found, wanted⟩) fresh
  · rintro ⟨⟨output, found, rfl⟩, listed⟩
    rw [← wantedTypes_iff distinct] at listed
    refine ⟨output, ?_, rfl⟩
    rw [if_neg, found]
    intro stale
    obtain ⟨other, present, unwanted⟩ := mem_staleOutputs.mp stale
    rw [found] at present
    cases present
    exact unwanted listed

theorem readyFor_outputs (router : Router) (pmt : Pmt) :
    (router.readyFor pmt).outputs = router.outputs :=
  (retrack_rest ..).2.2.2.2

theorem readyFor_declined (router : Router) (pmt : Pmt) :
    (router.readyFor pmt).declined =
      router.declined.filter (fun pid _ => (wantedTypes pmt).contains pid) :=
  (retrack_rest ..).2.2.1

/-- A PID that a map lists stays declined. -/
theorem readyFor_undecided {pmt : Pmt} (distinct : (pmt.streams.map (·.pid)).Nodup)
    (listed : pmt.Lists pid streamType) :
    (router.readyFor pmt).Undecided pid ↔ router.Undecided pid := by
  have wanted : (wantedTypes pmt).contains pid = true := by
    rw [NatMap.contains, (wantedTypes_iff distinct).mpr listed]
    rfl
  unfold Undecided
  rw [readyFor_outputs, readyFor_declined, NatMap.get?_filter]
  cases router.declined.get? pid <;> simp [wanted]

/-- When the host's answers depend on the PID alone, it accepted the PID of every output. -/
theorem Reachable.accepted {accepts : Nat → Bool}
    (policy : ∀ calls info, host.accepts calls info = accepts info.pid)
    (reached : Reachable host router) :
    ∀ pid streamType, router.HasOutput pid streamType → accepts pid = true := by
  have retracked : ∀ (router : Router) (cls : StreamClass) (pids : List Nat) {pid streamType},
      (router.retrack cls pids).HasOutput pid streamType → router.HasOutput pid streamType := by
    intro router cls pids pid streamType present
    rwa [HasOutput, (retrack_rest ..).2.2.2.2] at present
  induction reached with
  | start options =>
    rintro pid streamType ⟨output, found, _⟩
    cases found
  | quiet reached same ih =>
    intro pid streamType present
    exact ih pid streamType (((same.at pid).output streamType).mp present)
  | remove reached there ih =>
    rintro pid streamType ⟨output, found, ofType⟩
    exact ih pid streamType ⟨output, (outputs_of_without found).2, ofType⟩
  | @associate router tables pat reached applied ih =>
    intro pid streamType present
    exact ih pid streamType (retracked { router with tables } _ _ present)
  | entitle reached pids ih =>
    intro pid streamType present
    exact ih pid streamType (retracked _ .emm pids present)
  | @forget router reached ih =>
    intro pid streamType present
    have former : (router.retrack .ecm []).HasOutput pid streamType := present
    exact ih pid streamType (retracked _ .ecm [] former)
  | @adopt router reached pmt ih =>
    apply considerAll_holds (fun after => ∀ pid streamType,
      after.HasOutput pid streamType → accepts pid = true)
    · intro after stream held pid streamType present
      have considered := considered host pmt after stream
      by_cases here : pid = stream.pid
      · subst here
        rcases (considered.here policy).mp present with former | ⟨_, _, _, _, accepted⟩
        · exact held stream.pid streamType former
        · exact accepted
      · exact held pid streamType (((considered.elsewhere here).output streamType).mp present)
    · intro pid streamType present
      rw [HasOutput, readyFor_outputs] at present
      exact ih pid streamType present

/-! ### The outputs that a map leaves -/

theorem adoptMap_carriesTables (router : Router) (host : Host) (pmt : Pmt) (pid : Nat) :
    (router.adoptMap host pmt).carriesTables pid = (router.readyFor pmt).carriesTables pid := by
  apply considerAll_holds (fun after =>
    after.carriesTables pid = (router.readyFor pmt).carriesTables pid)
  · intro after stream same
    exact ((considered host pmt after stream).carriesTables pid).trans same
  · rfl

theorem adoptMap_outputs (router : Router) (pid : Nat) (streamType : StreamType) {pmt : Pmt}
    {accepts : Nat → Bool} (policy : ∀ calls info, host.accepts calls info = accepts info.pid)
    (distinct : (pmt.streams.map (·.pid)).Nodup) :
    (router.adoptMap host pmt).HasOutput pid streamType ↔
      router.HasOutput pid streamType ∨
        router.Undecided pid ∧ pmt.Lists pid streamType ∧
          (router.adoptMap host pmt).Deliverable accepts pid streamType := by
  have considered := considerAll_outputs (router.readyFor pmt) pmt pid streamType policy distinct
  have former : (router.readyFor pmt).HasOutput pid streamType ↔
      router.HasOutput pid streamType := by
    rw [HasOutput, readyFor_outputs]
    exact Iff.rfl
  rw [adoptMap, considered, former, ← adoptMap, Deliverable, Deliverable, adoptMap_carriesTables]
  by_cases listed : pmt.Lists pid streamType
  · rw [readyFor_undecided distinct listed]
    exact Iff.rfl
  · have unlisted : ¬∃ stream ∈ pmt.streams, stream.pid = pid ∧
        StreamType.ofCode stream.streamType = streamType := listed
    simp [listed, unlisted]

/-- A kept output is deliverable and was never declined. -/
theorem Reachable.deliverable {accepts : Nat → Bool}
    (policy : ∀ calls info, host.accepts calls info = accepts info.pid)
    (reached : Reachable host router) (present : router.HasOutput pid streamType) :
    router.Deliverable accepts pid streamType ∧ router.declined.get? pid = none := by
  obtain ⟨output, found, ofType⟩ := id present
  obtain ⟨_, supported⟩ := reached.sound.named pid output found
  obtain ⟨stream, listened, ofClass⟩ := reached.sound.heard pid output found
  refine ⟨⟨?_, ?_, reached.accepted policy pid streamType present⟩,
    reached.sound.apart pid output found⟩
  · rwa [ofType] at supported
  · simp [carriesTables, listened, ofClass]

/-- The outputs after a map came into force: there is one of a type on a PID exactly if the
map lists the type there, it is a supported one, the PID carries no table, the host accepts
it, and no earlier map of the program had it declined. -/
theorem applyPmt_hasOutput_iff {pmt : Pmt} (accepts : Nat → Bool)
    (reached : Reachable host router) (distinct : (pmt.streams.map (·.pid)).Nodup)
    (policy : ∀ calls info, host.accepts calls info = accepts info.pid)
    (success : applyPmt host pmt router = .ok () after) (pid : Nat) (streamType : StreamType) :
    after.HasOutput pid streamType ↔
      pmt.Lists pid streamType ∧ after.Deliverable accepts pid streamType ∧
        router.declined.get? pid = none := by
  have arrived : Reachable host after :=
    left_of_ok success ▸ applyPmt_reachable host pmt router reached
  have follow := sameRoles_followPcrPid router pmt.pcrPid
  have followed := reached.quiet follow
  obtain ⟨between, dropped, adopted⟩ := applyPmt_ok success
  have settled := (sameRoles_settleIfFramed (between.adoptMap host pmt)).at pid
  rw [← adopted] at settled
  have left : between.HasOutput pid streamType ↔
      (router.followPcrPid pmt.pcrPid).HasOutput pid streamType ∧ pmt.Lists pid streamType := by
    rw [(dropped.at pid).output]
    exact hasOutput_withoutStale distinct
  have declined : between.declined.get? pid = router.declined.get? pid := by
    rw [(dropped.at pid).declined, declined_withoutAll, follow.declined]
  have outcome := adoptMap_outputs between pid streamType policy distinct
  constructor
  · intro present
    obtain ⟨deliverable, _⟩ := arrived.deliverable policy present
    rcases outcome.mp ((settled.output streamType).mp present) with kept | ⟨undecided, listed, _⟩
    · obtain ⟨former, listed⟩ := left.mp kept
      refine ⟨listed, deliverable, ?_⟩
      rw [← follow.declined]
      exact (followed.deliverable policy former).2
    · exact ⟨listed, deliverable, declined.symm.trans undecided.2⟩
  · rintro ⟨listed, ⟨supported, free, accepted⟩, undeclined⟩
    apply (settled.output streamType).mpr
    apply outcome.mpr
    cases found : between.outputs.get? pid with
    | none =>
      rw [settled.tables] at free
      exact .inr ⟨⟨found, declined.trans undeclined⟩, listed, supported, free, accepted⟩
    | some output =>
      -- an output that was kept is listed, so it is of the type that is
      have kept : between.HasOutput pid output.info.streamType := ⟨output, found, rfl⟩
      rw [(dropped.at pid).output, hasOutput_withoutStale distinct,
        ← wantedTypes_iff distinct] at kept
      have wanted := (wantedTypes_iff distinct).mpr listed
      rw [kept.2] at wanted
      exact .inl ⟨output, found, Option.some.inj wanted⟩

/-- A map with a video stream whose entitlement messages come on PID 0x102. -/
private def scrambledMap : Pmt :=
  { Session.loneMap 0 0x1B 0x101 with descriptors := [⟨0x09, [0x0B, 0x00, 0xE1, 0x02]⟩] }

/-- The map after it: the video stream became an audio one, and so did the PID of the messages. -/
private def reusedMap : Pmt :=
  { Session.loneMap 1 0x0F 0x101 with streams := [⟨0x0F, 0x101, []⟩, ⟨0x0F, 0x102, []⟩] }

/-- A map that replaces another: one stream changes its type, and a PID of entitlement messages
becomes a stream. -/
theorem later_map_hasOutput :
    ∃ session, Session.Reachable .willing session ∧ session.router.HasOutput 0x101 .h264 ∧
      session.router.carriesTables 0x102 = true ∧
      ∃ after, applyPmt .willing reusedMap session.router = .ok () after ∧
        after.HasOutput 0x101 .adtsAac ∧ after.HasOutput 0x102 .adtsAac ∧ ¬after.HasOutput 0x101 .h264 := by
  have reached := (Session.ofMaps_reachable [scrambledMap]).router
  have success := ok_of_succeeds (applyPmt .willing reusedMap)
    (Session.ofMaps [scrambledMap]).router (by decide +kernel)
  have outcome := applyPmt_hasOutput_iff (fun _ => true) reached (by decide)
    (fun _ _ => rfl) success
  refine ⟨_, Session.ofMaps_reachable _, ?_, by decide +kernel, _, success, ?_, ?_, ?_⟩
  · rw [hasOutput_iff]
    decide +kernel
  · exact (outcome 0x101 .adtsAac).mpr ⟨⟨_, List.mem_cons_self, rfl, rfl⟩,
      ⟨rfl, by decide +kernel, rfl⟩, by decide +kernel⟩
  · exact (outcome 0x102 .adtsAac).mpr ⟨⟨_, List.mem_cons_of_mem _ List.mem_cons_self, rfl, rfl⟩,
      ⟨rfl, by decide +kernel, rfl⟩, by decide +kernel⟩
  · intro kept
    have unlisted : ¬reusedMap.Lists 0x101 .h264 := by
      unfold Pmt.Lists
      decide
    exact unlisted ((outcome 0x101 .h264).mp kept).1
/-- A PID that was declined for its type gets no output when the next map of the selected
program lists it with a type that is supported. -/
theorem declined_map_hasNoOutput :
    ∃ session, Session.Reachable .willing session ∧
      session.router.program = some (Session.loneMap 1 0x1B 0x101).program ∧
      ∃ after, applyPmt .willing (Session.loneMap 1 0x1B 0x101) session.router = .ok () after ∧
        (Session.loneMap 1 0x1B 0x101).Lists 0x101 .h264 ∧
        after.Deliverable (fun _ => true) 0x101 .h264 ∧ ¬after.HasOutput 0x101 .h264 := by
  have success := ok_of_succeeds (applyPmt .willing (Session.loneMap 1 0x1B 0x101))
    (Session.ofMaps [Session.loneMap 0 0x05 0x101]).router (by decide +kernel)
  refine ⟨_, Session.ofMaps_reachable _, by decide +kernel, _, success,
    ⟨_, List.mem_singleton_self _, rfl, rfl⟩, ⟨rfl, by decide +kernel, rfl⟩, ?_⟩
  rw [hasOutput_iff]
  decide +kernel

end Router

end TransportStream
