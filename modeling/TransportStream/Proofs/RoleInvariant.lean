import TransportStream.Proofs.Reachability

/-!
What holds of the roles of PIDs in every router that can be reached. An elementary stream
is listened to exactly where there is an output; outputs are of supported types, were not
declined, and have sinks of their own.
-/
namespace TransportStream

namespace Router

variable {host : Host} {router before after : Router}

/-! ### Listening to PIDs that are free -/

/-- The class that the counters of a PID name: its last role. -/
def lastRole (router : Router) (pid : Nat) : Option StreamClass :=
  (router.stats.streams.get? pid).map (·.cls)

theorem lastRole_trackTable (router : Router) (pid : Nat) (cls : StreamClass) (other : Nat) :
    (router.trackTable pid cls).lastRole other =
      if other = pid then some cls else router.lastRole other := by
  simp only [lastRole, trackTable, Stats.addStream, NatMap.get?_insert]
  by_cases same : other = pid
  · simp only [same, if_true, Option.map_some]
    split <;> rfl
  · simp [same]

/-- Listening to PIDs as tables changes streams and counters alone; PIDs with a role keep
it. -/
structure Tracks (cls : StreamClass) (pids : List Nat) (before after : Router) : Prop where
  options : after.options = before.options
  tables : after.tables = before.tables
  declined : after.declined = before.declined
  sinks : after.sinks = before.sinks
  outputs : after.outputs = before.outputs
  streams : ∀ pid, after.streams.get? pid = (before.streams.get? pid).or
    (if pid ∈ pids then some (.table pid cls before.options.checkCrc) else none)
  roles : ∀ pid, after.lastRole pid =
    if pid ∈ pids ∧ before.streams.get? pid = none then some cls else before.lastRole pid

theorem trackIfFree_tracks (router : Router) (cls : StreamClass) (pid : Nat) :
    Tracks cls [pid] router (router.trackIfFree cls pid) := by
  unfold trackIfFree
  cases found : router.streams.get? pid with
  | some stream =>
    rw [if_pos (by simp [NatMap.contains, found])]
    refine ⟨rfl, rfl, rfl, rfl, rfl, ?_, ?_⟩
    · intro other
      by_cases same : other = pid
      · simp [same, found]
      · simp [same]
    · intro other
      rw [if_neg]
      rintro ⟨same, free⟩
      rw [List.mem_singleton.mp same, found] at free
      cases free
  | none =>
    rw [if_neg (by simp [NatMap.contains, found])]
    refine ⟨rfl, rfl, rfl, rfl, rfl, ?_, ?_⟩
    · intro other
      rw [trackTable, NatMap.get?_insert]
      by_cases same : other = pid
      · simp [same, found]
      · simp [same]
    · intro other
      rw [lastRole_trackTable]
      by_cases same : other = pid
      · simp [same, found]
      · simp [same]

theorem trackAll_tracks (cls : StreamClass) (pids : List Nat) (router : Router) :
    Tracks cls pids router
      (pids.foldl (fun router pid => router.trackIfFree cls pid) router) := by
  induction pids generalizing router with
  | nil => exact ⟨rfl, rfl, rfl, rfl, rfl, by simp, by simp⟩
  | cons pid others ih =>
    have first := trackIfFree_tracks router cls pid
    have rest := ih (router.trackIfFree cls pid)
    rw [List.foldl_cons]
    refine ⟨rest.options.trans first.options, rest.tables.trans first.tables,
      rest.declined.trans first.declined, rest.sinks.trans first.sinks,
      rest.outputs.trans first.outputs, ?_, ?_⟩
    · intro other
      rw [rest.streams, first.streams, first.options]
      by_cases same : other = pid
      · cases router.streams.get? other <;> simp [same]
      · simp [same]
    · intro other
      rw [rest.roles, first.roles, first.streams]
      by_cases same : other = pid
      · cases router.streams.get? other <;> simp [same]
      · simp [same]

/-- The streams that stay when the PIDs of a class are drawn anew. -/
def kept (router : Router) (cls : StreamClass) (pids : List Nat) : Router :=
  { router with
    streams := router.streams.filter (fun pid stream => stream.cls != cls || pids.contains pid) }

theorem retrack_tracks (router : Router) (cls : StreamClass) (pids : List Nat) :
    Tracks cls pids (router.kept cls pids) (router.retrack cls pids) :=
  trackAll_tracks cls pids _

/-- What drawing the PIDs of a class anew does to one PID. -/
inductive Retracked (cls : StreamClass) (pids : List Nat) (before after : Router) (pid : Nat) :
    Prop where
  /-- The PID keeps its role, or stays without one. -/
  | stays (stream : after.streams.get? pid = before.streams.get? pid)
      (role : after.lastRole pid = before.lastRole pid)
      (listed : pid ∈ pids → ∃ stream, before.streams.get? pid = some stream)
  /-- The PID had the class and is not listed any more. -/
  | gone {stream : StreamState} (found : before.streams.get? pid = some stream)
      (cls : stream.cls = cls) (stream : after.streams.get? pid = none)
      (role : after.lastRole pid = before.lastRole pid) (unlisted : pid ∉ pids)
  /-- The PID is listed and was free. -/
  | added (free : before.streams.get? pid = none)
      (stream : after.streams.get? pid = some (.table pid cls before.options.checkCrc))
      (role : after.lastRole pid = some cls) (listed : pid ∈ pids)

theorem retracked (router : Router) (cls : StreamClass) (pids : List Nat) (pid : Nat) :
    Retracked cls pids router (router.retrack cls pids) pid := by
  obtain ⟨_, _, _, _, _, streams, roles⟩ := retrack_tracks router cls pids
  have role : (router.kept cls pids).lastRole pid = router.lastRole pid := rfl
  have stream := streams pid
  have last := roles pid
  cases found : router.streams.get? pid with
  | none =>
    have free : (router.kept cls pids).streams.get? pid = none := by
      simp [kept, found]
    by_cases listed : pid ∈ pids
    · have new : (router.retrack cls pids).streams.get? pid =
          some (.table pid cls router.options.checkCrc) := by
        rw [stream, free, if_pos listed]
        rfl
      exact .added found new (by simp [last, free, listed]) listed
    · exact .stays (by simp [stream, free, listed, found]) (by simp [last, listed, role])
        (fun member => absurd member listed)
  | some held =>
    by_cases keeps : held.cls != cls || pids.contains pid
    · have same : (router.kept cls pids).streams.get? pid = some held := by
        rw [kept, NatMap.get?_filter, found, Option.filter_some, if_pos keeps]
      exact .stays (by simp [stream, same, found]) (by simp [last, same, role])
        (fun _ => ⟨held, found⟩)
    · have free : (router.kept cls pids).streams.get? pid = none := by
        rw [kept, NatMap.get?_filter, found, Option.filter_some, if_neg keeps]
      obtain ⟨ofClass, unlisted⟩ : held.cls = cls ∧ pid ∉ pids := by simpa using keeps
      exact .gone found ofClass (by simp [stream, free, unlisted])
        (by simp [last, unlisted, role]) unlisted

/-- What is listened to once the PIDs of a class are drawn anew: what was before, or a table
of that class. -/
theorem Retracked.found {cls : StreamClass} {pids : List Nat} {pid : Nat} {stream : StreamState}
    (drawn : Retracked cls pids before after pid)
    (found : after.streams.get? pid = some stream) :
    (before.streams.get? pid = some stream ∧ after.lastRole pid = before.lastRole pid) ∨
      (stream = .table pid cls before.options.checkCrc ∧ after.lastRole pid = some cls) := by
  cases drawn with
  | stays same role _ => exact .inl ⟨same.symm.trans found, role⟩
  | gone _ _ none _ _ =>
    rw [none] at found
    cases found
  | added _ new role _ =>
    rw [new] at found
    exact .inr ⟨(Option.some.inj found).symm, role⟩

/-- The rest of a router whose PIDs of a class are drawn anew. -/
theorem retrack_rest (router : Router) (cls : StreamClass) (pids : List Nat) :
    (router.retrack cls pids).options = router.options ∧
      (router.retrack cls pids).tables = router.tables ∧
      (router.retrack cls pids).declined = router.declined ∧
      (router.retrack cls pids).sinks = router.sinks ∧
      (router.retrack cls pids).outputs = router.outputs := by
  obtain ⟨options, tables, declined, sinks, outputs, _, _⟩ := retrack_tracks router cls pids
  exact ⟨options, tables, declined, sinks, outputs⟩

/-! ### The invariant -/

/-- The roles of a router are sound. -/
structure Sound (router : Router) : Prop where
  /-- Elementary streams alone put PES packets together. -/
  kinds : ∀ pid stream, router.streams.get? pid = some stream →
    (stream.reassembly.isPes = true ↔ stream.cls = .pes)
  /-- Where there is an output, an elementary stream is listened to. -/
  heard : ∀ pid output, router.outputs.get? pid = some output →
    ∃ stream, router.streams.get? pid = some stream ∧ stream.cls = .pes
  /-- Where an elementary stream is listened to, there is an output. -/
  owned : ∀ pid stream, router.streams.get? pid = some stream → stream.cls = .pes →
    ∃ output, router.outputs.get? pid = some output
  named : ∀ pid output, router.outputs.get? pid = some output →
    output.info.pid = pid ∧ output.info.streamType.isSupported = true
  apart : ∀ pid output, router.outputs.get? pid = some output → router.declined.get? pid = none
  served : ∀ pid output, router.outputs.get? pid = some output → output.sink < router.sinks
  alone : ∀ pid other output rival, router.outputs.get? pid = some output →
    router.outputs.get? other = some rival → output.sink = rival.sink → pid = other
  /-- The counters of a PID name the role it has. -/
  counted : ∀ pid stream, router.streams.get? pid = some stream →
    router.lastRole pid = some stream.cls

theorem table_isPes (pid : Nat) (cls : StreamClass) (checkCrc : Bool) :
    (StreamState.table pid cls checkCrc).reassembly.isPes = false := rfl

theorem Sound.quiet (sound : Sound before) (same : SameRoles before after) : Sound after where
  kinds pid stream found := by
    obtain ⟨former, present, role⟩ := same.stream found
    have kinds := sound.kinds pid former present
    simp only [StreamState.role, Prod.mk.injEq] at role
    rwa [role.1, role.2] at kinds
  heard pid output found := by
    obtain ⟨former, present, _⟩ := same.output found
    obtain ⟨stream, listened, ofClass⟩ := sound.heard pid former present
    obtain ⟨current, found, role⟩ := same.symm.stream listened
    exact ⟨current, found, (congrArg Prod.fst role).trans ofClass⟩
  owned pid stream found ofClass := by
    obtain ⟨former, present, role⟩ := same.stream found
    obtain ⟨output, there⟩ := sound.owned pid former present
      ((congrArg Prod.fst role).trans ofClass)
    exact same.present there
  named pid output found := by
    obtain ⟨former, present, owner⟩ := same.output found
    have info : former.info = output.info := congrArg Prod.fst owner
    rw [← info]
    exact sound.named pid former present
  apart pid output found := by
    obtain ⟨former, present, _⟩ := same.output found
    rw [same.declined]
    exact sound.apart pid former present
  served pid output found := by
    obtain ⟨former, present, owner⟩ := same.output found
    have sink : former.sink = output.sink := congrArg Prod.snd owner
    rw [← sink, same.sinks]
    exact sound.served pid former present
  alone pid other output rival found contested shared := by
    obtain ⟨former, present, owner⟩ := same.output found
    obtain ⟨formerRival, presentRival, rivalOwner⟩ := same.output contested
    have sink : former.sink = output.sink := congrArg Prod.snd owner
    have rivalSink : formerRival.sink = rival.sink := congrArg Prod.snd rivalOwner
    apply sound.alone pid other former formerRival present presentRival
    rw [sink, rivalSink, shared]
  counted pid stream found := by
    obtain ⟨former, present, role⟩ := same.stream found
    have counted := sound.counted pid former present
    rw [show former.cls = stream.cls from congrArg Prod.fst role] at counted
    exact (same.counted pid).trans counted

/-- Dropping an output with its PID. -/
theorem Sound.without (sound : Sound router) (pid : Nat) : Sound (router.without pid) where
  kinds other stream found := sound.kinds other stream (streams_of_without found).2
  heard other output found := by
    obtain ⟨different, present⟩ := outputs_of_without found
    rw [streams_without, if_neg different]
    exact sound.heard other output present
  owned other stream found ofClass := by
    obtain ⟨different, present⟩ := streams_of_without found
    rw [outputs_without, if_neg different]
    exact sound.owned other stream present ofClass
  named other output found := sound.named other output (outputs_of_without found).2
  apart other output found := sound.apart other output (outputs_of_without found).2
  served other output found := sound.served other output (outputs_of_without found).2
  alone other another output rival found contested :=
    sound.alone other another output rival (outputs_of_without found).2
      (outputs_of_without contested).2
  counted other stream found := sound.counted other stream (streams_of_without found).2

/-- Drawing the PIDs of a table anew: outputs are not touched, for elementary streams keep
their PIDs. -/
theorem Sound.retrack {cls : StreamClass} (sound : Sound router) (table : cls ≠ .pes)
    (pids : List Nat) : Sound (router.retrack cls pids) := by
  obtain ⟨_, _, declined, sinks, outputs⟩ := retrack_rest router cls pids
  refine ⟨?_, ?_, ?_, ?_, ?_, ?_, ?_, ?_⟩
  · intro pid stream found
    rcases (retracked router cls pids pid).found found with ⟨former, _⟩ | ⟨rfl, _⟩
    · exact sound.kinds pid stream former
    · constructor
      · intro pes
        rw [table_isPes] at pes
        cases pes
      · intro ofClass
        exact absurd ofClass table
  · intro pid output found
    rw [outputs] at found
    obtain ⟨stream, listened, ofClass⟩ := sound.heard pid output found
    cases retracked router cls pids pid with
    | stays same _ _ => exact ⟨stream, same.trans listened, ofClass⟩
    | gone there former _ _ _ =>
      rw [listened] at there
      cases there
      exact absurd (former.symm.trans ofClass) table
    | added free _ _ _ =>
      rw [listened] at free
      cases free
  · intro pid stream found ofClass
    rw [outputs]
    rcases (retracked router cls pids pid).found found with ⟨former, _⟩ | ⟨rfl, _⟩
    · exact sound.owned pid stream former ofClass
    · exact absurd ofClass table
  · rw [outputs]
    exact sound.named
  · rw [outputs, declined]
    exact sound.apart
  · rw [outputs, sinks]
    exact sound.served
  · rw [outputs]
    exact sound.alone
  · intro pid stream found
    rcases (retracked router cls pids pid).found found with ⟨former, role⟩ | ⟨rfl, role⟩
    · exact role.trans (sound.counted pid stream former)
    · exact role

theorem Sound.decline (sound : Sound router) {pid : Nat}
    (none : router.outputs.get? pid = none) : Sound (router.decline pid) where
  kinds := sound.kinds
  heard := sound.heard
  owned := sound.owned
  named := sound.named
  apart other output found := by
    change router.outputs.get? other = some output at found
    have different : other ≠ pid := by
      intro same
      rw [same, none] at found
      cases found
    rw [Router.decline, NatMap.get?_insert_ne _ _ different]
    exact sound.apart other output found
  served := sound.served
  alone := sound.alone
  counted := sound.counted

theorem outputs_addOutput (router : Router) (info : StreamInfo) (pid : Nat) :
    (router.addOutput info).outputs.get? pid =
      if pid = info.pid then some { info, sink := router.sinks } else router.outputs.get? pid :=
  NatMap.get?_insert ..

theorem streams_addOutput (router : Router) (info : StreamInfo) (pid : Nat) :
    (router.addOutput info).streams.get? pid =
      if pid = info.pid then some (.elementary info.pid router.options.maxPesBuffer)
      else router.streams.get? pid :=
  NatMap.get?_insert ..

theorem lastRole_addOutput (router : Router) (info : StreamInfo) (pid : Nat) :
    (router.addOutput info).lastRole pid =
      if pid = info.pid then some .pes else router.lastRole pid :=
  lastRole_trackTable router info.pid .pes pid

theorem outputs_of_addOutput {info : StreamInfo} {pid : Nat} {output : Output}
    (found : (router.addOutput info).outputs.get? pid = some output) :
    (pid = info.pid ∧ output = { info, sink := router.sinks }) ∨
      (pid ≠ info.pid ∧ router.outputs.get? pid = some output) := by
  rw [outputs_addOutput] at found
  by_cases same : pid = info.pid
  · rw [if_pos same] at found
    exact .inl ⟨same, (Option.some.inj found).symm⟩
  · rw [if_neg same] at found
    exact .inr ⟨same, found⟩

theorem streams_of_addOutput {info : StreamInfo} {pid : Nat} {stream : StreamState}
    (found : (router.addOutput info).streams.get? pid = some stream) :
    (pid = info.pid ∧ stream = .elementary info.pid router.options.maxPesBuffer) ∨
      (pid ≠ info.pid ∧ router.streams.get? pid = some stream) := by
  rw [streams_addOutput] at found
  by_cases same : pid = info.pid
  · rw [if_pos same] at found
    exact .inl ⟨same, (Option.some.inj found).symm⟩
  · rw [if_neg same] at found
    exact .inr ⟨same, found⟩

theorem Sound.addOutput (sound : Sound router) {info : StreamInfo}
    (undeclined : router.declined.get? info.pid = none)
    (supported : info.streamType.isSupported = true) : Sound (router.addOutput info) where
  kinds pid stream found := by
    rcases streams_of_addOutput found with ⟨_, rfl⟩ | ⟨_, present⟩
    · exact ⟨fun _ => rfl, fun _ => rfl⟩
    · exact sound.kinds pid stream present
  heard pid output found := by
    rw [streams_addOutput]
    rcases outputs_of_addOutput found with ⟨same, _⟩ | ⟨different, present⟩
    · exact ⟨_, if_pos same, rfl⟩
    · rw [if_neg different]
      exact sound.heard pid output present
  owned pid stream found ofClass := by
    rw [outputs_addOutput]
    rcases streams_of_addOutput found with ⟨same, _⟩ | ⟨different, present⟩
    · exact ⟨_, if_pos same⟩
    · rw [if_neg different]
      exact sound.owned pid stream present ofClass
  named pid output found := by
    rcases outputs_of_addOutput found with ⟨same, rfl⟩ | ⟨_, present⟩
    · exact ⟨same.symm, supported⟩
    · exact sound.named pid output present
  apart pid output found := by
    rcases outputs_of_addOutput found with ⟨rfl, _⟩ | ⟨_, present⟩
    · exact undeclined
    · exact sound.apart pid output present
  served pid output found := by
    rcases outputs_of_addOutput found with ⟨_, rfl⟩ | ⟨_, present⟩
    · exact Nat.lt_succ_self router.sinks
    · exact Nat.lt_succ_of_lt (sound.served pid output present)
  -- the new sink is above those of all others
  alone pid other output rival found contested shared := by
    rcases outputs_of_addOutput found with ⟨same, rfl⟩ | ⟨_, present⟩
    · rcases outputs_of_addOutput contested with ⟨sameToo, _⟩ | ⟨_, presentToo⟩
      · exact same.trans sameToo.symm
      · exact absurd shared (Nat.ne_of_gt (sound.served other rival presentToo))
    · rcases outputs_of_addOutput contested with ⟨_, rfl⟩ | ⟨_, presentToo⟩
      · exact absurd shared (Nat.ne_of_lt (sound.served pid output present))
      · exact sound.alone pid other output rival present presentToo shared
  counted pid stream found := by
    rw [lastRole_addOutput]
    rcases streams_of_addOutput found with ⟨same, rfl⟩ | ⟨different, present⟩
    · exact if_pos same
    · rw [if_neg different]
      exact sound.counted pid stream present

/-! ### The streams of a map -/

/-- What the host is told of a stream of a map. -/
def infoOf (pmt : Pmt) (stream : PmtStream) : StreamInfo :=
  { pid := stream.pid
    program := pmt.program
    streamType := .ofCode stream.streamType
    pcrPid := pmt.pcrPid
    ecmPids := stream.ecmPids }

/-- What the consideration of a stream of a map can do. -/
inductive Considered (host : Host) (pmt : Pmt) (router : Router) (stream : PmtStream) :
    Router → Prop where
  | settled (decided : router.outputs.contains stream.pid = true ∨
      router.declined.contains stream.pid = true) : Considered host pmt router stream router
  | declined {after : Router} (outputs : router.outputs.get? stream.pid = none)
      (declined : router.declined.get? stream.pid = none)
      (refused : (infoOf pmt stream).streamType.isSupported = false ∨
        router.carriesTables stream.pid = true ∨
        host.accepts router.calls (infoOf pmt stream) = false)
      (same : SameRoles (router.decline stream.pid) after) :
      Considered host pmt router stream after
  | added (outputs : router.outputs.get? stream.pid = none)
      (declined : router.declined.get? stream.pid = none)
      (supported : (infoOf pmt stream).streamType.isSupported = true)
      (free : router.carriesTables stream.pid = false)
      (accepted : host.accepts router.calls (infoOf pmt stream) = true) :
      Considered host pmt router stream
        ((router.record (.create (infoOf pmt stream) (some router.sinks))).addOutput
          (infoOf pmt stream))

private theorem get?_of_not_contains {α : Type} {map : NatMap α} {key : Nat}
    (absent : ¬map.contains key = true) : map.get? key = none := by
  simpa [NatMap.contains] using absent

theorem considered (host : Host) (pmt : Pmt) (router : Router) (stream : PmtStream) :
    Considered host pmt router stream (considerStream host pmt router stream) := by
  unfold considerStream
  by_cases decided : router.outputs.contains stream.pid || router.declined.contains stream.pid
  · rw [if_pos decided]
    exact .settled (by simpa using decided)
  · rw [if_neg decided]
    rw [Bool.or_eq_true, not_or] at decided
    have outputs := get?_of_not_contains decided.1
    have declined := get?_of_not_contains decided.2
    dsimp only
    by_cases supported : (StreamType.ofCode stream.streamType).isSupported
    · rw [if_neg (by simpa using supported)]
      by_cases tables : router.carriesTables stream.pid
      · rw [if_pos tables]
        exact .declined outputs declined (.inr (.inl tables)) (.refl _)
      · rw [if_neg tables]
        unfold requestOutput
        by_cases accepted : host.accepts router.calls (infoOf pmt stream)
        · rw [if_pos (by simpa [infoOf] using accepted)]
          exact .added outputs declined supported (by simpa using tables) accepted
        · rw [if_neg (by simpa [infoOf] using accepted)]
          exact .declined outputs declined (.inr (.inr (by simpa using accepted)))
            (sameRoles_rest ..)
    · rw [if_pos (by simpa using supported)]
      exact .declined outputs declined (.inl (by simpa [infoOf] using supported))
        (sameRoles_rest ..)

theorem Sound.considerStream (sound : Sound router) (host : Host) (pmt : Pmt)
    (stream : PmtStream) : Sound (considerStream host pmt router stream) := by
  have considered := considered host pmt router stream
  generalize Router.considerStream host pmt router stream = after at considered ⊢
  cases considered with
  | settled decided => exact sound
  | declined outputs declined refused same => exact (sound.decline outputs).quiet same
  | added outputs declined supported free accepted =>
    exact (sound.quiet (sameRoles_record ..)).addOutput declined supported

/-- What the consideration of each stream keeps, that of a whole map keeps. -/
theorem considerAll_holds (invariant : Router → Prop) {pmt : Pmt}
    (each : ∀ router stream, invariant router → invariant (considerStream host pmt router stream))
    (streams : List PmtStream) (held : invariant router) :
    invariant (streams.foldl (considerStream host pmt) router) := by
  induction streams generalizing router with
  | nil => exact held
  | cons stream others ih => exact ih (each router stream held)

/-- Fewer PIDs declined, and whatever tables. -/
theorem Sound.declined_of_subset (sound : Sound router) (tables : TableTracker)
    {declined : NatMap Unit}
    (fewer : ∀ pid, router.declined.get? pid = none → declined.get? pid = none) :
    Sound { router with tables, declined } where
  kinds := sound.kinds
  heard := sound.heard
  owned := sound.owned
  named := sound.named
  apart pid output found := fewer pid (sound.apart pid output found)
  served := sound.served
  alone := sound.alone
  counted := sound.counted

theorem Sound.filterDeclined (sound : Sound router) (keep : Nat → Unit → Bool) :
    Sound { router with declined := router.declined.filter keep } := by
  apply sound.declined_of_subset router.tables
  intro pid undeclined
  rw [NatMap.get?_filter, undeclined, Option.filter_none]

theorem Sound.readyFor (sound : Sound router) (pmt : Pmt) : Sound (router.readyFor pmt) :=
  (sound.filterDeclined _).retrack (by decide) _

theorem Sound.adoptMap (sound : Sound router) (host : Host) (pmt : Pmt) :
    Sound (router.adoptMap host pmt) := by
  apply considerAll_holds Sound
  · exact fun router stream sound => sound.considerStream host pmt stream
  · exact sound.readyFor pmt

/-- A fresh router draws the two tables with fixed PIDs. -/
theorem ofOptions_eq (options : Options) :
    Router.ofOptions options =
      (({ options, clock := { smoothing := options.bitrateSmoothing } } : Router).retrack
        .pat [patPid]).retrack .cat [catPid] := rfl

theorem ofOptions_sound (options : Options) : Sound (.ofOptions options) := by
  have idle : Sound { options, clock := { smoothing := options.bitrateSmoothing } } := by
    refine ⟨?_, ?_, ?_, ?_, ?_, ?_, ?_, ?_⟩
    all_goals
      intro pid
      intros
      contradiction
  rw [ofOptions_eq]
  exact (idle.retrack (by decide) _).retrack (by decide) _

/-- Soundness outlives every step that changes a role. -/
theorem sound_stable (host : Host) : Stable host Sound where
  quiet sound roles _ := sound.quiet roles
  remove sound _ := sound.without _
  associate {router tables _} sound _ := by
    have replaced : Sound { router with tables } :=
      sound.declined_of_subset tables (fun _ undeclined => undeclined)
    exact replaced.retrack (by decide) _
  entitle sound pids := sound.retrack (by decide) pids
  forget sound := (sound.retrack (by decide) []).declined_of_subset _ (fun _ _ => rfl)
  adopt sound pmt := sound.adoptMap host pmt

/-- Every router that can be reached is sound. -/
theorem Reachable.sound (reached : Reachable host router) : Sound router := by
  have stable := sound_stable host
  induction reached with
  | start options => exact ofOptions_sound options
  | quiet reached same ih => exact ih.quiet same
  | remove reached present ih => exact stable.remove ih present
  | associate reached applied ih => exact stable.associate ih applied
  | entitle reached pids ih => exact stable.entitle ih pids
  | forget reached ih => exact stable.forget ih
  | adopt reached pmt ih => exact stable.adopt ih pmt

end Router

end TransportStream
