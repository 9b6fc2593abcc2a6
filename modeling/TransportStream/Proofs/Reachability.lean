import TransportStream.Proofs.Steadiness
import TransportStream.Proofs.TableEvents
import TransportStream.Session

/-!
The states that the operations of a session can reach, and the few steps by which the roles
of PIDs change on the way there: outputs are removed, and each of the three tables redraws
the part of the roles that it decides. What outlives these steps outlives every operation.
-/
namespace TransportStream

namespace Router

/-- The router once a PID and its output are dropped. -/
def without (router : Router) (pid : Nat) : Router :=
  { router.untrack pid with outputs := router.outputs.erase pid }

/-- The router once PIDs a map does not list are free again, and its entitlement PIDs are
followed. -/
def readyFor (router : Router) (pmt : Pmt) : Router :=
  let declined := router.declined.filter (fun pid _ => (wantedTypes pmt).contains pid)
  { router with declined }.retrack .ecm pmt.ecmPids

/-- The router once outputs are brought in line with a map and the stale ones are gone. -/
def adoptMap (router : Router) (host : Host) (pmt : Pmt) : Router :=
  pmt.streams.foldl (considerStream host pmt) (router.readyFor pmt)

/-- The routers that the operations can reach. Every step that changes a role is listed;
any two may follow each other. -/
inductive Reachable (host : Host) : Router → Prop where
  /-- A fresh router. -/
  | start (options : Options) : Reachable host (.ofOptions options)
  /-- Whatever changes no role. -/
  | quiet {before after : Router} (reached : Reachable host before)
      (same : SameRoles before after) : Reachable host after
  /-- An output is dropped together with its PID. -/
  | remove {router : Router} {pid : Nat} {output : Output} (reached : Reachable host router)
      (present : router.outputs.get? pid = some output) : Reachable host (router.without pid)
  /-- An association table comes into force. -/
  | associate {router : Router} {tables : TableTracker} {pat : Pat}
      (reached : Reachable host router) (applied : tables.pat = some pat) :
      Reachable host ({ router with tables }.followMaps pat)
  /-- A conditional access table comes into force. -/
  | entitle {router : Router} (reached : Reachable host router) (pids : List Nat) :
      Reachable host (router.retrack .emm pids)
  /-- The program is left, its outputs gone. -/
  | forget {router : Router} (reached : Reachable host router) :
      Reachable host { router.retrack .ecm [] with declined := {} }
  /-- A program map comes into force, stale outputs gone. -/
  | adopt {router : Router} (reached : Reachable host router) (pmt : Pmt) :
      Reachable host (router.adoptMap host pmt)

variable {host : Host} {invariant : Router → Prop} {router before after : Router}

/-- An invariant that outlives every step that changes a role, and all that changes none. -/
structure Stable (host : Host) (invariant : Router → Prop) : Prop where
  quiet {before after : Router} (held : invariant before) (roles : SameRoles before after)
    (pids : SamePids before after) : invariant after
  remove {router : Router} {pid : Nat} {output : Output} (held : invariant router)
    (present : router.outputs.get? pid = some output) : invariant (router.without pid)
  associate {router : Router} {tables : TableTracker} {pat : Pat} (held : invariant router)
    (applied : tables.pat = some pat) : invariant ({ router with tables }.followMaps pat)
  entitle {router : Router} (held : invariant router) (pids : List Nat) :
    invariant (router.retrack .emm pids)
  forget {router : Router} (held : invariant router) :
    invariant { router.retrack .ecm [] with declined := {} }
  adopt {router : Router} (held : invariant router) (pmt : Pmt) :
    invariant (router.adoptMap host pmt)

theorem Stable.lasting (stable : Stable host invariant) : Lasting invariant :=
  fun held steady => stable.quiet held steady.roles steady.pids

/-- That a router can be reached is such an invariant. -/
theorem reachable_stable (host : Host) : Stable host (Reachable host) where
  quiet reached roles _ := reached.quiet roles
  remove := .remove
  associate := .associate
  entitle := .entitle
  forget := .forget
  adopt := .adopt

/-! ### Dropping outputs -/

theorem streams_without (router : Router) (pid other : Nat) :
    (router.without pid).streams.get? other =
      if other = pid then none else router.streams.get? other :=
  NatMap.get?_erase ..

theorem outputs_without (router : Router) (pid other : Nat) :
    (router.without pid).outputs.get? other =
      if other = pid then none else router.outputs.get? other :=
  NatMap.get?_erase ..

/-- What is listened to once a PID is dropped was listened to before, on another PID. -/
theorem streams_of_without {pid other : Nat} {stream : StreamState}
    (found : (router.without pid).streams.get? other = some stream) :
    other ≠ pid ∧ router.streams.get? other = some stream := by
  rw [streams_without] at found
  by_cases same : other = pid
  · simp [same] at found
  · exact ⟨same, by simpa [same] using found⟩

theorem outputs_of_without {pid other : Nat} {output : Output}
    (found : (router.without pid).outputs.get? other = some output) :
    other ≠ pid ∧ router.outputs.get? other = some output := by
  rw [outputs_without] at found
  by_cases same : other = pid
  · simp [same] at found
  · exact ⟨same, by simpa [same] using found⟩

/-- Dropping the same PID from both sides. -/
theorem Steady.without (steady : Steady before after) (pid : Nat) :
    Steady (before.without pid) (after.without pid) where
  options := steady.options
  pat := steady.pat
  declined := steady.declined
  sinks := steady.sinks
  streams other := by
    rw [streams_without, streams_without]
    split
    · rfl
    · exact steady.streams other
  outputs other := by
    rw [outputs_without, outputs_without]
    split
    · rfl
    · exact steady.outputs other
  counted := steady.counted
  pids other := by
    rw [streams_without, streams_without]
    split
    · rfl
    · exact steady.pids other
  course := ⟨steady.options, steady.course.phase, steady.course.tables, steady.course.program,
    steady.course.pcrPid⟩
  calls := steady.calls

theorem Steady.withoutAll (steady : Steady before after) (pids : List Nat) :
    Steady (pids.foldl Router.without before) (pids.foldl Router.without after) := by
  induction pids generalizing before after with
  | nil => exact steady
  | cons pid others ih => exact ih (steady.without pid)

theorem removeOutput_steady {pid : Nat} {output : Output} (host : Host)
    (present : router.outputs.get? pid = some output) :
    Steady (router.without pid) (left (removeOutput host pid) router) := by
  have removed : removeOutput host pid router =
      if output.ended then .ok () (router.without pid)
      else endSink host output.sink pid (router.without pid) := by
    simp [removeOutput_eq, untrack, present, Router.without]
  unfold left
  rw [removed]
  by_cases ended : output.ended
  · simp only [ended, if_true]
    exact .refl _
  · simp only [ended]
    exact endSink_keeps (lasting_steady _) host output.sink pid _ (.refl _)

/-- The output of a PID has the same owner on both sides. -/
theorem SameRoles.present {pid : Nat} {output : Output} (same : SameRoles before after)
    (found : before.outputs.get? pid = some output) :
    ∃ current, after.outputs.get? pid = some current := by
  obtain ⟨current, found, _⟩ := same.symm.output found
  exact ⟨current, found⟩

/-- An output that is dropped is gone, unless the sink failed before that. -/
theorem dropOutput_left {pid : Nat} {output : Output} (host : Host)
    (present : router.outputs.get? pid = some output) :
    Steady (router.without pid) (left (dropOutput host pid) router) ∨
      (∃ error after, dropOutput host pid router = .error error after) ∧
        Steady router (left (dropOutput host pid) router) := by
  have drained := drainOutput_keeps (lasting_steady router) host pid router (.refl router)
  cases result : drainOutput host pid router with
  | error error between =>
    have failed : dropOutput host pid router = .error error between := bind_of_error result
    right
    refine ⟨⟨error, between, failed⟩, ?_⟩
    rw [left, failed]
    rw [left, result] at drained
    exact drained
  | ok value between =>
    have dropped : dropOutput host pid router = removeOutput host pid between :=
      bind_of_ok result
    rw [left_of_ok result] at drained
    obtain ⟨current, found⟩ := drained.present present
    left
    rw [left, dropped]
    exact (drained.without pid).trans (removeOutput_steady host found)

theorem dropOutput_ok {pid : Nat} {output : Output}
    (present : router.outputs.get? pid = some output)
    (success : dropOutput host pid router = .ok () after) :
    Steady (router.without pid) after := by
  rcases dropOutput_left host present with dropped | ⟨⟨error, other, failure⟩, _⟩
  · rwa [left_of_ok success] at dropped
  · rw [failure] at success
    cases success

theorem dropOutput_keeps {pid : Nat} {output : Output} (stable : Stable host invariant)
    (held : invariant router) (present : router.outputs.get? pid = some output) :
    invariant (left (dropOutput host pid) router) := by
  rcases dropOutput_left host present with dropped | ⟨_, kept⟩
  · exact stable.lasting (stable.remove held present) dropped
  · exact stable.lasting held kept

/-- What is left when one of several outputs is dropped: the others. -/
theorem others_present {pid : Nat} {others : List Nat} (notAgain : pid ∉ others)
    (present : ∀ other ∈ others, ∃ output, router.outputs.get? other = some output)
    (dropped : SameRoles (router.without pid) after) :
    ∀ other ∈ others, ∃ output, after.outputs.get? other = some output := by
  intro other member
  obtain ⟨output, found⟩ := present other member
  apply dropped.present
  rw [outputs_without, if_neg, found]
  intro same
  exact notAgain (same ▸ member)

theorem dropAll_keeps {pids : List Nat} (stable : Stable host invariant)
    (held : invariant router) (distinct : pids.Nodup)
    (present : ∀ pid ∈ pids, ∃ output, router.outputs.get? pid = some output) :
    invariant (left (forEach pids (dropOutput host)) router) := by
  induction pids generalizing router with
  | nil => exact held
  | cons pid others ih =>
    obtain ⟨notAgain, distinct⟩ := List.nodup_cons.mp distinct
    obtain ⟨output, found⟩ := present pid List.mem_cons_self
    have dropped := dropOutput_keeps stable held found
    cases result : dropOutput host pid router with
    | error error between =>
      rw [left, result] at dropped
      rw [forEach, left, bind_of_error result]
      exact dropped
    | ok value between =>
      rw [left_of_ok result] at dropped
      rw [forEach, left, bind_of_ok result]
      apply ih dropped distinct
      exact others_present notAgain
        (fun other member => present other (List.mem_cons_of_mem _ member))
        (dropOutput_ok found result).roles

theorem dropAll_ok {pids : List Nat} (distinct : pids.Nodup)
    (present : ∀ pid ∈ pids, ∃ output, router.outputs.get? pid = some output)
    (success : forEach pids (dropOutput host) router = .ok () after) :
    Steady (pids.foldl without router) after := by
  induction pids generalizing router with
  | nil =>
    cases success
    exact .refl _
  | cons pid others ih =>
    obtain ⟨notAgain, distinct⟩ := List.nodup_cons.mp distinct
    obtain ⟨output, found⟩ := present pid List.mem_cons_self
    cases result : dropOutput host pid router with
    | error error between =>
      rw [forEach, bind_of_error result] at success
      cases success
    | ok value between =>
      rw [forEach, bind_of_ok result] at success
      have dropped := dropOutput_ok found result
      have later := ih distinct (others_present notAgain
        (fun other member => present other (List.mem_cons_of_mem _ member)) dropped.roles) success
      exact (dropped.withoutAll others).trans later

/-! ### Tables -/

theorem keys_present (router : Router) :
    ∀ pid ∈ router.outputs.keys, ∃ output, router.outputs.get? pid = some output :=
  fun pid member => (NatMap.mem_keys_iff router.outputs pid).mp member

theorem mem_staleOutputs {wanted : NatMap StreamType} {pid : Nat} :
    pid ∈ router.staleOutputs wanted ↔
      ∃ output, router.outputs.get? pid = some output ∧
        wanted.get? pid ≠ some output.info.streamType := by
  simp [staleOutputs, NatMap.mem_keys_iff, Option.filter_eq_some_iff]

theorem stale_present (router : Router) (wanted : NatMap StreamType) :
    ∀ pid ∈ router.staleOutputs wanted, ∃ output, router.outputs.get? pid = some output := by
  intro pid stale
  obtain ⟨output, found, _⟩ := mem_staleOutputs.mp stale
  exact ⟨output, found⟩

/-- Leaving a program drops every output first. -/
theorem teardownProgram_eq (host : Host) (router : Router) :
    teardownProgram host router =
      (forEach router.outputs.keys (dropOutput host) >>= fun _ => modify fun torn =>
        { torn.retrack .ecm [] with declined := {}, pcrPid := none }.restartClock) router := rfl

theorem teardownProgram_keeps (stable : Stable host invariant) :
    Keeps invariant (teardownProgram host) := by
  intro router held
  rw [left, teardownProgram_eq]
  apply holds_bind
  · exact dropAll_keeps stable held (NatMap.keys_nodup _) (keys_present router)
  · intro value
    apply keeps_modify
    intro torn held
    exact stable.quiet (stable.forget held) (sameRoles_rest ..) (fun _ => rfl)

/-- A map in force first drops stale outputs, then is adopted. -/
theorem applyPmt_eq (host : Host) (pmt : Pmt) (router : Router) :
    applyPmt host pmt router =
      (forEach ((router.followPcrPid pmt.pcrPid).staleOutputs (wantedTypes pmt)) (dropOutput host) >>=
          fun _ => modify fun between => (between.adoptMap host pmt).settleIfFramed)
        (router.followPcrPid pmt.pcrPid) := rfl

theorem applyPmt_ok {pmt : Pmt} (success : applyPmt host pmt router = .ok () after) :
    ∃ between,
      Steady
          (((router.followPcrPid pmt.pcrPid).staleOutputs (wantedTypes pmt)).foldl without
            (router.followPcrPid pmt.pcrPid)) between ∧
        after = (between.adoptMap host pmt).settleIfFramed := by
  rw [applyPmt_eq] at success
  cases result : forEach ((router.followPcrPid pmt.pcrPid).staleOutputs (wantedTypes pmt))
      (dropOutput host) (router.followPcrPid pmt.pcrPid) with
  | error error between =>
    rw [bind_of_error result] at success
    cases success
  | ok value between =>
    rw [bind_of_ok result] at success
    cases success
    exact ⟨between, dropAll_ok (NatMap.keys_nodup _) (stale_present _ _) result, rfl⟩

theorem streams_followPcrPid (router : Router) (pcrPid : Nat) :
    (router.followPcrPid pcrPid).streams = router.streams := by
  unfold followPcrPid
  split
  · rfl
  · split <;> rfl

theorem streams_settleIfFramed (router : Router) :
    router.settleIfFramed.streams = router.streams := by
  unfold settleIfFramed
  split <;> rfl

theorem samePids_of_streams (same : after.streams = before.streams) : SamePids before after :=
  fun _ => by rw [same]

theorem followPcrPid_keeps (stable : Stable host invariant) (held : invariant router)
    (pcrPid : Nat) : invariant (router.followPcrPid pcrPid) :=
  stable.quiet held (sameRoles_followPcrPid router pcrPid)
    (samePids_of_streams (streams_followPcrPid router pcrPid))

theorem settleIfFramed_keeps (stable : Stable host invariant) :
    Keeps invariant (modify settleIfFramed) :=
  keeps_modify (fun router held => stable.quiet held (sameRoles_settleIfFramed router)
    (samePids_of_streams (streams_settleIfFramed router)))

theorem applyPmt_keeps (stable : Stable host invariant) (pmt : Pmt) :
    Keeps invariant (applyPmt host pmt) := by
  intro router held
  rw [left, applyPmt_eq]
  apply holds_bind
  · exact dropAll_keeps stable (followPcrPid_keeps stable held pmt.pcrPid)
      (NatMap.keys_nodup _) (stale_present _ _)
  · intro value between held
    exact settleIfFramed_keeps stable _ (stable.adopt held pmt)

theorem applyPmt_reachable (host : Host) (pmt : Pmt) :
    Keeps (Reachable host) (applyPmt host pmt) := applyPmt_keeps (reachable_stable host) pmt

/-- Another program is selected once the outputs of the former are gone. -/
theorem selectProgram_eq (host : Host) (selected : Option Nat) (router : Router) :
    selectProgram host selected router =
      (if selected = router.program then pure () else do
        if router.program.isSome then teardownProgram host
        modify fun router => { router with program := selected } : Routing Unit) router := rfl

theorem selectProgram_keeps (stable : Stable host invariant) (selected : Option Nat) :
    Keeps invariant (selectProgram host selected) := by
  have select : Keeps invariant
      (modify fun router => { router with program := selected } : Routing Unit) :=
    keeps_modify (fun router held => stable.quiet held (sameRoles_rest ..) (fun _ => rfl))
  refine keeps_bind keeps_get ?_
  intro current
  dsimp only
  split
  · exact keeps_pure ()
  · split
    · exact keeps_bind (teardownProgram_keeps stable) (fun _ => select)
    · exact select

theorem applySelectedMap_keeps (stable : Stable host invariant) :
    Keeps invariant (applySelectedMap host) := by
  refine keeps_bind keeps_get ?_
  intro current
  split
  · exact keeps_pure ()
  · exact applyPmt_keeps stable _

theorem applyEvent_keeps {event : TableEvent} (stable : Stable host invariant)
    (other : ∀ previous current, event ≠ .pat previous current) :
    Keeps invariant (applyEvent host event) := by
  cases event with
  | pat previous current => exact absurd rfl (other previous current)
  | pmt mapPid previous current =>
    refine keeps_bind keeps_get ?_
    intro router
    split
    · exact applyPmt_keeps stable current
    · exact keeps_pure ()
  | cat previous current => exact keeps_modify (fun router held => stable.entitle held _)

/-- The map of another program is not applied. -/
theorem applyMap_eq (host : Host) (mapPid : Nat) (previous : Option Pmt) (current : Pmt)
    (router : Router) :
    applyEvent host (.pmt mapPid previous current) router =
      (if router.program = some current.program then applyPmt host current
        else pure () : Routing Unit) router := rfl

theorem applyPat_eq (host : Host) (previous : Option Pat) (current : Pat) (router : Router) :
    applyEvent host (.pat previous current) router =
      (selectProgram host ((router.followMaps current).tables.selectProgram
          (router.followMaps current).options.program) >>= fun _ =>
        applySelectedMap host >>= fun _ => modify settleIfFramed)
        (router.followMaps current) := rfl

/-- An association table takes its program maps under observation before anything else. -/
theorem applyPat_keeps (stable : Stable host invariant) (previous : Option Pat) (current : Pat)
    (followed : invariant (router.followMaps current)) :
    invariant (left (applyEvent host (.pat previous current)) router) := by
  rw [left, applyPat_eq]
  apply holds_bind
  · exact selectProgram_keeps stable _ _ followed
  · intro value
    exact keeps_bind (applySelectedMap_keeps stable) (fun _ => settleIfFramed_keeps stable)

/-- A section of a table changes roles only with the event that it completes. -/
theorem takeTable_keeps (stable : Stable host invariant) (held : invariant router) (pid : Nat)
    (data : Bytes) : invariant (left (handleSection host pid .pat data) router) := by
  have announces := router.tables.handleSection_announces pid data
  unfold left handleSection takeSection
  cases result : router.tables.handleSection pid data with
  | mk tables event =>
    rw [result] at announces
    let emptied : TableTracker := { tables with malformed := 0, versionChanges := 0 }
    let session := { router.stats.session with
      malformedSections := router.stats.session.malformedSections + tables.malformed
      tableVersionChanges := router.stats.session.tableVersionChanges + tables.versionChanges }
    have counted : invariant { router with stats := { router.stats with session } } :=
      stable.quiet held (sameRoles_rest ..) (fun _ => rfl)
    cases announces with
    | kept same silent =>
      have taken := stable.quiet counted (sameRoles_tables _ emptied same) (fun _ => rfl)
      cases event with
      | none => exact taken
      | some event =>
        refine applyEvent_keeps stable ?_ _ taken
        intro previous current same
        exact silent previous current (congrArg some same)
    | changed previous applied =>
      apply applyPat_keeps stable
      have inForce : emptied.pat = _ := applied
      exact stable.associate counted inForce

theorem handleSection_keeps (stable : Stable host invariant) (pid : Nat) (cls : StreamClass)
    (data : Bytes) : Keeps invariant (handleSection host pid cls data) := by
  intro router held
  have entitlement : ∀ cls, invariant
      (left (fun router => if host.descrambler.isSome then
        EStateM.Result.ok () (router.record (.entitlement pid cls data)) else .ok () router)
        router) := by
    intro cls
    unfold left
    by_cases asked : host.descrambler.isSome
    · simpa only [asked, if_true] using stable.lasting held (steady_record ..)
    · simp only [asked]
      exact held
  cases cls with
  | pat => exact takeTable_keeps stable held pid data
  | pmt => exact takeTable_keeps stable held pid data
  | cat => exact takeTable_keeps stable held pid data
  | pes => exact held
  | ecm => exact entitlement .ecm
  | emm => exact entitlement .emm

theorem handleItem_keeps (stable : Stable host invariant) (item : SyncItem) :
    Keeps invariant (handleItem host item) := by
  cases item with
  | locked stride place =>
    exact keeps_modify (fun router held =>
      stable.quiet held (sameRoles_noteLock router stride) (fun _ => rfl))
  | lost place =>
    exact keeps_modify (fun router held => stable.lasting held (steady_noteLoss router))
  | packet packet => exact handlePacket_keeps stable.lasting (handleSection_keeps stable) packet

theorem samePids_flush (router : Router) : SamePids router router.flush :=
  NatMap.map_get?_map _ _ StreamState.pid_reset

theorem flush_keeps (stable : Stable host invariant) (held : invariant router) :
    invariant router.flush :=
  stable.quiet held (sameRoles_flush router) (samePids_flush router)

end Router

namespace Session

/-- The session that an operation leaves behind, also when it fails. -/
def left {α : Type} (result : SessionResult α) : Session :=
  match result with
  | .ok _ session => session
  | .error _ session => session

/-- The sessions that their operations can reach. -/
inductive Reachable (host : Host) : Session → Prop where
  | start (options : Options) {session : Session} (created : new options = .ok session) :
      Reachable host session
  | push {session : Session} (reached : Reachable host session) (data : Bytes) :
      Reachable host (left (session.push host data))
  | finish {session : Session} (reached : Reachable host session) :
      Reachable host (left (session.finish host))
  | flush {session : Session} (reached : Reachable host session) :
      Reachable host session.flush
  | seek {session : Session} (reached : Reachable host session) (time : Duration) :
      Reachable host (left (session.seek time))

variable {host : Host} {invariant : Router → Prop} {session : Session}

theorem drain_keeps (stable : Router.Stable host invariant) (held : invariant session.router) :
    invariant (left (drain host session)).router := by
  fun_induction drain host session with
  | case1 session sync error step => exact stable.lasting held (Router.steady_noteFraming ..)
  | case2 session sync step => exact stable.lasting held (Router.steady_noteFraming ..)
  | case3 session sync item step error router result =>
    have framed := stable.lasting held (Router.steady_noteFraming session.router sync)
    have handled := Router.handleItem_keeps stable item _ framed
    rwa [Router.left, result] at handled
  | case4 session sync item step router result ih =>
    have framed := stable.lasting held (Router.steady_noteFraming session.router sync)
    have handled := Router.handleItem_keeps stable item _ framed
    rw [Router.left, result] at handled
    exact ih handled

theorem push_keeps (stable : Router.Stable host invariant) (held : invariant session.router)
    (data : Bytes) : invariant (left (session.push host data)).router := by
  unfold push
  split
  · exact held
  · apply drain_keeps stable
    unfold awaken
    split
    · exact stable.quiet held (Router.sameRoles_rest ..) (fun _ => rfl)
    · exact held

theorem conclude_keeps (stable : Router.Stable host invariant) (held : invariant session.router)
    (drained : Option Error) (neverFramed : Bool) :
    invariant (left (session.conclude drained neverFramed)).router := by
  have ended : invariant { session.router with phase := .ended } :=
    stable.quiet held (Router.sameRoles_rest ..) (fun _ => rfl)
  unfold conclude
  cases drained with
  | some error => exact ended
  | none => cases neverFramed <;> exact ended

theorem route_keeps {α : Type} {action : Routing α} (kept : Router.Keeps invariant action)
    (held : invariant session.router) : invariant (left (session.route action)).router := by
  have routed := kept session.router held
  unfold route
  rw [Router.left] at routed
  split <;> simp_all [left]

/-- Outputs are closed whether input could be drained or not. -/
theorem close_keeps (stable : Router.Stable host invariant) (held : invariant session.router)
    (drained : Option Error) :
    invariant (left (match session.route (Router.closeAll host) with
      | .error error session => .error error session
      | .ok () closed => closed.conclude drained session.neverFramed)).router := by
  have routed := route_keeps (Router.closeAll_keeps stable.lasting host) held
  cases result : session.route (Router.closeAll host) with
  | error error between =>
    rw [result] at routed
    exact routed
  | ok value closed =>
    rw [result] at routed
    exact conclude_keeps stable routed drained session.neverFramed

theorem finish_keeps (stable : Router.Stable host invariant) (held : invariant session.router) :
    invariant (left (session.finish host)).router := by
  unfold finish
  split
  · exact held
  · have drained :
        invariant (left (drain host { session with sync := session.sync.finish })).router :=
      drain_keeps stable held
    cases result : drain host { session with sync := session.sync.finish } with
    | error error between =>
      rw [result] at drained
      exact close_keeps stable drained (some error)
    | ok value between =>
      rw [result] at drained
      exact close_keeps stable drained none

theorem seek_keeps (stable : Router.Stable host invariant) (held : invariant session.router)
    (time : Duration) : invariant (left (session.seek time)).router := by
  unfold Session.seek
  split
  · exact held
  · exact Router.flush_keeps stable held

/-- Every session that operations reach has a router that steps of roles reach. -/
theorem Reachable.router (reached : session.Reachable host) :
    session.router.Reachable host := by
  have stable := Router.reachable_stable host
  induction reached with
  | start options created =>
    unfold new at created
    cases valid : options.validate with
    | error error =>
      rw [valid] at created
      cases created
    | ok value =>
      rw [valid] at created
      cases created
      exact .start options
  | push reached data ih => exact push_keeps stable ih data
  | finish reached ih => exact finish_keeps stable ih
  | flush reached ih => exact Router.flush_keeps stable ih
  | seek reached time ih => exact seek_keeps stable ih time

/-! ### Sessions fed with whole sections -/

/-- A packet that carries one section whole. -/
def sectionPacket (pid counter : Nat) (data : Bytes) : Bytes :=
  [0x47, UInt8.ofNat (0x40 + pid / 256), UInt8.ofNat pid, UInt8.ofNat (0x10 + counter), 0x00] ++
    data ++ List.replicate (packetSize - 5 - data.length) 0xFF

/-- A session that was pushed sections, each with its PID and counter. -/
def fed (sections : List (Nat × Nat × Bytes)) : Session :=
  let options : Options := { packetSize := some packetSize, minSyncRun := 2 }
  left (push .willing (sections.flatMap (fun item => sectionPacket item.1 item.2.1 item.2.2))
    { sync := .ofOptions options, router := .ofOptions options })

theorem fed_reachable (sections : List (Nat × Nat × Bytes)) : Reachable .willing (fed sections) :=
  .push (.start { packetSize := some packetSize, minSyncRun := 2 } rfl) _

/-- A map of program 1 with one stream and no conditional access. -/
def loneMap (version : Nat) (code : UInt8) (pid : Nat) : Pmt :=
  { version, currentNext := true, number := 0, last := 0, program := 1, pcrPid := pid
    descriptors := [], streams := [⟨code, pid, []⟩] }

/-- An association table that announces a map of program 1. -/
def loneAssociation : Pat :=
  { version := 0, currentNext := true, number := 0, last := 0, streamId := 1
    programs := [⟨1, 0x100⟩], networkPid := none }

/-- A session that knows of program 1, and of maps of it one after another. -/
def ofMaps (maps : List Pmt) : Session :=
  let association : Pat :=
    { version := 0, currentNext := true, number := 0, last := 0, streamId := 1
      programs := [⟨1, 0x100⟩], networkPid := none }
  fed ((patPid, 0, association.encode) :: (catPid, 0, []) ::
    maps.map (fun pmt => (0x100, pmt.version, pmt.encode)))

theorem ofMaps_reachable (maps : List Pmt) : Reachable .willing (ofMaps maps) :=
  fed_reachable _

end Session

end TransportStream
