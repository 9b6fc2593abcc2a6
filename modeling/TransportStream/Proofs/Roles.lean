import TransportStream.Router

/-!
The roles of PIDs: which table or stream a PID carries, which sink its output feeds, and
what was declined. Most of what a router does changes none of them.
-/
namespace TransportStream

/-- Whether the payloads are put together to PES packets. -/
def Reassembly.isPes : Reassembly → Bool
  | .sections _ => false
  | .pes _ => true

/-- What a PID is listened to for. -/
def StreamState.role (stream : StreamState) : StreamClass × Bool :=
  (stream.cls, stream.reassembly.isPes)

/-- What an output was created for, and its sink. -/
def Output.owner (output : Output) : StreamInfo × Nat := (output.info, output.sink)

@[simp] theorem StreamState.role_discontinuity (stream : StreamState) :
    stream.discontinuity.role = stream.role := by
  unfold discontinuity
  split <;> simp [role, Reassembly.isPes, *]

@[simp] theorem StreamState.role_reset (stream : StreamState) :
    stream.reset.role = stream.role := by
  unfold reset
  dsimp only
  split <;> simp_all [role, Reassembly.isPes]

@[simp] theorem StreamState.role_resync (stream : StreamState) :
    stream.resync.role = stream.role := by
  unfold resync
  rw [role_discontinuity]
  rfl

@[simp] theorem Output.owner_deliver (output : Output) (packet : PesPacket)
    (firstPcr : Option Nat) : (output.deliver packet firstPcr).1.owner = output.owner := by
  unfold deliver
  split <;> rfl

namespace Router

variable {α β : Type} {host : Host} {invariant : Router → Prop} {router before between after : Router}

/-! ### What an action leaves behind -/

/-- The router that an action leaves behind, also when it fails. -/
def left (action : Routing α) (router : Router) : Router :=
  match action router with
  | .ok _ after => after
  | .error _ after => after

theorem left_of_ok {action : Routing α} {value : α} (success : action router = .ok value after) :
    left action router = after := by
  simp [left, success]

/-- Whether an action does not fail. -/
def succeeds (action : Routing α) (router : Router) : Bool :=
  match action router with
  | .ok _ _ => true
  | .error _ _ => false

theorem ok_of_succeeds (action : Routing Unit) (router : Router) (success : succeeds action router = true) :
    action router = .ok () (left action router) := by
  unfold succeeds left at *
  cases result : action router with
  | ok value after => rfl
  | error error after =>
    rw [result] at success
    cases success

theorem bind_of_ok {action : Routing α} {next : α → Routing β} {value : α}
    (success : action router = .ok value between) :
    (action >>= next) router = next value between := by
  change EStateM.bind action next router = _
  rw [EStateM.bind, success]

theorem bind_of_error {action : Routing α} {next : α → Routing β} {error : Error}
    (failure : action router = .error error between) :
    (action >>= next) router = .error error between := by
  change EStateM.bind action next router = _
  rw [EStateM.bind, failure]

/-- A sequence that succeeds does so step by step. -/
theorem ok_of_bind {action : Routing α} {next : α → Routing β} {value : β}
    (success : (action >>= next) router = .ok value after) :
    ∃ middle between, action router = .ok middle between ∧
      next middle between = .ok value after := by
  cases result : action router with
  | ok middle between =>
    rw [bind_of_ok result] at success
    exact ⟨middle, between, rfl, success⟩
  | error error between =>
    rw [bind_of_error result] at success
    cases success

/-- Whether an action keeps an invariant, also when it fails. -/
def Keeps (invariant : Router → Prop) (action : Routing α) : Prop :=
  ∀ router, invariant router → invariant (left action router)

theorem keeps_pure (value : α) : Keeps invariant (pure value : Routing α) := fun _ held => held

theorem keeps_get : Keeps invariant (get : Routing Router) := fun _ held => held

theorem keeps_modify {change : Router → Router}
    (kept : ∀ router, invariant router → invariant (change router)) :
    Keeps invariant (modify change : Routing Unit) := kept

/-- An action leads to one condition, and what comes behind it from there to another, which holds
as well if the action fails. -/
theorem leads_bind {first last : Router → Prop} {action : Routing α} {next : α → Routing β}
    (done : first (left action router)) (failed : ∀ router, first router → last router)
    (later : ∀ value router, first router → last (left (next value) router)) :
    last (left (action >>= next) router) := by
  unfold left at done later ⊢
  cases result : action router with
  | ok value between =>
    rw [result] at done
    rw [bind_of_ok result]
    exact later value between done
  | error error between =>
    rw [result] at done
    rw [bind_of_error result]
    exact failed between done

theorem holds_bind {action : Routing α} {next : α → Routing β}
    (first : invariant (left action router)) (second : ∀ value, Keeps invariant (next value)) :
    invariant (left (action >>= next) router) :=
  leads_bind first (fun _ held => held) second

theorem keeps_bind {action : Routing α} {next : α → Routing β} (first : Keeps invariant action)
    (second : ∀ value, Keeps invariant (next value)) : Keeps invariant (action >>= next) :=
  fun router held => holds_bind (first router held) second

/-- What is kept by each of some actions that are taken is kept by all of them. -/
theorem keeps_forEach_of_mem {items : List α} {act : α → Routing Unit}
    (each : ∀ item ∈ items, Keeps invariant (act item)) : Keeps invariant (forEach items act) := by
  induction items with
  | nil => exact keeps_pure ()
  | cons item others ih =>
    obtain ⟨first, later⟩ := List.forall_mem_cons.mp each
    exact keeps_bind first (fun _ => ih later)

theorem keeps_forEach {items : List α} {act : α → Routing Unit}
    (each : ∀ item, Keeps invariant (act item)) : Keeps invariant (forEach items act) :=
  keeps_forEach_of_mem (fun item _ => each item)

theorem forEach_append {front : List α} (back : List α) {act : α → Routing Unit}
    (done : forEach front act router = .ok () between) :
    forEach (front ++ back) act router = forEach back act between := by
  induction front generalizing router with
  | nil =>
    cases done
    rfl
  | cons item others ih =>
    rw [forEach] at done
    cases first : act item router with
    | error error reached =>
      rw [bind_of_error first] at done
      cases done
    | ok value reached =>
      rw [bind_of_ok first] at done
      rw [List.cons_append, forEach, bind_of_ok first]
      exact ih done

/-! ### Routers with the same roles -/

/-- `SameRoles before after`: whatever else happened, every PID has kept its role, and its
output its sink. The class that the counters of a PID name is its last role. -/
structure SameRoles (before after : Router) : Prop where
  options : after.options = before.options
  pat : after.tables.pat = before.tables.pat
  declined : after.declined = before.declined
  sinks : after.sinks = before.sinks
  streams : ∀ pid,
    (after.streams.get? pid).map StreamState.role = (before.streams.get? pid).map StreamState.role
  outputs : ∀ pid,
    (after.outputs.get? pid).map Output.owner = (before.outputs.get? pid).map Output.owner
  counted : ∀ pid, (after.stats.streams.get? pid).map StreamStats.cls =
    (before.stats.streams.get? pid).map StreamStats.cls

theorem SameRoles.refl (router : Router) : SameRoles router router :=
  ⟨rfl, rfl, rfl, rfl, fun _ => rfl, fun _ => rfl, fun _ => rfl⟩

theorem SameRoles.trans (first : SameRoles before between) (second : SameRoles between after) :
    SameRoles before after where
  options := second.options.trans first.options
  pat := second.pat.trans first.pat
  declined := second.declined.trans first.declined
  sinks := second.sinks.trans first.sinks
  streams pid := (second.streams pid).trans (first.streams pid)
  outputs pid := (second.outputs pid).trans (first.outputs pid)
  counted pid := (second.counted pid).trans (first.counted pid)

theorem SameRoles.stream {pid : Nat} {stream : StreamState} (same : SameRoles before after)
    (found : after.streams.get? pid = some stream) :
    ∃ former, before.streams.get? pid = some former ∧ former.role = stream.role := by
  have roles := same.streams pid
  rw [found, Option.map_some] at roles
  exact Option.map_eq_some_iff.mp roles.symm

theorem SameRoles.output {pid : Nat} {output : Output} (same : SameRoles before after)
    (found : after.outputs.get? pid = some output) :
    ∃ former, before.outputs.get? pid = some former ∧ former.owner = output.owner := by
  have owners := same.outputs pid
  rw [found, Option.map_some] at owners
  exact Option.map_eq_some_iff.mp owners.symm

/-- The roles are the same in both directions. -/
theorem SameRoles.symm (same : SameRoles before after) : SameRoles after before where
  options := same.options.symm
  pat := same.pat.symm
  declined := same.declined.symm
  sinks := same.sinks.symm
  streams pid := (same.streams pid).symm
  outputs pid := (same.outputs pid).symm
  counted pid := (same.counted pid).symm

theorem SameRoles.carriesTables (same : SameRoles before after) (pid : Nat) :
    after.carriesTables pid = before.carriesTables pid := by
  have byRole : ∀ router : Router, router.carriesTables pid =
      ((router.streams.get? pid).map StreamState.role).any (fun role => role.1 != .pes) := by
    intro router
    unfold Router.carriesTables
    cases router.streams.get? pid <;> rfl
  rw [byRole, byRole, same.streams]

/-! ### What changes no role -/

/-- Counters of the session say nothing about roles, nor does what lies outside of them. -/
theorem sameRoles_stats {stats : Stats} (router : Router)
    (counted : ∀ pid, (stats.streams.get? pid).map StreamStats.cls =
      (router.stats.streams.get? pid).map StreamStats.cls) :
    SameRoles router { router with stats } :=
  ⟨rfl, rfl, rfl, rfl, fun _ => rfl, fun _ => rfl, counted⟩

/-- A stream replaced by one in the same role. -/
theorem sameRoles_insert {pid : Nat} {current : StreamState} (next : StreamState)
    (found : router.streams.get? pid = some current) (same : next.role = current.role) :
    SameRoles router { router with streams := router.streams.insert pid next } :=
  ⟨rfl, rfl, rfl, rfl, NatMap.map_get?_insert _ _ found same, fun _ => rfl, fun _ => rfl⟩

/-- An output replaced by one that feeds the same sink. -/
theorem sameRoles_output {pid : Nat} {current : Output} (next : Output)
    (found : router.outputs.get? pid = some current) (same : next.owner = current.owner) :
    SameRoles router { router with outputs := router.outputs.insert pid next } :=
  ⟨rfl, rfl, rfl, rfl, fun _ => rfl, NatMap.map_get?_insert _ _ found same, fun _ => rfl⟩

/-- Tables that leave the association table as it is. -/
theorem sameRoles_tables (router : Router) (tables : TableTracker)
    (same : tables.pat = router.tables.pat) : SameRoles router { router with tables } :=
  ⟨rfl, same, rfl, rfl, fun _ => rfl, fun _ => rfl, fun _ => rfl⟩

/-- What lies outside of tables, streams and outputs. -/
theorem sameRoles_rest (router : Router) (phase : Phase) (program pcrPid stride : Option Nat)
    (clock : Clock) (calls : List Call) (session : SessionStats) :
    SameRoles router { router with
      phase, program, pcrPid, clock, stride, calls, stats := { router.stats with session } } :=
  ⟨rfl, rfl, rfl, rfl, fun _ => rfl, fun _ => rfl, fun _ => rfl⟩

theorem sameRoles_record (router : Router) (call : Call) :
    SameRoles router (router.record call) := sameRoles_rest ..

theorem sameRoles_noteFraming (router : Router) (sync : Synchronizer) :
    SameRoles router (router.noteFraming sync) := sameRoles_rest ..

theorem sameRoles_settleIfFramed (router : Router) :
    SameRoles router router.settleIfFramed := by
  unfold settleIfFramed
  split
  · exact .refl router
  · exact .refl router
  · exact sameRoles_rest ..

theorem sameRoles_followPcrPid (router : Router) (pcrPid : Nat) :
    SameRoles router (router.followPcrPid pcrPid) := by
  unfold followPcrPid
  split
  · exact .refl router
  · split
    · exact sameRoles_rest ..
    · exact sameRoles_rest ..

theorem sameRoles_noteLock (router : Router) (stride : Nat) :
    SameRoles router (router.noteLock stride) := sameRoles_rest ..

theorem sameRoles_noteLoss (router : Router) : SameRoles router router.noteLoss where
  options := rfl
  pat := rfl
  declined := rfl
  sinks := rfl
  streams := NatMap.map_get?_map _ _ StreamState.role_resync
  outputs _ := rfl
  counted _ := rfl

theorem sameRoles_flush (router : Router) : SameRoles router router.flush where
  options := rfl
  pat := rfl
  declined := rfl
  sinks := rfl
  streams := NatMap.map_get?_map _ _ StreamState.role_reset
  outputs := NatMap.map_get?_map _ _ (fun _ => rfl)
  counted _ := rfl

theorem sameRoles_observeClock (router : Router) (packet : TransportPacket) :
    SameRoles router (router.observeClock packet) := by
  unfold observeClock
  split
  · exact sameRoles_rest ..
  · exact .refl router

theorem sameRoles_countPacket (router : Router) (packet : TransportPacket) :
    SameRoles router (router.countPacket packet) := by
  unfold countPacket
  apply sameRoles_stats
  intro pid
  have counted : ∀ payloadLength scrambled,
      ((router.stats.recordPacket packet.pid payloadLength scrambled).streams.get? pid).map
          StreamStats.cls = (router.stats.streams.get? pid).map StreamStats.cls := by
    intro payloadLength scrambled
    apply NatMap.map_get?_modify
    intro entry
    rfl
  split
  · exact counted ..
  · exact counted ..

theorem sameRoles_recordDuplicate (router : Router) (pid : Nat) :
    SameRoles router { router with stats := router.stats.recordDuplicate pid } :=
  sameRoles_stats router (NatMap.map_get?_modify _ _ pid (fun _ => rfl))

theorem sameRoles_recordContinuityError (router : Router) (pid : Nat) :
    SameRoles router { router with stats := router.stats.recordContinuityError pid } :=
  sameRoles_stats router (NatMap.map_get?_modify _ _ pid (fun _ => rfl))

theorem sameRoles_collectFilter {pid : Nat} {current : StreamState} (stream : StreamState)
    (filter : SectionFilter) (found : router.streams.get? pid = some current)
    (same : (stream.cls, false) = current.role) :
    SameRoles router (router.collectFilter pid stream filter) :=
  ⟨rfl, rfl, rfl, rfl, NatMap.map_get?_insert _ _ found same, fun _ => rfl, fun _ => rfl⟩

theorem sameRoles_collectReassembler {pid : Nat} {current : StreamState} (stream : StreamState)
    (reassembler : PesReassembler) (found : router.streams.get? pid = some current)
    (same : (stream.cls, true) = current.role) :
    SameRoles router (router.collectReassembler pid stream reassembler) :=
  ⟨rfl, rfl, rfl, rfl, NatMap.map_get?_insert _ _ found same, fun _ => rfl, fun _ => rfl⟩

theorem sameRoles_descramble (router : Router) (host : Host) (packet : TransportPacket)
    (payload : Bytes) : SameRoles router (router.descramble host packet payload).1 := by
  unfold descramble
  split
  · exact .refl router
  · split
    · exact sameRoles_record ..
    · exact .refl router

end Router

end TransportStream
