import TransportStream.Proofs.Reapplication

/-!
The end of input. Outputs are closed in the order of their PIDs, and the first sink that fails
while they are stops that: the outputs after it stay as they are, and the session has not ended.
Whatever failed before, sinks or framing, does not matter.
-/
namespace TransportStream

/-- The text of the failure that a call was answered with. -/
def Call.failure? : Call → Option String
  | .deliver _ _ failure | .finish _ _ failure => failure
  | .create _ _ | .entitlement _ _ _ | .descramble _ _ _ _ => none

theorem Call.failed_eq (call : Call) : call.failed = call.failure?.isSome := by
  cases call <;> rfl

/-- Once told of the end of its stream, a sink stays so. -/
theorem Finished.later {older calls : List Call} {sink : Nat} (finished : Finished older sink)
    (grown : older <:+ calls) : Finished calls sink := by
  obtain ⟨call, told, isFinish⟩ := finished
  obtain ⟨made, tells⟩ := List.mem_filter.mp told
  exact ⟨call, List.mem_filter.mpr ⟨grown.subset made, tells⟩, isFinish⟩

namespace Router

variable {α β : Type} {host : Host} {router before between after : Router} {pid sink : Nat}

/-! ### Loops that stop early -/

/-- A loop that fails does so at one item, once those before it went through. -/
theorem forEach_error {items : List α} {act : α → Routing Unit} {error : Error}
    (failed : forEach items act router = .error error after) :
    ∃ front item back between, items = front ++ item :: back ∧
      forEach front act router = .ok () between ∧ act item between = .error error after := by
  induction items generalizing router with
  | nil => cases failed
  | cons item others ih =>
    rw [forEach] at failed
    cases first : act item router with
    | error fault reached =>
      rw [bind_of_error first] at failed
      cases failed
      exact ⟨[], item, others, router, rfl, rfl, first⟩
    | ok value reached =>
      rw [bind_of_ok first] at failed
      obtain ⟨front, last, back, between, rfl, done, stopped⟩ := ih failed
      refine ⟨item :: front, last, back, between, rfl, ?_, stopped⟩
      rw [forEach, bind_of_ok first, done]

/-! ### What an action reports of its calls -/

/-- An action makes calls of some kind only. As long as none of them fails it goes on, and the
first that does is its last, and its own failure. -/
def Reports (kind : Call → Prop) (before : Router) : EStateM.Result Error Router α → Prop
  | .ok _ after => ∃ made, after.calls = made ++ before.calls ∧
      ∀ call ∈ made, kind call ∧ call.failed = false
  | .error error after => ∃ call made text, after.calls = call :: (made ++ before.calls) ∧
      (∀ call ∈ made, kind call ∧ call.failed = false) ∧
        kind call ∧ call.failure? = some text ∧ error = .io text

variable {kind other : Call → Prop}

/-- Whatever makes no call goes on. -/
theorem reports_quiet {value : α} (same : after.calls = before.calls) :
    Reports kind before (.ok value after) := ⟨[], same, List.forall_mem_nil _⟩

theorem Reports.behind {result : EStateM.Result Error Router α}
    (reports : Reports kind between result) (first : Reports kind before (.ok () between)) :
    Reports kind before result := by
  obtain ⟨early, calls, sound⟩ := first
  cases result with
  | ok value after =>
    obtain ⟨made, callsThen, soundThen⟩ := reports
    refine ⟨made ++ early, by rw [callsThen, calls, List.append_assoc], ?_⟩
    exact List.forall_mem_append.mpr ⟨soundThen, sound⟩
  | error error after =>
    obtain ⟨call, made, text, callsThen, soundThen, last⟩ := reports
    refine ⟨call, made ++ early, text, by rw [callsThen, calls, List.append_assoc], ?_, last⟩
    exact List.forall_mem_append.mpr ⟨soundThen, sound⟩

theorem Reports.widen {result : EStateM.Result Error Router α}
    (reports : Reports kind before result) (wider : ∀ call, kind call → other call) :
    Reports other before result := by
  cases result with
  | ok value after =>
    obtain ⟨made, calls, sound⟩ := reports
    exact ⟨made, calls, fun call member => (sound call member).imp_left (wider call)⟩
  | error error after =>
    obtain ⟨call, made, text, calls, sound, ofKind, failure⟩ := reports
    exact ⟨call, made, text, calls, fun call member => (sound call member).imp_left (wider call),
      wider call ofKind, failure⟩

theorem reports_bind {action : Routing Unit} {next : Unit → Routing β}
    (first : Reports kind router (action router))
    (second : ∀ between, action router = .ok () between →
      Reports kind between (next () between)) :
    Reports kind router ((action >>= next) router) := by
  cases result : action router with
  | ok value between =>
    rw [result] at first
    rw [bind_of_ok result]
    exact (second between result).behind first
  | error error between =>
    rw [result] at first
    rw [bind_of_error result]
    exact first

theorem reports_forEach {items : List α} {act : α → Routing Unit}
    (each : ∀ item router, Reports kind router (act item router)) (router : Router) :
    Reports kind router (forEach items act router) := by
  induction items generalizing router with
  | nil => exact reports_quiet rfl
  | cons item others ih => exact reports_bind (each item router) (fun between _ => ih between)

/-- A call that is made, and ends the action if it is answered with a failure. -/
theorem reports_call {call : Call} (ofKind : kind call) (router : Router) :
    Reports kind router (match call.failure? with
      | none => .ok () (router.record call)
      | some text => .error (.io text) (router.record call)) := by
  cases answer : call.failure? with
  | none =>
    have sound : call.failed = false := by
      rw [call.failed_eq, answer]
      rfl
    exact ⟨[call], rfl, List.forall_mem_singleton.mpr ⟨ofKind, sound⟩⟩
  | some text => exact ⟨call, [], text, rfl, List.forall_mem_nil _, ofKind, answer, rfl⟩

theorem handUnit_reports (host : Host) (sink : Nat) (unit : AccessUnit) (router : Router) :
    Reports (fun call => call.tells sink = true) router (handUnit host sink unit router) := by
  have tells : (Call.deliver sink unit (host.deliverFailure router.calls sink unit)).tells sink =
      true := beq_self_eq_true sink
  exact @reports_call (fun call => call.tells sink = true) _ tells router

theorem endSink_reports (host : Host) (sink pid : Nat) (router : Router) :
    Reports (fun call => call.tells sink = true) router (endSink host sink pid router) := by
  have tells : (Call.finish sink pid (host.finishFailure router.calls sink)).tells sink = true :=
    beq_self_eq_true sink
  exact @reports_call (fun call => call.tells sink = true) _ tells router

/-- The output of a PID feeds no other sink than this one. -/
def FeedsOnly (router : Router) (pid sink : Nat) : Prop :=
  ∀ output, router.outputs.get? pid = some output → output.sink = sink

theorem FeedsOnly.quiet (feeds : FeedsOnly before pid sink) (same : SameRoles before after) :
    FeedsOnly after pid sink := by
  intro output found
  obtain ⟨former, present, owner⟩ := same.output found
  have fed : former.sink = output.sink := congrArg Prod.snd owner
  exact fed.symm.trans (feeds former present)

theorem feedsOnly_some (router : Router) (pid : Nat) : ∃ sink, router.FeedsOnly pid sink := by
  cases found : router.outputs.get? pid with
  | none => exact ⟨0, fun output present => by cases found.symm.trans present⟩
  | some output =>
    refine ⟨output.sink, fun current present => ?_⟩
    cases found.symm.trans present
    rfl

theorem deliver_reports (host : Host) (packet : PesPacket) (feeds : FeedsOnly router pid sink) :
    Reports (fun call => call.tells sink = true) router (deliver host pid packet router) := by
  unfold deliver
  cases found : router.outputs.get? pid with
  | none => exact reports_quiet rfl
  | some output =>
    have owner := Output.owner_deliver output packet router.clock.first
    cases made : output.deliver packet router.clock.first with
    | mk next unit =>
      rw [made] at owner
      have fed : next.sink = sink :=
        (congrArg Prod.snd owner).trans (feeds output found)
      simp only [made]
      cases unit with
      | none => exact reports_quiet rfl
      | some unit =>
        subst fed
        exact (handUnit_reports host next.sink unit _).behind (reports_quiet rfl)

theorem drainOutput_reports (host : Host) (feeds : FeedsOnly router pid sink) :
    Reports (fun call => call.tells sink = true) router (drainOutput host pid router) := by
  have flushed := aside_flushReassembly router pid
  unfold drainOutput
  cases drained : router.flushReassembly pid with
  | mk next last =>
    rw [drained] at flushed
    cases last with
    | none => exact reports_quiet flushed.calls
    | some packet =>
      refine Reports.behind ?_ (reports_quiet flushed.calls)
      apply deliver_reports
      intro output found
      rw [flushed.outputs] at found
      exact feeds output found

theorem endOutput_reports (host : Host) (feeds : FeedsOnly router pid sink) :
    Reports (fun call => call.tells sink = true) router (endOutput host pid router) := by
  rw [endOutput_eq]
  cases found : router.outputs.get? pid with
  | none => exact reports_quiet rfl
  | some output =>
    obtain rfl := feeds output found
    by_cases ended : output.ended = true
    · simp only [ended, if_true]
      exact reports_quiet rfl
    · simp only [ended]
      exact (endSink_reports host output.sink pid _).behind (reports_quiet rfl)

theorem closeOutput_reports (host : Host) (feeds : FeedsOnly router pid sink) :
    Reports (fun call => call.tells sink = true) router (closeOutput host pid router) := by
  apply reports_bind (drainOutput_reports host feeds)
  intro between drained
  have steady := drainOutput_keeps (lasting_steady router) host pid router (.refl router)
  rw [left_of_ok drained] at steady
  exact endOutput_reports host (feeds.quiet steady.roles)

/-! ### Closing outputs one after another -/

theorem endOutput_spared (host : Host) {other : Nat} (different : other ≠ pid) :
    Keeps (Spared pid sink before) (endOutput host other) := by
  intro router spared
  unfold left
  rw [endOutput_eq]
  cases found : router.outputs.get? other with
  | none => exact spared
  | some output =>
    have foreign : output.sink ≠ sink :=
      fun shared => different (spared.alone other output found shared)
    by_cases ended : output.ended = true
    · simp only [ended, if_true]
      exact spared
    · simp only [ended]
      change Spared pid sink before (left (endSink host output.sink other) _)
      rw [left_endSink]
      have fed : output.markEnded.sink = output.sink := rfl
      apply (spared.adjust different found fed router.stats).record
      simp [Call.concerns, foreign, different]

theorem closeOutput_spared (host : Host) {other : Nat} (different : other ≠ pid) :
    Keeps (Spared pid sink before) (closeOutput host other) :=
  keeps_bind (drainOutput_spared host different) (fun _ => endOutput_spared host different)

theorem closeEach_spared {pids : List Nat} (host : Host)
    (different : ∀ other ∈ pids, other ≠ pid) :
    Keeps (Spared pid sink before) (forEach pids (closeOutput host)) :=
  keeps_forEach_of_mem (fun other member => closeOutput_spared host (different other member))

theorem Orderly.spared {output : Output} (orderly : Orderly router)
    (found : router.outputs.get? pid = some output) : Spared pid output.sink router router := by
  refine ⟨.refl .., fun place rival held shared => ?_⟩
  have rivals := hold_of_found held
  rw [shared] at rivals
  exact orderly.alone _ _ _ _ _ rivals (hold_of_found found)

theorem closeEach_steady {pids : List Nat}
    (done : forEach pids (closeOutput host) router = .ok () after) : Steady router after := by
  have kept : Keeps (Steady router) (forEach pids (closeOutput host)) :=
    keeps_forEach (closeOutput_keeps (lasting_steady router) host)
  have steady := kept router (.refl router)
  rwa [left_of_ok done] at steady

theorem closeEach_changes {pids : List Nat}
    (done : forEach pids (closeOutput host) router = .ok () after) :
    Changes host router after := by
  have traced : Traced host router (forEach pids (closeOutput host) router) :=
    traced_forEach (closeOutput_traced host) router
  rwa [done] at traced

/-- Outputs that were closed told their sinks. -/
theorem closeEach_told {pids : List Nat} {output : Output} (orderly : Orderly router)
    (done : forEach pids (closeOutput host) router = .ok () after) (member : pid ∈ pids)
    (found : router.outputs.get? pid = some output) : Finished after.calls output.sink := by
  obtain ⟨ended, held⟩ := hold_of_roles (closeEach_steady done).roles.symm (hold_of_found found)
  have orderlyThen := (closeEach_changes done).orderly orderly
  exact (orderlyThen.ended pid output.sink ended held).mp
    (closeEach_ok orderly done pid member output.sink ended held)

/-- Closing was cut short. The outputs of the PIDs in front are closed. The sink of the next one
failed with a text, and that was the last call. The outputs of the PIDs behind are as they
were. -/
structure CutShort (front : List Nat) (pid : Nat) (back : List Nat) (text : String)
    (before after : Router) : Prop where
  order : before.outputs.keys = front ++ pid :: back
  closed : ∀ other ∈ front, ∀ output, before.outputs.get? other = some output →
    Finished after.calls output.sink
  stopped : ∃ output call older, before.outputs.get? pid = some output ∧
    after.calls = call :: older ∧ call.tells output.sink = true ∧ call.failure? = some text
  spared : ∀ other ∈ back, ∀ output, before.outputs.get? other = some output →
    Untouched other output.sink before after

theorem closeAll_error {error : Error} (orderly : Orderly router)
    (failed : closeAll host router = .error error after) :
    ∃ front pid back text, error = .io text ∧ CutShort front pid back text router after := by
  have loop : forEach router.outputs.keys (closeOutput host) router = .error error after := failed
  obtain ⟨front, pid, back, between, order, done, stopped⟩ := forEach_error loop
  have distinct := NatMap.keys_nodup router.outputs
  rw [order, List.nodup_append, List.nodup_cons] at distinct
  obtain ⟨-, ⟨notBehind, -⟩, apart⟩ := distinct
  have late : Changes host between after := by
    have traced := closeOutput_traced host pid between
    rw [stopped] at traced
    exact traced.1
  obtain ⟨output, found⟩ := keys_present router pid (by simp [order])
  have feeds : FeedsOnly router pid output.sink := by
    intro current present
    cases found.symm.trans present
    rfl
  have reports := closeOutput_reports host (feeds.quiet (closeEach_steady done).roles)
  rw [stopped] at reports
  obtain ⟨call, made, text, calls, -, tells, failure, blamed⟩ := reports
  refine ⟨front, pid, back, text, blamed, {
    order := order
    closed := fun other member closed present =>
      (closeEach_told orderly done member present).later late.calls_suffix
    stopped := ⟨output, call, _, found, calls, tells, failure⟩
    spared := fun other member rest present => ?_ }⟩
  have notFront : ∀ earlier ∈ front, earlier ≠ other :=
    fun earlier inFront => apart earlier inFront other (List.mem_cons_of_mem _ member)
  have notPid : pid ≠ other := by
    rintro rfl
    exact notBehind member
  have spared := closeEach_spared host notFront router (orderly.spared present)
  rw [left_of_ok done] at spared
  have sparedThen := closeOutput_spared host notPid between spared
  rw [left, stopped] at sparedThen
  exact sparedThen.untouched

end Router

namespace Session

variable {host : Host} {session : Session}

/-- A session that came to its end: every output it has told its sink so. -/
structure Closed (session : Session) : Prop where
  ended : session.phase = .ended
  told : ∀ pid output, session.router.outputs.get? pid = some output →
    Finished session.router.calls output.sink

/-- The session once its input ended and framing gave what it could, or a failure stopped that. -/
def atEnd (session : Session) (host : Host) : Session :=
  left (drain host { session with sync := session.sync.finish })

/-- However draining went, all outputs are closed then. -/
theorem finish_eq_closeAll (host : Host) (running : session.phase ≠ .ended) :
    ∃ failure : Option Error, session.finish host =
      match (session.atEnd host).route (Router.closeAll host) with
      | .error error session => .error error session
      | .ok () closed => closed.conclude failure (session.atEnd host).neverFramed := by
  unfold finish atEnd
  rw [if_neg running]
  cases result : drain host { session with sync := session.sync.finish } with
  | ok value reached => exact ⟨none, rfl⟩
  | error error reached => exact ⟨some error, rfl⟩

theorem finish_of_ok (running : session.phase ≠ .ended) {after : Router}
    (closed : Router.closeAll host (session.atEnd host).router = .ok () after) :
    left (session.finish host) =
      { session.atEnd host with router := { after with phase := .ended } } := by
  obtain ⟨failure, finish⟩ := finish_eq_closeAll host running
  simp only [route, closed] at finish
  rw [finish]
  exact left_conclude ..

theorem finish_of_error (running : session.phase ≠ .ended) {error : Error} {after : Router}
    (failed : Router.closeAll host (session.atEnd host).router = .error error after) :
    session.finish host = .error error { session.atEnd host with router := after } := by
  obtain ⟨failure, finish⟩ := finish_eq_closeAll host running
  simp only [route, failed] at finish
  exact finish

/-- A session that ended in order is closed. -/
theorem Orderly.closed_of_ended (orderly : session.Orderly) (ended : session.phase = .ended) :
    session.Closed := by
  refine ⟨ended, fun pid output found => ?_⟩
  have held := Router.hold_of_found found
  exact (orderly.router.ended pid _ _ held).mp (orderly.closed ended pid _ _ held)

/-- Closing goes through or is cut short, and with it the end of input. -/
theorem Orderly.closes (orderly : session.Orderly) (host : Host)
    (running : session.phase ≠ .ended) :
    let drained := session.atEnd host
    let finished := left (session.finish host)
    ∃ made, finished.router.calls = made ++ drained.router.calls ∧
      (finished.Closed ↔ ∀ call ∈ made, call.failed = false) ∧
      (¬finished.Closed → ∃ front pid back text,
        session.finish host = .error (.io text) finished ∧ finished.phase = drained.phase ∧
          Router.CutShort front pid back text drained.router finished.router) := by
  intro drained finished
  have changes := drain_changes host { session with sync := session.sync.finish }
  have reports : Router.Reports (fun _ => True) drained.router
      (Router.closeAll host drained.router) := by
    apply Router.reports_forEach
    intro pid router
    obtain ⟨sink, feeds⟩ := router.feedsOnly_some pid
    exact (Router.closeOutput_reports host feeds).widen (fun _ _ => trivial)
  cases result : Router.closeAll host drained.router with
  | ok value after =>
    rw [result] at reports
    obtain ⟨made, calls, sound⟩ := reports
    have finish : finished = { drained with router := { after with phase := .ended } } :=
      finish_of_ok running result
    have ended : finished.phase = .ended := by
      rw [finish]
      rfl
    have closed : finished.Closed :=
      (@finish_orderly host session orderly).1.closed_of_ended ended
    refine ⟨made, by rw [finish]; exact calls, iff_of_true closed ?_,
      fun unclosed => absurd closed unclosed⟩
    exact fun call member => (sound call member).2
  | error error after =>
    rw [result] at reports
    obtain ⟨call, made, text, calls, -, -, failure, -⟩ := reports
    have stopped := finish_of_error running result
    have finish : finished = { drained with router := after } := by
      simp only [finished, stopped, left]
      rfl
    have phase : finished.phase = drained.phase := by
      have steady := Router.closeAll_keeps (Router.lasting_steady drained.router) host
        drained.router (.refl _)
      rw [Router.left, result] at steady
      rw [finish]
      exact steady.course.phase
    have unclosed : ¬finished.Closed := fun closed =>
      changes.phase_ne (.inr rfl) running (phase.symm.trans closed.ended)
    obtain ⟨front, pid, back, said, rfl, cut⟩ :=
      Router.closeAll_error (changes.orderly orderly.router) result
    refine ⟨call :: made, by rw [finish]; exact calls, iff_of_false unclosed ?_, fun _ =>
      ⟨front, pid, back, said, by rw [stopped, finish], phase, by rw [finish]; exact cut⟩⟩
    intro sound
    have failed := call.failed_eq
    rw [sound call List.mem_cons_self, failure] at failed
    cases failed

/-- The end of input, whatever was asked of a session before and however its surroundings
answer. Every output it has tells its sink of the end, and the session ends, exactly if no sink
fails from the closing of the first output on. If one does, it is the last that is called, its
failure is the result, the session stands where it stood, and the outputs behind are neither
drained nor ended. -/
theorem finish_closed_iff {options : Options} (created : new options = .ok session)
    (operations : List (Host × Operation)) (host : Host)
    (running : (session.performAll operations).phase ≠ .ended) :
    let reached := session.performAll operations
    let drained := reached.atEnd host
    let finished := left (reached.finish host)
    ∃ made, finished.router.calls = made ++ drained.router.calls ∧
      (finished.Closed ↔ ∀ call ∈ made, call.failed = false) ∧
      (¬finished.Closed → ∃ front pid back text,
        reached.finish host = .error (.io text) finished ∧ finished.phase = drained.phase ∧
          Router.CutShort front pid back text drained.router finished.router) :=
  (performAll_orderly (new_orderly created) operations).closes host running

/-- A session with two video streams. A unit of the second one is open, and framing holds the
packet with a whole unit of the first one, for its parity is missing. -/
private def unitHeld : Session :=
  let options : Options := { packetSize := some 204, minSyncRun := 2 }
  let parity : Bytes := List.replicate 16 0
  let unit (pid : UInt8) (length : UInt8) : Bytes :=
    [0x47, 0x41, pid, 0x10, 0x00, 0x00, 0x01, 0xE0, 0x00, length, 0x80, 0x00, 0x00, 0xAA] ++
      List.replicate 174 0xFF
  let session : Session := { sync := .ofOptions options, router := .ofOptions options }
  session.performAll [(.willing, .push (sectionPacket patPid 0 loneAssociation.encode ++ parity ++
    sectionPacket 0x100 0 (videoMap 0 [0x101, 0x102]).encode ++ parity ++
    unit 0x02 0 ++ parity ++ unit 0x01 4))]

/-- The sink of the first stream refuses the unit that the drain hands it. All sinks are told of
the end, the one with the open unit after it got that. -/
theorem finish_closes_after_failure :
    let refusing : Host := { Host.willing with
      deliverFailure := fun _ sink _ => if sink = 0 then some "sink full" else none }
    (unitHeld.atEnd refusing).router.calls.any Call.failed = true ∧
      (left (unitHeld.finish refusing)).Closed := by
  have created := new_of_validate
    (rfl : Options.validate { packetSize := some 204, minSyncRun := 2 } = .ok ())
  intro refusing
  obtain ⟨made, calls, closed, -⟩ := finish_closed_iff created _ refusing
    (by decide +kernel : unitHeld.phase ≠ .ended)
  refine ⟨by decide +kernel, closed.mpr ?_⟩
  have three : (left (unitHeld.finish refusing)).router.calls.length =
      3 + (unitHeld.atEnd refusing).router.calls.length := by decide +kernel
  have taken : ∀ call ∈ (left (unitHeld.finish refusing)).router.calls.take 3,
      call.failed = false := by decide +kernel
  have length : made.length = 3 := by
    rw [unitHeld, calls, List.length_append] at three
    exact Nat.add_right_cancel three
  rwa [unitHeld, calls, ← length, List.take_left] at taken

/-- The sink of the first stream fails at its end. The sink of the second is told nothing, and
the session has not ended. -/
theorem finish_stops_at_failure :
    let failing : Host := { Host.willing with
      finishFailure := fun _ sink => if sink = 0 then some "sink close failed" else none }
    let finished := left ((announced [0x101, 0x102]).finish failing)
    (announced [0x101, 0x102]).phase ≠ .ended ∧ finished.phase = .streaming ∧
      (finished.router.outputs.get? 0x102).map (·.sink) = some 1 ∧
      told finished.router.calls 1 = [] ∧ ¬finished.Closed := by
  intro failing finished
  have phase : finished.phase = .streaming := by decide +kernel
  refine ⟨by decide +kernel, phase, by decide +kernel, by decide +kernel, fun closed => ?_⟩
  have ended := closed.ended
  rw [phase] at ended
  cases ended

end Session

end TransportStream
