import TransportStream.Proofs.SinkChanges

/-!
What a sink is told over the life of a session: units, and then at most once that its stream
ended. A session that finished without a failure of a sink has told every sink so.
-/
namespace TransportStream

/-- Whether a call tells a sink something. -/
def Call.tells (sink : Nat) : Call → Bool
  | .deliver target _ _ | .finish target _ _ => target == sink
  | .create _ _ | .entitlement _ _ _ | .descramble _ _ _ _ => false

/-- Whether a call signals the end of a stream. -/
def Call.isFinish : Call → Bool
  | .finish _ _ _ => true
  | .create _ _ | .deliver _ _ _ | .entitlement _ _ _ | .descramble _ _ _ _ => false

/-- What a sink was told, newest call first as in the record. -/
def told (calls : List Call) (sink : Nat) : List Call := calls.filter (Call.tells sink)

/-- Whether a sink was told that its stream ended. -/
def Finished (calls : List Call) (sink : Nat) : Prop :=
  ∃ call ∈ told calls sink, call.isFinish = true

/-- Whether the end of its stream, if a sink was told of it, is the last it was told. -/
def EndsLast (calls : List Call) (sink : Nat) : Prop :=
  ∀ call ∈ (told calls sink).tail, call.isFinish = false

variable {call : Call} {calls : List Call} {sink : Nat}

theorem Call.sink?_of_tells (tells : call.tells sink = true) : call.sink? = some sink := by
  cases call <;> simp_all [Call.tells, Call.sink?]

theorem told_cons (call : Call) (calls : List Call) (sink : Nat) :
    told (call :: calls) sink =
      if call.tells sink = true then call :: told calls sink else told calls sink :=
  List.filter_cons

theorem finished_cons : Finished (call :: calls) sink ↔
    (call.tells sink = true ∧ call.isFinish = true) ∨ Finished calls sink := by
  unfold Finished
  rw [told_cons]
  by_cases tells : call.tells sink = true
  · simp [tells]
  · simp [tells]

theorem EndsLast.cons (ends : EndsLast calls sink)
    (unfinished : call.tells sink = true → ¬Finished calls sink) :
    EndsLast (call :: calls) sink := by
  unfold EndsLast
  rw [told_cons]
  split
  · rename_i tells
    intro earlier member
    exact eq_false_of_ne_true fun isFinish => unfinished tells ⟨earlier, member, isFinish⟩
  · exact ends

/-- A sink that was told of the end of its stream was told so once. -/
theorem EndsLast.once (ends : EndsLast calls sink) (finished : Finished calls sink) :
    (told calls sink).countP Call.isFinish = 1 := by
  obtain ⟨call, member, isFinish⟩ := finished
  unfold EndsLast at ends
  cases heard : told calls sink with
  | nil =>
    rw [heard] at member
    cases member
  | cons newest older =>
    rw [heard] at ends member
    have none : older.countP Call.isFinish = 0 := by
      rw [List.countP_eq_zero]
      intro earlier old
      simp [ends earlier old]
    rcases List.mem_cons.mp member with rfl | old
    · rw [List.countP_cons_of_pos isFinish, none]
    · exact absurd isFinish (by simp [ends call old])

namespace Router

/-! ### The invariant -/

/-- The sink of the output of a PID, and whether it ended. -/
def hold (router : Router) (pid : Nat) : Option (Nat × Bool) :=
  (router.outputs.get? pid).map fun output => (output.sink, output.ended)

/-- Every sink created is told of the end of its stream last, and has an output until then. -/
structure Orderly (router : Router) : Prop where
  ends : ∀ sink, EndsLast router.calls sink
  /-- The outputs that ended are those whose sinks were told so. -/
  ended : ∀ pid sink ended, router.hold pid = some (sink, ended) →
    (ended = true ↔ Finished router.calls sink)
  /-- No two outputs share a sink. -/
  alone : ∀ pid other sink ended otherEnded, router.hold pid = some (sink, ended) →
    router.hold other = some (sink, otherEnded) → pid = other
  served : ∀ pid sink ended, router.hold pid = some (sink, ended) → sink < router.sinks
  held : ∀ sink, sink < router.sinks →
    Finished router.calls sink ∨ ∃ pid ended, router.hold pid = some (sink, ended)
  /-- Calls are about sinks that were created. -/
  created : ∀ call ∈ router.calls, ∀ sink, call.sink? = some sink → sink < router.sinks

variable {host : Host} {router before after : Router} {pid : Nat}

theorem Orderly.congr (orderly : Orderly before) (hold : ∀ pid, after.hold pid = before.hold pid)
    (calls : after.calls = before.calls) (sinks : after.sinks = before.sinks) :
    Orderly after := by
  obtain ⟨ends, ended, alone, served, held, created⟩ := orderly
  exact {
    ends := calls ▸ ends
    ended := by simpa only [hold, calls] using ended
    alone := by simpa only [hold] using alone
    served := by simpa only [hold, sinks] using served
    held := by simpa only [hold, calls, sinks] using held
    created := by simpa only [calls, sinks] using created }

/-- A call that ends no stream, to the sink of an open output or to none. -/
theorem Orderly.recorded (orderly : Orderly router) (unfinished : call.isFinish = false)
    (tells : ∀ sink, call.tells sink = true → ∃ pid, router.hold pid = some (sink, false))
    (created : ∀ sink, call.sink? = some sink → sink < router.sinks) :
    Orderly (router.record call) := by
  have finished : ∀ sink,
      Finished (router.record call).calls sink ↔ Finished router.calls sink := by
    intro sink
    simp [record, finished_cons, unfinished]
  exact {
    ends sink := by
      apply (orderly.ends sink).cons
      intro told finished
      obtain ⟨pid, found⟩ := tells sink told
      cases (orderly.ended pid sink false found).mpr finished
    ended pid sink ended found := (orderly.ended pid sink ended found).trans (finished sink).symm
    alone := orderly.alone
    served := orderly.served
    held sink below := (orderly.held sink below).imp_left (finished sink).mpr
    created other member sink about := by
      rcases List.mem_cons.mp member with rfl | older
      · exact created sink about
      · exact orderly.created other older sink about }

/-- An output that is gone, or ended like its sink was told, takes nothing from the others. -/
theorem Orderly.settle (orderly : Orderly before)
    {wasEnded : Bool} (found : before.hold pid = some (sink, wasEnded))
    (here : ∀ other ended, after.hold pid = some (other, ended) → other = sink ∧ ended = true)
    (elsewhere : ∀ other, other ≠ pid → after.hold other = before.hold other)
    (ends : ∀ sink, EndsLast after.calls sink)
    (finished : ∀ other, Finished after.calls other ↔ sink = other ∨ Finished before.calls other)
    (created : ∀ call ∈ after.calls, ∀ sink, call.sink? = some sink → sink < after.sinks)
    (sinks : after.sinks = before.sinks) : Orderly after where
  ends := ends
  ended := by
    intro place other ended present
    rw [finished]
    by_cases same : place = pid
    · subst same
      obtain ⟨rfl, rfl⟩ := here other ended present
      simp
    · rw [elsewhere place same] at present
      have different : sink ≠ other := by
        rintro rfl
        exact same (orderly.alone place pid sink ended wasEnded present found)
      simp only [different, false_or]
      exact orderly.ended place other ended present
  alone := by
    intro place otherPlace other ended otherEnded present rival
    by_cases same : place = pid <;> by_cases otherSame : otherPlace = pid
    · rw [same, otherSame]
    · subst same
      obtain ⟨rfl, rfl⟩ := here other ended present
      rw [elsewhere otherPlace otherSame] at rival
      exact orderly.alone _ _ _ _ _ found rival
    · subst otherSame
      obtain ⟨rfl, rfl⟩ := here other otherEnded rival
      rw [elsewhere place same] at present
      exact orderly.alone _ _ _ _ _ present found
    · rw [elsewhere place same] at present
      rw [elsewhere otherPlace otherSame] at rival
      exact orderly.alone _ _ _ _ _ present rival
  served := by
    intro place other ended present
    rw [sinks]
    by_cases same : place = pid
    · subst same
      obtain ⟨rfl, rfl⟩ := here other ended present
      exact orderly.served _ _ _ found
    · rw [elsewhere place same] at present
      exact orderly.served _ _ _ present
  held := by
    intro other below
    rw [sinks] at below
    rw [finished]
    rcases orderly.held other below with finished | ⟨place, ended, present⟩
    · exact .inl (.inr finished)
    · by_cases same : place = pid
      · subst same
        rw [found] at present
        cases present
        exact .inl (.inl rfl)
      · exact .inr ⟨place, ended, by rw [elsewhere place same, present]⟩
  created := created

/-- An open output ends or goes, and its sink is told so. -/
theorem Orderly.finish {failure : Option String} (orderly : Orderly before)
    (found : before.hold pid = some (sink, false))
    (here : ∀ other ended, after.hold pid = some (other, ended) → other = sink ∧ ended = true)
    (elsewhere : ∀ other, other ≠ pid → after.hold other = before.hold other)
    (calls : after.calls = .finish sink pid failure :: before.calls)
    (sinks : after.sinks = before.sinks) : Orderly after := by
  have opened : ¬Finished before.calls sink := by
    intro finished
    cases (orderly.ended pid sink false found).mpr finished
  apply orderly.settle found here elsewhere
  · intro other
    rw [calls]
    apply (orderly.ends other).cons
    intro tells
    have same : sink = other := by simpa [Call.tells] using tells
    exact same ▸ opened
  · intro other
    simp [calls, finished_cons, Call.tells, Call.isFinish]
  · rw [calls, sinks]
    intro call member other about
    rcases List.mem_cons.mp member with rfl | older
    · cases about
      exact orderly.served pid sink false found
    · exact orderly.created call older other about
  · exact sinks

/-- An output that ended goes; its sink knows. -/
theorem Orderly.forget (orderly : Orderly before) (found : before.hold pid = some (sink, true))
    (gone : after.hold pid = none)
    (elsewhere : ∀ other, other ≠ pid → after.hold other = before.hold other)
    (calls : after.calls = before.calls) (sinks : after.sinks = before.sinks) :
    Orderly after := by
  have finished := (orderly.ended pid sink true found).mp rfl
  apply orderly.settle found (by simp [gone]) elsewhere
  · rw [calls]
    exact orderly.ends
  · intro other
    rw [calls]
    constructor
    · exact .inr
    · rintro (rfl | already)
      · exact finished
      · exact already
  · rw [calls, sinks]
    exact orderly.created
  · exact sinks

/-- A new sink, which was told nothing yet, gets an output. -/
theorem Orderly.create {info : StreamInfo} (orderly : Orderly before)
    (here : after.hold pid = some (before.sinks, false))
    (free : before.hold pid = none)
    (elsewhere : ∀ other, other ≠ pid → after.hold other = before.hold other)
    (calls : after.calls = .create info (some before.sinks) :: before.calls)
    (sinks : after.sinks = before.sinks + 1) : Orderly after := by
  have finished : ∀ sink, Finished after.calls sink ↔ Finished before.calls sink := by
    intro sink
    simp [calls, finished_cons, Call.tells]
  have unheard : ¬Finished before.calls before.sinks := by
    rintro ⟨call, member, _⟩
    obtain ⟨made, tells⟩ := List.mem_filter.mp member
    exact Nat.lt_irrefl _ (orderly.created call made _ (Call.sink?_of_tells tells))
  have held : ∀ place sink ended, after.hold place = some (sink, ended) →
      (place = pid ∧ sink = before.sinks ∧ ended = false) ∨
        before.hold place = some (sink, ended) := by
    intro place sink ended present
    by_cases same : place = pid
    · rw [same, here] at present
      cases present
      exact .inl ⟨same, rfl, rfl⟩
    · rw [elsewhere place same] at present
      exact .inr present
  exact {
    ends sink := by
      rw [calls]
      apply (orderly.ends sink).cons
      intro tells
      cases tells
    ended place sink ended present := by
      rw [finished]
      rcases held place sink ended present with ⟨_, rfl, rfl⟩ | present
      · simpa using unheard
      · exact orderly.ended place sink ended present
    alone place other sink ended otherEnded present rival := by
      rcases held place sink ended present with ⟨rfl, rfl, _⟩ | present
      · rcases held other _ otherEnded rival with ⟨rfl, _, _⟩ | rival
        · rfl
        · exact absurd (orderly.served other _ otherEnded rival) (Nat.lt_irrefl _)
      · rcases held other sink otherEnded rival with ⟨rfl, rfl, _⟩ | rival
        · exact absurd (orderly.served place _ ended present) (Nat.lt_irrefl _)
        · exact orderly.alone place other sink ended otherEnded present rival
    served place sink ended present := by
      rw [sinks]
      rcases held place sink ended present with ⟨_, rfl, _⟩ | present
      · exact Nat.lt_succ_self _
      · exact Nat.lt_succ_of_lt (orderly.served place sink ended present)
    held sink below := by
      rw [finished]
      rw [sinks] at below
      rcases Nat.lt_succ_iff_lt_or_eq.mp below with older | rfl
      · refine (orderly.held sink older).imp_right ?_
        rintro ⟨place, ended, present⟩
        refine ⟨place, ended, ?_⟩
        rw [elsewhere, present]
        rintro rfl
        rw [free] at present
        cases present
      · exact .inr ⟨pid, false, here⟩
    created call member sink about := by
      rw [sinks]
      rw [calls] at member
      rcases List.mem_cons.mp member with rfl | older
      · cases about
        exact Nat.lt_succ_self _
      · exact Nat.lt_succ_of_lt (orderly.created call older sink about) }

/-! ### Changes -/

theorem hold_of_outputs (same : after.outputs = before.outputs) (pid : Nat) :
    after.hold pid = before.hold pid := by
  rw [hold, hold, same]

theorem hold_insert {next : Output} (outputs : after.outputs = before.outputs.insert pid next)
    (other : Nat) :
    after.hold other = if other = pid then some (next.sink, next.ended) else before.hold other := by
  rw [hold, outputs, NatMap.get?_insert]
  split <;> rfl

theorem hold_erase (outputs : after.outputs = before.outputs.erase pid) (other : Nat) :
    after.hold other = if other = pid then none else before.hold other := by
  rw [hold, outputs, NatMap.get?_erase]
  split <;> rfl

theorem hold_of_found {output : Output} (found : router.outputs.get? pid = some output) :
    router.hold pid = some (output.sink, output.ended) := by
  rw [hold, found]
  rfl

theorem Change.orderly (change : Change host before after) (orderly : Orderly before) :
    Orderly after := by
  cases change with
  | aside same =>
    exact orderly.congr (hold_of_outputs same.outputs) same.calls same.sinks
  | ask call nobody =>
    apply orderly.recorded
    · cases call <;> first | rfl | cases nobody
    · intro sink tells
      rw [Call.sink?_of_tells tells] at nobody
      cases nobody
    · intro sink about
      rw [about] at nobody
      cases nobody
  | @create info free accepted =>
    apply @Orderly.create before _ info.pid info orderly
    · rw [hold_insert rfl, if_pos rfl]
    · rw [hold, free]
      rfl
    · intro other different
      rw [hold_insert rfl, if_neg different]
    · rfl
    · rfl
  | @adjust pid output next found owner ended =>
    refine orderly.congr ?_ rfl rfl
    intro other
    rw [hold_insert rfl]
    split
    · rename_i same
      have sink : next.sink = output.sink := congrArg Prod.snd owner
      rw [same, hold_of_found found, sink, ended]
    · rfl
  | mark =>
    refine orderly.congr ?_ rfl rfl
    intro other
    rw [hold, NatMap.get?_map, Option.map_map]
    rfl
  | @deliver pid output unit found opened =>
    have present := hold_of_found found
    rw [opened] at present
    apply orderly.recorded rfl
    · intro sink tells
      have same : output.sink = sink := by simpa [Call.tells] using tells
      exact ⟨pid, same ▸ present⟩
    · intro sink about
      cases about
      exact orderly.served pid _ _ present
  | @close pid output found opened =>
    have present := hold_of_found found
    rw [opened] at present
    apply orderly.finish present
    · intro other ended still
      rw [hold_insert rfl, if_pos rfl] at still
      cases still
      exact ⟨rfl, rfl⟩
    · intro other different
      rw [hold_insert rfl, if_neg different]
    · rfl
    · rfl
  | @remove pid output found opened =>
    have present := hold_of_found found
    rw [opened] at present
    apply orderly.finish present
    · intro other ended still
      rw [hold_erase rfl, if_pos rfl] at still
      cases still
    · intro other different
      rw [hold_erase rfl, if_neg different]
    · rfl
    · rfl
  | @forget pid output found ended =>
    have present := hold_of_found found
    rw [ended] at present
    apply orderly.forget present
    · rw [hold_erase rfl, if_pos rfl]
    · intro other different
      rw [hold_erase rfl, if_neg different]
    · rfl
    · rfl

theorem Changes.orderly (changes : Changes host before after) (orderly : Orderly before) :
    Orderly after := by
  induction changes with
  | refl => exact orderly
  | tail _ change ih => exact change.orderly ih

/-- No change starts a session over or ends it. -/
theorem Changes.phase_ne (changes : Changes host before after) {phase : Phase}
    (outside : phase = .init ∨ phase = .ended) (running : before.phase ≠ phase) :
    after.phase ≠ phase := by
  induction changes with
  | refl => exact running
  | tail _ change ih =>
    cases change with
    | aside same =>
      rcases same.phase with same | inside
      · rwa [same]
      · rcases outside with rfl | rfl
        · exact inside.1
        · exact inside.2
    | ask | create | adjust | mark | deliver | close | remove | forget => exact ih

/-- The record of calls only grows. -/
theorem Changes.calls_suffix (changes : Changes host before after) :
    before.calls <:+ after.calls := by
  induction changes with
  | refl => exact List.suffix_refl _
  | tail _ change ih =>
    cases change with
    | aside same => rwa [same.calls]
    | adjust | mark | forget => exact ih
    | ask | create | deliver | close | remove => exact ih.trans (List.suffix_cons ..)

/-! ### Closing -/

/-- Every output of these PIDs ended. -/
def EndedOn (router : Router) (pids : List Nat) : Prop :=
  ∀ pid ∈ pids, ∀ sink ended, router.hold pid = some (sink, ended) → ended = true

theorem endOutput_ok {after : Router} (success : endOutput host pid router = .ok () after) :
    after.EndedOn [pid] := by
  intro place member sink ended present
  rw [List.mem_singleton.mp member] at present
  rw [endOutput_eq] at success
  cases found : router.outputs.get? pid with
  | none =>
    simp only [found] at success
    cases success
    rw [hold, found] at present
    cases present
  | some output =>
    simp only [found] at success
    by_cases already : output.ended = true
    · simp only [already, if_true] at success
      cases success
      rw [hold_of_found found] at present
      cases present
      exact already
    · rw [if_neg already] at success
      unfold endSink at success
      dsimp only at success
      split at success
      · cases success
        rw [hold_insert rfl, if_pos rfl] at present
        cases present
        rfl
      · cases success

theorem closeOutput_ok {after : Router} (success : closeOutput host pid router = .ok () after) :
    after.EndedOn [pid] := by
  unfold closeOutput at success
  cases drained : drainOutput host pid router with
  | error error between =>
    rw [bind_of_error drained] at success
    cases success
  | ok value between =>
    rw [bind_of_ok drained] at success
    exact endOutput_ok success

theorem hold_of_roles {ended : Bool} (same : SameRoles before after)
    (present : after.hold pid = some (sink, ended)) :
    ∃ former, before.hold pid = some (sink, former) := by
  obtain ⟨output, found, held⟩ := Option.map_eq_some_iff.mp present
  obtain ⟨former, foundBefore, owner⟩ := same.output found
  refine ⟨former.ended, ?_⟩
  have fed : former.sink = output.sink := congrArg Prod.snd owner
  cases held
  rw [hold_of_found foundBefore, fed]

/-- Once closed, an output stays so while the others are closed: its sink was told. -/
theorem closeEach_ok {pids : List Nat} (orderly : Orderly router)
    (success : forEach pids (closeOutput host) router = .ok () after) :
    after.EndedOn pids := by
  induction pids generalizing router with
  | nil =>
    intro place member
    cases member
  | cons pid others ih =>
    rw [forEach] at success
    have traced := closeOutput_traced host pid router
    cases closed : closeOutput host pid router with
    | error error between =>
      rw [bind_of_error closed] at success
      cases success
    | ok value between =>
      rw [closed] at traced
      rw [bind_of_ok closed] at success
      have orderlyThen := traced.orderly orderly
      have later : Traced host between (forEach others (closeOutput host) between) :=
        traced_forEach (closeOutput_traced host) between
      have roles : SameRoles between (left (forEach others (closeOutput host)) between) :=
        (keeps_forEach (closeOutput_keeps (lasting_steady between) host) between
          (.refl between)).roles
      rw [left, success] at roles
      rw [success] at later
      intro place member sink ended present
      rcases List.mem_cons.mp member with rfl | other
      -- closing the others may touch this output, but its sink stays told
      · obtain ⟨former, presentThen⟩ := hold_of_roles roles present
        have endedThen := closeOutput_ok closed place List.mem_cons_self sink former presentThen
        obtain ⟨call, told, isFinish⟩ :=
          (orderlyThen.ended place sink former presentThen).mp endedThen
        obtain ⟨made, tells⟩ := List.mem_filter.mp told
        apply ((later.orderly orderlyThen).ended place sink ended present).mpr
        exact ⟨call, List.mem_filter.mpr ⟨later.calls_suffix.subset made, tells⟩, isFinish⟩
      · exact ih orderlyThen success place other sink ended present

theorem closeAll_ok (orderly : Orderly router) (success : closeAll host router = .ok () after)
    {ended : Bool} (present : after.hold pid = some (sink, ended)) : ended = true := by
  have closed : forEach router.outputs.keys (closeOutput host) router = .ok () after := success
  have roles := (closeAll_keeps (lasting_steady router) host router (.refl router)).roles
  rw [left, success] at roles
  obtain ⟨former, presentThen⟩ := hold_of_roles roles present
  obtain ⟨output, found, _⟩ := Option.map_eq_some_iff.mp presentThen
  exact closeEach_ok orderly closed pid
    ((NatMap.mem_keys_iff router.outputs pid).mpr ⟨output, found⟩) sink ended present

end Router

namespace Session

/-- What can be asked of a session. -/
inductive Operation where
  | push (data : Bytes)
  | finish
  | flush
  | seek (time : Duration)
  | seekSource (time : Duration) (source : Source)
  | pump (source : Source)
  | run (source : Source)

/-- Whether an operation comes to the end of input. -/
def Operation.finishes : Operation → Bool
  | .finish | .run _ => true
  | .push _ | .flush | .seek _ | .seekSource _ _ | .pump _ => false

/-- The session that an operation leaves behind, also when it fails. -/
def perform (session : Session) (host : Host) : Operation → Session
  | .push data => left (session.push host data)
  | .finish => left (session.finish host)
  | .flush => session.flush
  | .seek time => left (session.seek time)
  | .seekSource time source => left (session.seekSource time source).2
  | .pump source => left (session.pump host source).2
  | .run source => left (session.run host source).2

/-- Operations one after another, each with the surroundings that it finds. -/
def performAll (session : Session) (operations : List (Host × Operation)) : Session :=
  operations.foldl (fun session step => session.perform step.1 step.2) session

variable {host : Host} {session : Session}

theorem pump_holds {invariant : Session → Prop}
    (push : ∀ session data, invariant session → invariant (left (session.push host data)))
    (source : Source) (held : invariant session) :
    invariant (left (session.pump host source).2) := by
  unfold pump
  split
  · exact held
  · split
    · exact held
    · rename_i next chunk _
      have pushed := push session chunk held
      split
      · rename_i error after result
        rwa [result] at pushed
      · rename_i after result
        rwa [result] at pushed

/-- What pushes and restarts keep is kept by an operation that does not come to the end of
input. -/
theorem perform_running {invariant : Session → Prop}
    (push : ∀ session data, invariant session → invariant (left (session.push host data)))
    (resume : ∀ session offset, invariant session → invariant (session.resume offset))
    (operation : Operation) (running : operation.finishes = false) (held : invariant session) :
    invariant (session.perform host operation) := by
  cases operation with
  | push data => exact push session data held
  | finish | run source => cases running
  | flush => exact resume session none held
  | seek time =>
    simp only [perform, seek]
    split
    · exact held
    · exact resume session _ held
  | seekSource time source =>
    simp only [perform, seekSource]
    split
    · exact held
    · split
      · exact held
      · exact held
      · simp only [seek]
        split
        · exact held
        · exact resume session _ held
  | pump source => exact pump_holds push source held

/-- A whole source is pushed piece by piece, and then, unless that failed, its end comes. -/
theorem run_holds {during after : Session → Prop}
    (push : ∀ session data, during session → during (left (session.push host data)))
    (failed : ∀ session, during session → after session)
    (finish : ∀ session, during session → after (left (session.finish host)))
    (source : Source) (held : during session) : after (left (session.run host source).2) := by
  fun_induction run host session source with
  | case1 session source next error stopped step =>
    have pumped := pump_holds push source held
    rw [step] at pumped
    exact failed stopped pumped
  | case2 session source next read step =>
    have pumped := pump_holds push source held
    rw [step] at pumped
    exact finish read pumped
  | case3 session source next read step ih =>
    have pumped := pump_holds push source held
    rw [step] at pumped
    exact ih pumped

/-- What holds after pushes, ends of input and restarts holds after every operation. -/
theorem perform_holds {invariant : Session → Prop}
    (push : ∀ session data, invariant session → invariant (left (session.push host data)))
    (finish : ∀ session, invariant session → invariant (left (session.finish host)))
    (resume : ∀ session offset, invariant session → invariant (session.resume offset))
    (operation : Operation) (held : invariant session) :
    invariant (session.perform host operation) := by
  cases running : operation.finishes with
  | false => exact perform_running push resume operation running held
  | true =>
    cases operation with
    | finish => exact finish session held
    | run source => exact run_holds push (fun _ held => held) finish source held
    | push | flush | seek | seekSource | pump => cases running

/-! ### The protocol -/

/-- Whether outputs and calls of a session are in order. Once it ended, all outputs did. -/
structure Orderly (session : Session) : Prop where
  router : session.router.Orderly
  closed : session.phase = .ended →
    ∀ pid sink ended, session.router.hold pid = some (sink, ended) → ended = true

theorem Orderly.of_running (router : session.router.Orderly) (running : session.phase ≠ .ended) :
    session.Orderly :=
  ⟨router, fun ended => absurd ended running⟩

theorem drain_changes (host : Host) (session : Session) :
    Router.Changes host session.router (left (drain host session)).router := by
  have framed : ∀ (session : Session) (sync : Synchronizer),
      Router.Changes host session.router (session.router.noteFraming sync) :=
    fun session sync => (Router.aside_rest session.router ..).one
  fun_induction drain host session with
  | case1 session sync error step => exact framed session sync
  | case2 session sync step => exact framed session sync
  | case3 session sync item step error router result =>
    have traced := Router.handleItem_traced host item (session.router.noteFraming sync)
    rw [result] at traced
    exact (framed session sync).trans traced.1
  | case4 session sync item step router result ih =>
    have traced := Router.handleItem_traced host item (session.router.noteFraming sync)
    rw [result] at traced
    exact ((framed session sync).trans traced).trans ih

theorem awaken_changes (host : Host) (session : Session) :
    Router.Changes host session.router session.awaken.router := by
  unfold awaken
  split
  · exact Router.Aside.one ⟨rfl, rfl, rfl, .inr ⟨by simp, by simp⟩⟩
  · exact .refl

theorem flush_changes (host : Host) (router : Router) :
    Router.Changes host router router.flush := by
  have aside : Router.Aside router { router with
      phase := .flushing
      streams := router.streams.map StreamState.reset
      tables := router.tables.discardPartial
      clock := router.clock.discontinuity } := ⟨rfl, rfl, rfl, .inr ⟨by simp, by simp⟩⟩
  exact aside.one.tail .mark

theorem push_orderly (orderly : session.Orderly) (data : Bytes) :
    (left (session.push host data)).Orderly := by
  unfold push
  split
  · exact orderly
  · rename_i heeded
    have changes : Router.Changes host session.router _ :=
      (awaken_changes host session).trans
        (drain_changes host { session.awaken with sync := session.awaken.sync.push data })
    exact .of_running (changes.orderly orderly.router)
      (changes.phase_ne (.inr rfl) (fun ended => heeded (.inl ended)))

theorem resume_orderly (orderly : session.Orderly) (offset : Option Nat) :
    (session.resume offset).Orderly :=
  .of_running ((flush_changes .willing session.router).orderly orderly.router) (by
    simp [resume, phase, Router.flush])

theorem left_conclude (session : Session) (drained : Option Error) (neverFramed : Bool) :
    left (session.conclude drained neverFramed) =
      { session with router := { session.router with phase := .ended } } := by
  unfold conclude
  cases drained with
  | some error => rfl
  | none => cases neverFramed <;> rfl

/-- Closing all outputs ends the session, unless a sink fails. -/
theorem close_orderly (router : session.router.Orderly) (running : session.phase ≠ .ended)
    (drained : Option Error) {closed : Session}
    (result : closed = left (match session.route (Router.closeAll host) with
      | .error error session => .error error session
      | .ok () closed => closed.conclude drained session.neverFramed)) :
    closed.Orderly ∧
      (closed.phase = .ended ∨ ∃ call ∈ closed.router.calls, call.failed = true) := by
  have traced := Router.closeAll_traced host session.router
  cases outcome : Router.closeAll host session.router with
  | error error after =>
    rw [outcome] at traced
    simp only [route, outcome] at result
    obtain ⟨call, older, calls, failed⟩ := traced.2.failed
    rw [result]
    refine ⟨.of_running (traced.1.orderly router) (traced.1.phase_ne (.inr rfl) running),
      .inr ⟨call, ?_, failed⟩⟩
    simp [left, calls]
  | ok value after =>
    rw [outcome] at traced
    simp only [route, outcome, left_conclude] at result
    have orderly := traced.orderly router
    rw [result]
    refine ⟨⟨orderly.congr (fun _ => rfl) rfl rfl, ?_⟩, .inl rfl⟩
    intro _ pid sink ended present
    exact Router.closeAll_ok router outcome present

/-- The end of input closes all outputs, unless a sink fails. -/
theorem finish_orderly (orderly : session.Orderly) :
    (left (session.finish host)).Orderly ∧
      ((left (session.finish host)).phase = .ended ∨
        ∃ call ∈ (left (session.finish host)).router.calls, call.failed = true) := by
  unfold finish
  split
  · rename_i ended
    exact ⟨orderly, .inl ended⟩
  · rename_i running
    have changes := drain_changes host { session with sync := session.sync.finish }
    have runningStill := changes.phase_ne (.inr rfl) running
    have router := changes.orderly orderly.router
    cases outcome : drain host { session with sync := session.sync.finish } with
    | error error drained =>
      rw [outcome] at runningStill router
      exact close_orderly router runningStill (some error) rfl
    | ok value drained =>
      rw [outcome] at runningStill router
      exact close_orderly router runningStill none rfl

theorem new_ok {options : Options} (created : new options = .ok session) :
    session = { sync := .ofOptions options, router := .ofOptions options } := by
  unfold new at created
  cases valid : options.validate with
  | error error =>
    rw [valid] at created
    cases created
  | ok value =>
    rw [valid] at created
    cases created
    rfl

theorem new_orderly {options : Options} (created : new options = .ok session) :
    session.Orderly := by
  rw [new_ok created]
  refine .of_running ?_ (by simp [phase, Router.ofOptions, Router.trackTable])
  have empty : ∀ pid, (Router.ofOptions options).hold pid = none := fun _ => rfl
  exact {
    ends := by simp [EndsLast, told, Router.ofOptions, Router.trackTable]
    ended := by simp [empty]
    alone := by simp [empty]
    served := by simp [empty]
    held := by simp [Router.ofOptions, Router.trackTable]
    created := by simp [Router.ofOptions, Router.trackTable] }

theorem performAll_orderly (orderly : session.Orderly) (operations : List (Host × Operation)) :
    (session.performAll operations).Orderly := by
  induction operations generalizing session with
  | nil => exact orderly
  | cons step others ih =>
    apply ih
    exact @perform_holds step.1 session Orderly (fun _ data held => push_orderly held data)
      (fun _ held => (finish_orderly held).1) (fun _ offset held => resume_orderly held offset)
      step.2 orderly

/-- Whatever is asked of a session, and however its surroundings answer, the end of its stream
is the last that a sink is told. When the end of input returns and no sink ever failed, every
sink that was created has been told so exactly once. -/
theorem sinks_end_once {options : Options} (created : new options = .ok session)
    (operations : List (Host × Operation)) :
    (∀ sink, EndsLast (session.performAll operations).router.calls sink) ∧
      ∀ host info sink,
        let finished := (session.performAll operations).perform host .finish
        (∀ call ∈ finished.router.calls, call.failed = false) →
        .create info (some sink) ∈ finished.router.calls →
        (told finished.router.calls sink).countP Call.isFinish = 1 := by
  have orderly := performAll_orderly (new_orderly created) operations
  refine ⟨orderly.router.ends, ?_⟩
  intro host info sink finished sound asked
  obtain ⟨orderly, ended | ⟨call, made, failed⟩⟩ := @finish_orderly host _ orderly
  · have below := orderly.router.created _ asked sink rfl
    apply (orderly.router.ends sink).once
    rcases orderly.router.held sink below with finished | ⟨pid, closed, present⟩
    · exact finished
    · exact (orderly.router.ended pid sink closed present).mp
        (orderly.closed ended pid sink closed present)
  · exact absurd failed (by simp [sound call made])

/-- A stream that two tables announce; the session is restarted after its end. -/
theorem restarted_sink_ends_once :
    let options : Options := { packetSize := some packetSize, minSyncRun := 2 }
    let association : Pat :=
      { version := 0, currentNext := true, number := 0, last := 0, streamId := 1
        programs := [⟨1, 0x100⟩], networkPid := none }
    let session : Session := { sync := .ofOptions options, router := .ofOptions options }
    let finished := (session.performAll [
      (.willing, .push (sectionPacket patPid 0 association.encode)),
      (.willing, .push (sectionPacket 0x100 0 (loneMap 0 0x1B 0x101).encode)),
      (.willing, .finish), (.willing, .flush)]).perform .willing .finish
    (told finished.router.calls 0).countP Call.isFinish = 1 := by
  have created := new_of_validate
    (rfl : Options.validate { packetSize := some packetSize, minSyncRun := 2 } = .ok ())
  intro options association session finished
  exact (sinks_end_once created _).2 .willing
    (Router.infoOf (loneMap 0 0x1B 0x101) ⟨0x1B, 0x101, []⟩) 0
    (by decide +kernel) (by decide +kernel)

end Session

end TransportStream
