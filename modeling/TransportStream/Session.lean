import TransportStream.Router
import TransportStream.Source

/-!
Sessions: a stream is pushed or pulled in, framed, and routed to outputs until it ends.
A session can be flushed, and moved to another place of its stream, at any time.
-/
namespace TransportStream

/-- A demultiplexing session: framing and what lies behind it. -/
structure Session where
  sync : Synchronizer
  router : Router

/-- What an operation of a session leaves behind. -/
abbrev SessionResult := EStateM.Result Error Session

namespace Session

/-- A session with valid options. -/
def new (options : Options) : Except Error Session := do
  options.validate
  return { sync := .ofOptions options, router := .ofOptions options }

theorem new_of_validate {options : Options} (valid : options.validate = .ok ()) :
    new options = .ok { sync := .ofOptions options, router := .ofOptions options } := by
  rw [new, valid]
  rfl

def phase (session : Session) : Phase := session.router.phase

/-- The session after framing took a step. -/
def frame (session : Session) (sync : Synchronizer) : Session :=
  { sync, router := session.router.noteFraming sync }

/-- Runs a change of the router. -/
def route {α : Type} (session : Session) (action : Routing α) : SessionResult α :=
  match action session.router with
  | .ok value router => .ok value { session with router }
  | .error error router => .error error { session with router }

/-- Handles everything framing can give, until it asks for more or a failure. -/
def drain (host : Host) (session : Session) : SessionResult Unit :=
  match _step : session.sync.nextItem with
  | (sync, .error error) => .error error (session.frame sync)
  | (sync, .ok none) => .ok () (session.frame sync)
  | (sync, .ok (some item)) =>
    match (Router.handleItem host item) (session.router.noteFraming sync) with
    | .error error router => .error error { sync, router }
    | .ok () router => drain host { sync, router }
termination_by session.sync.potential
decreasing_by exact Synchronizer.potential_nextItem _step

/-- Input puts a fresh session in search of its frame. -/
def awaken (session : Session) : Session :=
  match session.phase with
  | .init => { session with router := { session.router with phase := .syncing } }
  | _ => session

/-- Takes the next piece of the stream. Nothing happens after the end. -/
def push (host : Host) (data : Bytes) (session : Session) : SessionResult Unit :=
  if session.phase = .ended ∨ data = [] then .ok () session
  else
    let session := session.awaken
    drain host { session with sync := session.sync.push data }

/-- Whether input came but no frame was ever found. -/
def neverFramed (session : Session) : Bool :=
  decide (0 < session.sync.received) && !session.sync.everLocked

/-- What the end of input reports once every output is closed: the failure to drain, or
that there was no frame. -/
def conclude (drained : Option Error) (neverFramed : Bool) (session : Session) :
    SessionResult Unit :=
  let session := { session with router := { session.router with phase := .ended } }
  match drained with
  | some error => .error error session
  | none =>
    if neverFramed then .error (.noSync session.sync.received) session else .ok () session

/-- The end of input: delivers what can still be completed and ends every output. A sink
that fails at its end leaves the outputs after it open. -/
def finish (host : Host) (session : Session) : SessionResult Unit :=
  if session.phase = .ended then .ok () session
  else
    let (drained, session) : Option Error × Session :=
      match drain host { session with sync := session.sync.finish } with
      | .ok () session => (none, session)
      | .error error session => (some error, session)
    match session.route (Router.closeAll host) with
    | .error error session => .error error session
    | .ok () closed => closed.conclude drained session.neverFramed

/-- Drops all data in flight and goes on at an offset, or where input stands. -/
def resume (session : Session) (offset : Option Nat) : Session :=
  { sync := session.sync.flush offset, router := session.router.flush }

/-- Drops all data in flight. -/
def flush (session : Session) : Session := session.resume none

/-- The estimated offset of a time. -/
def locate (session : Session) (time : Duration) : Except Error Nat :=
  match session.router.clock.offsetForTime? time with
  | none => .error .seekUnavailable
  | some offset => .ok offset

/-- Moves to a time. Input must go on at the offset returned. -/
def seek (time : Duration) (session : Session) : SessionResult Nat :=
  match session.locate time with
  | .error error => .error error session
  | .ok offset => .ok offset (session.resume (some offset))

/-- Moves a source and the session to a time. If the source cannot move, the session stays
as it is. -/
def seekSource (time : Duration) (session : Session) (source : Source) :
    Source × SessionResult Nat :=
  match session.locate time with
  | .error error => (source, .error error session)
  | .ok offset =>
    match source.seekTo offset with
    | .error error => (source, .error error session)
    | .ok (source, false) => (source, .error .seekUnavailable session)
    | .ok (source, true) => (source, session.seek time)

/-- Reads and handles one piece of a source. False at its end. -/
def pump (host : Host) (session : Session) (source : Source) : Source × SessionResult Bool :=
  if session.router.options.readChunkSize < widestStride then
    (source, .error (.bufferTooSmall session.router.options.readChunkSize) session)
  else
    match source.read session.router.options.readChunkSize with
    | .error error => (source, .error error session)
    | .ok (source, chunk) =>
      match session.push host chunk with
      | .error error session => (source, .error error session)
      | .ok () session => (source, .ok (!chunk.isEmpty) session)

theorem remaining_pump {host : Host} {session after : Session} {source next : Source}
    (result : session.pump host source = (next, .ok true after)) :
    next.remaining < source.remaining := by
  unfold pump at result
  split at result
  · cases result
  · split at result
    · cases result
    · rename_i source' chunk read
      split at result
      · cases result
      · simp only [Prod.mk.injEq, EStateM.Result.ok.injEq, Bool.not_eq_true',
          List.isEmpty_eq_false_iff] at result
        obtain ⟨same, fed, _⟩ := result
        subst same
        exact Source.remaining_read read fed

/-- Handles a whole source and finishes. -/
def run (host : Host) (session : Session) (source : Source) : Source × SessionResult Unit :=
  match _step : session.pump host source with
  | (source, .error error session) => (source, .error error session)
  | (source, .ok false session) => (source, session.finish host)
  | (source, .ok true session) => run host session source
termination_by source.remaining
decreasing_by exact remaining_pump _step

end Session

end TransportStream
