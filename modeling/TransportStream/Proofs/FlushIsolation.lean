import TransportStream.Proofs.FramingPlaces
import TransportStream.Proofs.Isolation
import TransportStream.Proofs.SinkProtocol
import TransportStream.Proofs.TableNames

/-!
What a restart cuts off. A session that is flushed, or moved to another place of its stream,
keeps its tables, its program and its outputs; of the bytes that it held none comes out later. A
session that cannot be moved stays as it is. Places are counted without end, but the offsets of
units have 64 bits: behind the last of them they start over at zero.
-/
namespace TransportStream

namespace Router

variable {host : Host} {before after : Router}

theorem Change.named (change : Change host before after) (named : before.Named) :
    after.Named := by
  cases change with
  | aside same =>
    unfold Named
    rw [same.outputs]
    exact named
  | ask call nobody => exact named
  | create free accepted => exact named.insert rfl
  | @adjust pid output next found owner ended =>
    have info : next.info = output.info := congrArg Prod.fst owner
    exact named.insert (info ▸ named pid output found)
  | mark =>
    intro pid output found
    rw [NatMap.get?_map] at found
    obtain ⟨former, present, rfl⟩ := Option.map_eq_some_iff.mp found
    exact named pid former present
  | deliver unit found opened => exact named
  | @close pid output found opened => exact named.insert (named pid output found)
  | remove found opened => exact named.erase _
  | forget found ended => exact named.erase _

theorem Changes.named (changes : Changes host before after) (named : before.Named) :
    after.Named := by
  induction changes with
  | refl => exact named
  | tail _ change ih => exact change.named ih

end Router

namespace Session

/-- What comes to a session from its stream. -/
inductive Input where
  | piece (data : Bytes)
  | ending
  deriving DecidableEq, Repr

/-- The bytes that an input brings. -/
def Input.bytes : Input → Bytes
  | .piece data => data
  | .ending => []

def Input.operation : Input → Operation
  | .piece data => .push data
  | .ending => .finish

/-- The bytes that inputs push, in a row. -/
def pushed (inputs : List (Host × Input)) : Bytes := inputs.flatMap fun step => step.2.bytes

/-- A session after inputs, each with the surroundings that it finds. -/
def take (session : Session) (inputs : List (Host × Input)) : Session :=
  session.performAll (inputs.map fun step => (step.1, step.2.operation))

/-- The place in the stream of the next byte to come, counted without end. -/
def reached (session : Session) : Nat := session.sync.base + session.sync.buffer.length

/-- The sections that a session completes while it drains what is buffered, each with its
PID. -/
def drained (host : Host) (session : Session) : List (Nat × Bytes) :=
  match _step : session.sync.nextItem with
  | (_, .error _) | (_, .ok none) => []
  | (sync, .ok (some item)) =>
    let router := session.router.noteFraming sync
    router.completed host item ++
      match Router.handleItem host item router with
      | .error _ _ => []
      | .ok () router => drained host { sync, router }
termination_by session.sync.potential
decreasing_by exact Synchronizer.potential_nextItem _step

/-- The sections that an input completes. -/
def completedBy (session : Session) (host : Host) : Input → List (Nat × Bytes)
  | .piece data =>
    if session.phase = .ended ∨ data = [] then []
    else drained host { session.awaken with sync := session.awaken.sync.push data }
  | .ending =>
    if session.phase = .ended then []
    else drained host { session with sync := session.sync.finish }

/-- The sections that inputs complete, one input after another. -/
def completed (session : Session) : List (Host × Input) → List (Nat × Bytes)
  | [] => []
  | (host, input) :: others =>
    session.completedBy host input ++ (session.perform host input.operation).completed others

/-- `PassedOn start inputs parcel`: the parcel carries the payload of a packet that stands among
the bytes of these inputs, which begin at a place in the stream; it is as it came, or as one of
their hosts descrambled it. -/
structure PassedOn (start : Nat) (inputs : List (Host × Input)) (parcel : Parcel) : Prop where
  place : ∃ front back, pushed inputs = front ++ parcel.packet.bytes ++ back ∧
    parcel.packet.place = start + front.length
  read : TransportPacket.parse parcel.packet.bytes parcel.packet.place =
    .ok { parcel.packet with arrival := none }
  passes : ∃ step ∈ inputs, step.1.PassesOn parcel.packet parcel.data

/-- `Restarts session place after`: the session is flushed or moved, and input goes on at a
place. -/
inductive Restarts (session : Session) : Nat → Session → Prop where
  | flush : Restarts session session.reached session.flush
  | seek {time : Duration} {offset : Nat} {after : Session}
      (moved : session.seek time = .ok offset after) : Restarts session offset after
  | seekSource {time : Duration} {source next : Source} {offset : Nat} {after : Session}
      (moved : session.seekSource time source = (next, .ok offset after)) :
      Restarts session offset after

variable {host : Host} {session after : Session} {start offset : Nat}
variable {inputs : List (Host × Input)} {future : Bytes} {bound : Nat} {older : List Call}

/-! ### Restarts -/

theorem Restarts.resumed (restarts : session.Restarts offset after) :
    ∃ place, after = session.resume place ∧ after.sync.base = offset ∧ after.sync.buffer = [] := by
  have located : ∀ {time offset after}, session.seek time = .ok offset after →
      after = session.resume (some offset) := by
    intro time offset after moved
    unfold Session.seek at moved
    split at moved
    · cases moved
    · cases moved
      rfl
  have there : ∀ {offset after}, after = session.resume (some offset) →
      ∃ place, after = session.resume place ∧ after.sync.base = offset ∧
        after.sync.buffer = [] := by
    rintro offset _ rfl
    exact ⟨some offset, rfl, rfl, rfl⟩
  cases restarts with
  | flush => exact ⟨none, rfl, rfl, rfl⟩
  | seek moved => exact there (located moved)
  | @seekSource time source next offset after moved =>
    unfold Session.seekSource at moved
    split at moved
    · cases moved
    · split at moved
      · cases moved
      · cases moved
      · simp only [Prod.mk.injEq] at moved
        exact there (located moved.2)

/-- A packet that was passed on stands before the end of the inputs. -/
theorem PassedOn.inside {parcel : Parcel} (passed : PassedOn start inputs parcel) :
    ∃ count, parcel.packet.place = start + count ∧ count < (pushed inputs).length := by
  obtain ⟨⟨front, back, whole, place⟩, read, _⟩ := passed
  obtain ⟨enough, _⟩ := TransportPacket.parse_spec read
  have filled : 0 < parcel.packet.bytes.length := Nat.lt_of_lt_of_le (by decide) enough
  refine ⟨front.length, place, ?_⟩
  rw [whole, List.length_append, List.length_append]
  omega

end Session

end TransportStream
