import TransportStream.Proofs.FramingSearch

/-!
Framing seen from the whole of its input. Each step is described with all the bytes that are
still to come in place; what framing hands on when its input comes in pieces is a sequence of
such steps. The steps leave one choice, the stride of a lock where the last stride and a
shorter one both have a run.
-/
namespace TransportStream

/-- An item without the arrival stamp of its packet: it is known only if the bytes before the
packet were still buffered. -/
def SyncItem.unstamped : SyncItem → SyncItem
  | .packet carried => .packet { carried with arrival := none }
  | .locked stride place => .locked stride place
  | .lost place => .lost place

namespace Synchronizer

/-- What decides how framing goes on. Neither the stamp read ahead nor the counters do. -/
def bare (sync : Synchronizer) : Synchronizer :=
  { sync with pendingArrival := none, received := 0, resyncs := 0, invalid := 0 }

/-- Framing as if the bytes still to come were there. -/
def ahead (sync : Synchronizer) (future : Bytes) : Synchronizer :=
  { sync with buffer := sync.buffer ++ future }.bare

/-- The size of the units that framing takes. -/
def unitSize (sync : Synchronizer) : Nat := sync.stride.getD packetSize

/-- The number of buffered positions at which no packet can start. -/
def barrenFront (sync : Synchronizer) : Nat := barren sync.minRun sync.candidates sync.buffer

/-- Framing behind the positions at which no packet can start. -/
def settled (sync : Synchronizer) : Synchronizer := sync.discard sync.barrenFront

/-- Framing locked on a stride. -/
def lockOn (sync : Synchronizer) (stride : Nat) : Synchronizer :=
  { sync with stride := some stride, locked := true, everLocked := true, skipped := 0 }

/-- One step of framing. A unit that is no packet gives no item. -/
inductive Step (sync : Synchronizer) : Option SyncItem → Synchronizer → Prop where
  | packet {packet : TransportPacket} (locked : sync.locked = true)
      (ready : sync.hasUnit sync.unitSize = true) (start : plausibleStart sync.buffer = true)
      (parsed : TransportPacket.parse (sync.buffer.take sync.unitSize) sync.base = .ok packet) :
      Step sync (some (.packet { packet with arrival := none })) (sync.takeUnit sync.unitSize).bare
  | skip {error : Error} (locked : sync.locked = true)
      (ready : sync.hasUnit sync.unitSize = true) (start : plausibleStart sync.buffer = true)
      (refused : TransportPacket.parse (sync.buffer.take sync.unitSize) sync.base = .error error) :
      Step sync none (sync.takeUnit sync.unitSize).bare
  | lose (locked : sync.locked = true) (ready : sync.hasUnit sync.unitSize = true)
      (noStart : plausibleStart sync.buffer = false) :
      Step sync (some (.lost sync.base)) sync.lose.1.bare
  /-- Of the strides with a run, one can be taken unless a shorter one is tried before. -/
  | lock {before after : List Nat} {stride : Nat} (unlocked : sync.locked = false)
      (order : sync.candidates = before ++ stride :: after)
      (found : HasRun sync.minRun stride sync.settled.buffer)
      (first : ∀ other ∈ before, other < stride → ¬HasRun sync.minRun other sync.settled.buffer)
      (budget : sync.settled.skipped ≤ sync.maxResync) :
      Step sync (some (.locked stride sync.settled.base)) (sync.settled.lockOn stride)

/-- `Trace sync items last`: these items come out of the buffer, and leave framing at `last`,
or at nothing after a failure. -/
inductive Trace : Synchronizer → List SyncItem → Option Synchronizer → Prop where
  | waits {sync : Synchronizer} (locked : sync.locked = true)
      (short : sync.hasUnit sync.unitSize = false) : Trace sync [] (some sync)
  | seeks {sync : Synchronizer} (unlocked : sync.locked = false)
      (none : ∀ stride ∈ sync.candidates, ¬HasRun sync.minRun stride sync.settled.buffer)
      (budget : sync.settled.skipped ≤ sync.maxResync) : Trace sync [] (some sync.settled)
  | fails {sync : Synchronizer} (unlocked : sync.locked = false)
      (spent : sync.maxResync < sync.settled.skipped) : Trace sync [] none
  | step {sync next : Synchronizer} {item : Option SyncItem} {items : List SyncItem}
      {last : Option Synchronizer} (step : Step sync item next) (later : Trace next items last) :
      Trace sync (item.toList ++ items) last

variable {sync next : Synchronizer} {item : Option SyncItem} {items others : List SyncItem}
variable {last otherLast : Option Synchronizer} {future : Bytes}

/-! ### Where two traces part -/

/-- The stride of the last lock among items, or else the one known before. -/
def lastLock (known : Option Nat) : List SyncItem → Option Nat
  | [] => known
  | .locked stride _ :: items => lastLock (some stride) items
  | .packet _ :: items | .lost _ :: items => lastLock known items

/-- `Rivals sync common position known shorter`: after the items `common`, both the stride of
the last lock and a shorter one have a run at a position of the buffer. -/
structure Rivals (sync : Synchronizer) (common : List SyncItem) (position known shorter : Nat) :
    Prop where
  unforced : sync.forced = none
  last : lastLock sync.stride common = some known
  less : shorter < known
  knownRun : HasRun sync.minRun known (sync.buffer.drop position)
  shorterRun : HasRun sync.minRun shorter (sync.buffer.drop position)

/-- Two sequences of items part at a lock: one is on the stride of the last lock, the other
on a shorter one at the same place. -/
def Part (sync : Synchronizer) (items others : List SyncItem) : Prop :=
  ∃ common position stride other rest otherRest,
    items = common ++ .locked stride (sync.base + position) :: rest ∧
      others = common ++ .locked other (sync.base + position) :: otherRest ∧
        (Rivals sync common position stride other ∨ Rivals sync common position other stride)

theorem Part.append (part : Part sync items others) (more otherMore : List SyncItem) :
    Part sync (items ++ more) (others ++ otherMore) := by
  obtain ⟨common, position, stride, other, rest, otherRest, rfl, rfl, rivals⟩ := part
  exact ⟨common, position, stride, other, rest ++ more, otherRest ++ otherMore,
    by simp, by simp, rivals⟩

/-- A forced stride leaves no choice. -/
theorem not_part_of_forced {stride : Nat} (forced : sync.forced = some stride) :
    ¬Part sync items others := by
  rintro ⟨_, _, _, _, _, _, _, _, rivals | rivals⟩ <;>
    exact absurd (forced.symm.trans rivals.unforced) (by simp)

/-- What a step leaves: the buffer behind some bytes, the settings as they are, and the stride
of the lock if there was one. -/
structure Moves (sync : Synchronizer) (item : Option SyncItem) (next : Synchronizer)
    (count : Nat) : Prop where
  buffer : next.buffer = sync.buffer.drop count
  base : next.base = sync.base + count
  forced : next.forced = sync.forced
  minRun : next.minRun = sync.minRun
  stride : next.stride = lastLock sync.stride item.toList

theorem takeUnit_moves (sync : Synchronizer) (size : Nat) :
    (sync.takeUnit size).buffer = sync.buffer.drop (min size sync.buffer.length) ∧
      (sync.takeUnit size).base = sync.base + min size sync.buffer.length := by
  refine ⟨?_, by simp [takeUnit]⟩
  rcases Nat.le_total size sync.buffer.length with inside | beyond
  · rw [Nat.min_eq_left inside]
    rfl
  · rw [Nat.min_eq_right beyond, List.drop_length]
    exact List.drop_eq_nil_of_le beyond

theorem Step.moves (step : Step sync item next) : ∃ count, Moves sync item next count := by
  cases step with
  | packet =>
    obtain ⟨buffer, base⟩ := takeUnit_moves sync sync.unitSize
    exact ⟨_, buffer, base, rfl, rfl, rfl⟩
  | skip =>
    obtain ⟨buffer, base⟩ := takeUnit_moves sync sync.unitSize
    exact ⟨_, buffer, base, rfl, rfl, rfl⟩
  | lose => exact ⟨1, rfl, rfl, rfl, rfl, rfl⟩
  | lock => exact ⟨sync.barrenFront, rfl, rfl, rfl, rfl, rfl⟩

theorem lastLock_append (known : Option Nat) (front back : List SyncItem) :
    lastLock known (front ++ back) = lastLock (lastLock known front) back := by
  induction front generalizing known with
  | nil => rfl
  | cons item others ih => cases item <;> exact ih _

/-- Rivals behind a step are rivals seen from before it. -/
theorem Rivals.before {common : List SyncItem} {count position known shorter : Nat}
    (moves : Moves sync item next count) (rivals : Rivals next common position known shorter) :
    Rivals sync (item.toList ++ common) (count + position) known shorter where
  unforced := moves.forced ▸ rivals.unforced
  last := by rw [lastLock_append, ← moves.stride, rivals.last]
  less := rivals.less
  knownRun := by
    have run := rivals.knownRun
    rwa [moves.buffer, moves.minRun, List.drop_drop] at run
  shorterRun := by
    have run := rivals.shorterRun
    rwa [moves.buffer, moves.minRun, List.drop_drop] at run

theorem Part.before (step : Step sync item next) (part : Part next items others) :
    Part sync (item.toList ++ items) (item.toList ++ others) := by
  obtain ⟨count, moves⟩ := step.moves
  obtain ⟨common, position, stride, other, rest, otherRest, left, right, rivals⟩ := part
  have place : next.base + position = sync.base + (count + position) := by
    rw [moves.base, Nat.add_assoc]
  rw [place] at left right
  exact ⟨item.toList ++ common, count + position, stride, other, rest, otherRest,
    by rw [left, List.append_assoc], by rw [right, List.append_assoc],
    rivals.imp (.before moves) (.before moves)⟩

/-- The strides to try ascend, but for the one of the last lock in front. -/
theorem candidates_order {before after : List Nat} {stride other : Nat}
    (order : sync.candidates = before ++ stride :: after) (earlier : other ∈ before)
    (greater : stride < other) : sync.forced = none ∧ sync.stride = some other := by
  unfold candidates at order
  split at order
  · exfalso
    cases before with
    | nil => cases earlier
    | cons first rest => simp at order
  · rename_i unforced
    refine ⟨unforced, ?_⟩
    have ascending : strides.Pairwise (· < ·) := by decide
    split at order
    · rw [order, List.pairwise_append] at ascending
      have := ascending.2.2 other earlier stride List.mem_cons_self
      omega
    · rename_i known found
      rw [found]
      cases before with
      | nil => cases earlier
      | cons first rest =>
        rw [List.cons_append, List.cons.injEq] at order
        obtain ⟨rfl, order⟩ := order
        rcases List.mem_cons.mp earlier with rfl | behind
        · rfl
        · have filtered := ascending.filter (fun stride => stride != known)
          rw [order, List.pairwise_append] at filtered
          have := filtered.2.2 other behind stride List.mem_cons_self
          omega

/-- Of two elements of a list, one comes before the other unless they are the same. -/
private theorem equal_or_before {before after front back : List Nat} {stride other : Nat}
    (same : before ++ stride :: after = front ++ other :: back) :
    stride = other ∨ stride ∈ front ∨ other ∈ before := by
  rcases List.append_eq_append_iff.mp same with ⟨middle, rfl, rest⟩ | ⟨middle, rfl, rest⟩
  · cases middle with
    | nil => exact .inl (List.cons.inj rest).1
    | cons first others => exact .inr (.inl (by simp [(List.cons.inj rest).1]))
  · cases middle with
    | nil => exact .inl (List.cons.inj rest).1.symm
    | cons first others => exact .inr (.inr (by simp [(List.cons.inj rest).1]))

/-- A stride that is taken although another one with a run is tried before it is the shorter
one, and the other is the stride of the last lock. -/
private theorem rivals_of_before {before after : List Nat} {stride other : Nat}
    (order : sync.candidates = before ++ stride :: after) (earlier : other ∈ before)
    (found : HasRun sync.minRun stride sync.settled.buffer)
    (otherFound : HasRun sync.minRun other sync.settled.buffer)
    (first : ∀ other ∈ before, other < stride → ¬HasRun sync.minRun other sync.settled.buffer)
    (differ : stride ≠ other) : Rivals sync [] sync.barrenFront other stride := by
  have less : stride < other := by
    have := mt (first other earlier) (not_not_intro otherFound)
    omega
  obtain ⟨unforced, known⟩ := candidates_order order earlier less
  exact ⟨unforced, known, less, otherFound, found⟩

/-- A step is determined, but for the stride of a lock. -/
theorem Step.agree {otherItem : Option SyncItem} {otherNext : Synchronizer}
    (step : Step sync item next) (otherStep : Step sync otherItem otherNext) :
    (item = otherItem ∧ next = otherNext) ∨ ∀ items others,
      Part sync (item.toList ++ items) (otherItem.toList ++ others) := by
  cases step with
  | packet locked ready start parsed =>
    left
    cases otherStep with
    | packet _ _ _ otherParsed =>
      rw [parsed] at otherParsed
      cases otherParsed
      exact ⟨rfl, rfl⟩
    | skip _ _ _ refused => simp [parsed] at refused
    | lose _ _ noStart => simp [start] at noStart
    | lock unlocked => simp [locked] at unlocked
  | skip locked ready start refused =>
    left
    cases otherStep with
    | packet _ _ _ parsed => simp [refused] at parsed
    | skip => exact ⟨rfl, rfl⟩
    | lose _ _ noStart => simp [start] at noStart
    | lock unlocked => simp [locked] at unlocked
  | lose locked ready noStart =>
    left
    cases otherStep with
    | packet _ _ start => simp [noStart] at start
    | skip _ _ start => simp [noStart] at start
    | lose => exact ⟨rfl, rfl⟩
    | lock unlocked => simp [locked] at unlocked
  | @lock _ _ stride unlocked order found first budget =>
    cases otherStep with
    | packet locked => simp [unlocked] at locked
    | skip locked => simp [unlocked] at locked
    | lose locked => simp [unlocked] at locked
    | @lock _ _ other _ otherOrder otherFound otherFirst _ =>
      by_cases same : stride = other
      · subst same
        exact .inl ⟨rfl, rfl⟩
      · right
        intro items others
        refine ⟨[], sync.barrenFront, stride, other, items, others, rfl, rfl, ?_⟩
        rcases equal_or_before (order.symm.trans otherOrder) with equal | later | earlier
        · exact absurd equal same
        · exact .inl (rivals_of_before otherOrder later otherFound found otherFirst (Ne.symm same))
        · exact .inr (rivals_of_before order earlier found otherFound first same)

/-- Without a lock, only a run found within the budget leads on. -/
theorem Step.unlocked_run (step : Step sync item next) (unlocked : sync.locked = false) :
    sync.settled.skipped ≤ sync.maxResync ∧
      ∃ stride ∈ sync.candidates, HasRun sync.minRun stride sync.settled.buffer := by
  cases step with
  | packet locked => simp [unlocked] at locked
  | skip locked => simp [unlocked] at locked
  | lose locked => simp [unlocked] at locked
  | lock _ order found _ budget => exact ⟨budget, _, by simp [order], found⟩

theorem Step.locked_ready (step : Step sync item next) (locked : sync.locked = true) :
    sync.hasUnit sync.unitSize = true := by
  cases step with
  | packet _ ready => exact ready
  | skip _ ready => exact ready
  | lose _ ready => exact ready
  | lock unlocked => simp [locked] at unlocked

/-- What comes out of a buffer is determined until two runs part at a lock. -/
theorem Trace.agree (trace : Trace sync items last) (otherTrace : Trace sync others otherLast) :
    (items = others ∧ last = otherLast) ∨ Part sync items others := by
  induction trace generalizing others otherLast with
  | waits locked short =>
    left
    cases otherTrace with
    | waits => exact ⟨rfl, rfl⟩
    | seeks unlocked => simp [locked] at unlocked
    | fails unlocked => simp [locked] at unlocked
    | step step => simp [step.locked_ready locked] at short
  | seeks unlocked none budget =>
    left
    cases otherTrace with
    | waits locked => simp [unlocked] at locked
    | seeks => exact ⟨rfl, rfl⟩
    | fails _ spent => omega
    | step step =>
      obtain ⟨_, stride, member, found⟩ := step.unlocked_run unlocked
      exact absurd found (none stride member)
  | fails unlocked spent =>
    left
    cases otherTrace with
    | waits locked => simp [unlocked] at locked
    | seeks _ _ budget => omega
    | fails => exact ⟨rfl, rfl⟩
    | step step =>
      have budget := (step.unlocked_run unlocked).1
      omega
  -- the other run cannot rest here; its step is the same one, or the two part at it
  | step step later ih =>
    cases otherTrace with
    | waits locked short => simp [step.locked_ready locked] at short
    | seeks unlocked none budget =>
      obtain ⟨_, stride, member, found⟩ := step.unlocked_run unlocked
      exact absurd found (none stride member)
    | fails unlocked spent =>
      have budget := (step.unlocked_run unlocked).1
      omega
    | step otherStep otherLater =>
      rcases step.agree otherStep with ⟨rfl, rfl⟩ | part
      · rcases ih otherLater with ⟨rfl, rfl⟩ | part
        · exact .inl ⟨rfl, rfl⟩
        · exact .inr (part.before step)
      · exact .inr (part _ _)

end Synchronizer

end TransportStream
