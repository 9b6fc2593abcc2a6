import TransportStream.Proofs.TableHistory

/-!
Tables are assembled soundly and completely. Every event reports a table of which each section
was received; and a version that is delivered in full comes into force once, whatever the order
of its sections and however often they are repeated.
-/
namespace TransportStream

namespace TableName

/-- The events that report a table. -/
def reports (name : TableName) (events : List TableEvent) : List TableEvent :=
  events.filter name.isReportedBy

end TableName

namespace TableTracker

/-- Takes sections in turn, and gives the events in the order in which they happen. -/
def handleAll (tracker : TableTracker) : List (Nat × Bytes) → TableTracker × List TableEvent
  | [] => (tracker, [])
  | (pid, data) :: rest =>
    let (between, event) := tracker.handleSection pid data
    let (after, events) := between.handleAll rest
    (after, event.toList ++ events)

variable {tracker after : TableTracker} {name : TableName} {pid : Nat} {data : Bytes}
  {received : List (Nat × Bytes)}

theorem handleAll_cons (tracker : TableTracker) (heard : Nat × Bytes)
    (rest : List (Nat × Bytes)) :
    tracker.handleAll (heard :: rest) =
      (((tracker.handleSection heard.1 heard.2).1.handleAll rest).1,
        (tracker.handleSection heard.1 heard.2).2.toList ++
          ((tracker.handleSection heard.1 heard.2).1.handleAll rest).2) := rfl

theorem handleAll_append (tracker : TableTracker) (front back : List (Nat × Bytes)) :
    tracker.handleAll (front ++ back) =
      (((tracker.handleAll front).1.handleAll back).1,
        (tracker.handleAll front).2 ++ ((tracker.handleAll front).1.handleAll back).2) := by
  induction front generalizing tracker with
  | nil => rfl
  | cons heard front ih =>
    rw [List.cons_append, handleAll_cons, handleAll_cons, ih, List.append_assoc]

/-! ### Sections of other tables -/

/-- What a section does to a table that it does not belong to. -/
structure Elsewhere (before after : TableTracker) (event : Option TableEvent)
    (name : TableName) : Prop where
  collected : after.collected name = before.collected name
  inForce : after.inForce? name = before.inForce? name
  unreported : name.reports event.toList = []

theorem handleSection_elsewhere (history : History received tracker)
    (heeded : tracker.Heeds name) (still : (tracker.handleSection pid data).1.Heeds name)
    (unread : name.read? pid data = none) :
    Elsewhere tracker (tracker.handleSection pid data).1 (tracker.handleSection pid data).2
      name := by
  rcases handleSection_cases tracker pid data with
    ⟨other, part, otherHeeded, read, taken⟩ | ⟨_, same, silent⟩
  · have different : name ≠ other := by
      rintro rfl
      rw [unread] at read
      cases read
    have apart := collected_setCollected_ne
      ((tracker.collected other).offer (other.position part) part).1 otherHeeded heeded different
    have filed : (tracker.collect other part).Filed := history.filed.setCollected otherHeeded _
    have heededBetween : (tracker.collect other part).Heeds name :=
      (heeds_setCollected ..).mpr heeded
    generalize tracker.handleSection pid data = outcome at taken still ⊢
    cases taken with
    | collected after same _ =>
      exact {
        collected := (collected_of_live same name).trans apart
        inForce := (inForce?_of_live same name).trans (inForce?_setCollected ..)
        unreported := rfl }
    | replaced after parts table complete merged replaces same =>
      have stillBetween := (heeds_of_live same).mp still
      have otherBetween : (tracker.collect other part).Heeds other :=
        (heeds_setCollected ..).mpr otherHeeded
      refine ⟨?_, ?_, ?_⟩
      · rw [collected_of_live same, collected_enforce table stillBetween]
        exact apart
      · rw [inForce?_of_live same, inForce?_enforce_ne filed table heededBetween stillBetween
          different otherBetween]
        exact inForce?_setCollected ..
      · obtain ⟨first, member, _, owner⟩ := TableName.merge_facts merged
        have owned := ((history.gathers.offered otherHeeded read complete).2 first member).1.owns
        rw [← owner] at owned
        apply List.filter_eq_nil_iff.mpr
        intro event happened reported
        cases List.mem_singleton.mp happened
        exact different (TableName.eq_of_isReportedBy owned reported)
  · rw [silent]
    exact ⟨collected_of_live same name, inForce?_of_live same name, rfl⟩

/-! ### One version, delivered piece by piece -/

/-- Of one table, all sections that come in are of one version, and the table is heeded all the
time. -/
structure Delivers (tracker : TableTracker) (name : TableName) (whole : List name.Content)
    (inputs : List (Nat × Bytes)) : Prop where
  members : ∀ heard ∈ inputs, ∀ part, name.read? heard.1 heard.2 = some part → part ∈ whole
  heeded : ∀ front, front <+: inputs → (tracker.handleAll front).1.Heeds name

/-- Every section of the version is among those that come in. -/
def Covers (name : TableName) (whole : List name.Content) (inputs : List (Nat × Bytes)) : Prop :=
  ∀ part ∈ whole, Received inputs name part

section Version

variable {version last : Nat} {whole : List name.Content} {table part : name.Content}
  {inputs : List (Nat × Bytes)} {heard : Nat × Bytes} {seen : name.Content → Prop}

theorem Delivers.start (delivers : Delivers tracker name whole inputs) : tracker.Heeds name :=
  delivers.heeded [] List.nil_prefix

theorem Delivers.tail (delivers : Delivers tracker name whole (heard :: inputs)) :
    Delivers (tracker.handleSection heard.1 heard.2).1 name whole inputs where
  members := fun other member => delivers.members other (List.mem_cons_of_mem _ member)
  heeded := fun front within =>
    delivers.heeded (heard :: front) (List.prefix_cons_inj heard |>.mpr within)

/-- Nothing but some sections of the version was collected, and it is not in force. -/
structure Waiting (tracker : TableTracker) (version : Nat) (whole : List name.Content)
    (seen : name.Content → Prop) : Prop where
  history : ∃ received, History received tracker
  has : Assembly.Has name.position whole seen (tracker.collected name)
  differs : ∀ old, tracker.inForce? name = some old → (name.position old).version ≠ version

/-- The version is in force, and nothing but sections of it is collected. -/
structure Settled (tracker : TableTracker) (whole : List name.Content) (table : name.Content) :
    Prop where
  history : ∃ received, History received tracker
  gathers : Assembly.Gathers name.position (· ∈ whole) (tracker.collected name)
  inForce : tracker.inForce? name = some table

theorem merge_version (isVersion : Assembly.IsVersion name.position version last whole)
    (merged : name.merge whole = some table) :
    (name.position table).version = version ∧ (name.position table).currentNext = true := by
  obtain ⟨first, member, placed, _⟩ := TableName.merge_facts merged
  obtain ⟨ofVersion, current, _⟩ := isVersion.agree first member
  rw [placed]
  exact ⟨ofVersion, current⟩

/-- A version is not empty: it has at least its last section. -/
theorem exists_merge (isVersion : Assembly.IsVersion name.position version last whole) :
    ∃ table, name.merge whole = some table := by
  apply Option.ne_none_iff_exists'.mp
  apply TableName.merge_ne_none
  rintro rfl
  have length := congrArg List.length isVersion.numbered
  rw [List.length_map, List.length_range] at length
  cases length

/-- A section of the version that does not complete it is collected; one that completes it puts
the table in force. -/
theorem Waiting.own (waiting : Waiting tracker version whole seen)
    (isVersion : Assembly.IsVersion name.position version last whole)
    (merged : name.merge whole = some table) (heeded : tracker.Heeds name)
    (read : name.read? pid data = some part) (member : part ∈ whole) :
    (∀ other ∈ whole, other = part ∨ seen other) ∧
        (tracker.handleSection pid data).2 = some (name.event (tracker.inForce? name) table) ∧
        Settled (tracker.handleSection pid data).1 whole table ∨
      ¬ (∀ other ∈ whole, other = part ∨ seen other) ∧
        (tracker.handleSection pid data).2 = none ∧
        (tracker.handleSection pid data).1.inForce? name = tracker.inForce? name ∧
        Waiting (tracker.handleSection pid data).1 version whole
          (fun other => other = part ∨ seen other) := by
  obtain ⟨received, history⟩ := waiting.history
  have further := history.hear pid data
  have collected := handleSection_collected heeded read
  rcases Assembly.offer_of_has isVersion waiting.has member with
    ⟨complete, all⟩ | ⟨incomplete, missing, has⟩
  · left
    obtain ⟨ofVersion, current⟩ := merge_version isVersion merged
    have replaces : tracker.Replaces name table := by
      refine ⟨current, ?_⟩
      rw [ofVersion]
      exact waiting.differs
    obtain ⟨event, same⟩ := handleSection_replaces heeded read complete merged replaces
    refine ⟨all, event, ⟨_, further⟩, ?_, ?_⟩
    · rw [collected]
      exact Assembly.offer_gathers waiting.has.gathers (isVersion.within member) member
    · rw [inForce?_of_live same, inForce?_enforce_self]
  · right
    obtain ⟨silent, same⟩ := handleSection_quiet heeded read fun parts table complete => by
      cases incomplete.symm.trans complete
    have inForce := (inForce?_of_live same name).trans (inForce?_collect part name)
    refine ⟨missing, silent, inForce, ⟨_, further⟩, ?_, ?_⟩
    · rw [collected]
      exact has
    · rw [inForce]
      exact waiting.differs

theorem Waiting.elsewhere (waiting : Waiting tracker version whole seen)
    (elsewhere : Elsewhere tracker (tracker.handleSection pid data).1
      (tracker.handleSection pid data).2 name) :
    Waiting (tracker.handleSection pid data).1 version whole seen := by
  obtain ⟨received, history⟩ := waiting.history
  refine ⟨⟨_, history.hear pid data⟩, ?_, ?_⟩
  · rw [elsewhere.collected]
    exact waiting.has
  · rw [elsewhere.inForce]
    exact waiting.differs

theorem received_cons : Received (heard :: inputs) name part ↔
    name.read? heard.1 heard.2 = some part ∨ Received inputs name part := by
  simp [Received]

theorem reports_append (events others : List TableEvent) :
    name.reports (events ++ others) = name.reports events ++ name.reports others :=
  List.filter_append ..

/-- Until the version is complete, nothing is reported. -/
theorem Waiting.run (waiting : Waiting tracker version whole seen)
    (isVersion : Assembly.IsVersion name.position version last whole)
    (delivers : Delivers tracker name whole inputs)
    (missing : ¬ ∀ part ∈ whole, Received inputs name part ∨ seen part) :
    name.reports (tracker.handleAll inputs).2 = [] ∧
      (tracker.handleAll inputs).1.inForce? name = tracker.inForce? name ∧
      Waiting (tracker.handleAll inputs).1 version whole
        (fun part => Received inputs name part ∨ seen part) := by
  obtain ⟨table, merged⟩ := exists_merge isVersion
  induction inputs generalizing tracker seen with
  | nil =>
    refine ⟨rfl, rfl, ?_⟩
    have same : (fun part => Received [] name part ∨ seen part) = seen := by
      funext part
      simp [Received]
    rw [same]
    exact waiting
  | cons heard rest ih =>
    obtain ⟨pid, data⟩ := heard
    obtain ⟨received, history⟩ := waiting.history
    have later := delivers.tail
    rw [handleAll_cons, reports_append]
    cases read : name.read? pid data with
    | none =>
      have elsewhere := handleSection_elsewhere history delivers.start later.start read
      have same : (fun part => Received ((pid, data) :: rest) name part ∨ seen part) =
          fun part => Received rest name part ∨ seen part := by
        funext part
        simp [received_cons, read]
      simp only [received_cons, read, reduceCtorEq, false_or] at missing
      obtain ⟨silent, inForce, waits⟩ := ih (waiting.elsewhere elsewhere) later missing
      rw [same, elsewhere.unreported, silent, inForce, elsewhere.inForce]
      exact ⟨rfl, rfl, waits⟩
    | some part =>
      have member := delivers.members (pid, data) List.mem_cons_self part read
      have regroup : ∀ other, (Received ((pid, data) :: rest) name other ∨ seen other) ↔
          Received rest name other ∨ other = part ∨ seen other := by
        intro other
        rw [received_cons, read, Option.some.injEq, eq_comm, or_assoc, or_left_comm]
      simp only [regroup] at missing
      rcases waiting.own isVersion merged delivers.start read member with
        ⟨all, _⟩ | ⟨_, silentNow, kept, next⟩
      · exact absurd (fun other listed => .inr (all other listed)) missing
      · obtain ⟨silent, inForce, waits⟩ := ih next later missing
        rw [silentNow, silent, inForce, kept, funext fun other => propext (regroup other)]
        exact ⟨rfl, rfl, waits⟩

/-- Once the version is in force, its sections change nothing. -/
theorem Settled.own (settled : Settled tracker whole table)
    (isVersion : Assembly.IsVersion name.position version last whole)
    (merged : name.merge whole = some table) (heeded : tracker.Heeds name)
    (read : name.read? pid data = some part) (member : part ∈ whole) :
    (tracker.handleSection pid data).2 = none ∧
      Settled (tracker.handleSection pid data).1 whole table := by
  obtain ⟨received, history⟩ := settled.history
  have has : Assembly.Has name.position whole
      (fun part => (tracker.collected name).parts.get? (name.position part).number = some part)
      (tracker.collected name) := ⟨settled.gathers, fun _ _ => Iff.rfl⟩
  obtain ⟨silent, same⟩ := handleSection_quiet heeded read fun parts other complete joined => by
    rcases Assembly.offer_of_has isVersion has member with ⟨full, _⟩ | ⟨incomplete, _⟩
    · cases full.symm.trans complete
      cases merged.symm.trans joined
      exact fun replaces => replaces.2 table settled.inForce rfl
    · cases incomplete.symm.trans complete
  have inForce := (inForce?_of_live same name).trans (inForce?_collect part name)
  refine ⟨silent, ⟨_, history.hear pid data⟩, ?_, inForce.trans settled.inForce⟩
  rw [handleSection_collected heeded read]
  exact Assembly.offer_gathers settled.gathers (isVersion.within member) member

theorem Settled.elsewhere (settled : Settled tracker whole table)
    (elsewhere : Elsewhere tracker (tracker.handleSection pid data).1
      (tracker.handleSection pid data).2 name) :
    Settled (tracker.handleSection pid data).1 whole table := by
  obtain ⟨received, history⟩ := settled.history
  refine ⟨⟨_, history.hear pid data⟩, ?_, elsewhere.inForce.trans settled.inForce⟩
  rw [elsewhere.collected]
  exact settled.gathers

theorem Settled.run (settled : Settled tracker whole table)
    (isVersion : Assembly.IsVersion name.position version last whole)
    (merged : name.merge whole = some table) (delivers : Delivers tracker name whole inputs) :
    name.reports (tracker.handleAll inputs).2 = [] ∧
      Settled (tracker.handleAll inputs).1 whole table := by
  induction inputs generalizing tracker with
  | nil => exact ⟨rfl, settled⟩
  | cons heard rest ih =>
    obtain ⟨pid, data⟩ := heard
    have later := delivers.tail
    rw [handleAll_cons, reports_append]
    cases read : name.read? pid data with
    | none =>
      obtain ⟨received, history⟩ := settled.history
      have elsewhere := handleSection_elsewhere history delivers.start later.start read
      obtain ⟨silent, after⟩ := ih (settled.elsewhere elsewhere) later
      rw [elsewhere.unreported, silent]
      exact ⟨rfl, after⟩
    | some part =>
      have member := delivers.members (pid, data) List.mem_cons_self part read
      obtain ⟨silentNow, still⟩ := settled.own isVersion merged delivers.start read member
      obtain ⟨silent, after⟩ := ih still later
      rw [silentNow, silent]
      exact ⟨rfl, after⟩

theorem Delivers.front {front back : List (Nat × Bytes)}
    (delivers : Delivers tracker name whole (front ++ back)) :
    Delivers tracker name whole front where
  members := fun heard member => delivers.members heard (List.mem_append_left _ member)
  heeded := fun other within =>
    delivers.heeded other (within.trans (List.prefix_append front back))

theorem Delivers.back {front back : List (Nat × Bytes)}
    (delivers : Delivers tracker name whole (front ++ back)) :
    Delivers (tracker.handleAll front).1 name whole back where
  members := fun heard member => delivers.members heard (List.mem_append_right _ member)
  heeded := by
    intro other within
    have still := delivers.heeded (front ++ other) ((List.prefix_append_right_inj front).mpr within)
    rwa [handleAll_append] at still

/-- A version that is delivered in full comes into force with the section that first completes
it, and is reported then and only then. The table lists what its sections list, in the order of
their numbers. -/
structure ComesIntoForce (tracker : TableTracker) (name : TableName) (whole : List name.Content)
    (table : name.Content) (front : List (Nat × Bytes)) (pid : Nat) (data : Bytes)
    (back : List (Nat × Bytes)) : Prop where
  content : name.Joins whole table
  waits : name.reports (tracker.handleAll front).2 = []
  unchanged : (tracker.handleAll front).1.inForce? name = tracker.inForce? name
  event : ((tracker.handleAll front).1.handleSection pid data).2 =
    some (name.event (tracker.inForce? name) table)
  applied : ((tracker.handleAll front).1.handleSection pid data).1.inForce? name = some table
  once : name.reports (tracker.handleAll (front ++ (pid, data) :: back)).2 =
    [name.event (tracker.inForce? name) table]
  stays : (tracker.handleAll (front ++ (pid, data) :: back)).1.inForce? name = some table

theorem comes_into_force (history : History received tracker)
    (isVersion : Assembly.IsVersion name.position version last whole)
    (blank : (tracker.collected name).parts.isEmpty = true)
    (differs : ∀ old, tracker.inForce? name = some old → (name.position old).version ≠ version)
    (merged : name.merge whole = some table) {front back : List (Nat × Bytes)}
    (delivers : Delivers tracker name whole (front ++ (pid, data) :: back))
    (missing : ¬ Covers name whole front)
    (completed : Covers name whole (front ++ [(pid, data)])) :
    ComesIntoForce tracker name whole table front pid data back := by
  have waiting : Waiting tracker version whole (fun _ => False) :=
    ⟨⟨_, history⟩, Assembly.has_none blank, differs⟩
  obtain ⟨waits, unchanged, waitingStill⟩ := waiting.run isVersion delivers.front
    (by simpa only [or_false, Covers] using missing)
  simp only [or_false] at waitingStill
  have next := delivers.back
  have later := next.tail
  have split : ∀ part, Received (front ++ [(pid, data)]) name part ↔
      name.read? pid data = some part ∨ Received front name part := by
    intro part
    simp [Received, or_and_right, exists_or, or_comm]
  cases read : name.read? pid data with
  | none =>
    refine absurd (fun part listed => ?_) missing
    simpa [read] using (split part).mp (completed part listed)
  | some part =>
    have member := next.members (pid, data) List.mem_cons_self part read
    have all : ∀ other ∈ whole, other = part ∨ Received front name other := by
      intro other listed
      simpa [read, eq_comm] using (split other).mp (completed other listed)
    rcases waitingStill.own isVersion merged next.start read member with
      ⟨_, event, settled⟩ | ⟨missingStill, _⟩
    · obtain ⟨silent, after⟩ := settled.run isVersion merged later
      obtain ⟨first, listed, _, owner⟩ := TableName.merge_facts merged
      have owned : name.owns table = true := owner.trans (completed first listed).owns
      rw [unchanged] at event
      refine ⟨TableName.merge_joins isVersion.numbered merged, waits, unchanged, event,
        settled.inForce, ?_, ?_⟩
      · rw [handleAll_append, handleAll_cons, reports_append, reports_append, waits, event, silent,
          List.nil_append, List.append_nil]
        exact List.filter_cons_of_pos (TableName.isReportedBy_event owned)
      · rw [handleAll_append, handleAll_cons]
        exact after.inForce
    · exact absurd all missingStill

end Version

/-- Wherever sections lead, every event reports a table of which all sections were received, and
from there every version that is delivered in full comes into force once, as one and the same
table for every order of its sections. -/
theorem tables_assembled (history : History received tracker) :
    (∀ pid data event, (tracker.handleSection pid data).2 = some event →
      ∃ name parts table, Assembled (received ++ [(pid, data)]) tracker
        (tracker.handleSection pid data).1 name event parts table) ∧
    ∀ (name : TableName) (version last : Nat) (whole : List name.Content),
      Assembly.IsVersion name.position version last whole →
      (tracker.collected name).parts.isEmpty = true →
      (∀ old, tracker.inForce? name = some old → (name.position old).version ≠ version) →
      ∃ table, name.merge whole = some table ∧
        ∀ front pid data back, Delivers tracker name whole (front ++ (pid, data) :: back) →
          ¬ Covers name whole front → Covers name whole (front ++ [(pid, data)]) →
          ComesIntoForce tracker name whole table front pid data back := by
  refine ⟨fun pid data event happened => history.assembled happened, ?_⟩
  intro name version last whole isVersion blank differs
  obtain ⟨table, merged⟩ := exists_merge isVersion
  exact ⟨table, merged, fun front pid data back delivers missing completed =>
    comes_into_force history isVersion blank differs merged delivers missing completed⟩

/-- The first of two sections of an association table. -/
def firstHalf : Pat where
  version := 1
  currentNext := true
  number := 0
  last := 1
  streamId := 1
  programs := [⟨1, 0x100⟩]
  networkPid := none

/-- The second of two sections of an association table. -/
def secondHalf : Pat := { firstHalf with number := 1, programs := [⟨2, 0x200⟩] }

theorem read_firstHalf : TableName.pat.read? patPid firstHalf.encode = some firstHalf := by
  decide +kernel

theorem read_secondHalf : TableName.pat.read? patPid secondHalf.encode = some secondHalf := by
  decide +kernel

theorem halves_isVersion :
    Assembly.IsVersion TableName.pat.position 1 1 [firstHalf, secondHalf] where
  numbered := by decide
  agree := by decide

theorem merge_halves : TableName.pat.merge [firstHalf, secondHalf] =
    some { firstHalf with programs := [⟨1, 0x100⟩, ⟨2, 0x200⟩] } := by
  rw [TableName.merge, Pat.merge, List.mergeSort_of_pairwise (by decide)]
  rfl

/-- The second section comes first, and again and again. -/
theorem halves_assembled :
    TableName.pat.reports (({} : TableTracker).handleAll [(patPid, secondHalf.encode),
      (patPid, secondHalf.encode), (patPid, firstHalf.encode), (patPid, secondHalf.encode)]).2 =
      [.pat none { firstHalf with programs := [⟨1, 0x100⟩, ⟨2, 0x200⟩] }] := by
  obtain ⟨table, merged, comes⟩ := (tables_assembled History.start).2 .pat 1 1
    [firstHalf, secondHalf] halves_isVersion rfl (fun _ inForce => by cases inForce)
  cases merged.symm.trans merge_halves
  have delivers : Delivers {} .pat [firstHalf, secondHalf] ([(patPid, secondHalf.encode),
      (patPid, secondHalf.encode)] ++ (patPid, firstHalf.encode) ::
        [(patPid, secondHalf.encode)]) := by
    refine ⟨?_, fun _ _ => trivial⟩
    simp [read_firstHalf, read_secondHalf]
  have missing : ¬ Covers TableName.pat [firstHalf, secondHalf]
      [(patPid, secondHalf.encode), (patPid, secondHalf.encode)] := by
    simp [Covers, Received, read_secondHalf]
    decide
  exact (comes _ _ _ _ delivers missing
    (by simp [Covers, Received, read_firstHalf, read_secondHalf])).once

end TableTracker

end TransportStream
