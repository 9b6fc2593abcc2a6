import TransportStream.Proofs.PartCollection
import TransportStream.Proofs.TableNames

/-!
The trackers that sections can lead to. In each of them maps are kept only on the PID that the
association table in force announces, and what is collected of a table are sections of one
version of it, every one received on its PID.
-/
namespace TransportStream

namespace TableTracker

variable {tracker before after : TableTracker} {name other : TableName} {pid : Nat} {data : Bytes}

/-! ### What taking a section leaves alone -/

@[simp] theorem partsOn_insert (program : Nat) (parts : Assembly Pmt) :
    ({ tracker with pmtParts := tracker.pmtParts.insert program (pid, parts) } :
      TableTracker).partsOn pid program = parts := by
  simp [partsOn]

theorem collected_setCollected_self (parts : Assembly name.Content) :
    (tracker.setCollected name parts).collected name = parts := by
  cases name with
  | pat => rfl
  | cat => rfl
  | pmt mapPid program => exact partsOn_insert program parts

/-- Sections of one heeded table leave those of another alone. -/
theorem collected_setCollected_ne (parts : Assembly name.Content) (heeded : tracker.Heeds name)
    (otherHeeded : tracker.Heeds other) (different : other ≠ name) :
    (tracker.setCollected name parts).collected other = tracker.collected other := by
  cases name with
  | pat => cases other <;> first | rfl | exact absurd rfl different
  | cat => cases other <;> first | rfl | exact absurd rfl different
  | pmt mapPid program =>
    cases other with
    | pat => rfl
    | cat => rfl
    | pmt otherPid otherProgram =>
      have apart : otherProgram ≠ program := by
        rintro rfl
        cases Option.some.inj (heeded.symm.trans otherHeeded)
        exact different rfl
      simp only [collected, setCollected, partsOn, NatMap.get?_insert_ne _ _ apart]

theorem inForce?_enforce_self (table : name.Content) :
    (tracker.enforce name table).inForce? name = some table := by
  cases name with
  | pat => rfl
  | cat => rfl
  | pmt mapPid program => simp [enforce, inForce?, pmt?]

/-- What is collected stays when a table comes into force, for tables that are still heeded. -/
theorem collected_enforce (table : name.Content)
    (heeded : (tracker.enforce name table).Heeds other) :
    (tracker.enforce name table).collected other = tracker.collected other := by
  cases name with
  | cat => cases other <;> rfl
  | pmt mapPid program => cases other <;> rfl
  | pat =>
    cases other with
    | pat => rfl
    | cat => rfl
    | pmt mapPid program =>
      have announced : Pat.mapPid? table program = some mapPid := heeded
      simp only [collected, enforce, partsOn, NatMap.get?_filter]
      cases found : tracker.pmtParts.get? program with
      | none => rfl
      | some entry =>
        by_cases here : entry.1 = mapPid
        · simp [Option.filter, announced, here]
        · simp [Option.filter, announced, Ne.symm here, here]

/-- Maps are kept only on the PID on which they are announced. -/
structure Filed (tracker : TableTracker) : Prop where
  maps : ∀ program entry, tracker.pmts.get? program = some entry →
    tracker.mapPid? program = some entry.1
  parts : ∀ program entry, tracker.pmtParts.get? program = some entry →
    tracker.mapPid? program = some entry.1

/-- Tables in force stay when another comes into force, as long as they are heeded. -/
theorem inForce?_enforce_ne (filed : tracker.Filed) (table : name.Content)
    (heeded : tracker.Heeds other) (still : (tracker.enforce name table).Heeds other)
    (different : other ≠ name) (nameHeeded : tracker.Heeds name) :
    (tracker.enforce name table).inForce? other = tracker.inForce? other := by
  cases name with
  | cat => cases other <;> first | rfl | exact absurd rfl different
  | pmt mapPid program =>
    cases other with
    | pat => rfl
    | cat => rfl
    | pmt otherPid otherProgram =>
      have apart : otherProgram ≠ program := by
        rintro rfl
        cases Option.some.inj (nameHeeded.symm.trans heeded)
        exact different rfl
      simp only [inForce?, enforce, pmt?, NatMap.get?_insert_ne _ _ apart]
  | pat =>
    cases other with
    | pat => exact absurd rfl different
    | cat => rfl
    | pmt mapPid program =>
      have announced : Pat.mapPid? table program = some mapPid := still
      simp only [inForce?, enforce, pmt?, NatMap.get?_filter]
      cases found : tracker.pmts.get? program with
      | none => rfl
      | some entry =>
        have here : entry.1 = mapPid :=
          Option.some.inj ((filed.maps program entry found).symm.trans heeded)
        simp [Option.filter, announced, here]

/-! ### Maps are filed under their PID -/

theorem filed_live (same : after.live = before.live) (filed : before.Filed) : after.Filed := by
  have pat : after.pat = before.pat := (congrArg TableTracker.pat same :)
  have pmts : after.pmts = before.pmts := (congrArg TableTracker.pmts same :)
  have pmtParts : after.pmtParts = before.pmtParts := (congrArg TableTracker.pmtParts same :)
  obtain ⟨maps, parts⟩ := filed
  constructor
  · rw [pmts]
    simpa only [mapPid?, pat] using maps
  · rw [pmtParts]
    simpa only [mapPid?, pat] using parts

theorem Filed.setCollected (filed : tracker.Filed) (heeded : tracker.Heeds name)
    (parts : Assembly name.Content) : (tracker.setCollected name parts).Filed := by
  cases name with
  | pat => exact ⟨filed.maps, filed.parts⟩
  | cat => exact ⟨filed.maps, filed.parts⟩
  | pmt mapPid program =>
    refine ⟨filed.maps, ?_⟩
    intro otherProgram entry found
    simp only [TableTracker.setCollected, NatMap.get?_insert] at found
    split at found
    · rename_i same
      cases found
      subst same
      exact heeded
    · exact filed.parts otherProgram entry found

theorem Filed.enforce (filed : tracker.Filed) (heeded : tracker.Heeds name)
    (table : name.Content) : (tracker.enforce name table).Filed := by
  cases name with
  | cat => exact ⟨filed.maps, filed.parts⟩
  | pmt mapPid program =>
    refine ⟨?_, filed.parts⟩
    intro otherProgram entry found
    simp only [TableTracker.enforce, NatMap.get?_insert] at found
    split at found
    · rename_i same
      cases found
      subst same
      exact heeded
    · exact filed.maps otherProgram entry found
  | pat =>
    constructor
    all_goals
      intro program entry found
      simp only [TableTracker.enforce, NatMap.get?_filter, Option.filter_eq_some_iff] at found
      exact eq_of_beq found.2

/-! ### One section -/

/-- A section is taken as one of a heeded table, or leaves everything as it is. -/
theorem handleSection_cases (tracker : TableTracker) (pid : Nat) (data : Bytes) :
    (∃ name part, tracker.Heeds name ∧ name.read? pid data = some part ∧
        Taken tracker name part (tracker.handleSection pid data)) ∨
      (∀ name, tracker.Heeds name → name.read? pid data = none) ∧
        (tracker.handleSection pid data).1.live = tracker.live ∧
        (tracker.handleSection pid data).2 = none := by
  by_cases foreign : ∀ name, tracker.Heeds name → name.read? pid data = none
  · right
    obtain ⟨malformed, ignored⟩ := handleSection_ignore foreign
    rw [ignored]
    exact ⟨foreign, rfl, rfl⟩
  · left
    simp only [Classical.not_forall] at foreign
    obtain ⟨name, heeded, read⟩ := foreign
    obtain ⟨part, read⟩ := Option.ne_none_iff_exists'.mp read
    refine ⟨name, part, heeded, read, ?_⟩
    rw [handleSection_take heeded read]
    exact taken tracker name part

theorem Filed.handleSection (filed : tracker.Filed) (pid : Nat) (data : Bytes) :
    (tracker.handleSection pid data).1.Filed := by
  rcases handleSection_cases tracker pid data with ⟨name, part, heeded, read, taken⟩ | ignored
  · have collected : (tracker.collect name part).Filed := filed.setCollected heeded _
    generalize tracker.handleSection pid data = outcome at taken ⊢
    cases taken with
    | collected after same _ => exact filed_live same collected
    | replaced after parts table _ _ _ same =>
      have still : (tracker.collect name part).Heeds name :=
        (heeds_setCollected ..).mpr heeded
      exact filed_live same (collected.enforce still table)
  · exact filed_live ignored.2.1 filed

theorem heeds_of_live (same : after.live = before.live) :
    after.Heeds name ↔ before.Heeds name := by
  rw [← heeds_live after, same, heeds_live]

theorem collected_of_live (same : after.live = before.live) (name : TableName) :
    after.collected name = before.collected name := by
  rw [← collected_live after, same, collected_live]

theorem inForce?_of_live (same : after.live = before.live) (name : TableName) :
    after.inForce? name = before.inForce? name := by
  rw [← inForce?_live after, same, inForce?_live]

section Own

variable {part table : name.Content} {parts : List name.Content}

theorem collected_collect (part : name.Content) :
    (tracker.collect name part).collected name =
      ((tracker.collected name).offer (name.position part) part).1 :=
  collected_setCollected_self _

theorem collected_enforce_self (table : name.Content) :
    (tracker.enforce name table).collected name = tracker.collected name := by
  cases name <;> rfl

/-- A section of a heeded table is added to what is collected of it. -/
theorem handleSection_collected (heeded : tracker.Heeds name)
    (read : name.read? pid data = some part) :
    (tracker.handleSection pid data).1.collected name =
      ((tracker.collected name).offer (name.position part) part).1 := by
  have taken := taken tracker name part
  rw [handleSection_take heeded read]
  generalize tracker.take name part = outcome at taken ⊢
  cases taken with
  | collected after same _ => rw [collected_of_live same, collected_collect]
  | replaced after parts table _ _ _ same =>
    rw [collected_of_live same, collected_enforce_self, collected_collect]

theorem inForce?_collect (part : name.Content) (other : TableName) :
    (tracker.collect name part).inForce? other = tracker.inForce? other :=
  inForce?_setCollected ..

/-- A section that completes a table of another version puts it in force. -/
theorem handleSection_replaces (heeded : tracker.Heeds name)
    (read : name.read? pid data = some part)
    (complete : tracker.offered name part = .ok (some parts))
    (merged : name.merge parts = some table) (replaces : tracker.Replaces name table) :
    (tracker.handleSection pid data).2 = some (name.event (tracker.inForce? name) table) ∧
      (tracker.handleSection pid data).1.live =
        ((tracker.collect name part).enforce name table).live := by
  have taken := taken tracker name part
  rw [handleSection_take heeded read]
  generalize tracker.take name part = outcome at taken ⊢
  cases taken with
  | collected after _ quiet => exact absurd replaces (quiet parts table complete merged)
  | replaced after otherParts otherTable otherComplete otherMerged _ same =>
    cases complete.symm.trans otherComplete
    cases merged.symm.trans otherMerged
    exact ⟨rfl, same⟩

/-- Any other section is only collected. -/
theorem handleSection_quiet (heeded : tracker.Heeds name)
    (read : name.read? pid data = some part)
    (quiet : ∀ parts table, tracker.offered name part = .ok (some parts) →
      name.merge parts = some table → ¬ tracker.Replaces name table) :
    (tracker.handleSection pid data).2 = none ∧
      (tracker.handleSection pid data).1.live = (tracker.collect name part).live := by
  have taken := taken tracker name part
  rw [handleSection_take heeded read]
  generalize tracker.take name part = outcome at taken ⊢
  cases taken with
  | collected after same _ => exact ⟨rfl, same⟩
  | replaced after parts table complete merged replaces _ =>
    exact absurd replaces (quiet parts table complete merged)

end Own

/-! ### Histories -/

/-- The trackers to which sections lead, with the sections received since what was collected was
last discarded. -/
inductive History : List (Nat × Bytes) → TableTracker → Prop where
  | start : History [] {}
  | hear {received : List (Nat × Bytes)} {tracker : TableTracker}
      (history : History received tracker) (pid : Nat) (data : Bytes) :
      History (received ++ [(pid, data)]) (tracker.handleSection pid data).1
  | discard {received : List (Nat × Bytes)} {tracker : TableTracker}
      (history : History received tracker) : History [] tracker.discardPartial

theorem History.filed {received : List (Nat × Bytes)} (history : History received tracker) :
    tracker.Filed := by
  induction history with
  | start => exact ⟨(fun _ _ found => by cases found), fun _ _ found => by cases found⟩
  | hear history pid data ih => exact ih.handleSection pid data
  | discard history ih => exact ⟨ih.maps, fun _ _ found => by cases found⟩

/-- A section of a table was received, on the table's PID. -/
def Received (received : List (Nat × Bytes)) (name : TableName) (part : name.Content) : Prop :=
  ∃ heard ∈ received, name.read? heard.1 heard.2 = some part

theorem Received.append {received : List (Nat × Bytes)} {part : name.Content}
    (heard : Received received name part) (more : List (Nat × Bytes)) :
    Received (received ++ more) name part := by
  obtain ⟨entry, member, read⟩ := heard
  exact ⟨entry, List.mem_append_left _ member, read⟩

theorem Received.last {received : List (Nat × Bytes)} {part : name.Content}
    (read : name.read? pid data = some part) :
    Received (received ++ [(pid, data)]) name part :=
  ⟨(pid, data), List.mem_append_right _ List.mem_cons_self, read⟩

/-- What is collected of each heeded table was received, and is of one version. -/
def Gathers (received : List (Nat × Bytes)) (tracker : TableTracker) : Prop :=
  ∀ name, tracker.Heeds name →
    Assembly.Gathers name.position (Received received name) (tracker.collected name)

theorem Gathers.of_live {received : List (Nat × Bytes)} (gathers : Gathers received before)
    (same : after.live = before.live) : Gathers received after := by
  intro name heeded
  rw [collected_of_live same]
  exact gathers name ((heeds_of_live same).mp heeded)

theorem Gathers.append {received : List (Nat × Bytes)} (gathers : Gathers received tracker)
    (more : List (Nat × Bytes)) : Gathers (received ++ more) tracker :=
  fun name heeded => (gathers name heeded).mono fun _ heard => heard.append more

/-- What is not announced is not collected either. -/
theorem Filed.collected_unheeded (filed : tracker.Filed) (unheeded : ¬ tracker.Heeds name) :
    (tracker.collected name).parts.isEmpty = true := by
  cases name with
  | pat => exact absurd trivial unheeded
  | cat => exact absurd trivial unheeded
  | pmt mapPid program =>
    rw [collected, partsOn]
    split
    · rfl
    · rename_i otherPid parts found
      have announced := filed.parts program _ found
      split
      · rename_i here
        exact absurd (here ▸ announced) unheeded
      · rfl

theorem Gathers.collect {received : List (Nat × Bytes)} {part : name.Content}
    (gathers : Gathers received tracker) (heeded : tracker.Heeds name)
    (read : name.read? pid data = some part) :
    Gathers (received ++ [(pid, data)]) (tracker.collect name part) := by
  intro other otherHeeded
  have otherBefore : tracker.Heeds other := (heeds_setCollected ..).mp otherHeeded
  have wider := gathers.append [(pid, data)] other otherBefore
  by_cases same : other = name
  · subst same
    rw [TableTracker.collect, collected_setCollected_self]
    exact Assembly.offer_gathers wider (TableName.number_le_last read) (Received.last read)
  · rw [TableTracker.collect, collected_setCollected_ne _ heeded otherBefore same]
    exact wider

theorem Gathers.enforce {received : List (Nat × Bytes)} (gathers : Gathers received tracker)
    (filed : tracker.Filed) (table : name.Content) :
    Gathers received (tracker.enforce name table) := by
  intro other heeded
  rw [collected_enforce table heeded]
  by_cases before : tracker.Heeds other
  · exact gathers other before
  · exact Assembly.gathers_of_isEmpty (filed.collected_unheeded before)

/-- One more section keeps all that is collected accounted for. -/
theorem Gathers.handleSection {received : List (Nat × Bytes)} (gathers : Gathers received tracker)
    (filed : tracker.Filed) (pid : Nat) (data : Bytes) :
    Gathers (received ++ [(pid, data)]) (tracker.handleSection pid data).1 := by
  rcases handleSection_cases tracker pid data with
    ⟨name, part, heeded, read, taken⟩ | ⟨_, same, _⟩
  · have collected := gathers.collect heeded read
    have filed : (tracker.collect name part).Filed := filed.setCollected heeded _
    generalize tracker.handleSection pid data = outcome at taken ⊢
    cases taken with
    | collected after same _ => exact collected.of_live same
    | replaced after parts table _ _ _ same =>
      exact (collected.enforce filed table).of_live same
  · exact (gathers.append _).of_live same

/-- Once what is collected is discarded, nothing has to be accounted for. -/
theorem gathers_discardPartial (tracker : TableTracker) : Gathers [] tracker.discardPartial := by
  intro name _
  exact Assembly.gathers_of_isEmpty (by cases name <;> rfl)

theorem History.gathers {received : List (Nat × Bytes)} (history : History received tracker) :
    Gathers received tracker := by
  induction history with
  | start =>
    intro name _
    exact Assembly.gathers_of_isEmpty (by cases name <;> rfl)
  | discard history ih => exact gathers_discardPartial _
  | hear history pid data ih => exact ih.handleSection history.filed pid data

theorem Received.owns {received : List (Nat × Bytes)} {part : name.Content}
    (heard : Received received name part) : name.owns part = true := by
  obtain ⟨_, _, read⟩ := heard
  exact (TableName.read?_eq_some_iff.mp read).2.2

section Events

variable {received : List (Nat × Bytes)} {part table : name.Content} {parts : List name.Content}

/-- What a section completes was received in full, in the version of that section. -/
theorem Gathers.offered (gathers : Gathers received tracker) (heeded : tracker.Heeds name)
    (read : name.read? pid data = some part)
    (complete : tracker.offered name part = .ok (some parts)) :
    parts.map (fun part => (name.position part).number) =
        List.range ((name.position part).last + 1) ∧
      ∀ other ∈ parts, Received (received ++ [(pid, data)]) name other ∧
        (name.position other).version = (name.position part).version ∧
        (name.position other).currentNext = (name.position part).currentNext ∧
        (name.position other).last = (name.position part).last :=
  Assembly.complete_parts (gathers.append [(pid, data)] name heeded)
    (TableName.number_le_last read) (Received.last read) complete

/-- What an event tells: the table that came into force is joined from received sections, one for
every number up to the last, all of one version that applies now. It lists what they list, in the
order of their numbers, and its version is another than the one of the table replaced. -/
structure Assembled (received : List (Nat × Bytes)) (before after : TableTracker)
    (name : TableName) (event : TableEvent) (parts : List name.Content) (table : name.Content) :
    Prop where
  reported : event = name.event (before.inForce? name) table
  applied : after.inForce? name = some table
  joined : name.merge parts = some table
  content : name.Joins parts table
  complete : Assembly.IsVersion name.position (name.position table).version
    (name.position table).last parts
  received : ∀ part ∈ parts, Received received name part
  differs : ∀ old, before.inForce? name = some old →
    (name.position old).version ≠ (name.position table).version

theorem History.replaced (history : History received tracker) (heeded : tracker.Heeds name)
    (read : name.read? pid data = some part)
    (complete : tracker.offered name part = .ok (some parts))
    (merged : name.merge parts = some table) (replaces : tracker.Replaces name table)
    (same : after.live = ((tracker.collect name part).enforce name table).live) :
    Assembled (received ++ [(pid, data)]) tracker after name
      (name.event (tracker.inForce? name) table) parts table := by
  obtain ⟨numbers, agree⟩ := history.gathers.offered heeded read complete
  obtain ⟨first, member, placed, _⟩ := TableName.merge_facts merged
  obtain ⟨_, version, current, last⟩ := agree first member
  have tableVersion : (name.position table).version = (name.position part).version := by
    rw [placed]
    exact version
  have tableCurrent : (name.position table).currentNext = (name.position part).currentNext := by
    rw [placed]
    exact current
  have tableLast : (name.position table).last = (name.position part).last := by
    rw [placed]
    exact last
  exact {
    reported := rfl
    applied := by rw [inForce?_of_live same, inForce?_enforce_self]
    joined := merged
    content := TableName.merge_joins numbers merged
    complete := by
      rw [tableVersion, tableLast]
      refine ⟨numbers, fun other listed => ?_⟩
      obtain ⟨_, version, current, last⟩ := agree other listed
      exact ⟨version, (current.trans tableCurrent.symm).trans replaces.1, last⟩
    received := fun other listed => (agree other listed).1
    differs := replaces.2 }

/-- Every event reports a table that was received in full. -/
theorem History.assembled {event : TableEvent} (history : History received tracker)
    (happened : (tracker.handleSection pid data).2 = some event) :
    ∃ name parts table, Assembled (received ++ [(pid, data)]) tracker
      (tracker.handleSection pid data).1 name event parts table := by
  rcases handleSection_cases tracker pid data with
    ⟨name, part, heeded, read, taken⟩ | ⟨_, _, silent⟩
  · generalize tracker.handleSection pid data = outcome at taken happened ⊢
    cases taken with
    | collected after _ _ => cases happened
    | replaced after parts table complete merged replaces same =>
      cases happened
      exact ⟨name, parts, table,
        history.replaced heeded read complete merged replaces same⟩
  · rw [silent] at happened
    cases happened

end Events

end TableTracker

end TransportStream
