import TransportStream.Proofs.MapPids

/-!
How a tracker keeps its tables, whatever it is given. Tables in force apply now and those held for
later do not, maps are kept only for programs that the association table in force announces, and
the count of replaced tables is that of the events that name the table they replace.
-/
namespace TransportStream

/-- Whether an event reports a table that took the place of another. -/
def TableEvent.replaces : TableEvent → Bool
  | .pat previous _ => previous.isSome
  | .pmt _ previous _ => previous.isSome
  | .cat previous _ => previous.isSome

theorem TableName.replaces_event (name : TableName) (previous : Option name.Content)
    (table : name.Content) : (name.event previous table).replaces = previous.isSome := by
  cases name <;> rfl

/-- What a tracker can be asked to do. -/
inductive TableCall where
  | hear (pid : Nat) (data : Bytes)
  | discard
  deriving DecidableEq, Repr

namespace TableTracker

/-- Does what a call asks. -/
def perform (tracker : TableTracker) : TableCall → TableTracker × Option TableEvent
  | .hear pid data => tracker.handleSection pid data
  | .discard => (tracker.discardPartial, none)

/-- Answers calls in turn, and gives the events in the order in which they happen. -/
def performAll (tracker : TableTracker) : List TableCall → TableTracker × List TableEvent
  | [] => (tracker, [])
  | call :: calls =>
    let (between, event) := tracker.perform call
    let (after, events) := between.performAll calls
    (after, event.toList ++ events)

/-- The sections that calls bring, with their PIDs. -/
def heard (calls : List TableCall) : List (Nat × Bytes) :=
  calls.filterMap fun
    | .hear pid data => some (pid, data)
    | .discard => none

/-- The table that is held for later. -/
def held? (tracker : TableTracker) : (name : TableName) → Option name.Content
  | .pat => tracker.nextPat
  | .cat => tracker.nextCat
  | .pmt _ program => tracker.nextPmt? program

variable {tracker : TableTracker} {name other : TableName} {pid : Nat} {data : Bytes}
  {part table : name.Content} {received : List (Nat × Bytes)}

/-! ### What taking a section does to every field -/

/-- What becomes of a section of a table: it is collected; it completes a table that is held for
later; or it completes one that comes into force. -/
inductive Disposed (tracker : TableTracker) (name : TableName) (part : name.Content) :
    TableTracker × Option TableEvent → Prop where
  | collected (malformed : Nat) :
      Disposed tracker name part ({ tracker.collect name part with malformed }, none)
  | held (parts : List name.Content) (table : name.Content)
      (complete : tracker.offered name part = .ok (some parts))
      (merged : name.merge parts = some table)
      (later : (name.position table).currentNext = false) :
      Disposed tracker name part ((tracker.collect name part).hold name table, none)
  | replaced (parts : List name.Content) (table : name.Content)
      (complete : tracker.offered name part = .ok (some parts))
      (merged : name.merge parts = some table)
      (current : (name.position table).currentNext = true) :
      Disposed tracker name part ((tracker.collect name part).replace name table,
        some (name.event (tracker.inForce? name) table))

theorem disposed (tracker : TableTracker) (name : TableName) (part : name.Content) :
    Disposed tracker name part (tracker.take name part) := by
  rw [take]
  cases offered : (tracker.collected name).offer (name.position part) part with
  | mk parts result =>
    have collect_eq : tracker.setCollected name parts = tracker.collect name part := by
      rw [collect, offered]
    have offered_eq : tracker.offered name part = result := by rw [TableTracker.offered, offered]
    dsimp only
    rw [collect_eq]
    cases result with
    | error error => exact .collected _
    | ok complete =>
      cases complete with
      | none => exact .collected (tracker.collect name part).malformed
      | some all =>
        dsimp only
        cases merged : name.merge all with
        | none => exact .collected (tracker.collect name part).malformed
        | some table =>
          dsimp only
          rw [complete_eq, inForce?_collect]
          split
          · rename_i later
            exact .held all table offered_eq merged (by simpa using later)
          · rename_i current
            split
            · exact .collected (tracker.collect name part).malformed
            · exact .replaced all table offered_eq merged (by simpa using current)

/-! ### Tables in force and tables held -/

/-- Tables in force apply now; those held for later do not, and a map is held for an announced
program only. -/
structure Standing (tracker : TableTracker) : Prop where
  inForce : ∀ name table, tracker.inForce? name = some table →
    (name.position table).currentNext = true
  held : ∀ name table, tracker.held? name = some table →
    (name.position table).currentNext = false ∧ name.owns table = true
  announced : ∀ program pmt, tracker.nextPmt? program = some pmt →
    ∃ mapPid, tracker.mapPid? program = some mapPid

theorem standing_empty : ({} : TableTracker).Standing where
  inForce := fun name _ found => by cases name <;> cases found
  held := fun name _ found => by cases name <;> cases found
  announced := fun _ _ found => by cases found

theorem Standing.collect (standing : tracker.Standing) (part : name.Content) :
    (tracker.collect name part).Standing where
  inForce := fun other table found => by
    rw [inForce?_collect] at found
    exact standing.inForce other table found
  held := by cases name <;> exact standing.held
  announced := by cases name <;> exact standing.announced

/-- A map of a heeded table may be held, for its program is announced. -/
theorem Standing.hold (standing : tracker.Standing) (heeded : tracker.Heeds name)
    (later : (name.position table).currentNext = false) (owned : name.owns table = true) :
    (tracker.hold name table).Standing := by
  cases name with
  | pat =>
    refine ⟨standing.inForce, fun other next found => ?_, standing.announced⟩
    cases other with
    | pat =>
      cases found
      exact ⟨later, owned⟩
    | cat => exact standing.held .cat next found
    | pmt mapPid program => exact standing.held (.pmt mapPid program) next found
  | cat =>
    refine ⟨standing.inForce, fun other next found => ?_, standing.announced⟩
    cases other with
    | cat =>
      cases found
      exact ⟨later, owned⟩
    | pat => exact standing.held .pat next found
    | pmt mapPid program => exact standing.held (.pmt mapPid program) next found
  | pmt mapPid program =>
    refine ⟨standing.inForce, fun other next found => ?_, fun otherProgram next found => ?_⟩
    · cases other with
      | pat => exact standing.held .pat next found
      | cat => exact standing.held .cat next found
      | pmt otherPid otherProgram =>
        simp only [held?, nextPmt?, TableTracker.hold, NatMap.get?_insert] at found
        split at found
        · rename_i same
          cases found
          subst same
          exact ⟨later, owned⟩
        · exact standing.held (.pmt otherPid otherProgram) next found
    · simp only [nextPmt?, TableTracker.hold, NatMap.get?_insert] at found
      split at found
      · rename_i same
        subst same
        exact ⟨mapPid, heeded⟩
      · exact standing.announced otherProgram next found

/-- A table that comes into force takes no other one up for later. -/
theorem held?_of_replace {table : name.Content} {next : other.Content}
    (found : (tracker.replace name table).held? other = some next) :
    tracker.held? other = some next := by
  cases name with
  | pat =>
    obtain ⟨_, counted⟩ := tracker.countReplaced_eq tracker.pat
    cases other with
    | cat => simpa [replace, replacePat, counted, held?] using found
    | pat =>
      simp only [replace, replacePat, held?] at found
      split at found
      · cases found
      · exact found
    | pmt mapPid program =>
      simp only [replace, replacePat, held?, nextPmt?, NatMap.get?_filter,
        Option.filter_eq_some_iff] at found
      exact found.1
  | cat =>
    obtain ⟨_, counted⟩ := tracker.countReplaced_eq tracker.cat
    cases other with
    | cat => simp [replace, replaceCat, held?] at found
    | pat => simpa [replace, replaceCat, counted, held?] using found
    | pmt mapPid program => simpa [replace, replaceCat, counted, held?, nextPmt?] using found
  | pmt mapPid program =>
    obtain ⟨_, counted⟩ := tracker.countReplaced_eq (tracker.pmt? program)
    cases other with
    | cat => simpa [replace, replacePmt, counted, held?] using found
    | pat => simpa [replace, replacePmt, counted, held?] using found
    | pmt otherPid otherProgram =>
      have kept : ∀ superseded : Bool,
          (if superseded then tracker.nextPmts.erase program else tracker.nextPmts).get?
            otherProgram = some next → tracker.nextPmts.get? otherProgram = some next := by
        intro superseded found
        cases superseded with
        | false => exact found
        | true =>
          rw [if_pos rfl, NatMap.get?_erase] at found
          split at found
          · cases found
          · exact found
      exact kept _ found

theorem inForce?_replace (table : name.Content) (other : TableName) :
    (tracker.replace name table).inForce? other = (tracker.enforce name table).inForce? other := by
  rw [← inForce?_live, live_replace, inForce?_live]

/-- Of a table that comes into force and those that were, every one applies now. -/
theorem Standing.current_of_enforce {next : other.Content} (standing : tracker.Standing)
    (current : (name.position table).currentNext = true)
    (found : (tracker.enforce name table).inForce? other = some next) :
    (other.position next).currentNext = true := by
  cases name with
  | pat =>
    cases other with
    | pat =>
      cases found
      exact current
    | cat => exact standing.inForce .cat next found
    | pmt mapPid program =>
      simp only [inForce?, pmt?, TableTracker.enforce, NatMap.get?_filter] at found
      obtain ⟨entry, kept, same⟩ := Option.map_eq_some_iff.mp found
      rw [Option.filter_eq_some_iff] at kept
      refine standing.inForce (.pmt mapPid program) next ?_
      rw [inForce?, pmt?, kept.1, ← same]
      rfl
  | cat =>
    cases other with
    | cat =>
      cases found
      exact current
    | pat => exact standing.inForce .pat next found
    | pmt mapPid program => exact standing.inForce (.pmt mapPid program) next found
  | pmt mapPid program =>
    cases other with
    | pat => exact standing.inForce .pat next found
    | cat => exact standing.inForce .cat next found
    | pmt otherPid otherProgram =>
      simp only [inForce?, pmt?, TableTracker.enforce, NatMap.get?_insert] at found
      split at found
      · cases found
        exact current
      · exact standing.inForce (.pmt otherPid otherProgram) next found

theorem Standing.replace (standing : tracker.Standing)
    (current : (name.position table).currentNext = true) :
    (tracker.replace name table).Standing where
  inForce := fun other next found => by
    rw [inForce?_replace] at found
    exact standing.current_of_enforce current found
  held := fun other next found => standing.held other next (held?_of_replace found)
  announced := fun program pmt found => by
    have before : tracker.held? (.pmt 0 program) = some pmt := held?_of_replace found
    obtain ⟨mapPid, announced⟩ := standing.announced program pmt before
    cases name with
    | pat =>
      -- The new table keeps the maps held for programs that it announces.
      simp only [nextPmt?, TableTracker.replace, replacePat, NatMap.get?_filter,
        Option.filter_eq_some_iff] at found
      exact Option.isSome_iff_exists.mp found.2
    | cat =>
      obtain ⟨_, counted⟩ := tracker.countReplaced_eq tracker.cat
      refine ⟨mapPid, ?_⟩
      simpa [TableTracker.replace, replaceCat, counted, mapPid?] using announced
    | pmt otherPid otherProgram =>
      obtain ⟨_, counted⟩ := tracker.countReplaced_eq (tracker.pmt? otherProgram)
      refine ⟨mapPid, ?_⟩
      simpa [TableTracker.replace, replacePmt, counted, mapPid?] using announced

/-! ### Counting replaced tables -/

theorem versionChanges_collect (part : name.Content) :
    (tracker.collect name part).versionChanges = tracker.versionChanges := by
  cases name <;> rfl

theorem versionChanges_hold (table : name.Content) :
    (tracker.hold name table).versionChanges = tracker.versionChanges := by
  cases name <;> rfl

theorem versionChanges_countReplaced {α : Type} (previous : Option α) :
    (tracker.countReplaced previous).versionChanges =
      tracker.versionChanges + previous.isSome.toNat := by
  cases previous <;> rfl

theorem versionChanges_replace (table : name.Content) :
    (tracker.replace name table).versionChanges =
      tracker.versionChanges + (tracker.inForce? name).isSome.toNat := by
  cases name <;> exact versionChanges_countReplaced _

/-! ### One section -/

/-- A section keeps tables where they belong, and is counted if its event names a table that it
replaces. -/
theorem Standing.handleSection (standing : tracker.Standing) (past : Past received tracker)
    (pid : Nat) (data : Bytes) :
    (tracker.handleSection pid data).1.Standing ∧
      (tracker.handleSection pid data).1.versionChanges = tracker.versionChanges +
        (tracker.handleSection pid data).2.toList.countP TableEvent.replaces := by
  by_cases foreign : ∀ name, tracker.Heeds name → name.read? pid data = none
  · obtain ⟨malformed, ignored⟩ := handleSection_ignore foreign
    rw [ignored]
    exact ⟨⟨standing.inForce, standing.held, standing.announced⟩, rfl⟩
  · simp only [Classical.not_forall] at foreign
    obtain ⟨name, heeded, read⟩ := foreign
    obtain ⟨part, read⟩ := Option.ne_none_iff_exists'.mp read
    have collected := standing.collect part
    have disposed := disposed tracker name part
    rw [handleSection_take heeded read]
    generalize tracker.take name part = outcome at disposed ⊢
    cases disposed with
    | collected malformed =>
      exact ⟨⟨collected.inForce, collected.held, collected.announced⟩,
        versionChanges_collect part⟩
    | held parts table complete merged later =>
      obtain ⟨recent, _, history⟩ := past.history
      obtain ⟨first, member, _, owner⟩ := TableName.merge_facts merged
      have owned := ((history.gathers.offered heeded read complete).2 first member).1.owns
      have still : (tracker.collect name part).Heeds name := (heeds_setCollected ..).mpr heeded
      exact ⟨collected.hold still later (owner.trans owned),
        (versionChanges_hold table).trans (versionChanges_collect part)⟩
    | replaced parts table complete merged current =>
      refine ⟨collected.replace current, ?_⟩
      rw [versionChanges_replace, versionChanges_collect, inForce?_collect, Option.toList_some,
        List.countP_singleton, name.replaces_event]
      cases tracker.inForce? name <;> rfl

/-! ### Whole runs -/

/-- How tables are kept after calls that led to these events. Of each map in force, sections of
every number were received on the PID that is announced for its program. -/
structure Kept (calls : List TableCall) (events : List TableEvent) (tracker : TableTracker) :
    Prop where
  maps : ∀ program mapPid pmt, tracker.pmts.get? program = some (mapPid, pmt) →
    pmt.program = program ∧ pmt.currentNext = true ∧ tracker.mapPid? program = some mapPid ∧
      ∃ parts, Joined (heard calls) (.pmt mapPid program) pmt parts
  pat : ∀ pat, tracker.pat = some pat → pat.currentNext = true
  cat : ∀ cat, tracker.cat = some cat → cat.currentNext = true
  nextPat : ∀ pat, tracker.nextPat = some pat → pat.currentNext = false
  nextCat : ∀ cat, tracker.nextCat = some cat → cat.currentNext = false
  nextMaps : ∀ program pmt, tracker.nextPmts.get? program = some pmt →
    pmt.program = program ∧ pmt.currentNext = false ∧
      ∃ mapPid, tracker.mapPid? program = some mapPid
  unannounced : tracker.pat = none →
    tracker.pmts.isEmpty = true ∧ tracker.nextPmts.isEmpty = true
  versionChanges : tracker.versionChanges = events.countP TableEvent.replaces

/-- What calls bring is received after what was before, and replaced tables are counted on. -/
theorem performAll_standing (past : Past received tracker) (standing : tracker.Standing)
    (calls : List TableCall) :
    Past (received ++ heard calls) (tracker.performAll calls).1 ∧
      (tracker.performAll calls).1.Standing ∧
      (tracker.performAll calls).1.versionChanges =
        tracker.versionChanges + (tracker.performAll calls).2.countP TableEvent.replaces := by
  induction calls generalizing received tracker with
  | nil =>
    rw [heard, List.filterMap_nil, List.append_nil]
    exact ⟨past, standing, rfl⟩
  | cons call calls ih =>
    cases call with
    | hear pid data =>
      obtain ⟨still, counted⟩ := standing.handleSection past pid data
      obtain ⟨further, after, total⟩ := ih (past.hear pid data) still
      rw [List.append_assoc] at further
      refine ⟨further, after, ?_⟩
      simp only [performAll, perform, List.countP_append]
      rw [total, counted, Nat.add_assoc]
    | discard =>
      have still : tracker.discardPartial.Standing :=
        ⟨standing.inForce, standing.held, standing.announced⟩
      exact ih past.discard still

theorem mapPid?_of_no_pat (absent : tracker.pat = none) (program : Nat) :
    tracker.mapPid? program = none := by
  rw [mapPid?, absent]
  rfl

/-- Whatever a tracker is given, in whatever order: a map in force under a program is about it,
applies now, and came on the PID that the association table in force announces for it; tables in
force apply now and those held for later do not; maps are held for announced programs only; and
the replaced tables are counted. -/
theorem performAll_kept (calls : List TableCall) :
    Kept calls (({} : TableTracker).performAll calls).2
      (({} : TableTracker).performAll calls).1 := by
  obtain ⟨past, standing, counted⟩ := performAll_standing Past.start standing_empty calls
  rw [List.nil_append] at past
  generalize (({} : TableTracker).performAll calls).1 = tracker at past standing counted ⊢
  obtain ⟨recent, _, history⟩ := past.history
  have filed := history.filed
  exact {
    maps := fun program mapPid pmt found => by
      obtain ⟨parts, joined⟩ := past.allJoined program (mapPid, pmt) found
      have inForce : tracker.inForce? (.pmt mapPid program) = some pmt := by
        rw [inForce?, pmt?, found]
        rfl
      obtain ⟨first, member, _, owner⟩ := TableName.merge_facts joined.merged
      have owned := owner.trans (joined.received first member).owns
      exact ⟨eq_of_beq owned, standing.inForce (.pmt mapPid program) pmt inForce,
        filed.maps program (mapPid, pmt) found, parts, joined⟩
    pat := standing.inForce .pat
    cat := standing.inForce .cat
    nextPat := fun pat held => (standing.held .pat pat held).1
    nextCat := fun cat held => (standing.held .cat cat held).1
    nextMaps := fun program pmt held => by
      obtain ⟨later, owned⟩ := standing.held (.pmt 0 program) pmt held
      exact ⟨eq_of_beq owned, later, standing.announced program pmt held⟩
    unannounced := fun absent => by
      constructor
      · refine (NatMap.isEmpty_iff _).mpr fun program => ?_
        cases found : tracker.pmts.get? program with
        | none => rfl
        | some entry =>
          cases (filed.maps program entry found).symm.trans (mapPid?_of_no_pat absent program)
      · refine (NatMap.isEmpty_iff _).mpr fun program => ?_
        cases found : tracker.nextPmts.get? program with
        | none => rfl
        | some pmt =>
          obtain ⟨mapPid, announced⟩ := standing.announced program pmt found
          cases announced.symm.trans (mapPid?_of_no_pat absent program)
    versionChanges := by simpa using counted }

end TableTracker

end TransportStream
