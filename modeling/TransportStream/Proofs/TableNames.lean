import TransportStream.Table.Tracker

/-!
The three kinds of table go one way: a section is read, added to what is collected, and a
complete table may come into force. Here a table has a name, and the name tells how each step
is made.
-/
namespace TransportStream

/-- The tables of a stream: the association table, the conditional access table, and the map of
a program on a PID. -/
inductive TableName where
  | pat
  | cat
  | pmt (mapPid program : Nat)
  deriving DecidableEq, Repr

namespace TableName

/-- What a table, or one section of it, says. -/
abbrev Content : TableName → Type
  | .pat => Pat
  | .cat => Cat
  | .pmt _ _ => Pmt

/-- The PID on which a table travels. -/
def pid : TableName → Nat
  | .pat => patPid
  | .cat => catPid
  | .pmt mapPid _ => mapPid

def position : (name : TableName) → name.Content → SectionPosition
  | .pat, part => part.toSectionPosition
  | .cat, part => part.toSectionPosition
  | .pmt _ _, part => part.toSectionPosition

def parse : (name : TableName) → Bytes → Except Error name.Content
  | .pat, data => Pat.parse data
  | .cat, data => Cat.parse data
  | .pmt _ _, data => Pmt.parse data

/-- Whether a section is about the program of this table. -/
def owns : (name : TableName) → name.Content → Bool
  | .pat, _ => true
  | .cat, _ => true
  | .pmt _ program, part => part.program == program

/-- A section that was received on a PID, read as one of this table. -/
def read? (name : TableName) (pid : Nat) (data : Bytes) : Option name.Content :=
  if pid = name.pid then (name.parse data).toOption.filter name.owns else none

def merge : (name : TableName) → List name.Content → Option name.Content
  | .pat, parts => Pat.merge parts
  | .cat, parts => Cat.merge parts
  | .pmt _ _, parts => Pmt.merge parts

/-- What the loops of a table list that is joined from these sections: what the sections list, one
behind another. The network PID is that of the first section that has one. -/
def Lists : (name : TableName) → List name.Content → name.Content → Prop
  | .pat, parts, table =>
    table.programs = parts.flatMap (·.programs) ∧
      table.networkPid = parts.findSome? (·.networkPid)
  | .cat, parts, table => table.descriptors = parts.flatMap (·.descriptors)
  | .pmt _ _, parts, table =>
    table.descriptors = parts.flatMap (·.descriptors) ∧
      table.streams = parts.flatMap (·.streams)

/-- Whether two tables say the same before their loops. -/
def SameHead : (name : TableName) → name.Content → name.Content → Prop
  | .pat, first, table => table.streamId = first.streamId
  | .cat, _, _ => True
  | .pmt _ _, first, table => table.program = first.program ∧ table.pcrPid = first.pcrPid

/-- A table that is joined from sections, these being in the order of their numbers: it lists what
they list, under what the first of them says. -/
structure Joins (name : TableName) (parts : List name.Content) (table : name.Content) : Prop where
  lists : name.Lists parts table
  head : ∃ first, parts.head? = some first ∧ name.SameHead first table ∧
    name.position table = { name.position first with number := 0 }

/-- The event that reports a table. -/
def event : (name : TableName) → Option name.Content → name.Content → TableEvent
  | .pat, previous, current => .pat previous current
  | .cat, previous, current => .cat previous current
  | .pmt mapPid _, previous, current => .pmt mapPid previous current

/-- Whether an event reports this table. -/
def isReportedBy : TableName → TableEvent → Bool
  | .pat, .pat _ _ => true
  | .cat, .cat _ _ => true
  | .pmt mapPid program, .pmt otherPid _ current =>
    otherPid == mapPid && current.program == program
  | _, _ => false

end TableName

/-! ### Reading sections -/

theorem LongSection.parse_facts {data : Bytes} {part : LongSection}
    (parsed : LongSection.parse data = .ok part) :
    data.head? = some part.tableId ∧ part.number ≤ part.last := by
  unfold LongSection.parse at parsed
  split at parsed
  · dsimp only at parsed
    split at parsed
    · cases parsed
    · split at parsed
      · cases parsed
      · split at parsed
        · cases parsed
        · split at parsed
          · cases parsed
          · rename_i ordered
            cases parsed
            exact ⟨rfl, Nat.le_of_not_lt ordered⟩
  · cases parsed

theorem Pat.parse_header {data : Bytes} {part : Pat} (parsed : Pat.parse data = .ok part) :
    ∃ header, LongSection.parse data = .ok header ∧ header.tableId = Pat.tableId ∧
      part.toSectionPosition = header.toSectionPosition := by
  simp only [Pat.parse, Error.bind_eq_ok, Error.check_eq_ok] at parsed
  obtain ⟨header, headed, known, _, _, _, rest⟩ := parsed
  cases rest
  exact ⟨header, headed, Decidable.not_not.mp known, rfl⟩

theorem Cat.parse_header {data : Bytes} {part : Cat} (parsed : Cat.parse data = .ok part) :
    ∃ header, LongSection.parse data = .ok header ∧ header.tableId = Cat.tableId ∧
      part.toSectionPosition = header.toSectionPosition := by
  simp only [Cat.parse, Error.bind_eq_ok, Error.check_eq_ok] at parsed
  obtain ⟨header, headed, known, _, _, rest⟩ := parsed
  cases rest
  exact ⟨header, headed, Decidable.not_not.mp known, rfl⟩

theorem Pmt.parse_header {data : Bytes} {part : Pmt} (parsed : Pmt.parse data = .ok part) :
    ∃ header, LongSection.parse data = .ok header ∧ header.tableId = Pmt.tableId ∧
      part.toSectionPosition = header.toSectionPosition ∧ part.program = header.extension := by
  simp only [Pmt.parse, Error.bind_eq_ok, Error.check_eq_ok] at parsed
  obtain ⟨header, headed, known, body⟩ := parsed
  split at body
  · obtain ⟨_, _, rest⟩ := Error.bind_eq_ok.mp body
    cases rest
    exact ⟨header, headed, Decidable.not_not.mp known, rfl, rfl⟩
  · cases body

namespace TableName

variable {name : TableName} {pid : Nat} {data : Bytes} {part : name.Content}

def tableId : TableName → UInt8
  | .pat => Pat.tableId
  | .cat => Cat.tableId
  | .pmt _ _ => Pmt.tableId

theorem parse_header (parsed : name.parse data = .ok part) :
    ∃ header, LongSection.parse data = .ok header ∧ header.tableId = name.tableId ∧
      name.position part = header.toSectionPosition := by
  cases name with
  | pat => exact Pat.parse_header parsed
  | cat => exact Cat.parse_header parsed
  | pmt mapPid program =>
    obtain ⟨header, read, known, placed, _⟩ := Pmt.parse_header parsed
    exact ⟨header, read, known, placed⟩

theorem read?_eq_some_iff : name.read? pid data = some part ↔
    pid = name.pid ∧ name.parse data = .ok part ∧ name.owns part = true := by
  rw [read?]
  split
  · rename_i here
    rw [Option.filter_eq_some_iff]
    cases parsed : name.parse data with
    | error error => simp [Except.toOption]
    | ok other =>
      simp only [Except.toOption, Option.some.injEq, Except.ok.injEq, here, true_and]
  · rename_i elsewhere
    simp [elsewhere]

theorem number_le_last (read : name.read? pid data = some part) :
    (name.position part).number ≤ (name.position part).last := by
  obtain ⟨_, parsed, _⟩ := read?_eq_some_iff.mp read
  obtain ⟨header, headed, _, placed⟩ := parse_header parsed
  rw [placed]
  exact (LongSection.parse_facts headed).2

/-- Whether a section stands before another: it does if its number is not higher. -/
def stands (name : TableName) (left right : name.Content) : Bool :=
  decide ((name.position left).number ≤ (name.position right).number)

/-- Sections are joined in the order of their numbers. Only no sections at all make no table. -/
theorem merge_spec (name : TableName) (parts : List name.Content) :
    parts = [] ∧ name.merge parts = none ∨
      ∃ table, name.merge parts = some table ∧
        name.Joins (parts.mergeSort name.stands) table := by
  have length : (parts.mergeSort name.stands).length = parts.length := List.length_mergeSort parts
  generalize ordered : parts.mergeSort name.stands = sorted at length
  cases sorted with
  | nil =>
    cases List.eq_nil_of_length_eq_zero length.symm
    refine .inl ⟨rfl, ?_⟩
    cases name <;> simp [merge, Pat.merge, Cat.merge, Pmt.merge]
  | cons first rest =>
    right
    cases name with
    | pat =>
      have ordered : parts.mergeSort (fun left right : Pat => left.number ≤ right.number) =
        first :: rest := ordered
      rw [merge, Pat.merge, ordered]
      exact ⟨_, rfl, ⟨rfl, rfl⟩, first, rfl, rfl, rfl⟩
    | cat =>
      have ordered : parts.mergeSort (fun left right : Cat => left.number ≤ right.number) =
        first :: rest := ordered
      rw [merge, Cat.merge, ordered]
      exact ⟨_, rfl, rfl, first, rfl, trivial, rfl⟩
    | pmt mapPid program =>
      have ordered : parts.mergeSort (fun left right : Pmt => left.number ≤ right.number) =
        first :: rest := ordered
      rw [merge, Pmt.merge, ordered]
      exact ⟨_, rfl, ⟨rfl, rfl⟩, first, rfl, ⟨rfl, rfl⟩, rfl⟩

/-- Sections that are in the order of their numbers are joined as they stand. -/
theorem merge_joins {parts : List name.Content} {table : name.Content} {count : Nat}
    (numbered : parts.map (fun part => (name.position part).number) = List.range count)
    (merged : name.merge parts = some table) : name.Joins parts table := by
  have ascending : (parts.map (fun part => (name.position part).number)).Pairwise (· ≤ ·) := by
    rw [numbered]
    exact List.pairwise_lt_range.imp Nat.le_of_lt
  have sorted : parts.Pairwise (fun left right => name.stands left right = true) :=
    (List.pairwise_map.mp ascending).imp decide_eq_true
  obtain ⟨_, unmerged⟩ | ⟨other, joined, joins⟩ := merge_spec name parts
  · cases unmerged.symm.trans merged
  · cases joined.symm.trans merged
    rwa [List.mergeSort_of_pairwise sorted] at joins

theorem SameHead.owns {first table : name.Content} (same : name.SameHead first table) :
    name.owns table = name.owns first := by
  cases name with
  | pat | cat => rfl
  | pmt mapPid program => rw [TableName.owns, TableName.owns, same.1]

/-- A table is placed as one of its sections, but for the number, and is about the same
program. -/
theorem merge_facts {parts : List name.Content} {table : name.Content}
    (merged : name.merge parts = some table) :
    ∃ first ∈ parts, name.position table = { name.position first with number := 0 } ∧
      name.owns table = name.owns first := by
  obtain ⟨_, unmerged⟩ | ⟨other, joined, joins⟩ := merge_spec name parts
  · cases unmerged.symm.trans merged
  · cases joined.symm.trans merged
    obtain ⟨first, head, same, placed⟩ := joins.head
    exact ⟨first, List.mem_mergeSort.mp (List.mem_of_mem_head? head), placed, same.owns⟩

theorem merge_ne_none {parts : List name.Content} (filled : parts ≠ []) :
    name.merge parts ≠ none := by
  obtain ⟨empty, _⟩ | ⟨table, joined, _⟩ := merge_spec name parts
  · exact absurd empty filled
  · rw [joined]
    exact Option.some_ne_none table

theorem isReportedBy_event {previous : Option name.Content} {current : name.Content}
    (owned : name.owns current = true) : name.isReportedBy (name.event previous current) = true := by
  cases name with
  | pat => rfl
  | cat => rfl
  | pmt mapPid program => exact Bool.and_eq_true_iff.mpr ⟨beq_self_eq_true mapPid, owned⟩

/-- An event reports one table. -/
theorem eq_of_isReportedBy {other : TableName} {previous : Option other.Content}
    {current : other.Content} (owned : other.owns current = true)
    (reported : name.isReportedBy (other.event previous current) = true) : name = other := by
  cases name <;> cases other <;> try first | rfl | cases reported
  rename_i mapPid program otherPid otherProgram
  simp only [event, isReportedBy, Bool.and_eq_true, beq_iff_eq] at reported
  rw [← reported.1, ← reported.2, eq_of_beq owned]

end TableName

namespace TableTracker

variable {tracker : TableTracker} {name : TableName}

/-- Whether sections of a table are heeded: those of a map only on the PID that the association
table in force announces. -/
def Heeds (tracker : TableTracker) : TableName → Prop
  | .pat => True
  | .cat => True
  | .pmt mapPid program => tracker.mapPid? program = some mapPid

instance (tracker : TableTracker) (name : TableName) : Decidable (tracker.Heeds name) :=
  match name with
  | .pat => inferInstanceAs (Decidable True)
  | .cat => inferInstanceAs (Decidable True)
  | .pmt _ _ => inferInstanceAs (Decidable (_ = _))

/-- What is collected of a table. -/
def collected (tracker : TableTracker) : (name : TableName) → Assembly name.Content
  | .pat => tracker.patParts
  | .cat => tracker.catParts
  | .pmt mapPid program => tracker.partsOn mapPid program

/-- The table in force. -/
def inForce? (tracker : TableTracker) : (name : TableName) → Option name.Content
  | .pat => tracker.pat
  | .cat => tracker.cat
  | .pmt _ program => tracker.pmt? program

def setCollected (tracker : TableTracker) :
    (name : TableName) → Assembly name.Content → TableTracker
  | .pat, patParts => { tracker with patParts }
  | .cat, catParts => { tracker with catParts }
  | .pmt mapPid program, parts =>
    { tracker with pmtParts := tracker.pmtParts.insert program (mapPid, parts) }

def complete (tracker : TableTracker) :
    (name : TableName) → name.Content → TableTracker × Option TableEvent
  | .pat, pat => tracker.completePat pat
  | .cat, cat => tracker.completeCat cat
  | .pmt mapPid program, pmt => tracker.completePmt mapPid program pmt

/-- Takes a section of a table. -/
def take (tracker : TableTracker) (name : TableName) (part : name.Content) :
    TableTracker × Option TableEvent :=
  let (parts, result) := (tracker.collected name).offer (name.position part) part
  let tracker := tracker.setCollected name parts
  match result with
  | .error _ => tracker.refuse
  | .ok none => (tracker, none)
  | .ok (some parts) =>
    match name.merge parts with
    | none => (tracker, none)
    | some table => tracker.complete name table

/-! ### Which table a section belongs to -/

variable {pid : Nat} {data : Bytes}

theorem onPat_eq {part : Pat} (parsed : Pat.parse data = .ok part) :
    tracker.onPat data = tracker.take .pat part := by
  rw [onPat, parsed, take]
  dsimp only [collected, TableName.position]
  generalize tracker.patParts.offer part.toSectionPosition part = offered
  obtain ⟨parts, result⟩ := offered
  cases result with
  | error error => rfl
  | ok complete =>
    cases complete with
    | none => rfl
    | some all =>
      dsimp only [TableName.merge]
      cases Pat.merge all <;> rfl

theorem onCat_eq {part : Cat} (parsed : Cat.parse data = .ok part) :
    tracker.onCat data = tracker.take .cat part := by
  rw [onCat, parsed, take]
  dsimp only [collected, TableName.position]
  generalize tracker.catParts.offer part.toSectionPosition part = offered
  obtain ⟨parts, result⟩ := offered
  cases result with
  | error error => rfl
  | ok complete =>
    cases complete with
    | none => rfl
    | some all =>
      dsimp only [TableName.merge]
      cases Cat.merge all <;> rfl

theorem onAnnouncedPmt_eq {part : Pmt} (program : Nat) (parsed : Pmt.parse data = .ok part) :
    tracker.onAnnouncedPmt pid program data = tracker.take (.pmt pid program) part := by
  rw [onAnnouncedPmt, parsed, take]
  dsimp only [collected, TableName.position]
  generalize (tracker.partsOn pid program).offer part.toSectionPosition part = offered
  obtain ⟨parts, result⟩ := offered
  cases result with
  | error error => rfl
  | ok complete =>
    cases complete with
    | none => rfl
    | some all =>
      dsimp only [TableName.merge]
      cases Pmt.merge all <;> rfl

theorem isMapPid_of_mapPid? {program : Nat} (announced : tracker.mapPid? program = some pid) :
    tracker.isMapPid pid = true := by
  rw [mapPid?] at announced
  cases inForce : tracker.pat with
  | none =>
    rw [inForce] at announced
    cases announced
  | some pat =>
    rw [inForce, Option.bind_some, Pat.mapPid?] at announced
    obtain ⟨entry, found, same⟩ := Option.map_eq_some_iff.mp announced
    rw [isMapPid, inForce]
    exact List.any_eq_true.mpr ⟨entry, List.mem_of_find?_eq_some found, beq_iff_eq.mpr same⟩

/-- A section of a table that is heeded is taken as one. -/
theorem handleSection_take {part : name.Content} (heeded : tracker.Heeds name)
    (read : name.read? pid data = some part) :
    tracker.handleSection pid data = tracker.take name part := by
  obtain ⟨here, parsed, owned⟩ := TableName.read?_eq_some_iff.mp read
  obtain ⟨header, headed, known, _⟩ := TableName.parse_header parsed
  have first := (LongSection.parse_facts headed).1
  cases data with
  | nil => cases first
  | cons tableId rest =>
    cases Option.some.inj (first.trans (congrArg some known))
    cases name with
    | pat =>
      cases here
      rw [handleSection, if_pos ⟨rfl, rfl⟩, onPat_eq parsed]
    | cat =>
      cases here
      have other : ¬ (TableName.cat.pid = patPid ∧ TableName.cat.tableId = Pat.tableId) := by
        decide
      rw [handleSection, if_neg other, if_pos ⟨rfl, rfl⟩, onCat_eq parsed]
    | pmt mapPid program =>
      cases here
      obtain ⟨otherHeader, otherHeaded, _, _, ofProgram⟩ := Pmt.parse_header parsed
      have extension : otherHeader.extension = program :=
        ofProgram.symm.trans (eq_of_beq owned)
      have noPat : ¬ (mapPid = patPid ∧ Pmt.tableId = Pat.tableId) := by
        rintro ⟨_, same⟩
        revert same
        decide
      have noCat : ¬ (mapPid = catPid ∧ Pmt.tableId = Cat.tableId) := by
        rintro ⟨_, same⟩
        revert same
        decide
      have heededHere : tracker.mapPid? otherHeader.extension = some mapPid := by
        rw [extension]
        exact heeded
      rw [handleSection]
      simp only [TableName.pid, TableName.tableId, noPat, noCat, if_false]
      rw [if_pos ⟨trivial, isMapPid_of_mapPid? heeded⟩, onPmt]
      rw [show LongSection.parse (Pmt.tableId :: rest) = .ok otherHeader from otherHeaded]
      dsimp only
      rw [if_pos heededHere, extension]
      exact onAnnouncedPmt_eq program parsed

/-- A section of no table that is heeded changes nothing but the count of refused ones. -/
theorem handleSection_ignore
    (foreign : ∀ name, tracker.Heeds name → name.read? pid data = none) :
    ∃ malformed, tracker.handleSection pid data = ({ tracker with malformed }, none) := by
  have unread : ∀ {name : TableName} {part : name.Content}, tracker.Heeds name → pid = name.pid →
      name.owns part = true → name.parse data ≠ .ok part := by
    intro name part heeded here owned parsed
    have read := TableName.read?_eq_some_iff.mpr ⟨here, parsed, owned⟩
    rw [foreign name heeded] at read
    cases read
  unfold handleSection
  split
  · exact ⟨_, rfl⟩
  · split
    · rename_i here
      rw [onPat]
      cases parsed : Pat.parse _ with
      | error error => exact ⟨_, rfl⟩
      | ok part => exact absurd parsed (@unread .pat part trivial here.1 rfl)
    · split
      · rename_i here
        rw [onCat]
        cases parsed : Cat.parse _ with
        | error error => exact ⟨_, rfl⟩
        | ok part => exact absurd parsed (@unread .cat part trivial here.1 rfl)
      · split
        · unfold onPmt
          split
          · exact ⟨_, rfl⟩
          · rename_i header headed
            split
            · rename_i announced
              rw [onAnnouncedPmt]
              cases parsed : Pmt.parse _ with
              | error error => exact ⟨_, rfl⟩
              | ok part =>
                obtain ⟨otherHeader, otherHeaded, _, _, ofProgram⟩ := Pmt.parse_header parsed
                cases headed.symm.trans otherHeaded
                exact absurd parsed (@unread (.pmt pid header.extension) part announced rfl
                  (beq_iff_eq.mpr ofProgram))
            · exact ⟨_, rfl⟩
        · exact ⟨_, rfl⟩

/-! ### What taking a section does -/

/-- The tables in force and what is collected, without what is held for later and what is
counted. -/
def live (tracker : TableTracker) : TableTracker :=
  { tracker with
    nextPat := none, nextPmts := {}, nextCat := none, versionChanges := 0, malformed := 0 }

@[simp] theorem collected_live (tracker : TableTracker) (name : TableName) :
    tracker.live.collected name = tracker.collected name := by cases name <;> rfl

@[simp] theorem inForce?_live (tracker : TableTracker) (name : TableName) :
    tracker.live.inForce? name = tracker.inForce? name := by cases name <;> rfl

@[simp] theorem heeds_live (tracker : TableTracker) (name : TableName) :
    tracker.live.Heeds name ↔ tracker.Heeds name := by cases name <;> rfl

/-- Puts a table in force. An association table drops the maps that it does not announce. -/
def enforce (tracker : TableTracker) : (name : TableName) → name.Content → TableTracker
  | .pat, pat =>
    { tracker with
      pat := some pat
      pmts := tracker.pmts.filter (fun program entry => pat.mapPid? program == some entry.1)
      pmtParts :=
        tracker.pmtParts.filter (fun program entry => pat.mapPid? program == some entry.1) }
  | .cat, cat => { tracker with cat := some cat }
  | .pmt mapPid program, pmt => { tracker with pmts := tracker.pmts.insert program (mapPid, pmt) }

/-- Whether a complete table comes into force: it applies now and has another version. -/
def Replaces (tracker : TableTracker) (name : TableName) (table : name.Content) : Prop :=
  (name.position table).currentNext = true ∧
    ∀ old, tracker.inForce? name = some old →
      (name.position old).version ≠ (name.position table).version

/-- What adding a section to what is collected hands out. -/
def offered (tracker : TableTracker) (name : TableName) (part : name.Content) :
    Except Error (Option (List name.Content)) :=
  ((tracker.collected name).offer (name.position part) part).2

/-- The tracker with a section added to what is collected. -/
def collect (tracker : TableTracker) (name : TableName) (part : name.Content) : TableTracker :=
  tracker.setCollected name ((tracker.collected name).offer (name.position part) part).1

/-- Holds a table for later. -/
def hold (tracker : TableTracker) : (name : TableName) → name.Content → TableTracker
  | .pat, pat => { tracker with nextPat := some pat }
  | .cat, cat => { tracker with nextCat := some cat }
  | .pmt _ program, pmt => { tracker with nextPmts := tracker.nextPmts.insert program pmt }

def replace (tracker : TableTracker) : (name : TableName) → name.Content → TableTracker
  | .pat, pat => tracker.replacePat pat
  | .cat, cat => tracker.replaceCat cat
  | .pmt mapPid program, pmt => tracker.replacePmt mapPid program pmt

theorem complete_eq (tracker : TableTracker) (name : TableName) (table : name.Content) :
    tracker.complete name table =
      if !(name.position table).currentNext then (tracker.hold name table, none)
      else if (tracker.inForce? name).any
          (fun old => (name.position old).version == (name.position table).version) then
        (tracker, none)
      else (tracker.replace name table, some (name.event (tracker.inForce? name) table)) := by
  cases name <;> rfl

theorem live_hold (tracker : TableTracker) (name : TableName) (table : name.Content) :
    (tracker.hold name table).live = tracker.live := by cases name <;> rfl

theorem countReplaced_eq {α : Type} (tracker : TableTracker) (previous : Option α) :
    ∃ versionChanges, tracker.countReplaced previous = { tracker with versionChanges } := by
  rw [countReplaced]
  split
  · exact ⟨_, rfl⟩
  · exact ⟨tracker.versionChanges, rfl⟩

theorem live_replace (tracker : TableTracker) (name : TableName) (table : name.Content) :
    (tracker.replace name table).live = (tracker.enforce name table).live := by
  cases name with
  | pat =>
    obtain ⟨_, counted⟩ := tracker.countReplaced_eq tracker.pat
    rw [replace, replacePat, counted]
    rfl
  | cat =>
    obtain ⟨_, counted⟩ := tracker.countReplaced_eq tracker.cat
    rw [replace, replaceCat, counted]
    rfl
  | pmt mapPid program =>
    obtain ⟨_, counted⟩ := tracker.countReplaced_eq (tracker.pmt? program)
    rw [replace, replacePmt, counted]
    rfl

theorem complete_replacing {table : name.Content} (replaces : tracker.Replaces name table) :
    (tracker.complete name table).1.live = (tracker.enforce name table).live ∧
      (tracker.complete name table).2 = some (name.event (tracker.inForce? name) table) := by
  obtain ⟨current, differs⟩ := replaces
  have other : ¬ (tracker.inForce? name).any
      (fun old => (name.position old).version == (name.position table).version) = true := by
    rw [Option.any_eq_true]
    rintro ⟨old, present, same⟩
    exact differs old present (eq_of_beq same)
  rw [complete_eq, if_neg (by simp [current]), if_neg other]
  exact ⟨live_replace tracker name table, rfl⟩

theorem complete_idle {table : name.Content} (idle : ¬ tracker.Replaces name table) :
    (tracker.complete name table).1.live = tracker.live ∧
      (tracker.complete name table).2 = none := by
  rw [complete_eq]
  split
  · exact ⟨live_hold tracker name table, rfl⟩
  · rename_i current
    split
    · exact ⟨rfl, rfl⟩
    · rename_i other
      refine absurd ⟨by simpa using current, fun old present same => other ?_⟩ idle
      exact (Option.any_eq_true ..).mpr ⟨old, present, beq_iff_eq.mpr same⟩

/-- What taking a section does: it is collected, and if it completes a table that replaces the
one in force, that table comes into force. -/
inductive Taken (tracker : TableTracker) (name : TableName) (part : name.Content) :
    TableTracker × Option TableEvent → Prop where
  | collected (after : TableTracker) (same : after.live = (tracker.collect name part).live)
      (quiet : ∀ parts table, (tracker.offered name part) = .ok (some parts) →
        name.merge parts = some table → ¬ tracker.Replaces name table) :
      Taken tracker name part (after, none)
  | replaced (after : TableTracker) (parts : List name.Content) (table : name.Content)
      (complete : tracker.offered name part = .ok (some parts))
      (merged : name.merge parts = some table) (replaces : tracker.Replaces name table)
      (same : after.live = ((tracker.collect name part).enforce name table).live) :
      Taken tracker name part (after, some (name.event (tracker.inForce? name) table))

theorem inForce?_setCollected (tracker : TableTracker) (name other : TableName)
    (parts : Assembly name.Content) :
    (tracker.setCollected name parts).inForce? other = tracker.inForce? other := by
  cases name <;> cases other <;> rfl

theorem heeds_setCollected (tracker : TableTracker) (name other : TableName)
    (parts : Assembly name.Content) :
    (tracker.setCollected name parts).Heeds other ↔ tracker.Heeds other := by
  cases name <;> cases other <;> rfl

theorem replaces_setCollected (tracker : TableTracker) (name other : TableName)
    (parts : Assembly name.Content) (table : other.Content) :
    (tracker.setCollected name parts).Replaces other table ↔ tracker.Replaces other table := by
  rw [Replaces, Replaces, inForce?_setCollected]

theorem taken (tracker : TableTracker) (name : TableName) (part : name.Content) :
    Taken tracker name part (tracker.take name part) := by
  rw [take]
  cases offered : (tracker.collected name).offer (name.position part) part with
  | mk parts result =>
    have collect_eq : tracker.collect name part = tracker.setCollected name parts := by
      rw [collect, offered]
    have offered_eq : tracker.offered name part = result := by rw [TableTracker.offered, offered]
    cases result with
    | error error =>
      refine .collected _ (by rw [collect_eq]; rfl) ?_
      intro all table complete
      cases offered_eq.symm.trans complete
    | ok complete =>
      cases complete with
      | none =>
        refine .collected _ (by rw [collect_eq]) ?_
        intro all table complete
        cases offered_eq.symm.trans complete
      | some all =>
        dsimp only
        cases merged : name.merge all with
        | none =>
          refine .collected _ (by rw [collect_eq]) ?_
          intro other table complete mergedOther
          cases offered_eq.symm.trans complete
          cases merged.symm.trans mergedOther
        | some table =>
          dsimp only
          by_cases replaces : tracker.Replaces name table
          · have replacing := (replaces_setCollected tracker name name parts table).mpr replaces
            obtain ⟨same, event⟩ := complete_replacing replacing
            rw [inForce?_setCollected] at event
            generalize (tracker.setCollected name parts).complete name table = outcome
              at same event
            obtain ⟨after, reported⟩ := outcome
            cases event
            exact .replaced _ all table offered_eq merged replaces (by rw [same, collect_eq])
          · have idle := mt (replaces_setCollected tracker name name parts table).mp replaces
            obtain ⟨same, event⟩ := complete_idle idle
            generalize (tracker.setCollected name parts).complete name table = outcome
              at same event
            obtain ⟨after, reported⟩ := outcome
            cases event
            refine .collected _ (by rw [same, collect_eq]) ?_
            intro other otherTable complete mergedOther
            cases offered_eq.symm.trans complete
            cases merged.symm.trans mergedOther
            exact replaces

end TableTracker

end TransportStream
