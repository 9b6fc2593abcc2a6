import TransportStream.Proofs.TableAssembly

/-!
Tables announced for later never come into force, and their sections cause no event. They do not
pass without a trace, though: a table is collected in one place, so that a section announced for
later drops the sections of a current version that are underway. Those that interrupt nothing
can be left out, and what is in force and what is reported stay the same.
-/
namespace TransportStream

namespace Assembly

variable {α : Type} {assembly other : Assembly α} {position : SectionPosition}

/-- Whether some sections of a current version were collected, but not yet all. -/
def isUnderway (assembly : Assembly α) : Bool := assembly.currentNext && !assembly.parts.isEmpty

/-- What a section of a current version can still join. -/
def current (assembly : Assembly α) : Assembly α := if assembly.isUnderway then assembly else {}

theorem isUnderway_current (assembly : Assembly α) :
    assembly.current.isUnderway = assembly.isUnderway := by
  rw [current]
  split
  · rfl
  · rename_i idle
    exact (eq_false_of_ne_true idle).symm

/-- Where no current version is underway, a current section starts from nothing. -/
theorem offer_idle (idle : assembly.isUnderway = false) (now : position.currentNext = true)
    (part : α) : assembly.offer position part = ({} : Assembly α).offer position part := by
  have blank : assembly.continues position = true → assembly.parts.isEmpty = true := by
    intro continues
    have applies := ((continues_iff ..).mp continues).2.trans now
    simpa [isUnderway, applies] using idle
  have extend_eq : assembly.extend position part = ({} : Assembly α).extend position part := by
    have kept : assembly.kept position = {} := by
      rw [Assembly.kept]
      split
      · exact NatMap.eq_empty_of_isEmpty (blank ‹_›)
      · rfl
    have keptNone : ({} : Assembly α).kept position = {} := by
      rw [Assembly.kept]
      split <;> rfl
    rw [extend, extend, kept, keptNone]
  have fits : ¬ assembly.Contradicts position := by
    rintro ⟨continues, filled, _⟩
    exact absurd (filled.symm.trans (blank continues)) (by decide)
  have fitsNone : ¬ ({} : Assembly α).Contradicts position := by
    rintro ⟨_, filled, _⟩
    cases filled
  rw [offer_fitting part fits, offer_fitting part fitsNone, extend_eq]

/-- A current section joins what is underway, and sees nothing else. -/
theorem offer_eq_of_current (same : assembly.current = other.current)
    (now : position.currentNext = true) (part : α) :
    assembly.offer position part = other.offer position part := by
  have both : assembly.isUnderway = other.isUnderway := by
    rw [← isUnderway_current assembly, same, isUnderway_current]
  cases underway : assembly.isUnderway with
  | false => rw [offer_idle underway now, offer_idle (both.symm.trans underway) now]
  | true =>
    rw [current, current, if_pos underway, if_pos (both.symm.trans underway)] at same
    rw [same]

/-- After a section announced for later nothing is underway. -/
theorem current_offer_next (later : position.currentNext = false) (part : α) :
    (assembly.offer position part).1.current = {} := by
  have idle : (assembly.offer position part).1.isUnderway = false := by
    by_cases contradicts : assembly.Contradicts position
    · rw [offer_contradicting part contradicts]
      exact Bool.and_false _
    · rw [offer_fitting part contradicts]
      have next : (assembly.extend position part).currentNext = false := later
      split <;> simp [isUnderway, next]
  rw [current, idle]
  rfl

end Assembly

/-- Whether a section belongs to a table that is announced for later. -/
def LongSection.isNext (data : Bytes) : Bool :=
  match LongSection.parse data with
  | .error _ => false
  | .ok header => !header.currentNext

theorem TableName.currentNext_of_isNext {name : TableName} {pid : Nat} {data : Bytes}
    {part : name.Content} (next : LongSection.isNext data = true)
    (read : name.read? pid data = some part) : (name.position part).currentNext = false := by
  obtain ⟨_, parsed, _⟩ := TableName.read?_eq_some_iff.mp read
  obtain ⟨header, headed, _, placed⟩ := TableName.parse_header parsed
  rw [LongSection.isNext, headed] at next
  rw [placed]
  simpa using next

namespace TableTracker

/-- The tables that a section can be about. -/
def candidates (pid : Nat) (data : Bytes) : List TableName :=
  match LongSection.parse data with
  | .error _ => []
  | .ok header => [.pat, .cat, .pmt pid header.extension]

/-- Whether a section arrives while a current version of its table is underway. -/
def interrupts (tracker : TableTracker) (pid : Nat) (data : Bytes) : Bool :=
  (candidates pid data).any fun name =>
    decide (tracker.Heeds name) && (name.read? pid data).isSome &&
      (tracker.collected name).isUnderway

/-- Sections without those announced for later, unless they arrive while a current version of
their table is underway. -/
def thin (tracker : TableTracker) : List (Nat × Bytes) → List (Nat × Bytes)
  | [] => []
  | (pid, data) :: rest =>
    let thinned := (tracker.handleSection pid data).1.thin rest
    if LongSection.isNext data && !tracker.interrupts pid data then thinned
    else (pid, data) :: thinned

variable {tracker other : TableTracker} {name : TableName} {pid : Nat} {data : Bytes}
  {part : name.Content} {received heard : List (Nat × Bytes)}

theorem mem_candidates (read : name.read? pid data = some part) : name ∈ candidates pid data := by
  obtain ⟨here, parsed, owned⟩ := TableName.read?_eq_some_iff.mp read
  obtain ⟨header, headed, _⟩ := TableName.parse_header parsed
  rw [candidates, headed]
  cases name with
  | pat => simp
  | cat => simp
  | pmt mapPid program =>
    obtain ⟨otherHeader, otherHeaded, _, _, ofProgram⟩ := Pmt.parse_header parsed
    cases headed.symm.trans otherHeaded
    have same : program = header.extension := (eq_of_beq owned).symm.trans ofProgram
    simp [show pid = mapPid from here, same]

theorem current_of_not_interrupts (quiet : tracker.interrupts pid data = false)
    (heeded : tracker.Heeds name) (read : name.read? pid data = some part) :
    (tracker.collected name).current = {} := by
  have idle := List.any_eq_false.mp quiet name (mem_candidates read)
  have still : (tracker.collected name).isUnderway = false := by simpa [heeded, read] using idle
  rw [Assembly.current, still]
  rfl

/-! ### Two runs side by side -/

/-- The same tables are in force. -/
structure SameTables (tracker other : TableTracker) : Prop where
  pat : tracker.pat = other.pat
  pmts : tracker.pmts = other.pmts
  cat : tracker.cat = other.cat

theorem SameTables.heeds (same : SameTables tracker other) (name : TableName) :
    tracker.Heeds name ↔ other.Heeds name := by
  cases name with
  | pat => rfl
  | cat => rfl
  | pmt mapPid program => rw [Heeds, Heeds, mapPid?, mapPid?, same.pat]

theorem SameTables.inForce (same : SameTables tracker other) (name : TableName) :
    tracker.inForce? name = other.inForce? name := by
  cases name with
  | pat => exact same.pat
  | cat => exact same.cat
  | pmt mapPid program => rw [inForce?, inForce?, pmt?, pmt?, same.pmts]

theorem sameTables_live {between : TableTracker} (same : tracker.live = between.live) :
    SameTables tracker between :=
  ⟨(congrArg TableTracker.pat same :), (congrArg TableTracker.pmts same :),
    (congrArg TableTracker.cat same :)⟩

theorem sameTables_collect (part : name.Content) :
    SameTables (tracker.collect name part) tracker := by
  cases name <;> exact ⟨rfl, rfl, rfl⟩

theorem SameTables.symm (same : SameTables tracker other) : SameTables other tracker :=
  ⟨same.pat.symm, same.pmts.symm, same.cat.symm⟩

theorem SameTables.trans {between : TableTracker} (same : SameTables tracker between)
    (next : SameTables between other) : SameTables tracker other :=
  ⟨same.pat.trans next.pat, same.pmts.trans next.pmts, same.cat.trans next.cat⟩

theorem SameTables.enforce (same : SameTables tracker other) (table : name.Content) :
    SameTables (tracker.enforce name table) (other.enforce name table) := by
  obtain ⟨pat, pmts, cat⟩ := same
  cases name with
  | pat =>
    refine ⟨rfl, ?_, cat⟩
    simp only [TableTracker.enforce, pmts]
  | cat => exact ⟨pat, pmts, rfl⟩
  | pmt mapPid program =>
    refine ⟨pat, ?_, cat⟩
    simp only [TableTracker.enforce, pmts]

/-- The same tables are in force, and the same current versions are underway. -/
structure Alike (tracker other : TableTracker) : Prop where
  tables : SameTables tracker other
  underway : ∀ name, tracker.Heeds name →
    (tracker.collected name).current = (other.collected name).current

theorem Alike.symm (alike : Alike tracker other) : Alike other tracker :=
  ⟨alike.tables.symm, fun name heeded =>
    (alike.underway name ((alike.tables.heeds name).mpr heeded)).symm⟩

/-- A section announced for later completes no table that comes into force. -/
theorem next_replaces_nothing (history : History received tracker) (heeded : tracker.Heeds name)
    (read : name.read? pid data = some part) (next : (name.position part).currentNext = false)
    {parts : List name.Content} {table : name.Content}
    (complete : tracker.offered name part = .ok (some parts))
    (merged : name.merge parts = some table) : ¬ tracker.Replaces name table := by
  rintro ⟨current, _⟩
  obtain ⟨first, member, placed, _⟩ := TableName.merge_facts merged
  obtain ⟨_, _, same, _⟩ := (history.gathers.offered heeded read complete).2 first member
  rw [placed] at current
  exact absurd ((current.symm.trans same).trans next) (by decide)

/-- What a section makes of the collected sections of a table. -/
theorem collected_after (history : History received tracker)
    (still : (tracker.handleSection pid data).1.Heeds name) :
    (∃ part, tracker.Heeds name ∧ name.read? pid data = some part ∧
        (tracker.handleSection pid data).1.collected name =
          ((tracker.collected name).offer (name.position part) part).1) ∨
      (tracker.Heeds name ∧ name.read? pid data = none ∧
        (tracker.handleSection pid data).1.collected name = tracker.collected name) ∨
      (¬ tracker.Heeds name ∧
        ((tracker.handleSection pid data).1.collected name).parts.isEmpty = true) := by
  by_cases heeded : tracker.Heeds name
  · cases read : name.read? pid data with
    | none =>
      exact .inr (.inl ⟨heeded, rfl,
        (handleSection_elsewhere history heeded still read).collected⟩)
    | some part => exact .inl ⟨part, heeded, rfl, handleSection_collected heeded read⟩
  · refine .inr (.inr ⟨heeded, ?_⟩)
    rcases handleSection_cases tracker pid data with ⟨taker, part, takerHeeded, _, taken⟩ | ignored
    · have filed : (tracker.collect taker part).Filed := history.filed.setCollected takerHeeded _
      have unheeded : ¬ (tracker.collect taker part).Heeds name :=
        mt (heeds_setCollected ..).mp heeded
      generalize tracker.handleSection pid data = outcome at taken still ⊢
      cases taken with
      | collected after same _ => exact absurd ((heeds_of_live same).mp still) unheeded
      | replaced after parts table _ _ _ same =>
        rw [collected_of_live same, collected_enforce table ((heeds_of_live same).mp still)]
        exact filed.collected_unheeded unheeded
    · exact absurd ((heeds_of_live ignored.2.1).mp still) heeded

/-- A section that completes a table in one run does so in the other. -/
theorem Alike.completes (alike : Alike tracker other) (history : History received tracker)
    (heeded : tracker.Heeds name) (read : name.read? pid data = some part)
    {parts : List name.Content} {table : name.Content}
    (complete : tracker.offered name part = .ok (some parts))
    (merged : name.merge parts = some table) (replaces : tracker.Replaces name table) :
    other.offered name part = .ok (some parts) ∧ other.Replaces name table := by
  have now : (name.position part).currentNext = true := by
    apply eq_true_of_ne_false
    intro next
    exact next_replaces_nothing history heeded read next complete merged replaces
  constructor
  · rw [offered, ← Assembly.offer_eq_of_current (alike.underway name heeded) now]
    exact complete
  · rw [Replaces, ← alike.tables.inForce]
    exact replaces

/-- The same section, given to both: the same is reported and comes into force. -/
theorem Alike.outcome (alike : Alike tracker other) (history : History received tracker)
    (otherHistory : History heard other) (pid : Nat) (data : Bytes) :
    (tracker.handleSection pid data).2 = (other.handleSection pid data).2 ∧
      SameTables (tracker.handleSection pid data).1 (other.handleSection pid data).1 := by
  rcases handleSection_cases tracker pid data with
    ⟨name, part, heeded, read, taken⟩ | ⟨foreign, _⟩
  · have otherHeeded := (alike.tables.heeds name).mp heeded
    have collected : SameTables (tracker.collect name part) (other.collect name part) :=
      ((sameTables_collect part).trans alike.tables).trans (sameTables_collect part).symm
    generalize tracker.handleSection pid data = outcome at taken ⊢
    cases taken with
    | collected after same quiet =>
      obtain ⟨otherSilent, otherSame⟩ := handleSection_quiet otherHeeded read
        fun parts table complete merged replaces => by
          obtain ⟨complete, replaces⟩ :=
            alike.symm.completes otherHistory otherHeeded read complete merged replaces
          exact quiet parts table complete merged replaces
      exact ⟨otherSilent.symm,
        ((sameTables_live same).trans collected).trans (sameTables_live otherSame).symm⟩
    | replaced after parts table complete merged replaces same =>
      obtain ⟨otherComplete, otherReplaces⟩ :=
        alike.completes history heeded read complete merged replaces
      obtain ⟨otherEvent, otherSame⟩ :=
        handleSection_replaces otherHeeded read otherComplete merged otherReplaces
      refine ⟨?_, ((sameTables_live same).trans (collected.enforce table)).trans
        (sameTables_live otherSame).symm⟩
      rw [otherEvent, alike.tables.inForce]
  · have otherForeign : ∀ name, other.Heeds name → name.read? pid data = none :=
      fun name heeded => foreign name ((alike.tables.heeds name).mpr heeded)
    obtain ⟨malformed, ignored⟩ := handleSection_ignore foreign
    obtain ⟨otherMalformed, otherIgnored⟩ := handleSection_ignore otherForeign
    rw [ignored, otherIgnored]
    exact ⟨rfl, alike.tables.pat, alike.tables.pmts, alike.tables.cat⟩

theorem current_of_isEmpty {α : Type} {assembly : Assembly α}
    (blank : assembly.parts.isEmpty = true) : assembly.current = {} := by
  simp [Assembly.current, Assembly.isUnderway, blank]

theorem Alike.handleSection (alike : Alike tracker other) (history : History received tracker)
    (otherHistory : History heard other) (pid : Nat) (data : Bytes) :
    (tracker.handleSection pid data).2 = (other.handleSection pid data).2 ∧
      Alike (tracker.handleSection pid data).1 (other.handleSection pid data).1 := by
  obtain ⟨event, tables⟩ := alike.outcome history otherHistory pid data
  refine ⟨event, tables, ?_⟩
  intro name still
  rcases collected_after history still with
    ⟨part, heeded, read, after⟩ | ⟨heeded, read, after⟩ | ⟨unheeded, blank⟩
  · rw [after, handleSection_collected ((alike.tables.heeds name).mp heeded) read]
    have underway := alike.underway name heeded
    cases now : (name.position part).currentNext with
    | true => rw [Assembly.offer_eq_of_current underway now]
    | false => rw [Assembly.current_offer_next now, Assembly.current_offer_next now]
  · have elsewhere := handleSection_elsewhere otherHistory ((alike.tables.heeds name).mp heeded)
      ((tables.heeds name).mp still) read
    rw [after, elsewhere.collected]
    exact alike.underway name heeded
  · have otherUnheeded := mt (alike.tables.heeds name).mpr unheeded
    rcases collected_after otherHistory ((tables.heeds name).mp still) with
      ⟨_, heeded, _⟩ | ⟨heeded, _⟩ | ⟨_, otherBlank⟩
    · exact absurd heeded otherUnheeded
    · exact absurd heeded otherUnheeded
    · rw [current_of_isEmpty blank, current_of_isEmpty otherBlank]

/-- A section announced for later is never reported and changes nothing that is in force. -/
theorem handleSection_next (history : History received tracker)
    (next : LongSection.isNext data = true) (pid : Nat) :
    (tracker.handleSection pid data).2 = none ∧
      SameTables (tracker.handleSection pid data).1 tracker := by
  rcases handleSection_cases tracker pid data with
    ⟨name, part, heeded, read, _⟩ | ⟨_, same, silent⟩
  · have later := TableName.currentNext_of_isNext next read
    obtain ⟨silent, same⟩ := handleSection_quiet heeded read fun parts table complete merged =>
      next_replaces_nothing history heeded read later complete merged
    exact ⟨silent, (sameTables_live same).trans (sameTables_collect part)⟩
  · exact ⟨silent, sameTables_live same⟩

/-- A section announced for later that interrupts nothing, given to one and kept from the
other. -/
theorem Alike.skip (alike : Alike tracker other) (history : History received tracker)
    (next : LongSection.isNext data = true) (quiet : tracker.interrupts pid data = false) :
    Alike (tracker.handleSection pid data).1 other := by
  obtain ⟨_, tables⟩ := handleSection_next history next pid
  refine ⟨tables.trans alike.tables, ?_⟩
  intro name still
  have heeded := (tables.heeds name).mp still
  rw [← alike.underway name heeded]
  rcases collected_after history still with
    ⟨part, _, read, after⟩ | ⟨_, _, after⟩ | ⟨unheeded, _⟩
  · have later := TableName.currentNext_of_isNext next read
    rw [after, Assembly.current_offer_next later, current_of_not_interrupts quiet heeded read]
  · rw [after]
  · exact absurd heeded unheeded

/-- Sections announced for later are never reported and change nothing that is in force. Those
that do not arrive while a current version of their table is underway can be left out: the
events and the tables in force stay the same. -/
theorem next_sections_inert (history : History received tracker) (inputs : List (Nat × Bytes)) :
    (∀ pid data, LongSection.isNext data = true →
      (tracker.handleSection pid data).2 = none ∧
        SameTables (tracker.handleSection pid data).1 tracker) ∧
    (tracker.handleAll (tracker.thin inputs)).2 = (tracker.handleAll inputs).2 ∧
      SameTables (tracker.handleAll (tracker.thin inputs)).1 (tracker.handleAll inputs).1 := by
  have thinned : ∀ other received heard, History received tracker → History heard other →
      Alike tracker other →
      (other.handleAll (tracker.thin inputs)).2 = (tracker.handleAll inputs).2 ∧
        SameTables (other.handleAll (tracker.thin inputs)).1 (tracker.handleAll inputs).1 := by
    clear history
    induction inputs generalizing tracker with
    | nil => exact fun other _ _ _ _ alike => ⟨rfl, alike.tables.symm⟩
    | cons first rest ih =>
      intro other received heard history otherHistory alike
      obtain ⟨pid, data⟩ := first
      have further := history.hear pid data
      rw [thin]
      split
      · rename_i dropped
        obtain ⟨next, quiet⟩ := Bool.and_eq_true_iff.mp dropped
        have skipped := alike.skip history next (Bool.not_eq_true' _ |>.mp quiet)
        rw [handleAll_cons, (handleSection_next history next pid).1]
        exact ih other _ _ further otherHistory skipped
      · obtain ⟨event, both⟩ := alike.handleSection history otherHistory pid data
        obtain ⟨events, tables⟩ := ih _ _ _ further (otherHistory.hear pid data) both
        rw [handleAll_cons, handleAll_cons, events, event]
        exact ⟨rfl, tables⟩
  refine ⟨fun pid data next => handleSection_next history next pid, ?_⟩
  exact thinned tracker received received history history ⟨⟨rfl, rfl, rfl⟩, fun _ _ => rfl⟩

/-- An association table announced for later. -/
def laterPat : Pat := { firstHalf with version := 2, currentNext := false, last := 0 }

/-- A table of two sections, with one announced for later between them. -/
def interruptedPat : List (Nat × Bytes) :=
  [(patPid, firstHalf.encode), (patPid, laterPat.encode), (patPid, secondHalf.encode)]

/-- One section announced for later keeps a table from coming into force. -/
theorem interruptedPat_unreported :
    (({} : TableTracker).handleAll interruptedPat).2 = [] ∧
      (({} : TableTracker).handleAll
          (interruptedPat.filter fun heard => !LongSection.isNext heard.2)).2 =
        [.pat none { firstHalf with programs := [⟨1, 0x100⟩, ⟨2, 0x200⟩] }] := by
  have kept : interruptedPat.filter (fun heard => !LongSection.isNext heard.2) =
      [(patPid, firstHalf.encode), (patPid, secondHalf.encode)] := by decide +kernel
  have first : ({} : TableTracker).handleSection patPid firstHalf.encode =
      ({} : TableTracker).take .pat firstHalf := handleSection_take trivial read_firstHalf
  have completed : (({} : TableTracker).take .pat firstHalf).1.offered .pat secondHalf =
      .ok (some [firstHalf, secondHalf]) := rfl
  have replaces : (({} : TableTracker).take .pat firstHalf).1.Replaces .pat
      { firstHalf with programs := [⟨1, 0x100⟩, ⟨2, 0x200⟩] } :=
    ⟨rfl, fun old inForce => by cases inForce⟩
  have heeded : (({} : TableTracker).take .pat firstHalf).1.Heeds .pat := trivial
  obtain ⟨event, -⟩ :=
    handleSection_replaces heeded read_secondHalf completed merge_halves replaces
  constructor
  · decide +kernel
  · rw [kept]
    simp only [handleAll, first, event]
    rfl

/-- Before the first section there is nothing to interrupt. -/
theorem laterPat_inert :
    ({} : TableTracker).thin [(patPid, laterPat.encode), (patPid, firstHalf.encode),
        (patPid, secondHalf.encode)] = [(patPid, firstHalf.encode), (patPid, secondHalf.encode)] ∧
      (({} : TableTracker).handleAll [(patPid, firstHalf.encode),
        (patPid, secondHalf.encode)]).2 =
      (({} : TableTracker).handleAll [(patPid, laterPat.encode), (patPid, firstHalf.encode),
        (patPid, secondHalf.encode)]).2 := by
  have thinned : ({} : TableTracker).thin [(patPid, laterPat.encode), (patPid, firstHalf.encode),
      (patPid, secondHalf.encode)] = [(patPid, firstHalf.encode), (patPid, secondHalf.encode)] := by
    decide +kernel
  have same := (next_sections_inert History.start [(patPid, laterPat.encode),
    (patPid, firstHalf.encode), (patPid, secondHalf.encode)]).2.1
  rw [thinned] at same
  exact ⟨thinned, same⟩

end TableTracker

end TransportStream
