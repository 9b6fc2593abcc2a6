import TransportStream.Proofs.TableAssembly

/-!
The PIDs that a map lists. Within one section no PID is listed twice, for a section that does is
refused. Sections of one version are joined without another look at their PIDs, so that a map in
force lists each PID once exactly if no two of its sections list the same.
-/
namespace TransportStream

namespace Pmt

/-- The elementary PIDs that a map lists, in order. -/
def pids (pmt : Pmt) : List Nat := pmt.streams.map (·.pid)

/-- The stream loop names no PID twice, and none that was seen before. -/
theorem parseStreams_distinct {seen : List Nat} {data : Bytes} {streams : List PmtStream}
    (parsed : parseStreams seen data = .ok streams) :
    (streams.map (·.pid)).Nodup ∧ ∀ pid ∈ streams.map (·.pid), pid ∉ seen := by
  fun_induction parseStreams seen data generalizing streams with
  | case1 seen =>
    cases parsed
    exact ⟨List.nodup_nil, List.forall_mem_nil _⟩
  | case2 | case3 | case5 => cases parsed
  | case4 seen streamType high low lengthHigh lengthLow rest pid length fits unseen =>
    rename_i ih
    obtain ⟨descriptors, _, parsed⟩ := Error.bind_eq_ok.mp parsed
    obtain ⟨others, read, same⟩ := Error.bind_eq_ok.mp parsed
    cases same
    obtain ⟨distinct, apart⟩ := ih read
    refine ⟨List.nodup_cons.mpr ⟨fun again => ?_, distinct⟩, ?_⟩
    · exact apart pid again List.mem_cons_self
    · exact List.forall_mem_cons.mpr ⟨unseen, fun other member earlier =>
        apart other member (List.mem_cons_of_mem _ earlier)⟩

/-- A section lists no PID twice. -/
theorem parse_distinct {data : Bytes} {part : Pmt} (parsed : parse data = .ok part) :
    part.pids.Nodup := by
  simp only [parse, Error.bind_eq_ok, Error.check_eq_ok] at parsed
  obtain ⟨header, _, _, body⟩ := parsed
  split at body
  · obtain ⟨⟨descriptors, streams⟩, read, same⟩ := Error.bind_eq_ok.mp body
    cases same
    unfold parseBody at read
    split at read
    · cases read
    · obtain ⟨_, _, read⟩ := Error.bind_eq_ok.mp read
      obtain ⟨_, loop, same⟩ := Error.bind_eq_ok.mp read
      cases same
      exact (parseStreams_distinct loop).1
  · cases body

/-- Joined sections that list no PID twice each make a map that lists none twice exactly if no
two of them share one. -/
theorem distinct_iff_apart {parts : List Pmt} {pmt : Pmt}
    (streams : pmt.streams = parts.flatMap (·.streams)) (each : ∀ part ∈ parts, part.pids.Nodup) :
    pmt.pids.Nodup ↔ parts.Pairwise (fun one two => ∀ pid ∈ one.pids, pid ∉ two.pids) := by
  have listed : pmt.pids = parts.flatMap pids := by
    rw [pids, streams, List.map_flatMap]
    rfl
  rw [listed, List.Nodup, List.pairwise_flatMap]
  constructor
  · exact fun distinct => distinct.2.imp fun apart pid first second => apart pid first pid second rfl
  · intro apart
    refine ⟨each, apart.imp ?_⟩
    rintro one two apart pid first _ second rfl
    exact apart pid first second

end Pmt

namespace TableTracker

variable {received : List (Nat × Bytes)} {tracker before after : TableTracker}
variable {name : TableName} {program mapPid : Nat} {pmt : Pmt}

/-! ### All that was ever received -/

/-- The trackers to which sections lead, whatever was discarded meanwhile, with all sections
received. -/
inductive Past : List (Nat × Bytes) → TableTracker → Prop where
  | start : Past [] {}
  | hear {received : List (Nat × Bytes)} {tracker : TableTracker} (past : Past received tracker)
      (pid : Nat) (data : Bytes) :
      Past (received ++ [(pid, data)]) (tracker.handleSection pid data).1
  | discard {received : List (Nat × Bytes)} {tracker : TableTracker}
      (past : Past received tracker) : Past received tracker.discardPartial

/-- The sections received since the last time are among all that were. -/
theorem Past.history (past : Past received tracker) :
    ∃ recent, recent ⊆ received ∧ History recent tracker := by
  induction past with
  | start => exact ⟨[], List.nil_subset _, .start⟩
  | hear past pid data ih =>
    obtain ⟨recent, among, history⟩ := ih
    exact ⟨recent ++ [(pid, data)], List.append_subset.mpr
      ⟨List.subset_append_of_subset_left _ among, List.subset_append_right ..⟩,
      history.hear pid data⟩
  | discard past ih =>
    obtain ⟨recent, among, history⟩ := ih
    exact ⟨[], List.nil_subset _, history.discard⟩

theorem Received.among {recent : List (Nat × Bytes)} {part : name.Content}
    (heard : Received recent name part) (among : recent ⊆ received) :
    Received received name part := by
  obtain ⟨entry, member, read⟩ := heard
  exact ⟨entry, among member, read⟩

/-! ### Where the maps in force come from -/

/-- A table is joined from received sections of one version, one for every number up to the
last. -/
structure Joined (received : List (Nat × Bytes)) (name : TableName) (table : name.Content)
    (parts : List name.Content) : Prop where
  merged : name.merge parts = some table
  complete : Assembly.IsVersion name.position (name.position table).version
    (name.position table).last parts
  received : ∀ part ∈ parts, Received received name part

/-- Every map in force is joined from received sections. -/
def AllJoined (received : List (Nat × Bytes)) (tracker : TableTracker) : Prop :=
  ∀ program entry, tracker.pmts.get? program = some entry →
    ∃ parts, Joined received (.pmt entry.1 program) entry.2 parts

theorem Joined.among {recent : List (Nat × Bytes)} {table : name.Content}
    {parts : List name.Content} (joined : Joined recent name table parts)
    (among : recent ⊆ received) : Joined received name table parts :=
  ⟨joined.merged, joined.complete, fun part member => (joined.received part member).among among⟩

theorem AllJoined.among {recent : List (Nat × Bytes)} (joined : AllJoined recent tracker)
    (among : recent ⊆ received) : AllJoined received tracker := by
  intro program entry found
  obtain ⟨parts, joined⟩ := joined program entry found
  exact ⟨parts, joined.among among⟩

theorem AllJoined.of_live (joined : AllJoined received before) (same : after.live = before.live) :
    AllJoined received after := by
  have pmts : after.pmts = before.pmts := (congrArg TableTracker.pmts same :)
  rwa [AllJoined, pmts]

theorem AllJoined.collect (joined : AllJoined received tracker) (part : name.Content) :
    AllJoined received (tracker.collect name part) := by
  cases name <;> exact joined

/-- A joined table may come into force. -/
theorem AllJoined.enforce {table : name.Content} {parts : List name.Content}
    (joined : AllJoined received tracker) (own : Joined received name table parts) :
    AllJoined received (tracker.enforce name table) := by
  cases name with
  | cat => exact joined
  | pat =>
    intro program entry found
    simp only [TableTracker.enforce, NatMap.get?_filter, Option.filter_eq_some_iff] at found
    exact joined program entry found.1
  | pmt mapPid program =>
    intro other entry found
    simp only [TableTracker.enforce, NatMap.get?_insert] at found
    split at found
    · rename_i same
      cases found
      subst same
      exact ⟨parts, own⟩
    · exact joined other entry found

theorem AllJoined.handleSection (joined : AllJoined received tracker)
    (past : Past received tracker) (pid : Nat) (data : Bytes) :
    AllJoined (received ++ [(pid, data)]) (tracker.handleSection pid data).1 := by
  have earlier : AllJoined (received ++ [(pid, data)]) tracker :=
    joined.among (List.subset_append_left ..)
  rcases handleSection_cases tracker pid data with
    ⟨name, part, heeded, read, taken⟩ | ⟨_, same, _⟩
  · have collected := earlier.collect part
    generalize tracker.handleSection pid data = outcome at taken ⊢
    cases taken with
    | collected after same _ => exact collected.of_live same
    | replaced after parts table complete merged replaces same =>
      obtain ⟨recent, among, history⟩ := past.history
      have assembled := history.replaced heeded read complete merged replaces same
      have own : Joined _ name table parts :=
        ⟨assembled.joined, assembled.complete, assembled.received⟩
      have lately : recent ++ [(pid, data)] ⊆ received ++ [(pid, data)] :=
        List.append_subset.mpr ⟨List.subset_append_of_subset_left _ among,
          List.subset_append_right ..⟩
      exact (collected.enforce (own.among lately)).of_live same
  · exact earlier.of_live same

theorem Past.allJoined (past : Past received tracker) : AllJoined received tracker := by
  induction past with
  | start => exact fun _ _ found => nomatch found
  | hear past pid data ih => exact ih.handleSection past pid data
  | discard past ih => exact ih

/-! ### Distinct PIDs -/

/-- Whatever sections came in, and whatever was discarded: a map in force is joined from received
sections of one version, one for each number. Each of them lists no PID twice, and the map lists
none twice exactly if no two of them list the same; if it has one section only, it lists none
twice. -/
theorem map_distinct_iff (past : Past received tracker)
    (inForce : tracker.pmts.get? program = some (mapPid, pmt)) :
    ∃ parts : List Pmt, Joined received (.pmt mapPid program) pmt parts ∧
      pmt.streams = parts.flatMap (·.streams) ∧ (∀ part ∈ parts, part.pids.Nodup) ∧
      (pmt.pids.Nodup ↔ parts.Pairwise (fun one two => ∀ pid ∈ one.pids, pid ∉ two.pids)) ∧
      (pmt.last = 0 → pmt.pids.Nodup) := by
  obtain ⟨parts, joined⟩ := past.allJoined program (mapPid, pmt) inForce
  have streams := (TableName.merge_joins joined.complete.numbered joined.merged).lists.2
  have each : ∀ part ∈ parts, part.pids.Nodup := by
    intro part member
    obtain ⟨heard, _, read⟩ := joined.received part member
    exact Pmt.parse_distinct (TableName.read?_eq_some_iff.mp read).2.1
  have apart := Pmt.distinct_iff_apart streams each
  refine ⟨parts, joined, streams, each, apart, fun lone => apart.mpr ?_⟩
  have length := congrArg List.length joined.complete.numbered
  rw [List.length_map, List.length_range] at length
  have one : parts.length = 1 := length.trans (congrArg Nat.succ lone)
  obtain ⟨part, rfl⟩ := List.length_eq_one_iff.mp one
  exact List.pairwise_singleton ..

/-- One of two sections of a map of program 1, with one video stream. -/
def halfMap (number pid : Nat) : Pmt where
  version := 0
  currentNext := true
  number := number
  last := 1
  program := 1
  pcrPid := 0x101
  descriptors := []
  streams := [⟨0x1B, pid, []⟩]

/-- An association table and the first section of the map. -/
def halfway : TableTracker :=
  let association : Pat :=
    { version := 0, currentNext := true, number := 0, last := 0, streamId := 1
      programs := [⟨1, 0x100⟩], networkPid := none }
  ((({} : TableTracker).handleSection patPid association.encode).1.handleSection 0x100
    (halfMap 0 0x101).encode).1

theorem halfway_past : ∃ received, Past received halfway := ⟨_, .hear (.hear .start ..) ..⟩

/-- The map that the two sections make. -/
def wholeMap (pid : Nat) : Pmt :=
  { halfMap 0 0x101 with streams := [⟨0x1B, 0x101, []⟩, ⟨0x1B, pid, []⟩] }

theorem merge_halfMaps (pid : Nat) :
    Pmt.merge [halfMap 0 0x101, halfMap 1 pid] = some (wholeMap pid) := by
  have sorted : [halfMap 0 0x101, halfMap 1 pid].Pairwise
      (fun left right => decide (left.number ≤ right.number) = true) := by
    simp [halfMap]
  rw [Pmt.merge, List.mergeSort_of_pairwise sorted]
  rfl

/-- The second section puts the map in force, if it can be read and completes it. -/
theorem wholeMap_inForce {pid : Nat}
    (read : (TableName.pmt 0x100 1).read? 0x100 (halfMap 1 pid).encode = some (halfMap 1 pid))
    (complete : (halfway.offered (.pmt 0x100 1) (halfMap 1 pid)).toOption =
      some (some [halfMap 0 0x101, halfMap 1 pid])) :
    (halfway.handleSection 0x100 (halfMap 1 pid).encode).1.pmts.get? 1 =
      some (0x100, wholeMap pid) := by
  have heeded : halfway.Heeds (.pmt 0x100 1) := by decide +kernel
  have fresh : halfway.pmt? 1 = none := by decide +kernel
  have offered : halfway.offered (.pmt 0x100 1) (halfMap 1 pid) =
      .ok (some [halfMap 0 0x101, halfMap 1 pid]) := by
    cases result : halfway.offered (.pmt 0x100 1) (halfMap 1 pid) with
    | error error =>
      rw [result] at complete
      cases complete
    | ok parts =>
      rw [result] at complete
      exact congrArg Except.ok (Option.some.inj complete)
  have replaces : halfway.Replaces (.pmt 0x100 1) (wholeMap pid) :=
    ⟨rfl, fun old inForce => by cases fresh.symm.trans inForce⟩
  obtain ⟨-, same⟩ := handleSection_replaces heeded read offered (merge_halfMaps pid) replaces
  have pmts := congrArg TableTracker.pmts same
  exact (congrArg (NatMap.get? · 1) pmts).trans (NatMap.get?_insert_self ..)

/-- The two sections list a PID each: the map lists both, and no section shares one. -/
theorem halves_apart :
    let tracker := (halfway.handleSection 0x100 (halfMap 1 0x102).encode).1
    ∃ received, Past received tracker ∧ ∃ parts : List Pmt,
      Joined received (.pmt 0x100 1) (wholeMap 0x102) parts ∧
        parts.Pairwise (fun one two => ∀ pid ∈ one.pids, pid ∉ two.pids) := by
  intro tracker
  obtain ⟨received, past⟩ := halfway_past
  have pastThen : Past _ tracker := past.hear _ _
  have inForce := @wholeMap_inForce 0x102 (by decide +kernel) (by decide +kernel)
  obtain ⟨parts, joined, -, -, apart, -⟩ := map_distinct_iff pastThen inForce
  exact ⟨_, pastThen, parts, joined, apart.mp (by decide)⟩

/-- The second section lists the PID of the first, and the map lists it twice. -/
theorem halves_share_pid :
    let tracker := (halfway.handleSection 0x100 (halfMap 1 0x101).encode).1
    (∃ received, Past received tracker) ∧
      tracker.pmts.get? 1 = some (0x100, wholeMap 0x101) ∧
      (wholeMap 0x101).pids = [0x101, 0x101] ∧ ¬(wholeMap 0x101).pids.Nodup := by
  intro tracker
  obtain ⟨received, past⟩ := halfway_past
  exact ⟨⟨_, past.hear _ _⟩, @wholeMap_inForce 0x101 (by decide +kernel) (by decide +kernel),
    rfl, by decide⟩

end TableTracker

end TransportStream
