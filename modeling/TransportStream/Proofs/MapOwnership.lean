import TransportStream.Proofs.TableHistory

/-!
A map in force is a map of the program it is kept under: sections of other programs are never
collected with its own.
-/
namespace TransportStream

namespace TableTracker

variable {received : List (Nat × Bytes)} {tracker before after : TableTracker}
variable {name : TableName} {pid : Nat} {data : Bytes} {part table : name.Content}
variable {parts : List name.Content}

/-- Every map in force is one of the program it is kept under, and what is collected is
accounted for, so that the next will be. -/
structure Owned (tracker : TableTracker) : Prop where
  filed : tracker.Filed
  gathers : ∃ received, Gathers received tracker
  maps : ∀ program pmt, tracker.pmt? program = some pmt → pmt.program = program

/-- A table that is joined from sections of one program is about that program. -/
theorem Gathers.owns (gathers : Gathers received tracker) (heeded : tracker.Heeds name)
    (read : name.read? pid data = some part)
    (complete : tracker.offered name part = .ok (some parts))
    (merged : name.merge parts = some table) : name.owns table = true := by
  obtain ⟨first, member, _, owns⟩ := TableName.merge_facts merged
  rw [owns]
  exact ((gathers.offered heeded read complete).2 first member).1.owns

/-- The map of a program after a table came into force is the one from before, or that table. -/
theorem pmt?_enforce {program : Nat} {pmt : Pmt} (owns : name.owns table = true)
    (found : (tracker.enforce name table).pmt? program = some pmt) :
    tracker.pmt? program = some pmt ∨ pmt.program = program := by
  cases name with
  | cat => exact .inl found
  | pat =>
    left
    obtain ⟨entry, kept, same⟩ := Option.map_eq_some_iff.mp found
    simp only [enforce, NatMap.get?_filter, Option.filter_eq_some_iff] at kept
    exact Option.map_eq_some_iff.mpr ⟨entry, kept.1, same⟩
  | pmt mapPid own =>
    simp only [pmt?, enforce, NatMap.get?_insert] at found
    split at found
    · rename_i same
      cases found
      exact .inr ((eq_of_beq owns).trans same.symm)
    · exact .inl found

theorem Owned.of_live (owned : before.Owned) (same : after.live = before.live) :
    after.Owned where
  filed := filed_live same owned.filed
  gathers := by
    obtain ⟨received, gathers⟩ := owned.gathers
    exact ⟨received, gathers.of_live same⟩
  maps program pmt found := by
    have inForce := inForce?_of_live same (.pmt 0 program)
    exact owned.maps program pmt (inForce.symm.trans found)

/-- The map of a program after a section came in is the one from before, or one of that program. -/
theorem pmt?_handleSection {program : Nat} {pmt : Pmt} (gathers : Gathers received tracker)
    (found : (tracker.handleSection pid data).1.pmt? program = some pmt) :
    tracker.pmt? program = some pmt ∨ pmt.program = program := by
  rcases handleSection_cases tracker pid data with
    ⟨name, part, heeded, read, taken⟩ | ⟨_, same, _⟩
  · have collected : (tracker.collect name part).pmt? program = tracker.pmt? program :=
      inForce?_collect part (.pmt 0 program)
    generalize tracker.handleSection pid data = outcome at taken found
    cases taken with
    | collected after same _ =>
      have inForce : after.pmt? program = _ := inForce?_of_live same (.pmt 0 program)
      exact .inl (collected.symm.trans (inForce.symm.trans found))
    | replaced after parts table complete merged _ same =>
      have inForce : after.pmt? program = _ := inForce?_of_live same (.pmt 0 program)
      have owns := gathers.owns heeded read complete merged
      rw [← collected]
      exact pmt?_enforce owns (inForce.symm.trans found)
  · have inForce := inForce?_of_live same (.pmt 0 program)
    exact .inl (inForce.symm.trans found)

theorem Owned.handleSection (owned : tracker.Owned) (pid : Nat) (data : Bytes) :
    (tracker.handleSection pid data).1.Owned := by
  obtain ⟨received, gathers⟩ := owned.gathers
  refine ⟨owned.filed.handleSection pid data, ⟨_, gathers.handleSection owned.filed pid data⟩, ?_⟩
  intro program pmt found
  rcases pmt?_handleSection gathers found with before | own
  · exact owned.maps program pmt before
  · exact own

theorem Owned.discardPartial (owned : tracker.Owned) : tracker.discardPartial.Owned :=
  ⟨⟨owned.filed.maps, fun _ _ found => nomatch found⟩, ⟨[], gathers_discardPartial tracker⟩,
    owned.maps⟩

theorem owned_start : Owned {} :=
  ⟨History.start.filed, ⟨[], History.start.gathers⟩, fun _ _ found => nomatch found⟩

end TableTracker

end TransportStream
