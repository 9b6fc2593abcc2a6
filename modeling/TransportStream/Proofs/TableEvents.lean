import TransportStream.Table.Tracker

/-!
The association table that is in force changes exactly when an event says so.
-/
namespace TransportStream

namespace TableTracker

/-- `Announces before after event`: a new association table is in force exactly if the
event says so. -/
inductive Announces (before after : TableTracker) : Option TableEvent → Prop where
  | kept {event : Option TableEvent} (same : after.pat = before.pat)
      (silent : ∀ previous current, event ≠ some (.pat previous current)) :
      Announces before after event
  | changed {current : Pat} (previous : Option Pat) (applied : after.pat = some current) :
      Announces before after (some (.pat previous current))

/-- What is collected or held does not matter. -/
theorem Announces.of_pat {before between after : TableTracker} {event : Option TableEvent}
    (announces : Announces between after event) (same : between.pat = before.pat) :
    Announces before after event := by
  cases announces with
  | kept kept silent => exact .kept (kept.trans same) silent
  | changed previous applied => exact .changed previous applied

theorem refuse_announces (tracker : TableTracker) :
    Announces tracker tracker.refuse.1 tracker.refuse.2 := .kept rfl (by simp [refuse])

theorem countReplaced_pat {α : Type} (tracker : TableTracker) (previous : Option α) :
    (tracker.countReplaced previous).pat = tracker.pat := by
  unfold countReplaced
  split <;> rfl

theorem completePat_announces (tracker : TableTracker) (pat : Pat) :
    Announces tracker (tracker.completePat pat).1 (tracker.completePat pat).2 := by
  unfold completePat
  split
  · exact .kept rfl (by simp)
  · split
    · exact .kept rfl (by simp)
    · exact .changed tracker.pat rfl

theorem completePmt_announces (tracker : TableTracker) (pid program : Nat) (pmt : Pmt) :
    Announces tracker (tracker.completePmt pid program pmt).1
      (tracker.completePmt pid program pmt).2 := by
  unfold completePmt
  split
  · exact .kept rfl (by simp)
  · split
    · exact .kept rfl (by simp)
    · exact .kept (countReplaced_pat ..) (by simp)

theorem completeCat_announces (tracker : TableTracker) (cat : Cat) :
    Announces tracker (tracker.completeCat cat).1 (tracker.completeCat cat).2 := by
  unfold completeCat
  split
  · exact .kept rfl (by simp)
  · split
    · exact .kept rfl (by simp)
    · exact .kept (countReplaced_pat ..) (by simp)

theorem onPat_announces (tracker : TableTracker) (data : Bytes) :
    Announces tracker (tracker.onPat data).1 (tracker.onPat data).2 := by
  unfold onPat
  split
  · exact refuse_announces tracker
  · dsimp only
    split
    · exact (refuse_announces _).of_pat rfl
    · exact .kept rfl (by simp)
    · split
      · exact .kept rfl (by simp)
      · exact (completePat_announces _ _).of_pat rfl

theorem onAnnouncedPmt_announces (tracker : TableTracker) (pid program : Nat) (data : Bytes) :
    Announces tracker (tracker.onAnnouncedPmt pid program data).1
      (tracker.onAnnouncedPmt pid program data).2 := by
  unfold onAnnouncedPmt
  split
  · exact refuse_announces tracker
  · dsimp only
    split
    · exact (refuse_announces _).of_pat rfl
    · exact .kept rfl (by simp)
    · split
      · exact .kept rfl (by simp)
      · exact (completePmt_announces ..).of_pat rfl

theorem onPmt_announces (tracker : TableTracker) (pid : Nat) (data : Bytes) :
    Announces tracker (tracker.onPmt pid data).1 (tracker.onPmt pid data).2 := by
  unfold onPmt
  split
  · exact refuse_announces tracker
  · split
    · exact onAnnouncedPmt_announces ..
    · exact .kept rfl (by simp)

theorem onCat_announces (tracker : TableTracker) (data : Bytes) :
    Announces tracker (tracker.onCat data).1 (tracker.onCat data).2 := by
  unfold onCat
  split
  · exact refuse_announces tracker
  · dsimp only
    split
    · exact (refuse_announces _).of_pat rfl
    · exact .kept rfl (by simp)
    · split
      · exact .kept rfl (by simp)
      · exact (completeCat_announces _ _).of_pat rfl

theorem handleSection_announces (tracker : TableTracker) (pid : Nat) (data : Bytes) :
    Announces tracker (tracker.handleSection pid data).1 (tracker.handleSection pid data).2 := by
  unfold handleSection
  split
  · exact .kept rfl (by simp)
  · split
    · exact onPat_announces tracker _
    · split
      · exact onCat_announces tracker _
      · split
        · exact onPmt_announces tracker pid _
        · exact .kept rfl (by simp)

end TableTracker

end TransportStream
