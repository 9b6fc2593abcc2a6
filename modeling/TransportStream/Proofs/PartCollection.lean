import TransportStream.Table.Assembly

/-!
What an assembly collects: sections of one version, each under its own number and none beyond
the last. An assembly counts its sections to tell whether it is complete. The count is enough,
because the numbers are different and none is beyond the last.
-/
namespace TransportStream

/-- As many ascending numbers as there are below a bound are all of them. -/
theorem eq_range_of_ascending {numbers : List Nat} {bound : Nat}
    (ascending : numbers.Pairwise (· < ·)) (below : ∀ number ∈ numbers, number < bound)
    (full : numbers.length = bound) : numbers = List.range bound := by
  have distinct : numbers.Nodup := ascending.imp Nat.ne_of_lt
  have reached : ∀ number < bound, number ∈ numbers := by
    intro number less
    apply Decidable.not_not.mp
    intro missing
    -- one number more would still fit below the bound
    have room : number :: numbers ⊆ List.range bound := by
      intro other member
      rcases List.mem_cons.mp member with rfl | inside
      · exact List.mem_range.mpr less
      · exact List.mem_range.mpr (below other inside)
    have longer := (List.nodup_cons.mpr ⟨missing, distinct⟩).length_le_of_subset room
    rw [List.length_cons, List.length_range] at longer
    omega
  apply List.Perm.eq_of_pairwise (fun _ _ _ _ less greater => absurd greater (Nat.lt_asymm less))
    ascending List.pairwise_lt_range
  apply (List.perm_ext_iff_of_nodup distinct List.nodup_range).mpr
  intro number
  rw [List.mem_range]
  exact ⟨below number, reached number⟩

section Numbered

variable {α : Type} {number : α → Nat} {parts whole : List α} {count : Nat}

theorem number_getElem (numbered : whole.map number = List.range count) {place : Nat}
    (inside : place < whole.length) : number whole[place] = place := by
  have same := List.getElem_of_eq numbered (i := place) (by rwa [List.length_map])
  rwa [List.getElem_map, List.getElem_range] at same

/-- A number stands for one part. -/
theorem eq_of_same_number (numbered : whole.map number = List.range count) {part other : α}
    (member : part ∈ whole) (otherMember : other ∈ whole) (same : number part = number other) :
    part = other := by
  obtain ⟨place, inside, rfl⟩ := List.mem_iff_getElem.mp member
  obtain ⟨otherPlace, otherInside, rfl⟩ := List.mem_iff_getElem.mp otherMember
  rw [number_getElem numbered inside, number_getElem numbered otherInside] at same
  subst same
  rfl

/-- Parts of a list that are numbered like the list are the list. -/
theorem eq_of_numbered (numbered : whole.map number = List.range count)
    (same : parts.map number = List.range count) (inside : ∀ part ∈ parts, part ∈ whole) :
    parts = whole := by
  have lengths : parts.length = whole.length := by
    have := congrArg List.length (same.trans numbered.symm)
    rwa [List.length_map, List.length_map] at this
  apply List.ext_getElem lengths
  intro place here there
  apply eq_of_same_number numbered (inside _ (List.getElem_mem here)) (List.getElem_mem there)
  rw [number_getElem same here, number_getElem numbered there]

end Numbered

namespace NatMap

variable {α : Type}

theorem get?_eq_none_of_isEmpty {map : NatMap α} (blank : map.isEmpty = true) (key : Nat) :
    map.get? key = none :=
  (isEmpty_iff map).mp blank key

theorem isEmpty_eq_false_of_get? {map : NatMap α} {key : Nat} {value : α}
    (found : map.get? key = some value) : map.isEmpty = false := by
  cases blank : map.isEmpty with
  | false => rfl
  | true =>
    rw [get?_eq_none_of_isEmpty blank] at found
    cases found

theorem eq_empty_of_isEmpty {map : NatMap α} (blank : map.isEmpty = true) : map = {} := by
  obtain ⟨entries, ascending⟩ := map
  cases List.isEmpty_iff.mp blank
  rfl

end NatMap

namespace Assembly

variable {α : Type}

/-- What was collected that goes together with a section. -/
def kept (assembly : Assembly α) (position : SectionPosition) : NatMap α :=
  if assembly.continues position then assembly.parts else {}

/-- The section's version is being collected with another last number. -/
def Contradicts (assembly : Assembly α) (position : SectionPosition) : Prop :=
  assembly.continues position = true ∧ assembly.parts.isEmpty = false ∧
    assembly.last ≠ position.last

/-- The assembly with one section more. -/
def extend (assembly : Assembly α) (position : SectionPosition) (part : α) : Assembly α where
  version := some position.version
  currentNext := position.currentNext
  last := position.last
  parts := (assembly.kept position).insert position.number part

/-- Whether every section is there, judged by their count. -/
def Full (assembly : Assembly α) : Prop := assembly.parts.size = assembly.last + 1

instance (assembly : Assembly α) : Decidable assembly.Full :=
  inferInstanceAs (Decidable (_ = _))

theorem continues_iff (assembly : Assembly α) (position : SectionPosition) :
    assembly.continues position = true ↔
      assembly.version = some position.version ∧ assembly.currentNext = position.currentNext := by
  simp [continues]

theorem offer_contradicting {assembly : Assembly α} {position : SectionPosition} (part : α)
    (contradicts : assembly.Contradicts position) :
    assembly.offer position part = (assembly.clear, .error (.invalidSection
      (.lastNumberChanged assembly.last position.last position.version))) := by
  obtain ⟨continues, filled, other⟩ := contradicts
  rw [offer, if_pos continues, if_pos (by simp [filled, other])]

/-- A section that contradicts nothing is added. -/
theorem offer_fitting {assembly : Assembly α} {position : SectionPosition} (part : α)
    (fits : ¬ assembly.Contradicts position) :
    assembly.offer position part =
      if (assembly.extend position part).Full then
        ({ assembly.extend position part with parts := {} },
          .ok (some (assembly.extend position part).parts.values))
      else (assembly.extend position part, .ok none) := by
  have add_eq : ∀ (between : Assembly α), between.version = some position.version →
      between.currentNext = position.currentNext → between.parts = assembly.kept position →
      between.add position part =
        if (assembly.extend position part).Full then
          ({ assembly.extend position part with parts := {} },
            some (assembly.extend position part).parts.values)
        else (assembly.extend position part, none) := by
    rintro ⟨version, currentNext, last, parts⟩ rfl rfl rfl
    rfl
  rw [offer]
  by_cases continues : assembly.continues position = true
  · have same : (!assembly.parts.isEmpty && assembly.last != position.last) = false := by
      apply eq_false_of_ne_true
      intro other
      simp only [Bool.and_eq_true, Bool.not_eq_true', bne_iff_ne, ne_eq] at other
      exact fits ⟨continues, other⟩
    obtain ⟨version, current⟩ := (continues_iff ..).mp continues
    rw [if_pos continues, if_neg (by simp [same]),
      add_eq assembly version current (by rw [kept, if_pos continues])]
    by_cases full : (assembly.extend position part).Full <;> simp only [full, if_true, if_false]
  · rw [if_neg continues]
    dsimp only
    rw [add_eq _ rfl rfl (by rw [kept, if_neg continues])]
    by_cases full : (assembly.extend position part).Full <;> simp only [full, if_true, if_false]

/-! ### What is collected -/

variable (place : α → SectionPosition) (received : α → Prop)

/-- A section that an assembly holds under a number. -/
structure Holds (assembly : Assembly α) (number : Nat) (part : α) : Prop where
  numbered : (place part).number = number
  within : number ≤ assembly.last
  version : assembly.version = some (place part).version
  currentNext : assembly.currentNext = (place part).currentNext
  last : assembly.last = (place part).last
  source : received part

/-- Everything collected was received and belongs to the version and the last number that
the assembly names. -/
def Gathers (assembly : Assembly α) : Prop :=
  ∀ number part, assembly.parts.get? number = some part →
    Holds place received assembly number part

variable {place received}

theorem gathers_of_isEmpty {assembly : Assembly α} (blank : assembly.parts.isEmpty = true) :
    Gathers place received assembly := by
  intro number part found
  rw [NatMap.get?_eq_none_of_isEmpty blank] at found
  cases found

theorem Gathers.mono {wider : α → Prop} {assembly : Assembly α}
    (gathers : Gathers place received assembly) (more : ∀ part, received part → wider part) :
    Gathers place wider assembly := by
  intro number part found
  have holds := gathers number part found
  exact { holds with source := more part holds.source }

theorem extend_gathers {assembly : Assembly α} {part : α}
    (gathers : Gathers place received assembly) (fits : ¬ assembly.Contradicts (place part))
    (within : (place part).number ≤ (place part).last) (source : received part) :
    Gathers place received (assembly.extend (place part) part) := by
  intro number other found
  rw [extend, NatMap.get?_insert] at found
  split at found
  · rename_i same
    cases found
    exact ⟨same.symm, same ▸ within, rfl, rfl, rfl, source⟩
  · rw [kept] at found
    split at found
    · rename_i continues
      obtain ⟨version, current⟩ := (continues_iff ..).mp continues
      have filled := NatMap.isEmpty_eq_false_of_get? found
      have last : assembly.last = (place part).last :=
        Decidable.not_not.mp fun different => fits ⟨continues, filled, different⟩
      have holds := gathers number other found
      exact {
        holds with
        within := Nat.le_trans holds.within (Nat.le_of_eq last)
        version := version.symm.trans holds.version
        currentNext := current.symm.trans holds.currentNext
        last := last.symm.trans holds.last }
    · cases found

theorem offer_gathers {assembly : Assembly α} {part : α}
    (gathers : Gathers place received assembly)
    (within : (place part).number ≤ (place part).last) (source : received part) :
    Gathers place received (assembly.offer (place part) part).1 := by
  by_cases contradicts : assembly.Contradicts (place part)
  · rw [offer_contradicting part contradicts]
    exact gathers_of_isEmpty rfl
  · rw [offer_fitting part contradicts]
    split
    · exact gathers_of_isEmpty rfl
    · exact extend_gathers gathers contradicts within source

/-- A full assembly has a section for every number up to the last. -/
theorem Gathers.numbers_eq {assembly : Assembly α} (gathers : Gathers place received assembly)
    (full : assembly.Full) :
    assembly.parts.values.map (fun part => (place part).number) =
      List.range (assembly.last + 1) := by
  have keys : assembly.parts.values.map (fun part => (place part).number) =
      assembly.parts.keys := by
    rw [NatMap.values, NatMap.keys, List.map_map]
    apply List.map_congr_left
    intro entry member
    exact (gathers entry.1 entry.2 ((NatMap.get?_eq_some_iff ..).mpr member)).numbered
  rw [keys]
  apply eq_range_of_ascending (List.pairwise_map.mpr assembly.parts.ascending)
  · intro number member
    obtain ⟨part, found⟩ := (NatMap.mem_keys_iff ..).mp member
    exact Nat.lt_succ_of_le (gathers number part found).within
  · exact (List.length_map ..).trans full

/-- Every section of an assembly is held under its number. -/
theorem Gathers.holds_of_mem {assembly : Assembly α} (gathers : Gathers place received assembly)
    {part : α} (member : part ∈ assembly.parts.values) :
    Holds place received assembly (place part).number part := by
  obtain ⟨entry, inside, rfl⟩ := List.mem_map.mp member
  have holds := gathers entry.1 entry.2 ((NatMap.get?_eq_some_iff ..).mpr inside)
  rwa [holds.numbered]

/-- What an assembly hands out: a section for every number up to the last, all of the version of
the one that completed it. -/
theorem complete_parts {assembly : Assembly α} {part : α} {parts : List α}
    (gathers : Gathers place received assembly)
    (within : (place part).number ≤ (place part).last) (source : received part)
    (complete : (assembly.offer (place part) part).2 = .ok (some parts)) :
    parts.map (fun part => (place part).number) = List.range ((place part).last + 1) ∧
      ∀ other ∈ parts, received other ∧ (place other).version = (place part).version ∧
        (place other).currentNext = (place part).currentNext ∧
        (place other).last = (place part).last := by
  by_cases contradicts : assembly.Contradicts (place part)
  · rw [offer_contradicting part contradicts] at complete
    cases complete
  · have extended := extend_gathers gathers contradicts within source
    rw [offer_fitting part contradicts] at complete
    split at complete
    · rename_i full
      cases complete
      refine ⟨extended.numbers_eq full, ?_⟩
      intro other member
      have holds := extended.holds_of_mem member
      exact ⟨holds.source, (Option.some.inj holds.version).symm, holds.currentNext.symm,
        holds.last.symm⟩
    · cases complete

/-! ### One version, delivered piece by piece -/

/-- All sections of one current version, in the order of their numbers. -/
structure IsVersion (place : α → SectionPosition) (version last : Nat) (parts : List α) : Prop where
  numbered : parts.map (fun part => (place part).number) = List.range (last + 1)
  agree : ∀ part ∈ parts, (place part).version = version ∧ (place part).currentNext = true ∧
    (place part).last = last

section Version

variable {version last : Nat} {whole : List α} {assembly : Assembly α} {part : α}

theorem IsVersion.within (isVersion : IsVersion place version last whole)
    (member : part ∈ whole) : (place part).number ≤ (place part).last := by
  have listed : (place part).number ∈ whole.map (fun part => (place part).number) :=
    List.mem_map_of_mem member
  rw [isVersion.numbered, List.mem_range] at listed
  have := (isVersion.agree part member).2.2
  omega

theorem not_contradicts_of_gathers (isVersion : IsVersion place version last whole)
    (gathers : Gathers place (· ∈ whole) assembly) (member : part ∈ whole) :
    ¬ assembly.Contradicts (place part) := by
  rintro ⟨_, filled, different⟩
  obtain ⟨entry, inside⟩ := List.exists_mem_of_ne_nil assembly.parts.entries
    (fun none => by simp [NatMap.isEmpty, none] at filled)
  have holds := gathers entry.1 entry.2 ((NatMap.get?_eq_some_iff ..).mpr inside)
  apply different
  rw [holds.last, (isVersion.agree _ holds.source).2.2, (isVersion.agree _ member).2.2]

/-- Sections of one version never start over. -/
theorem kept_eq_parts (isVersion : IsVersion place version last whole)
    (gathers : Gathers place (· ∈ whole) assembly) (member : part ∈ whole) :
    assembly.kept (place part) = assembly.parts := by
  rw [kept]
  split
  · rfl
  · rename_i other
    symm
    apply NatMap.eq_empty_of_isEmpty
    apply Decidable.not_not.mp
    intro filled
    obtain ⟨entry, inside⟩ := List.exists_mem_of_ne_nil assembly.parts.entries
      (fun none => by simp [NatMap.isEmpty, none] at filled)
    have holds := gathers entry.1 entry.2 ((NatMap.get?_eq_some_iff ..).mpr inside)
    apply other
    obtain ⟨version, current, _⟩ := isVersion.agree _ holds.source
    obtain ⟨partVersion, partCurrent, _⟩ := isVersion.agree _ member
    exact (continues_iff ..).mpr ⟨by rw [holds.version, version, partVersion],
      by rw [holds.currentNext, current, partCurrent]⟩

/-- A full assembly has all sections of the version. -/
theorem values_eq_whole (isVersion : IsVersion place version last whole)
    (gathers : Gathers place (· ∈ whole) assembly) (full : assembly.Full)
    (reaches : assembly.last = last) : assembly.parts.values = whole := by
  have numbers := gathers.numbers_eq full
  rw [reaches] at numbers
  exact eq_of_numbered isVersion.numbered numbers
    fun _ member => (gathers.holds_of_mem member).source

/-- An assembly is full when each section of the version is there. -/
theorem full_iff (isVersion : IsVersion place version last whole)
    (gathers : Gathers place (· ∈ whole) assembly) (reaches : assembly.last = last) :
    assembly.Full ↔
      ∀ part ∈ whole, assembly.parts.get? (place part).number = some part := by
  constructor
  · intro full part member
    rw [← values_eq_whole isVersion gathers full reaches] at member
    obtain ⟨entry, inside, rfl⟩ := List.mem_map.mp member
    have found := (NatMap.get?_eq_some_iff ..).mpr inside
    rwa [(gathers entry.1 entry.2 found).numbered]
  · intro all
    have every : List.range (last + 1) ⊆ assembly.parts.keys := by
      intro number member
      rw [← isVersion.numbered] at member
      obtain ⟨part, listed, rfl⟩ := List.mem_map.mp member
      exact (NatMap.mem_keys_iff ..).mpr ⟨part, all part listed⟩
    have few : assembly.parts.keys ⊆ List.range (last + 1) := by
      intro number member
      obtain ⟨part, found⟩ := (NatMap.mem_keys_iff ..).mp member
      have within := (gathers number part found).within
      exact List.mem_range.mpr (by omega)
    have least := List.nodup_range.length_le_of_subset every
    have most := assembly.parts.keys_nodup.length_le_of_subset few
    rw [List.length_range] at least most
    have length : assembly.parts.keys.length = assembly.parts.size := List.length_map ..
    rw [Full]
    omega

/-- An assembly has exactly these sections of the version. -/
structure Has (place : α → SectionPosition) (whole : List α) (seen : α → Prop)
    (assembly : Assembly α) : Prop where
  gathers : Gathers place (· ∈ whole) assembly
  found : ∀ part ∈ whole, assembly.parts.get? (place part).number = some part ↔ seen part

theorem has_none (blank : assembly.parts.isEmpty = true) :
    Has place whole (fun _ => False) assembly where
  gathers := gathers_of_isEmpty blank
  found := by
    intro part _
    simp [NatMap.get?_eq_none_of_isEmpty blank]

/-- A further section completes the version exactly if all others are there. -/
theorem offer_of_has {seen : α → Prop} (isVersion : IsVersion place version last whole)
    (has : Has place whole seen assembly) (member : part ∈ whole) :
    (assembly.offer (place part) part).2 = .ok (some whole) ∧
        (∀ other ∈ whole, other = part ∨ seen other) ∨
      (assembly.offer (place part) part).2 = .ok none ∧
        ¬ (∀ other ∈ whole, other = part ∨ seen other) ∧
        Has place whole (fun other => other = part ∨ seen other)
          (assembly.offer (place part) part).1 := by
  have fits := not_contradicts_of_gathers isVersion has.gathers member
  have gathers := extend_gathers has.gathers fits (isVersion.within member) member
  have found : ∀ other ∈ whole,
      (assembly.extend (place part) part).parts.get? (place other).number = some other ↔
        other = part ∨ seen other := by
    intro other listed
    rw [extend, kept_eq_parts isVersion has.gathers member, NatMap.get?_insert]
    split
    · rename_i same
      have equal := eq_of_same_number isVersion.numbered listed member same
      simp [equal]
    · rename_i different
      have apart : other ≠ part := fun same => different (by rw [same])
      rw [has.found other listed]
      simp [apart]
  have reaches : (assembly.extend (place part) part).last = last :=
    (isVersion.agree part member).2.2
  have full := full_iff isVersion gathers reaches
  have covered : (assembly.extend (place part) part).Full ↔
      ∀ other ∈ whole, other = part ∨ seen other := by
    rw [full]
    exact forall_congr' fun other => forall_congr' fun listed => found other listed
  rw [offer_fitting part fits]
  by_cases complete : (assembly.extend (place part) part).Full
  · rw [if_pos complete, values_eq_whole isVersion gathers complete reaches]
    exact .inl ⟨rfl, covered.mp complete⟩
  · rw [if_neg complete]
    exact .inr ⟨rfl, mt covered.mpr complete, gathers, found⟩

end Version

end Assembly

end TransportStream
