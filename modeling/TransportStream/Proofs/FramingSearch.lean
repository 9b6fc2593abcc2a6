import TransportStream.Synchronizer

/-!
What a search for the frame finds does not depend on how much of the stream is there yet.
Positions at which no packet can start are passed over once and for all; only which of
several strides is found at a position can change with more data.
-/
namespace TransportStream

namespace Synchronizer

variable {minRun stride other run : Nat} {strides : List Nat} {data front back : Bytes}

/-! ### Packet starts -/

theorem startsWithin_mono {available more : Nat} (stride : Nat) (less : available ≤ more) :
    startsWithin available stride ≤ startsWithin more stride := by
  unfold startsWithin
  split
  · exact Nat.zero_le _
  · rw [if_neg (by omega)]
    exact Nat.succ_le_succ (Nat.div_le_div_right (by omega))

theorem startsWithin_antitone (available : Nat) (positive : 0 < stride)
    (wider : stride ≤ other) : startsWithin available other ≤ startsWithin available stride := by
  unfold startsWithin
  split
  · exact Nat.le_refl 0
  · exact Nat.succ_le_succ (Nat.div_le_div_left wider positive)

/-- A start shows in its first four bytes. -/
theorem startsWithin_four {available : Nat} (one : 1 ≤ startsWithin available stride) :
    4 ≤ available := by
  unfold startsWithin at one
  split at one <;> omega

/-- Enough data shows all starts of a run. -/
theorem startsWithin_reach {available : Nat} (positive : 0 < stride)
    (reach : run = 0 ∨ 4 + (run - 1) * stride ≤ available) :
    run ≤ startsWithin available stride := by
  rcases reach with rfl | reach
  · exact Nat.zero_le _
  · unfold startsWithin
    rw [if_neg (by omega)]
    have behind : run - 1 ≤ (available - 4) / stride :=
      (Nat.le_div_iff_mul_le positive).mpr (by omega)
    omega

/-- Past its first start, a run needs the data behind one stride. -/
theorem startsWithin_succ {available : Nat} (enough : run + 2 ≤ startsWithin available stride) :
    stride ≤ available ∧ run + 1 ≤ startsWithin (available - stride) stride := by
  unfold startsWithin at enough
  split at enough
  · omega
  · have positive : 0 < stride := by
      rcases Nat.eq_zero_or_pos stride with rfl | positive
      · simp at enough
      · exact positive
    have reach : (run + 1) * stride ≤ available - 4 :=
      (Nat.le_div_iff_mul_le positive).mp (by omega)
    rw [Nat.add_mul, Nat.one_mul] at reach
    have behind : run ≤ (available - stride - 4) / stride :=
      (Nat.le_div_iff_mul_le positive).mpr (by omega)
    refine ⟨by omega, ?_⟩
    unfold startsWithin
    rw [if_neg (by omega)]
    omega

/-- If the starts of a run show at one stride, they show at any shorter one that has so many
at all. -/
theorem startsWithin_shorter {available more : Nat} (enough : run ≤ startsWithin available stride)
    (shorter : other ≤ stride) (shown : run ≤ startsWithin more other) :
    run ≤ startsWithin available other := by
  unfold startsWithin at enough shown ⊢
  split at enough
  · omega
  · rename_i four
    rw [if_neg four]
    rcases Nat.eq_zero_or_pos other with rfl | positive
    · split at shown <;> simp at shown ⊢ <;> omega
    · have := @Nat.div_le_div_left _ _ (available - 4) shorter positive
      omega

theorem plausibleStart_head (start : plausibleStart data = true) :
    data.head? = some syncByte := by
  match data with
  | [] | [_] | [_, _] | [_, _, _] => cases start
  | _ :: _ :: _ :: _ :: _ =>
    rw [plausibleStart, Bool.and_eq_true, beq_iff_eq] at start
    exact congrArg some start.1

theorem plausibleStart_append (back : Bytes) (enough : 4 ≤ front.length) :
    plausibleStart (front ++ back) = plausibleStart front := by
  match front, enough with
  | _ :: _ :: _ :: _ :: _, _ => rfl

/-- A run that shows all its starts is judged once and for all. -/
theorem plausibleRun_append (back : Bytes) (enough : run ≤ startsWithin front.length stride) :
    plausibleRun stride run (front ++ back) = plausibleRun stride run front := by
  induction run generalizing front with
  | zero => rfl
  | succ run ih =>
    have four : 4 ≤ front.length := startsWithin_four (Nat.le_of_add_left_le enough)
    rw [plausibleRun, plausibleRun, plausibleStart_append back four]
    cases run with
    | zero => rfl
    | succ run =>
      obtain ⟨inside, behind⟩ := startsWithin_succ enough
      rw [List.drop_append_of_le_length inside, ih (by rwa [List.length_drop])]

/-! ### Runs -/

/-- Whether a run of packets at a stride starts here, all of its starts shown. -/
structure HasRun (minRun stride : Nat) (data : Bytes) : Prop where
  sync : data.head? = some syncByte
  shown : minRun ≤ startsWithin data.length stride
  packets : plausibleRun stride minRun data = true

theorem HasRun.append (found : HasRun minRun stride front) (back : Bytes) :
    HasRun minRun stride (front ++ back) where
  sync := by
    rw [List.head?_append, found.sync]
    rfl
  shown := Nat.le_trans found.shown (startsWithin_mono stride (by simp))
  packets := by
    rw [plausibleRun_append back found.shown, found.packets]

/-- A run is there as soon as its starts show. -/
theorem HasRun.of_append (found : HasRun minRun stride (front ++ back)) (filled : front ≠ [])
    (shown : minRun ≤ startsWithin front.length stride) : HasRun minRun stride front where
  sync := by
    cases front with
    | nil => exact absurd rfl filled
    | cons first rest => simpa using found.sync
  shown := shown
  packets := by
    rw [← plausibleRun_append back shown]
    exact found.packets

/-- Before the end of input, an alignment is a run. -/
theorem alignedAt?_iff (sync : data.head? = some syncByte) :
    alignedAt? minRun false data.length stride data = some true ↔ HasRun minRun stride data := by
  simp only [alignedAt?, Bool.false_eq_true, if_false]
  by_cases shown : minRun ≤ startsWithin data.length stride
  · rw [if_pos shown, Option.some.injEq]
    exact ⟨fun packets => ⟨sync, shown, packets⟩, fun found => found.packets⟩
  · rw [if_neg shown]
    exact iff_of_false (by simp) (fun found => shown found.shown)

theorem alignedAt?_unaligned :
    alignedAt? minRun false data.length stride data = some false ↔
      minRun ≤ startsWithin data.length stride ∧ plausibleRun stride minRun data = false := by
  simp only [alignedAt?, Bool.false_eq_true, if_false]
  by_cases shown : minRun ≤ startsWithin data.length stride
  · simp [shown]
  · simp [shown]

/-! ### Positions -/

/-- Whether no packet can start here, whatever follows: there is no sync byte, or every
stride shows all starts of a run, and one of them is none. -/
def Hopeless (minRun : Nat) (strides : List Nat) (data : Bytes) : Prop :=
  data.head? ≠ some syncByte ∨ ∀ stride ∈ strides,
    minRun ≤ startsWithin data.length stride ∧ plausibleRun stride minRun data = false

instance : Decidable (Hopeless minRun strides data) := inferInstanceAs (Decidable (_ ∨ _))

theorem Hopeless.append (hopeless : Hopeless minRun strides front) (filled : front ≠ [])
    (back : Bytes) : Hopeless minRun strides (front ++ back) := by
  rcases hopeless with noSync | noRun
  · left
    cases front with
    | nil => exact absurd rfl filled
    | cons first rest => simpa using noSync
  · right
    intro stride member
    obtain ⟨shown, noPackets⟩ := noRun stride member
    refine ⟨Nat.le_trans shown (startsWithin_mono stride (by simp)), ?_⟩
    rw [plausibleRun_append back shown, noPackets]

/-- No run starts at a hopeless position. -/
theorem Hopeless.not_hasRun (hopeless : Hopeless minRun strides data)
    (member : stride ∈ strides) :
    ¬HasRun minRun stride data := by
  rintro ⟨sync, _, packets⟩
  rcases hopeless with noSync | noRun
  · exact noSync sync
  · rw [(noRun stride member).2] at packets
    cases packets

/-- The number of hopeless positions that data starts with. -/
def barren (minRun : Nat) (strides : List Nat) : Bytes → Nat
  | [] => 0
  | first :: rest =>
    if Hopeless minRun strides (first :: rest) then barren minRun strides rest + 1 else 0

theorem barren_le (minRun : Nat) (strides : List Nat) (data : Bytes) :
    barren minRun strides data ≤ data.length := by
  induction data with
  | nil => exact Nat.le_refl 0
  | cons first rest ih =>
    unfold barren
    split
    · exact Nat.succ_le_succ ih
    · exact Nat.zero_le _

/-- Hopeless positions stay hopeless when more of the stream is there. -/
theorem barren_append (minRun : Nat) (strides : List Nat) (front back : Bytes) :
    barren minRun strides (front ++ back) = barren minRun strides front +
      barren minRun strides ((front ++ back).drop (barren minRun strides front)) := by
  induction front with
  | nil => simp [barren]
  | cons first rest ih =>
    by_cases hopeless : Hopeless minRun strides (first :: rest)
    · have still := hopeless.append (by simp) back
      rw [List.cons_append] at still
      rw [List.cons_append, barren, if_pos still, barren, if_pos hopeless, List.drop_succ_cons, ih]
      omega
    · simp [barren, hopeless]

/-- Behind some hopeless positions, the rest of them are left. -/
theorem barren_drop {count : Nat} (inside : count ≤ barren minRun strides data) :
    barren minRun strides (data.drop count) = barren minRun strides data - count := by
  induction count generalizing data with
  | zero => rfl
  | succ count ih =>
    cases data with
    | nil => simp [barren]
    | cons first rest =>
      by_cases hopeless : Hopeless minRun strides (first :: rest)
      · have passed : barren minRun strides (first :: rest) = barren minRun strides rest + 1 := by
          rw [barren, if_pos hopeless]
        rw [List.drop_succ_cons, ih (by omega)]
        omega
      · rw [barren, if_neg hopeless] at inside
        omega

/-- At the first position that is not hopeless, a run stays there, and none comes before. -/
theorem barren_of_hasRun (member : stride ∈ strides)
    (found : HasRun minRun stride (front.drop (barren minRun strides front))) (back : Bytes) :
    barren minRun strides (front ++ back) = barren minRun strides front := by
  have inside := barren_le minRun strides front
  rw [barren_append, List.drop_append_of_le_length inside]
  have run := found.append back
  have filled : front.drop (barren minRun strides front) ++ back ≠ [] := by
    intro empty
    rw [empty] at run
    exact absurd run.sync (by simp)
  cases rest : front.drop (barren minRun strides front) ++ back with
  | nil => exact absurd rest filled
  | cons first others =>
    rw [rest] at run
    rw [barren, if_neg (fun hopeless => hopeless.not_hasRun member run), Nat.add_zero]

/-! ### The search -/

/-- The first stride that passes the test: no stride before it did. -/
theorem judge_aligned {test : Nat → Option Bool} (judged : judge test strides = .aligned stride) :
    test stride = some true ∧ ∃ before after, strides = before ++ stride :: after ∧
      ∀ other ∈ before, test other ≠ some true := by
  induction strides with
  | nil => cases judged
  | cons first others ih =>
    unfold judge at judged
    cases tested : test first with
    | none =>
      simp only [tested] at judged
      split at judged <;> cases judged
      rename_i later
      obtain ⟨passed, before, after, split, failed⟩ := ih later
      refine ⟨passed, first :: before, after, by rw [split]; rfl, ?_⟩
      simpa [tested] using failed
    | some aligned =>
      cases aligned with
      | true =>
        simp only [tested] at judged
        cases judged
        exact ⟨tested, [], others, rfl, by simp⟩
      | false =>
        simp only [tested] at judged
        obtain ⟨passed, before, after, split, failed⟩ := ih judged
        refine ⟨passed, first :: before, after, by rw [split]; rfl, ?_⟩
        simpa [tested] using failed

theorem judge_unaligned {test : Nat → Option Bool} :
    judge test strides = .unaligned ↔ ∀ stride ∈ strides, test stride = some false := by
  induction strides with
  | nil => simp [judge]
  | cons first others ih =>
    unfold judge
    cases tested : test first with
    | none =>
      simp only [List.mem_cons, forall_eq_or_imp, tested]
      split <;> simp
    | some aligned =>
      cases aligned with
      | true => simp [tested]
      | false => simp [tested, ih]

theorem judge_undecided {test : Nat → Option Bool} (judged : judge test strides = .undecided) :
    ∀ stride ∈ strides, test stride ≠ some true := by
  induction strides with
  | nil => cases judged
  | cons first others ih =>
    unfold judge at judged
    cases tested : test first with
    | none =>
      simp only [tested] at judged
      split at judged
      · cases judged
      · rename_i later
        simpa [tested] using ih later
      · rename_i later
        simpa [tested] using fun stride member => by simp [judge_unaligned.mp later stride member]
    | some aligned =>
      cases aligned with
      | true =>
        simp only [tested] at judged
        cases judged
      | false =>
        simp only [tested] at judged
        simpa [tested] using ih judged

/-- Where no stride can be told, none is found. -/
theorem judge_none {test : Nat → Option Bool} (filled : strides ≠ [])
    (none : ∀ stride ∈ strides, test stride = none) : judge test strides = .undecided := by
  cases judged : judge test strides with
  | aligned stride =>
    obtain ⟨passed, before, after, order, _⟩ := judge_aligned judged
    simp [none stride (by simp [order])] at passed
  | undecided => rfl
  | unaligned =>
    obtain ⟨first, others, rfl⟩ := List.exists_cons_of_ne_nil filled
    have failed := judge_unaligned.mp judged first List.mem_cons_self
    simp [none first List.mem_cons_self] at failed

/-- What a search from a position on comes to before the end of input: it stops where the
data is not hopeless, at the first stride that has a run there, if there is one. -/
inductive Searched (minRun : Nat) (strides : List Nat) (position : Nat) (data : Bytes) :
    Search → Prop where
  | aligned {before after : List Nat} {stride : Nat} (order : strides = before ++ stride :: after)
      (found : HasRun minRun stride (data.drop (barren minRun strides data)))
      (first : ∀ other ∈ before,
        ¬HasRun minRun other (data.drop (barren minRun strides data))) :
      Searched minRun strides position data
        (.aligned (position + barren minRun strides data) stride)
  | undecided (none : ∀ stride ∈ strides,
        ¬HasRun minRun stride (data.drop (barren minRun strides data))) :
      Searched minRun strides position data (.undecided (position + barren minRun strides data))
  | exhausted (all : barren minRun strides data = data.length) :
      Searched minRun strides position data .exhausted

/-- A hopeless position is passed over. -/
private theorem search_hopeless {first : UInt8} {rest : Bytes} (total position : Nat)
    (whole : total = position + (first :: rest).length)
    (hopeless : Hopeless minRun strides (first :: rest)) :
    search minRun false strides total position (first :: rest) =
      search minRun false strides total (position + 1) rest := by
  have length : total - position = (first :: rest).length := by omega
  rw [search]
  split
  · rename_i sync
    have noRun : ∀ stride ∈ strides, alignedAt? minRun false (total - position) stride
        (first :: rest) = some false := by
      intro stride member
      rw [length, alignedAt?_unaligned]
      rcases hopeless with noSync | noRun
      · exact absurd (by simp [sync]) noSync
      · exact noRun stride member
    simp only [judge_unaligned.mpr noRun]
  · rfl

/-- Any other position ends the search. -/
private theorem search_hopeful {first : UInt8} {rest : Bytes} (total position : Nat)
    (whole : total = position + (first :: rest).length)
    (hopeful : ¬Hopeless minRun strides (first :: rest)) :
    Searched minRun strides position (first :: rest)
      (search minRun false strides total position (first :: rest)) := by
  have length : total - position = (first :: rest).length := by omega
  have sync : first = syncByte :=
    Decidable.byContradiction fun noSync => hopeful (.inl (by simpa using noSync))
  have head : (first :: rest).head? = some syncByte := by simp [sync]
  have stays : barren minRun strides (first :: rest) = 0 := by rw [barren, if_neg hopeful]
  rw [search, if_pos sync]
  cases judged : judge (fun stride => alignedAt? minRun false (total - position) stride
      (first :: rest)) strides with
  | aligned stride =>
    obtain ⟨passed, before, after, order, failed⟩ := judge_aligned judged
    rw [length, alignedAt?_iff head] at passed
    have found : Searched minRun strides position (first :: rest)
        (.aligned (position + barren minRun strides (first :: rest)) stride) := .aligned order
      (by rwa [stays]) (by
        intro other member run
        rw [stays, List.drop_zero] at run
        apply failed other member
        rwa [length, alignedAt?_iff head])
    simp only [judged]
    rwa [stays, Nat.add_zero] at found
  | undecided =>
    have found : Searched minRun strides position (first :: rest)
        (.undecided (position + barren minRun strides (first :: rest))) := .undecided (by
        intro stride member run
        rw [stays, List.drop_zero] at run
        apply judge_undecided judged stride member
        rwa [length, alignedAt?_iff head])
    simp only [judged]
    rwa [stays, Nat.add_zero] at found
  | unaligned =>
    refine absurd (.inr fun stride member => ?_) hopeful
    have failed := judge_unaligned.mp judged stride member
    rwa [length, alignedAt?_unaligned] at failed

theorem search_spec (minRun : Nat) (strides : List Nat) (position : Nat) (data : Bytes) :
    Searched minRun strides position data
      (search minRun false strides (position + data.length) position data) := by
  induction data generalizing position with
  | nil => exact .exhausted rfl
  | cons first rest ih =>
    by_cases hopeless : Hopeless minRun strides (first :: rest)
    · have passed : barren minRun strides (first :: rest) = barren minRun strides rest + 1 := by
        rw [barren, if_pos hopeless]
      have length : position + (first :: rest).length = position + 1 + rest.length := by
        rw [List.length_cons]
        omega
      rw [search_hopeless _ _ rfl hopeless, length]
      have place : position + 1 + barren minRun strides rest =
          position + barren minRun strides (first :: rest) := by omega
      have searched := ih (position + 1)
      generalize search minRun false strides (position + 1 + rest.length) (position + 1) rest =
        result at searched
      cases searched with
      | aligned order found first =>
        rw [place]
        exact .aligned order (by rwa [passed]) (by rwa [passed])
      | undecided none =>
        rw [place]
        exact .undecided (by rwa [passed])
      | exhausted all => exact .exhausted (by rw [passed, all]; rfl)
    · exact search_hopeful _ _ rfl hopeless

end Synchronizer

end TransportStream
