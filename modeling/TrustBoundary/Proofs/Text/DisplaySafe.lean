import TrustBoundary.Text.DisplaySafe

/-!
# Searching the table of safe code points

The ranges of the table lie in increasing order with a gap between any two of them
(`separated_displaySafe`).  Where this holds, the range in the middle tells on which
side of it a code point has to be looked for, so halving finds a code point exactly
if some range between the bounds contains it (`search_eq_true_iff`).

This does not hang on the way in which the table is halved.  Ranges that are separated are
ordered for the comparison with a code point (`Separated.orderedFor`), and every search that
finds an equal item in such an array comes to what a scan of all ranges comes to
(`isDisplaySafe_is_linear_scan`).
-/

set_option autoImplicit false

namespace TrustBoundary

namespace CodeRange

theorem contains_iff {range : CodeRange} {codePoint : Nat} :
    range.contains codePoint ↔ range.first ≤ codePoint ∧ codePoint ≤ range.last :=
  decide_eq_true_iff

/-- No range is empty, and between any two of them there is a gap. -/
structure Separated (ranges : Array CodeRange) : Prop where
  first_le_last : ∀ range ∈ ranges.toList, range.first ≤ range.last
  apart : ranges.toList.Pairwise fun earlier later => earlier.last + 1 < later.first

/-- The ranges that are safe to display are separated. -/
theorem separated_displaySafe : Separated displaySafe :=
  ⟨by decide +kernel, by decide +kernel⟩

/-- No control character is safe to display. -/
theorem first_ge_of_mem {range : CodeRange} (member : range ∈ displaySafe) :
    0x20 ≤ range.first := by
  have least : ∀ range ∈ displaySafe.toList, 0x20 ≤ range.first := by decide +kernel
  exact least range (Array.mem_toList_iff.mpr member)

/-- Printable ASCII is the first of the ranges. -/
theorem printable_mem : ⟨0x20, 0x7E⟩ ∈ displaySafe :=
  Array.mem_toList_iff.mp List.mem_cons_self

variable {ranges : Array CodeRange} {codePoint : Nat}

/-- Whether some range with an index from `low` up to, and not including, `high` contains
a code point. -/
def Between (ranges : Array CodeRange) (codePoint low high : Nat) : Prop :=
  ∃ index range, low ≤ index ∧ index < high ∧ ranges[index]? = some range ∧
    range.contains codePoint

theorem Between.mono {low high lower higher : Nat} (below : lower ≤ low) (above : high ≤ higher) :
    Between ranges codePoint low high → Between ranges codePoint lower higher
  | ⟨index, range, least, greatest, here, holds⟩ =>
      ⟨index, range, Nat.le_trans below least, Nat.lt_of_lt_of_le greatest above, here, holds⟩

section Separated

variable {index other : Nat} {range next : CodeRange}

theorem Separated.nonempty (separated : Separated ranges) (here : ranges[index]? = some range) :
    range.first ≤ range.last :=
  separated.first_le_last range (Array.mem_toList_iff.mpr (Array.mem_of_getElem? here))

theorem Separated.last_lt_first (separated : Separated ranges) (here : ranges[index]? = some range)
    (there : ranges[other]? = some next) (before : index < other) : range.last < next.first := by
  obtain ⟨inside, rfl⟩ := Array.getElem?_eq_some_iff.mp here
  obtain ⟨otherInside, rfl⟩ := Array.getElem?_eq_some_iff.mp there
  have apart := List.pairwise_iff_getElem.mp separated.apart index other inside otherInside before
  exact Nat.lt_of_succ_lt apart

/-- A range that contains a code point is behind one that ends in front of it. -/
theorem Separated.lt_index (separated : Separated ranges) (here : ranges[index]? = some range)
    (there : ranges[other]? = some next) (holds : range.contains codePoint)
    (passed : next.last < codePoint) : other < index := by
  refine Nat.not_le.mp fun behind => ?_
  have within := (contains_iff.mp holds).2
  rcases Nat.eq_or_lt_of_le behind with rfl | before
  · cases here.symm.trans there
    omega
  · have apart := separated.last_lt_first here there before
    have nonempty := separated.nonempty there
    omega

/-- A range that contains a code point is in front of one that begins behind it. -/
theorem Separated.index_lt (separated : Separated ranges) (here : ranges[index]? = some range)
    (there : ranges[other]? = some next) (holds : range.contains codePoint)
    (ahead : codePoint < next.first) : index < other := by
  refine Nat.not_le.mp fun before => ?_
  have within := (contains_iff.mp holds).1
  rcases Nat.eq_or_lt_of_le before with rfl | behind
  · cases here.symm.trans there
    omega
  · have apart := separated.last_lt_first there here behind
    have nonempty := separated.nonempty there
    omega

end Separated

/-- **Halving finds a code point** exactly if some range between the bounds contains it. -/
theorem search_eq_true_iff (separated : Separated ranges) {low high : Nat}
    (inside : high ≤ ranges.size) :
    search ranges codePoint low high = true ↔ Between ranges codePoint low high := by
  fun_induction search ranges codePoint low high with
  | case1 low high nonempty middle missing =>
      have outside := Array.getElem?_eq_none_iff.mp missing
      omega
  | case2 low high nonempty middle range there after ih =>
      rw [ih inside]
      refine ⟨Between.mono (by omega) (Nat.le_refl _), ?_⟩
      rintro ⟨index, containing, _, below, here, holds⟩
      exact ⟨index, containing, separated.lt_index here there holds after, below, here, holds⟩
  | case3 low high nonempty middle range there after before ih =>
      rw [ih (by omega)]
      refine ⟨Between.mono (Nat.le_refl _) (by omega), ?_⟩
      rintro ⟨index, containing, above, _, here, holds⟩
      exact ⟨index, containing, above, separated.index_lt here there holds before, here, holds⟩
  | case4 low high nonempty middle range there after before =>
      have holds : range.contains codePoint := contains_iff.mpr ⟨by omega, by omega⟩
      exact iff_of_true rfl ⟨middle, range, by omega, by omega, there, holds⟩
  | case5 low high empty =>
      refine iff_of_false Bool.false_ne_true ?_
      rintro ⟨index, _, above, below, _⟩
      omega

/-- Between the bounds of the whole array lie all its ranges. -/
theorem between_size_iff : Between ranges codePoint 0 ranges.size ↔
    ∃ range ∈ ranges, range.contains codePoint := by
  constructor
  · rintro ⟨_, range, _, _, here, holds⟩
    exact ⟨range, Array.mem_of_getElem? here, holds⟩
  · rintro ⟨range, member, holds⟩
    obtain ⟨index, inside, here⟩ := Array.mem_iff_getElem.mp member
    exact ⟨index, range, Nat.zero_le _, inside,
      Array.getElem?_eq_some_iff.mpr ⟨inside, here⟩, holds⟩

/-! ## Searching by comparison

A library that searches an array by halving it knows the items through a comparison only.  It
promises to find an item that is equal, provided that the array is ordered for the comparison.
The comparison of ranges with a code point is of this kind, so how the library halves the array
makes no difference (`find_isSome_iff`). -/

/-- How a range lies to a code point: in front of it, around it or behind it. -/
def placement (codePoint : Nat) (range : CodeRange) : Ordering :=
  if range.last < codePoint then .lt else if codePoint < range.first then .gt else .eq

/-- What is less comes first, and what is greater comes last. -/
def OrderedFor (compare : CodeRange → Ordering) (ranges : Array CodeRange) : Prop :=
  ranges.toList.Pairwise fun earlier later =>
    (compare later = .lt → compare earlier = .lt) ∧ (compare earlier = .gt → compare later = .gt)

/-- What a search promises: in an array that is ordered for the comparison, it gives the index
of an item that is equal, and nothing only if there is no such item. -/
structure FindsEqual (find : Array CodeRange → (CodeRange → Ordering) → Option Nat) : Prop where
  found {compare : CodeRange → Ordering} {ranges : Array CodeRange}
    (ordered : OrderedFor compare ranges)
    {index : Nat} (result : find ranges compare = some index) :
    ∃ range, ranges[index]? = some range ∧ compare range = .eq
  missed {compare : CodeRange → Ordering} {ranges : Array CodeRange}
    (ordered : OrderedFor compare ranges)
    (result : find ranges compare = none) {range : CodeRange} (member : range ∈ ranges) :
    compare range ≠ .eq

theorem placement_eq_iff {range : CodeRange} :
    placement codePoint range = .eq ↔ range.contains codePoint := by
  rw [placement, contains_iff]
  split
  · rename_i before
    exact iff_of_false nofun fun within => by omega
  · split
    · rename_i behind
      exact iff_of_false nofun fun within => by omega
    · exact iff_of_true rfl ⟨by omega, by omega⟩

theorem placement_eq_lt_iff {range : CodeRange} :
    placement codePoint range = .lt ↔ range.last < codePoint := by
  unfold placement
  split
  · rename_i before
    exact iff_of_true rfl before
  · rename_i notBefore
    refine iff_of_false ?_ notBefore
    split <;> nofun

/-- A range that is not empty lies behind a code point if it begins behind it. -/
theorem placement_eq_gt_iff {range : CodeRange} (nonempty : range.first ≤ range.last) :
    placement codePoint range = .gt ↔ codePoint < range.first := by
  unfold placement
  split
  · exact iff_of_false nofun (by omega)
  · split
    · rename_i behind
      exact iff_of_true rfl behind
    · rename_i notBehind
      exact iff_of_false nofun notBehind

/-- **Separated ranges are ordered for the comparison** with any code point. -/
theorem Separated.orderedFor (separated : Separated ranges) (codePoint : Nat) :
    OrderedFor (placement codePoint) ranges := by
  refine separated.apart.imp_of_mem fun {earlier later} inFront behind apart => ?_
  have nonempty := separated.first_le_last earlier inFront
  have laterNonempty := separated.first_le_last later behind
  rw [placement_eq_lt_iff, placement_eq_lt_iff, placement_eq_gt_iff nonempty,
    placement_eq_gt_iff laterNonempty]
  omega

/-- **Every search that keeps its promise** finds a code point exactly if some range contains
it. -/
theorem Separated.find_isSome_iff (separated : Separated ranges)
    {find : Array CodeRange → (CodeRange → Ordering) → Option Nat} (finds : FindsEqual find) :
    (find ranges (placement codePoint)).isSome ↔ ∃ range ∈ ranges, range.contains codePoint := by
  have ordered := separated.orderedFor codePoint
  cases result : find ranges (placement codePoint) with
  | none =>
      refine iff_of_false Bool.false_ne_true ?_
      rintro ⟨range, member, holds⟩
      exact finds.missed ordered result member (placement_eq_iff.mpr holds)
  | some index =>
      obtain ⟨range, here, same⟩ := finds.found ordered result
      exact iff_of_true rfl ⟨range, Array.mem_of_getElem? here, placement_eq_iff.mp same⟩

end CodeRange

/-- A code point is safe to display exactly if some range of the table contains it. -/
theorem isDisplaySafe_iff {codePoint : Nat} :
    isDisplaySafe codePoint ↔ ∃ range ∈ CodeRange.displaySafe, range.contains codePoint := by
  rw [isDisplaySafe, CodeRange.search_eq_true_iff CodeRange.separated_displaySafe (Nat.le_refl _),
    CodeRange.between_size_iff]

open CodeRange (displaySafe Separated FindsEqual placement)

/-- **The search of the table is a scan of all its ranges.**  No range of the table is empty, and
between any two there is a gap.  So a code point is safe to display exactly if it lies between
the ends of some range, the ends included, and any search that keeps its promise says the same
of it. -/
theorem isDisplaySafe_is_linear_scan (codePoint : Nat) :
    Separated displaySafe ∧
    (isDisplaySafe codePoint ↔
      ∃ range ∈ displaySafe, range.first ≤ codePoint ∧ codePoint ≤ range.last) ∧
    isDisplaySafe codePoint = displaySafe.any (fun range => range.contains codePoint) ∧
    ∀ find, FindsEqual find →
      (find displaySafe (placement codePoint)).isSome = isDisplaySafe codePoint := by
  refine ⟨CodeRange.separated_displaySafe, ?_, ?_, fun find finds => ?_⟩
  · rw [isDisplaySafe_iff]
    exact exists_congr fun range => and_congr_right fun _ => CodeRange.contains_iff
  · rw [Bool.eq_iff_iff, isDisplaySafe_iff, Array.any_eq_true']
  · rw [Bool.eq_iff_iff, isDisplaySafe_iff, CodeRange.separated_displaySafe.find_isSome_iff finds]

namespace CodeRange

/-- The search that tries one item after the other. -/
def firstEqual (ranges : Array CodeRange) (compare : CodeRange → Ordering) : Option Nat :=
  ranges.findIdx? fun range => compare range = .eq

theorem finds_firstEqual : FindsEqual firstEqual where
  found _ index result := by
    obtain ⟨inside, same, _⟩ := Array.findIdx?_eq_some_iff_getElem.mp result
    exact ⟨_, Array.getElem?_eq_getElem inside, of_decide_eq_true same⟩
  missed _ result range member := by
    exact of_decide_eq_false (Array.findIdx?_eq_none_iff.mp result range member)

end CodeRange

/-- The last code point of a range in the middle of the table is found, and the one behind it
is not. -/
theorem isDisplaySafe_is_linear_scan_cyrillic : FindsEqual CodeRange.firstEqual ∧
    (CodeRange.firstEqual displaySafe (placement 0x0481)).isSome = isDisplaySafe 0x0481 ∧
    isDisplaySafe 0x0481 ∧ ¬∃ range ∈ displaySafe, range.first ≤ 0x0482 ∧ 0x0482 ≤ range.last := by
  have finds := CodeRange.finds_firstEqual
  obtain ⟨_, _, _, same⟩ := isDisplaySafe_is_linear_scan 0x0481
  obtain ⟨_, between, _⟩ := isDisplaySafe_is_linear_scan 0x0482
  have notSafe : ¬isDisplaySafe 0x0482 := by decide +kernel
  exact ⟨finds, same _ finds, by decide +kernel, mt between.mpr notSafe⟩

end TrustBoundary
