import Mathlib.Algebra.Group.Nat.Defs
import Mathlib.Data.List.Sort
import NestedQuery.Plan.Walk

/-!
# Display order, entry by entry

Sorting looks at keys only. Two lists whose entries correspond one to one, with the same keys, are
therefore sorted in the same way, and the sorted lists correspond again. This is what lets a
statement and a result type be sorted apart from each other and still agree at every position.

## Main Results

* `sortBy_eq_insertionSort`: the sort that runs is the library's insertion sort
* `inDisplayOrder_perm`: nothing is lost or added
* `sortByKey_pairwise`: what is sorted by keys is in their order
* `stablySorted_inDisplayOrder`: display order, in full
* `inDisplayOrder_forall₂`: corresponding lists stay so
* `map_inDisplayOrder`: sorting commutes with a change of entries that keeps the display orders
-/

namespace NestedQuery

/-! ### Sorting

The comparisons are tests that run, and so is the sort. As a sort by a relation it is the insertion
sort of the library. -/

theorem insertSorted_eq_orderedInsert (le : α → α → Bool) (x : α) (xs : List α) :
    insertSorted le x xs = xs.orderedInsert (fun y z => le y z = true) x := by
  induction xs with
  | nil => rfl
  | cons y ys ih => rw [insertSorted, List.orderedInsert_cons, ih]

theorem sortBy_eq_insertionSort (le : α → α → Bool) (xs : List α) :
    sortBy le xs = xs.insertionSort fun x y => le x y = true := by
  induction xs with
  | nil => rfl
  | cons x xs ih => rw [sortBy, insertSorted_eq_orderedInsert, ih, List.insertionSort_cons]

theorem sortByKey_eq_insertionSort (key : α → Nat) (xs : List α) :
    sortByKey key xs = xs.insertionSort fun x y => key x ≤ key y := by
  rw [sortByKey, sortBy_eq_insertionSort]
  simp only [decide_eq_true_eq]

theorem sortBy_perm (le : α → α → Bool) (xs : List α) : (sortBy le xs).Perm xs := by
  rw [sortBy_eq_insertionSort]
  exact List.perm_insertionSort _ xs

/-- A list sorted by keys is in the order of its keys. -/
theorem sortByKey_pairwise (key : α → Nat) (xs : List α) :
    (sortByKey key xs).Pairwise fun x y => key x ≤ key y := by
  have total : Std.Total fun x y : α => key x ≤ key y := ⟨fun x y => Nat.le_total (key x) (key y)⟩
  have trans : IsTrans α fun x y => key x ≤ key y := ⟨fun _ _ _ => Nat.le_trans⟩
  rw [sortByKey_eq_insertionSort]
  exact List.pairwise_insertionSort _ xs

/-- Sorting by keys commutes with a change of elements that keeps the keys. -/
theorem map_sortByKey {key : α → Nat} {key' : β → Nat} (f : α → β) {xs : List α}
    (keys : ∀ x ∈ xs, key x = key' (f x)) :
    (sortByKey key xs).map f = sortByKey key' (xs.map f) := by
  rw [sortByKey_eq_insertionSort, sortByKey_eq_insertionSort]
  refine List.map_insertionSort _ _ f xs ?_
  intro x first y second
  rw [keys x first, keys y second]

/-! ### Permutation -/

/-- The entries in display order are the entries, each as often as before. -/
theorem inDisplayOrder_perm (order : α → Option UInt32) (entries : List α) :
    (inDisplayOrder order entries).Perm entries := by
  have sorted := (sortBy_perm (fun x y => decide (x.1 ≤ y.1))
    (entries.zipIdx.map fun entry => (displayKey (order entry.1) entry.2, entry.1))).map Prod.snd
  rw [List.map_map] at sorted
  have unkeyed : entries.zipIdx.map (Prod.snd ∘ fun entry : α × Nat =>
      (displayKey (order entry.1) entry.2, entry.1)) = entries := List.zipIdx_map_fst 0 entries
  rw [unkeyed] at sorted
  exact sorted

@[simp] theorem length_inDisplayOrder (order : α → Option UInt32) (entries : List α) :
    (inDisplayOrder order entries).length = entries.length :=
  (inDisplayOrder_perm order entries).length_eq

/-! ### Stability -/

/-- What an entry at a position is sorted by: the display order that it asks for, or else the
position counted from one, as far as display orders go. -/
def placeKey (order : α → Option UInt32) (placed : α × Nat) : Nat :=
  match order placed.1 with
  | some asked => asked.toNat
  | none => min (placed.2 + 1) (2 ^ 32 - 1)

/-- Of two entries with their positions, the first one goes before the second. -/
def Precedes (order : α → Option UInt32) (x y : α × Nat) : Prop :=
  placeKey order x < placeKey order y ∨ placeKey order x = placeKey order y ∧ x.2 < y.2

/-- The entries of a list, each at its position once, by ascending keys, and by position where the
keys are equal. -/
def StablySorted (order : α → Option UInt32) (entries sorted : List α) : Prop :=
  ∃ placed : List (α × Nat), placed.Perm entries.zipIdx ∧ placed.map Prod.fst = sorted ∧
    placed.Pairwise (Precedes order)

/-- An entry from before all others goes in front of those with its own key. -/
theorem insertSorted_precedes {order : α → Option UInt32} {x : α × Nat} {xs : List (α × Nat)}
    (sorted : xs.Pairwise (Precedes order)) (first : ∀ y ∈ xs, x.2 < y.2) :
    (insertSorted (fun y z => decide (placeKey order y ≤ placeKey order z)) x xs).Pairwise
      (Precedes order) := by
  induction xs with
  | nil => exact List.pairwise_singleton _ _
  | cons y ys ih =>
      obtain ⟨head, tail⟩ := List.pairwise_cons.mp sorted
      rw [insertSorted]
      by_cases before : placeKey order x ≤ placeKey order y
      · rw [if_pos (decide_eq_true before), List.pairwise_cons]
        refine ⟨?_, sorted⟩
        intro z member
        have later : x.2 < z.2 := first z member
        have above : placeKey order y ≤ placeKey order z := by
          rcases List.mem_cons.mp member with rfl | behind
          · exact Nat.le_refl _
          · exact (head z behind).elim Nat.le_of_lt fun tie => Nat.le_of_eq tie.1
        unfold Precedes
        omega
      · rw [if_neg (by simpa using before), List.pairwise_cons]
        refine ⟨?_, ih tail fun z member => first z (List.mem_cons_of_mem _ member)⟩
        intro z member
        rw [insertSorted_eq_orderedInsert, List.mem_orderedInsert] at member
        rcases member with rfl | behind
        · exact .inl (Nat.lt_of_not_le before)
        · exact head z behind

/-- Sorting by key keeps entries with equal keys in the order of their positions. -/
theorem sortByKey_precedes (order : α → Option UInt32) {placed : List (α × Nat)}
    (positions : placed.Pairwise fun x y => x.2 < y.2) :
    (sortByKey (placeKey order) placed).Pairwise (Precedes order) := by
  induction placed with
  | nil => exact List.Pairwise.nil
  | cons x xs ih =>
      obtain ⟨first, rest⟩ := List.pairwise_cons.mp positions
      refine insertSorted_precedes (ih rest) ?_
      intro y member
      exact first y ((sortBy_perm _ xs).mem_iff.mp member)

theorem zipIdx_pairwise_lt (entries : List α) (start : Nat) :
    (entries.zipIdx start).Pairwise fun x y => x.2 < y.2 := by
  have positions : ((entries.zipIdx start).map Prod.snd).Pairwise (· < ·) := by
    rw [List.zipIdx_map_snd]
    exact List.pairwise_lt_range'
  exact List.pairwise_map.mp positions

/-- Display order is the order of the keys of entries with their positions. -/
theorem inDisplayOrder_eq_sortByKey (order : α → Option UInt32) (entries : List α) :
    inDisplayOrder order entries =
      (sortByKey (placeKey order) entries.zipIdx).map Prod.fst := by
  have key : ∀ placed : α × Nat, placeKey order placed = displayKey (order placed.1) placed.2 := by
    intro placed
    unfold displayKey placeKey
    cases order placed.1 with
    | some asked => rfl
    | none => rfl
  have keyed : (sortByKey (placeKey order) entries.zipIdx).map
        (fun placed => (displayKey (order placed.1) placed.2, placed.1)) =
      sortByKey Prod.fst
        (entries.zipIdx.map fun placed => (displayKey (order placed.1) placed.2, placed.1)) :=
    map_sortByKey _ fun placed _ => key placed
  rw [inDisplayOrder, ← keyed, List.map_map]
  rfl

/-- **Display order is a stable sort that loses nothing.** -/
theorem stablySorted_inDisplayOrder (order : α → Option UInt32) (entries : List α) :
    StablySorted order entries (inDisplayOrder order entries) :=
  ⟨sortByKey (placeKey order) entries.zipIdx, sortBy_perm _ _,
    (inDisplayOrder_eq_sortByKey order entries).symm,
    sortByKey_precedes order (zipIdx_pairwise_lt entries 0)⟩

/-! ### Correspondence -/

/-- Display order commutes with a change of entries that keeps their display orders. -/
theorem map_inDisplayOrder {order : α → Option UInt32} {order' : β → Option UInt32} (f : α → β)
    {entries : List α} (orders : ∀ x ∈ entries, order x = order' (f x)) :
    (inDisplayOrder order entries).map f = inDisplayOrder order' (entries.map f) := by
  have keys : ∀ placed ∈ entries.zipIdx,
      placeKey order placed = placeKey order' (Prod.map f id placed) := by
    intro placed member
    unfold placeKey
    rw [orders _ (List.fst_mem_of_mem_zipIdx member)]
    rfl
  rw [inDisplayOrder_eq_sortByKey, inDisplayOrder_eq_sortByKey, List.zipIdx_map,
    ← map_sortByKey (Prod.map f id) keys, List.map_map, List.map_map]
  rfl

theorem inDisplayOrder_map (f : α → β) (order : β → Option UInt32) (entries : List α) :
    inDisplayOrder order (entries.map f) =
      (inDisplayOrder (fun x => order (f x)) entries).map f :=
  (map_inDisplayOrder f fun _ _ => rfl).symm

/-- Lists that correspond entry by entry, with the same display orders, correspond entry by entry
in display order. -/
theorem inDisplayOrder_forall₂ {R : α → β → Prop} {order : α → Option UInt32}
    {order' : β → Option UInt32} (orders : ∀ x y, R x y → order x = order' y)
    {xs : List α} {ys : List β} (lists : List.Forall₂ R xs ys) :
    List.Forall₂ R (inDisplayOrder order xs) (inDisplayOrder order' ys) := by
  obtain ⟨lengths, related⟩ := List.forall₂_iff_zip.mp lists
  -- Both lists are sorted as the list of their pairs is.
  have first : (inDisplayOrder (fun pair => order pair.1) (xs.zip ys)).map Prod.fst =
      inDisplayOrder order ((xs.zip ys).map Prod.fst) :=
    map_inDisplayOrder _ fun _ _ => rfl
  have second : (inDisplayOrder (fun pair => order pair.1) (xs.zip ys)).map Prod.snd =
      inDisplayOrder order' ((xs.zip ys).map Prod.snd) :=
    map_inDisplayOrder _ fun pair member => orders pair.1 pair.2 (related member)
  rw [List.map_fst_zip (Nat.le_of_eq lengths)] at first
  rw [List.map_snd_zip (Nat.le_of_eq lengths.symm)] at second
  rw [← first, ← second, List.forall₂_map_left_iff, List.forall₂_map_right_iff, List.forall₂_same]
  intro pair member
  exact related ((inDisplayOrder_perm _ _).mem_iff.mp member)

end NestedQuery
