import StatesLanguage.Proofs.PathComposition

/-!
# What slices select

The bounds of a slice are clamped to the array, and a missing bound is the end on its side.
So a slice selects neighbouring items of any array, however far out its bounds are, and what
follows a slice can be told from the array alone: an index is shifted by where the slice
starts, and a slice of a slice is one slice.
-/

namespace StatesLanguage

open Outcome

namespace Path

/-- The nearest position between the ends of an array of so many items. -/
def clamped (length : Nat) (position : Int) : Int :=
  max 0 (min position length)

section

variable {α : Type} (items : List α) (start stop : Option Int)

/-- The bounds of a slice are in order and within the array. -/
theorem sliceBounds_ordered (length : Nat) :
    (sliceBounds length start stop).1 ≤ (sliceBounds length start stop).2 ∧
      (sliceBounds length start stop).2 ≤ length := by
  simp only [sliceBounds]
  omega

theorem sliceBounds_fst (length : Nat) :
    ((sliceBounds length start stop).1 : Int) = clamped length (start.getD 0) := by
  simp only [sliceBounds, clamped]
  omega

/-- The second bound does not fall behind the first. -/
theorem sliceBounds_snd (length : Nat) :
    ((sliceBounds length start stop).2 : Int) =
      max (clamped length (start.getD 0)) (clamped length (stop.getD length)) := by
  simp only [sliceBounds, clamped]
  omega

theorem length_sliceItems :
    (sliceItems items start stop).length =
      (sliceBounds items.length start stop).2 - (sliceBounds items.length start stop).1 := by
  obtain ⟨ordered, within⟩ := sliceBounds_ordered start stop items.length
  simp only [sliceItems, List.length_take, List.length_drop]
  omega

theorem length_sliceItems_eq_max :
    ((sliceItems items start stop).length : Int) =
      max 0 (min (stop.getD items.length) items.length - max (start.getD 0) 0) := by
  have lower := sliceBounds_fst start stop items.length
  have upper := sliceBounds_snd start stop items.length
  rw [length_sliceItems]
  simp only [clamped] at lower upper
  omega

/-- Items are counted from where the slice starts, which is inside of the array if there are
any. -/
theorem getElem?_sliceItems {offset : Nat}
    (within : offset < (sliceItems items start stop).length) :
    (sliceItems items start stop)[offset]? =
      items[(max (start.getD 0) 0).toNat + offset]? := by
  have lower := sliceBounds_fst start stop items.length
  have length := length_sliceItems_eq_max items start stop
  have starts : (sliceBounds items.length start stop).1 = (max (start.getD 0) 0).toNat := by
    simp only [clamped] at lower
    omega
  rw [length_sliceItems] at within
  simp only [sliceItems]
  rw [List.getElem?_take_of_lt within, List.getElem?_drop, starts]

theorem itemAt?_sliceItems {position : Int} {item : α} :
    itemAt? (sliceItems items start stop) position = some item ↔
      (0 ≤ position ∧ position < (sliceItems items start stop).length) ∧
        items[(max (start.getD 0) 0 + position).toNat]? = some item := by
  rw [itemAt?_eq_some, and_assoc]
  apply and_congr_right
  intro counted
  have shifted : (max (start.getD 0) 0 + position).toNat =
      (max (start.getD 0) 0).toNat + position.toNat := by
    omega
  rw [shifted]
  constructor
  · intro found
    have within := (List.getElem?_eq_some_iff.mp found).1
    rw [getElem?_sliceItems items start stop within] at found
    exact ⟨by omega, found⟩
  · rintro ⟨within, found⟩
    rw [getElem?_sliceItems items start stop (by omega)]
    exact found

theorem exists_itemAt?_sliceItems {position : Int} :
    (∃ item, itemAt? (sliceItems items start stop) position = some item) ↔
      0 ≤ position ∧ position < (sliceItems items start stop).length := by
  constructor
  · rintro ⟨item, found⟩
    exact ((itemAt?_sliceItems items start stop).mp found).1
  · rintro ⟨counted, within⟩
    have within : position.toNat < (sliceItems items start stop).length := by omega
    exact ⟨_, itemAt?_eq_some.mpr ⟨counted, List.getElem?_eq_getElem within⟩⟩

theorem sliceItems_of_bounds {start stop : Option Int} {first last : Nat}
    (bounds : sliceBounds items.length start stop = (first, last)) :
    sliceItems items start stop = (items.drop first).take (last - first) := by
  rw [sliceItems, bounds]

/-- A slice of a slice is one slice: both bounds of the second one are shifted by where the
first one starts. -/
theorem sliceItems_sliceItems (innerStart innerStop : Option Int) :
    sliceItems (sliceItems items start stop) innerStart innerStop =
      sliceItems items
        (some (clamped items.length (start.getD 0) +
          clamped (sliceItems items start stop).length (innerStart.getD 0)))
        (some (clamped items.length (start.getD 0) +
          clamped (sliceItems items start stop).length
            (innerStop.getD (sliceItems items start stop).length))) := by
  generalize counted : (sliceItems items start stop).length = count
  rcases bounds : sliceBounds items.length start stop with ⟨first, last⟩
  rcases innerBounds : sliceBounds count innerStart innerStop with ⟨innerFirst, innerLast⟩
  have length := length_sliceItems items start stop
  have ordered := sliceBounds_ordered start stop items.length
  have lower := sliceBounds_fst start stop items.length
  have innerOrdered := sliceBounds_ordered innerStart innerStop count
  have innerLower := sliceBounds_fst innerStart innerStop count
  have innerUpper := sliceBounds_snd innerStart innerStop count
  rw [bounds] at length ordered lower
  rw [innerBounds] at innerOrdered innerLower innerUpper
  have whole : sliceBounds items.length (some (first + innerFirst))
      (some (first + clamped count (innerStop.getD count))) =
        (first + innerFirst, first + innerLast) := by
    simp only [sliceBounds, Option.getD_some, Prod.mk.injEq]
    omega
  rw [← lower, ← innerLower, sliceItems_of_bounds items whole,
    sliceItems_of_bounds _ (counted ▸ innerBounds), sliceItems_of_bounds items bounds,
    List.drop_take, List.drop_drop, List.take_take]
  congr 1
  omega

end

end Path

namespace Document

open StatesLanguage.Path (clamped sliceItems sliceBounds)

/-- After a path to an array and a slice, the other steps are taken from the items of the
slice. -/
theorem resolve_slice_append {document context : Document} {path : Path}
    {items : List Document} (reached : path.resolve document context = .ok (.array items))
    {expression : String} {start stop : Option Int} {rest : List Path.Step}
    (read : Path.read expression = .ok ⟨path.root, path.steps ++ .slice start stop :: rest⟩)
    {value : Document} :
    document.resolve expression context = .ok value ↔
      Path.follow rest (.array (sliceItems items start stop)) = .ok value := by
  rw [Path.resolve] at reached
  rw [resolve_eq_ok_of_read read, Path.follow_append, reached]
  rfl

/-- The law of slices, for a path to an array.  The bounds are those of a range within the
array, and the slice is resolved to that range: its length and its items are given by the
bounds as they are written.  An index after the slice finds an item exactly if it counts one
of the slice, and then the one that many positions behind the start.  A slice after the slice
is resolved to one slice of the array, whose bounds are clamped and added. -/
theorem resolve_slices {document context : Document} {path : Path} {items : List Document}
    (reached : path.resolve document context = .ok (.array items)) (start stop : Option Int) :
    ((sliceBounds items.length start stop).1 ≤ (sliceBounds items.length start stop).2 ∧
      (sliceBounds items.length start stop).2 ≤ items.length) ∧
    (∀ expression : String, Path.read expression =
        .ok ⟨path.root, path.steps ++ [.slice start stop]⟩ →
      document.resolve expression context = .ok (.array (sliceItems items start stop))) ∧
    ((sliceItems items start stop).length : Int) =
      max 0 (min (stop.getD items.length) items.length - max (start.getD 0) 0) ∧
    (∀ offset < (sliceItems items start stop).length,
      (sliceItems items start stop)[offset]? =
        items[(max (start.getD 0) 0).toNat + offset]?) ∧
    (∀ (expression : String) (position : Int), Path.read expression =
        .ok ⟨path.root, path.steps ++ [.slice start stop, .index position]⟩ →
      ((∃ item, document.resolve expression context = .ok item) ↔
        0 ≤ position ∧ position < (sliceItems items start stop).length) ∧
      ∀ item, document.resolve expression context = .ok item →
        items[(max (start.getD 0) 0 + position).toNat]? = some item) ∧
    ∀ (expression : String) (innerStart innerStop : Option Int), Path.read expression =
        .ok ⟨path.root, path.steps ++ [.slice start stop, .slice innerStart innerStop]⟩ →
      document.resolve expression context =
        .ok (.array (sliceItems items
          (some (clamped items.length (start.getD 0) +
            clamped (sliceItems items start stop).length (innerStart.getD 0)))
          (some (clamped items.length (start.getD 0) +
            clamped (sliceItems items start stop).length
              (innerStop.getD (sliceItems items start stop).length))))) := by
  refine ⟨Path.sliceBounds_ordered start stop items.length, ?_,
    Path.length_sliceItems_eq_max items start stop,
    fun offset within => Path.getElem?_sliceItems items start stop within, ?_, ?_⟩
  · intro expression read
    exact (resolve_slice_append reached read).mpr rfl
  · intro expression position read
    have finds : ∀ item, document.resolve expression context = .ok item ↔
        Path.itemAt? (sliceItems items start stop) position = some item := by
      intro item
      rw [resolve_slice_append reached read, Path.follow_index_array]
      simp [Path.follow]
    simp only [finds]
    refine ⟨Path.exists_itemAt?_sliceItems items start stop, ?_⟩
    intro item found
    exact ((Path.itemAt?_sliceItems items start stop).mp found).2
  · intro expression innerStart innerStop read
    apply (resolve_slice_append reached read).mpr
    rw [← Path.sliceItems_sliceItems items start stop]
    rfl

def counts : Document :=
  .object [("counts", .array [.ofNat 10, .ofNat 20, .ofNat 30, .ofNat 40, .ofNat 50])]

/-- Bounds on both sides of the array, and an inner slice that starts before its own. -/
theorem counts_slices :
    (⟨.document, [.key "counts"]⟩ : Path).resolve counts .null =
        .ok (.array [.ofNat 10, .ofNat 20, .ofNat 30, .ofNat 40, .ofNat 50]) ∧
      Path.read "$.counts[1:9]" = .ok ⟨.document, [.key "counts", .slice (some 1) (some 9)]⟩ ∧
      counts.resolve "$.counts[1:9]" .null =
        .ok (.array [.ofNat 20, .ofNat 30, .ofNat 40, .ofNat 50]) ∧
      (∃ item, counts.resolve "$.counts[1:9][3]" .null = .ok item) ∧
      counts.resolve "$.counts[1:9][-7:2]" .null = .ok (.array [.ofNat 20, .ofNat 30]) := by
  have reached : (⟨.document, [.key "counts"]⟩ : Path).resolve counts .null =
      .ok (.array [.ofNat 10, .ofNat 20, .ofNat 30, .ofNat 40, .ofNat 50]) := rfl
  have sliced : Path.read "$.counts[1:9]" =
      .ok ⟨.document, [.key "counts", .slice (some 1) (some 9)]⟩ := by
    decide +kernel
  have indexed : Path.read "$.counts[1:9][3]" =
      .ok ⟨.document, [.key "counts", .slice (some 1) (some 9), .index 3]⟩ := by
    decide +kernel
  have twice : Path.read "$.counts[1:9][-7:2]" =
      .ok ⟨.document, [.key "counts", .slice (some 1) (some 9), .slice (some (-7)) (some 2)]⟩ := by
    decide +kernel
  obtain ⟨_, slice, _, _, index, inner⟩ := resolve_slices reached (some 1) (some 9)
  exact ⟨reached, sliced, slice _ sliced, (index _ 3 indexed).1.mpr (by decide),
    inner _ _ _ twice⟩

end Document

end StatesLanguage
