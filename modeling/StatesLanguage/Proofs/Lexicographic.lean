import Mathlib.Data.String.Basic
import Mathlib.Order.Compare
import StatesLanguage.Proofs.Numeral

/-!
# Lexicographic orders

What is made of parts is compared part by part if the first parts say where the rest
begins: positions in blocks that follow each other, texts of one length before the rest,
numerals digit by digit.  The order of texts is that of the scalar values of their
characters, and also that of their UTF-8 bytes.
-/

namespace StatesLanguage

theorem compare_map {α β : Type} [LinearOrder α] [LinearOrder β] (map : α → β)
    (rises : ∀ {lower upper}, lower < upper → map lower < map upper) (left right : α) :
    compare (map left) (map right) = compare left right := by
  rcases lt_trichotomy left right with before | same | after
  · rw [compare_lt_iff_lt.mpr before, compare_lt_iff_lt.mpr (rises before)]
  · rw [same, compare_eq_iff_eq.mpr rfl, compare_eq_iff_eq.mpr rfl]
  · rw [compare_gt_iff_gt.mpr after, compare_gt_iff_gt.mpr (rises after)]

theorem compare_natCast (left right : Nat) :
    compare (left : Int) (right : Int) = compare left right :=
  compare_map Nat.cast (fun before => Int.ofNat_lt.mpr before) left right

/-- Positions are compared by their blocks, and in one block by their distances from its
start. -/
theorem compare_in_blocks {Block : Type} [LinearOrder Block] (start length : Block → Int)
    {left right : Block} {leftPlace rightPlace : Nat}
    (rises : left < right → start left + length left ≤ start right)
    (falls : right < left → start right + length right ≤ start left)
    (leftInside : leftPlace < length left) (rightInside : rightPlace < length right) :
    compare (start left + leftPlace) (start right + rightPlace) =
      (compare left right).then (compare leftPlace rightPlace) := by
  rcases lt_trichotomy left right with before | same | after
  · have apart := rises before
    rw [compare_lt_iff_lt.mpr before, Ordering.lt_then, compare_lt_iff_lt]
    omega
  · rw [same, compare_eq_iff_eq.mpr rfl, Ordering.eq_then]
    apply compare_map fun place : Nat => start right + place
    intro lower upper before
    omega
  · have apart := falls after
    rw [compare_gt_iff_gt.mpr after, Ordering.gt_then, compare_gt_iff_gt]
    omega

/-- Blocks of one length. -/
theorem compare_mul_add {length : Nat} {left right : Int} {leftPlace rightPlace : Nat}
    (leftInside : leftPlace < length) (rightInside : rightPlace < length) :
    compare (left * length + leftPlace) (right * length + rightPlace) =
      (compare left right).then (compare leftPlace rightPlace) := by
  have apart : ∀ {lower upper : Int}, lower < upper →
      lower * length + length ≤ upper * length := by
    intro lower upper before
    calc
      lower * length + length = (lower + 1) * length := by rw [Int.add_mul, Int.one_mul]
      _ ≤ upper * length := Int.mul_le_mul_of_nonneg_right before (Int.natCast_nonneg length)
  exact compare_in_blocks (fun block => block * length) (fun _ => length) apart apart
    (Int.ofNat_lt.mpr leftInside) (Int.ofNat_lt.mpr rightInside)

theorem compare_mul_add_nat {length left right leftPlace rightPlace : Nat}
    (leftInside : leftPlace < length) (rightInside : rightPlace < length) :
    compare (left * length + leftPlace) (right * length + rightPlace) =
      (compare left right).then (compare leftPlace rightPlace) := by
  rw [← compare_natCast, ← compare_natCast left]
  push_cast
  exact compare_mul_add leftInside rightInside

section

variable {α β : Type} [Ord α] [Ord β]

theorem compare_append {left right : List α} (level : left.length = right.length)
    (leftRest rightRest : List α) :
    compare (left ++ leftRest) (right ++ rightRest) =
      (compare left right).then (compare leftRest rightRest) := by
  induction left generalizing right with
  | nil =>
      cases right with
      | nil => rfl
      | cons item right => cases level
  | cons item left induction =>
      cases right with
      | nil => cases level
      | cons other right =>
          rw [List.cons_append, List.cons_append, List.compare_cons_cons,
            List.compare_cons_cons, induction (Nat.succ.inj level), Ordering.then_assoc]

theorem compare_cons_same [Std.ReflOrd α] (item : α) (left right : List α) :
    compare (item :: left) (item :: right) = compare left right := by
  rw [List.compare_cons_cons, Std.compare_self, Ordering.eq_then]

/-- Codes that are not empty and keep the order of what they stand for, whatever comes
after them. -/
theorem compare_flatMap {code : α → List β} (present : ∀ item, code item ≠ [])
    (keeps : ∀ item other leftRest rightRest,
      compare (code item ++ leftRest) (code other ++ rightRest) =
        (compare item other).then (compare leftRest rightRest)) (left right : List α) :
    compare (left.flatMap code) (right.flatMap code) = compare left right := by
  induction left generalizing right with
  | nil =>
      cases right with
      | nil => rfl
      | cons other right =>
          obtain ⟨first, others, coded⟩ := List.exists_cons_of_ne_nil (present other)
          rw [List.flatMap_cons, coded]
          rfl
  | cons item left induction =>
      cases right with
      | nil =>
          obtain ⟨first, others, coded⟩ := List.exists_cons_of_ne_nil (present item)
          rw [List.flatMap_cons, coded]
          rfl
      | cons other right =>
          rw [List.flatMap_cons, List.flatMap_cons, keeps, induction, List.compare_cons_cons]

end

namespace Text

theorem compare_characters_eq_lt {left right : List Char} :
    compare left right = .lt ↔ left < right := by
  induction left generalizing right with
  | nil =>
      cases right with
      | nil => simp
      | cons other right => simp
  | cons character left induction =>
      cases right with
      | nil => simp
      | cons other right =>
          rw [List.compare_cons_cons, Ordering.then_eq_lt, compare_lt_iff_lt,
            compare_eq_iff_eq, induction, List.cons_lt_cons_iff]

theorem compare_toList (left right : String) :
    compare left right = compare left.toList right.toList := by
  rcases lt_trichotomy left right with before | same | after
  · have characters := compare_characters_eq_lt.mpr (String.lt_iff_toList_lt.mp before)
    rw [compare_lt_iff_lt.mpr before, characters]
  · rw [same, compare_eq_iff_eq.mpr rfl, Std.compare_self]
  · have characters := compare_characters_eq_lt.mpr (String.lt_iff_toList_lt.mp after)
    rw [compare_gt_iff_gt.mpr after, Std.OrientedOrd.eq_swap, characters]
    rfl

/-- The scalar values of the characters of a text. -/
def scalars (text : String) : List Nat :=
  text.toList.map Char.toNat

/-- The UTF-8 bytes of a text. -/
def bytes (text : String) : List Nat :=
  text.toByteArray.data.toList.map UInt8.toNat

/-- The UTF-8 bytes of a character. -/
def characterBytes (character : Char) : List Nat :=
  (String.utf8EncodeChar character).map UInt8.toNat

theorem compare_scalars (left right : String) :
    compare (scalars left) (scalars right) = compare left right := by
  have single : ∀ text, scalars text = text.toList.flatMap fun character =>
      [character.toNat] := fun text => List.map_eq_flatMap
  rw [single, single, compare_toList]
  apply compare_flatMap
  · intro character
    exact List.cons_ne_nil _ _
  · intro character other leftRest rightRest
    have ordered := compare_map Char.toNat (fun before => UInt32.lt_iff_toNat_lt.mp before)
      character other
    rw [List.singleton_append, List.singleton_append, List.compare_cons_cons, ordered]

theorem bytes_eq (text : String) : bytes text = text.toList.flatMap characterBytes := by
  rw [bytes, ← String.utf8Encode_toList, List.utf8Encode, List.toList_data_toByteArray,
    List.map_flatMap]
  rfl

/-- One byte to four, by the size of the scalar value. -/
theorem characterBytes_cases (character : Char) :
    let value := character.toNat
    (value < 128 ∧ characterBytes character = [value]) ∨
    (128 ≤ value ∧ value < 2048 ∧
      characterBytes character = [value / 64 + 192, value % 64 + 128]) ∨
    (2048 ≤ value ∧ value < 65536 ∧ characterBytes character =
      [value / 4096 + 224, value / 64 % 64 + 128, value % 64 + 128]) ∨
    (65536 ≤ value ∧ characterBytes character =
      [value / 262144 + 240, value / 4096 % 64 + 128, value / 64 % 64 + 128,
        value % 64 + 128]) := by
  have most : character.toNat < 0x110000 := by
    have valid : character.toNat.isValidChar := character.valid
    unfold Nat.isValidChar at valid
    omega
  have value_eq : character.val.toNat = character.toNat := rfl
  simp only [characterBytes, String.utf8EncodeChar, value_eq]
  generalize character.toNat = value at most
  split
  · left
    simp [UInt8.toNat_ofNat']
    omega
  · split
    · right; left
      simp [UInt8.toNat_ofNat']
      omega
    · split
      · right; right; left
        simp [UInt8.toNat_ofNat']
        omega
      · right; right; right
        simp [UInt8.toNat_ofNat']
        omega

theorem characterBytes_ne_nil (character : Char) : characterBytes character ≠ [] := by
  rw [characterBytes, ne_eq, List.map_eq_nil_iff]
  exact String.utf8EncodeChar_ne_nil

theorem compare_cons_eq_lt {first other : Nat} {left right : List Nat} :
    compare (first :: left) (other :: right) = .lt ↔
      first < other ∨ first = other ∧ compare left right = .lt := by
  rw [List.compare_cons_cons, Ordering.then_eq_lt, compare_lt_iff_lt, compare_eq_iff_eq]

/-- A longer code has a greater first byte, and codes of one length are numerals to the
base 64 behind that. -/
theorem compare_characterBytes_of_lt {lower upper : Char} (before : lower < upper)
    (lowerRest upperRest : List Nat) :
    compare (characterBytes lower ++ lowerRest) (characterBytes upper ++ upperRest) = .lt := by
  have less : lower.toNat < upper.toNat := UInt32.lt_iff_toNat_lt.mp before
  rcases characterBytes_cases lower with
    ⟨small, coded⟩ | ⟨least, most, coded⟩ | ⟨least, most, coded⟩ | ⟨least, coded⟩ <;>
  rcases characterBytes_cases upper with
    ⟨small', coded'⟩ | ⟨least', most', coded'⟩ | ⟨least', most', coded'⟩ | ⟨least', coded'⟩ <;>
  simp only [coded, coded', List.cons_append, compare_cons_eq_lt] <;> omega

theorem compare_bytes (left right : String) :
    compare (bytes left) (bytes right) = compare left right := by
  rw [bytes_eq, bytes_eq, compare_toList]
  apply compare_flatMap characterBytes_ne_nil
  intro character other leftRest rightRest
  rcases lt_trichotomy character other with before | same | after
  · rw [compare_characterBytes_of_lt before, compare_lt_iff_lt.mpr before, Ordering.lt_then]
  · rw [same, compare_append rfl, Std.compare_self, compare_eq_iff_eq.mpr rfl]
  · rw [Std.OrientedOrd.eq_swap, compare_characterBytes_of_lt after,
      compare_gt_iff_gt.mpr after, Ordering.gt_then]
    rfl

theorem compare_digits {left right : Char} {leftValue rightValue : Nat}
    (leftCounts : digit? left = some leftValue) (rightCounts : digit? right = some rightValue) :
    compare left right = compare leftValue rightValue := by
  obtain ⟨leftBelow, rfl⟩ := digit?_eq_some_iff.mp leftCounts
  obtain ⟨rightBelow, rfl⟩ := digit?_eq_some_iff.mp rightCounts
  have table : ∀ value < 10, ∀ other < 10,
      compare (Nat.digitChar value) (Nat.digitChar other) = compare value other := by
    decide
  exact table leftValue leftBelow rightValue rightBelow

/-- Numerals of one length are in the order of what they count. -/
theorem Numeral.compare_eq {left right : List Char} {leftNumber rightNumber : Nat}
    (leftNumeral : Numeral left leftNumber) (rightNumeral : Numeral right rightNumber)
    (level : left.length = right.length) :
    compare left right = compare leftNumber rightNumber := by
  induction leftNumeral generalizing right rightNumber with
  | digit counts =>
      cases rightNumeral with
      | digit rightCounts =>
          rw [List.compare_cons_cons, compare_digits counts rightCounts]
          exact Ordering.then_eq
      | more before rightCounts =>
          have longer := List.length_pos_of_ne_nil before.ne_nil
          rw [List.length_append, List.length_singleton, List.length_singleton] at level
          omega
  | more before counts induction =>
      cases rightNumeral with
      | digit rightCounts =>
          have longer := List.length_pos_of_ne_nil before.ne_nil
          rw [List.length_append, List.length_singleton, List.length_singleton] at level
          omega
      | more rightBefore rightCounts =>
          have shorter := Nat.succ.inj (by simpa using level)
          rw [compare_append shorter, induction rightBefore shorter, List.compare_cons_cons,
            compare_digits counts rightCounts, Nat.mul_comm 10, Nat.mul_comm 10,
            compare_mul_add_nat (digit?_eq_some_iff.mp counts).1
              (digit?_eq_some_iff.mp rightCounts).1]
          congr 1
          exact Ordering.then_eq

end Text

end StatesLanguage
