import EcmaEdition.Text.Character
import Mathlib.Data.Nat.Digits.Defs

/-!
# Numbers in decimal digits

A row of decimal digits writes a number in base ten, whatever scripts the digits come from and
however many zeros stand in front. The number is described through the values of the digits, each of
which is below ten, as the sum of the values times their powers of ten. The reader goes through the
row from the left, so the law about it speaks of a row behind a number that is already read.
-/

set_option autoImplicit false

namespace EcmaEdition.Text

/-- The characters of a row are digits with the given values. -/
def HaveValues (digits : List Char) (values : List Nat) : Prop :=
  List.Forall₂ (fun c value => digitValue? c = some value) digits values

/-- A row of one digit or more writes the number whose places in base ten, from the highest down,
are the values of the digits. -/
def Writes (digits : List Char) (number : Nat) : Prop :=
  digits ≠ [] ∧ ∃ values, HaveValues digits values ∧ (∀ value ∈ values, value < 10) ∧
    number = Nat.ofDigits 10 values.reverse

/-- The value of a digit is below ten. -/
theorem digitValue?_lt {c : Char} {value : Nat} (read : digitValue? c = some value) :
    value < 10 := by
  obtain ⟨run, -, rfl⟩ := Option.map_eq_some_iff.mp read
  exact Nat.mod_lt _ (by omega)

/-- The values of a row of digits are below ten. -/
theorem HaveValues.lt {digits : List Char} {values : List Nat} (read : HaveValues digits values) :
    ∀ value ∈ values, value < 10 := by
  induction read with
  | nil => simp
  | cons here _ ih => exact List.forall_mem_cons.mpr ⟨digitValue?_lt here, ih⟩

/-- What has the values of digits is a row of digits. -/
theorem HaveValues.isDigit {digits : List Char} {values : List Nat}
    (read : HaveValues digits values) : ∀ c ∈ digits, isDigit c = true := by
  induction read with
  | nil => simp
  | cons here _ ih =>
    refine List.forall_mem_cons.mpr ⟨?_, ih⟩
    rw [Text.isDigit, here]
    rfl

/-- A row of digits has values. -/
theorem exists_haveValues {digits : List Char} (isRow : ∀ c ∈ digits, isDigit c = true) :
    ∃ values, HaveValues digits values := by
  induction digits with
  | nil => exact ⟨[], .nil⟩
  | cons c digits ih =>
    obtain ⟨values, read⟩ := ih fun d listed => isRow d (List.mem_cons_of_mem _ listed)
    obtain ⟨value, here⟩ := Option.isSome_iff_exists.mp (isRow c List.mem_cons_self)
    exact ⟨value :: values, .cons here read⟩

/-- Going on with a row behind a number shifts the number by as many places as the row has. -/
theorem foldl_digits {digits : List Char} {values : List Nat} (read : HaveValues digits values)
    (number : Nat) :
    digits.foldl (fun value c => 10 * value + (digitValue? c).getD 0) number =
      number * 10 ^ values.length + Nat.ofDigits 10 values.reverse := by
  -- The number is left open, since each digit that is read changes it.
  induction read generalizing number with
  | nil => simp
  | @cons c value digits values here _ ih =>
    rw [List.foldl_cons, ih, here, Option.getD_some, Nat.ofDigits_reverse_cons, List.length_cons,
      pow_succ]
    ring

/-- The number that a row of digits writes is the one with these values as its digits. -/
theorem HaveValues.decimalValue_eq {digits : List Char} {values : List Nat}
    (read : HaveValues digits values) : decimalValue digits = Nat.ofDigits 10 values.reverse := by
  rw [decimalValue, foldl_digits read, Nat.zero_mul, Nat.zero_add]

/-- A row writes the number that is read from it, if it is a row of digits at all. -/
theorem writes_iff {digits : List Char} {number : Nat} :
    Writes digits number ↔
      digits ≠ [] ∧ (∀ c ∈ digits, isDigit c = true) ∧ decimalValue digits = number := by
  refine and_congr_right fun _ => ?_
  constructor
  · rintro ⟨values, read, -, rfl⟩
    exact ⟨read.isDigit, read.decimalValue_eq⟩
  · rintro ⟨isRow, rfl⟩
    obtain ⟨values, read⟩ := exists_haveValues isRow
    exact ⟨values, read, read.lt, read.decimalValue_eq⟩

end EcmaEdition.Text
