import Mathlib
import Worksheet.Proofs.Number.Seen

namespace Worksheet

/-!
# Division by zero

A quotient is formed only for a divisor other than zero, so a division looks at its divisor
first.  By zero, of either sign, a zero and what is not a number leave no number, and any other
number leaves an infinity that is negative if just one of the two signs is.

The guard lets no zero through, and its answers are those that binary64 arithmetic has for these
divisors.  Hence a guarded division always comes to the quotient of this arithmetic.
-/

namespace Binary64

open Float.Model Float.Model.UnpackedFloat

/-- The sign of a number. -/
def sign (number : Float) : Sign :=
  if isNegative number then .negative else .positive

theorem ofBitVec_unpackSign (number : Float) :
    Sign.ofBitVec (@unpackSign Format.binary64 number.toBits.toBitVec) = sign number := by
  have bound := number.toBits.toNat_lt
  have bit : (@unpackSign Format.binary64 number.toBits.toBitVec).toNat =
      number.toBits.toNat / 2 ^ 63 % 2 := by
    rw [← Nat.shiftRight_eq_div_pow]
    rfl
  unfold Sign.ofBitVec sign isNegative signPattern
  by_cases negative : 0x8000000000000000 ≤ number.toBits.toNat
  · rw [if_pos (decide_eq_true negative), if_neg]
    intro empty
    rw [empty] at bit
    change 0 = _ at bit
    omega
  · rw [decide_eq_false negative, if_neg Bool.false_ne_true, if_pos]
    apply BitVec.eq_of_toNat_eq
    rw [bit]
    change _ = 0
    omega

/-- The sign of an unpacked number. -/
def signOf? : UnpackedFloat → Option Sign
  | .notANumber => none
  | .zero sign | .infinity sign | .finite sign _ _ _ => some sign

/-- A number is unpacked with its sign. -/
theorem eq_sign_of_unpack (number : Float) :
    ∀ unpacked ∈ signOf? number.toModel.unpack, unpacked = sign number := by
  rw [← ofBitVec_unpackSign]
  unfold Float.Model.unpack UnpackedFloat.unpack
  dsimp only
  split_ifs
  all_goals rintro _ ⟨⟩
  all_goals rfl

/-- Only the two zeros equal zero. -/
theorem beq_zero_iff {number : Float} :
    (number == 0.0) = true ↔ ∃ sign, number.toModel.unpack = .zero sign := by
  change UnpackedFloat.beq number.toModel.unpack (.zero .positive) = true ↔ _
  cases number.toModel.unpack with
  | notANumber => simp [UnpackedFloat.beq, UnpackedFloat.compare]
  | zero sign => simp [UnpackedFloat.beq, UnpackedFloat.compare]
  | infinity sign => cases sign <;> simp [UnpackedFloat.beq, UnpackedFloat.compare]
  | finite sign => cases sign <;> simp [UnpackedFloat.beq, UnpackedFloat.compare]

theorem isNaN_iff {number : Float} :
    number.isNaN = true ↔ number.toModel.unpack = .notANumber := by
  change UnpackedFloat.isNaN number.toModel.unpack = true ↔ _
  cases number.toModel.unpack <;> simp [UnpackedFloat.isNaN]

end Binary64

namespace Number

open Binary64 Float.Model

/-- The quotient of two numbers.  There is none by zero, of either sign. -/
def quotient? (left right : Float) : Option Float :=
  if right == 0.0 then none else some (left / right)

/-- The magnitude of a number with the sign of another one. -/
def withSignOf (other number : Float) : Float :=
  Binary64.toFloat (isNegative other) (magnitude number)

/-- What a division by zero leaves. -/
def dividedByZero (left right : Float) : Float :=
  if left == 0.0 || left.isNaN then undefined
  else withSignOf left (infinity false) * withSignOf right 1.0

/-- Divide, but form a quotient only if the divisor is not zero. -/
def divide? (left right : Float) : Option Float :=
  if right == 0.0 then some (dividedByZero left right) else quotient? left right

/-- The sign of the infinity is the quotient of the two signs. -/
theorem withSignOf_mul (left right : Float) :
    withSignOf left (infinity false) * withSignOf right 1.0 =
      ⟨.pack (.infinity (sign left / sign right))⟩ := by
  unfold withSignOf sign
  cases isNegative left <;> cases isNegative right <;> decide +kernel

/-- What the guard answers is the quotient of binary64 arithmetic. -/
theorem dividedByZero_eq {left right : Float} (zero : (right == 0.0) = true) :
    dividedByZero left right = left / right := by
  have unsigned : (⟨.pack .notANumber⟩ : Float) = undefined := by decide +kernel
  rcases beq_zero_iff.mp zero with ⟨divisor, second⟩
  have divided : left / right =
      ⟨.pack (UnpackedFloat.div Format.binary64 left.toModel.unpack (.zero divisor))⟩ := by
    rw [← second]
    rfl
  have leftSign := eq_sign_of_unpack left
  have rightSign := eq_sign_of_unpack right
  rw [second] at rightSign
  rw [divided, dividedByZero, withSignOf_mul, ← rightSign divisor rfl, ← unsigned]
  have guarded : (left == 0.0 || left.isNaN) = true ↔
      (∃ sign, left.toModel.unpack = .zero sign) ∨ left.toModel.unpack = .notANumber := by
    rw [Bool.or_eq_true, beq_zero_iff, Binary64.isNaN_iff]
  cases first : left.toModel.unpack with
  | notANumber =>
    rw [if_pos (guarded.mpr (.inr first))]
    rfl
  | zero sign =>
    rw [if_pos (guarded.mpr (.inl ⟨sign, first⟩))]
    rfl
  | infinity dividend =>
    rw [first] at leftSign guarded
    rw [if_neg (guarded.not.mpr (by simp)), ← leftSign dividend rfl]
    rfl
  | finite dividend mantissa exponent positive =>
    rw [first] at leftSign guarded
    rw [if_neg (guarded.not.mpr (by simp)), ← leftSign dividend rfl]
    rfl

/-- A guarded division always has a result, the quotient of binary64 arithmetic. -/
theorem divide?_eq_some (left right : Float) : divide? left right = some (left / right) := by
  rw [divide?]
  split
  · next zero => rw [dividedByZero_eq zero]
  · next other => rw [quotient?, if_neg other]

end Number
end Worksheet
