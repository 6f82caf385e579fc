import Rollout.Proofs.Wire.Encoding
import Rollout.Proofs.Wire.Uint

/-!
# Whole units

An integer of at most 128 bits, or an amount of so many whole units, is written, and what is written
is accepted.
-/

set_option autoImplicit false

namespace Rollout

namespace Wire

open Rollout.Number

private theorem maxUint128_le_roundedLimit : maxUint128 ≤ roundedLimit := by decide

/-- Whole units that fit are written as they are, in a form that is accepted. -/
theorem encodeDecimal_of_units {memory : Memory} {coefficient units : Nat} {exponent : Int}
    (whole : Decimal.magnitude coefficient exponent * 10 ^ places = units)
    (bounded : units ≤ maxUint128) (written : -(memory.places : Int) ≤ exponent) :
    ∃ text, encodeDecimal memory (.decimal (.finite false coefficient exponent)) = .ok text ∧
      ∀ account, Schema.Kind.decimal.check account (.text text) = .ok none := by
  have within := Nat.le_trans bounded maxUint128_le_roundedLimit
  refine ⟨Decimal.printPlain false coefficient exponent, ?_, fun account => ?_⟩
  · rw [encodeDecimal_eq_ok_iff]
    exact ⟨false, coefficient, exponent, rfl, .of_units whole within written, rfl⟩
  · exact check_printPlain_of_units account whole within

/-- An integer of at most 128 bits is written, and what is written is accepted. -/
theorem encodeUint128_of_natural {number : Nat} (bounded : number ≤ maxUint128) :
    ∃ text, encodeUint128 (.int number) = .ok text ∧
      ∀ account, Schema.Kind.uint128.check account (.text text) = .ok none := by
  refine ⟨toString (number : Int), ?_, fun account => check_uint128_of_le account bounded⟩
  exact encodeUint128_eq_ok_iff.mpr ⟨number, rfl, bounded, rfl⟩

end Wire

end Rollout
