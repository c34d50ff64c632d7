import Mathlib.Order.Basic
import Mathlib.Tactic.Linarith
import Mathlib.Tactic.NormNum
import Mathlib.Algebra.Order.Group.Int

set_option autoImplicit false

/-! # Fixed-width integers with checked arithmetic

A fixed-width integer type is an interval `[lo, hi]` of `ℤ`. `MachineInt lo hi` carries the
bounds as fields, so an out-of-range value cannot be built, and every width and signedness is
one instance of it (`U32`, `U64`, `I128`). The checked operations compute in `ℤ` and succeed
exactly when the result fits; `ofInt?_eq_some` is the one fact the rest of a development needs
about each of them.
-/

/-- An integer between `lo` and `hi`. -/
structure MachineInt (lo hi : Int) where
  val : Int
  lo_le : lo ≤ val
  le_hi : val ≤ hi
deriving DecidableEq

namespace MachineInt

variable {lo hi : Int}

@[ext] theorem ext {a b : MachineInt lo hi} (h : a.val = b.val) : a = b := by
  cases a; cases b; cases h; rfl

theorem val_injective : Function.Injective (val : MachineInt lo hi → Int) :=
  fun _ _ h => ext h

theorem val_inj {a b : MachineInt lo hi} : a.val = b.val ↔ a = b :=
  val_injective.eq_iff

/-- A literal; the bounds are proved where it is written. -/
def lit (n : Int) (h : lo ≤ n ∧ n ≤ hi) : MachineInt lo hi := ⟨n, h.1, h.2⟩

@[simp] theorem val_lit (n : Int) (h : lo ≤ n ∧ n ≤ hi) :
    (lit n h : MachineInt lo hi).val = n := rfl

instance : LT (MachineInt lo hi) := ⟨fun a b => a.val < b.val⟩
instance : LE (MachineInt lo hi) := ⟨fun a b => a.val ≤ b.val⟩

instance (a b : MachineInt lo hi) : Decidable (a < b) :=
  inferInstanceAs (Decidable (a.val < b.val))

instance (a b : MachineInt lo hi) : Decidable (a ≤ b) :=
  inferInstanceAs (Decidable (a.val ≤ b.val))

theorem lt_def {a b : MachineInt lo hi} : a < b ↔ a.val < b.val := Iff.rfl

theorem le_def {a b : MachineInt lo hi} : a ≤ b ↔ a.val ≤ b.val := Iff.rfl

theorem not_lt {a b : MachineInt lo hi} : ¬ a < b ↔ b ≤ a := by
  rw [lt_def, le_def]; omega

/-! ## Range check and checked operations -/

/-- The value `n`, when it fits. -/
def ofInt? (n : Int) : Option (MachineInt lo hi) :=
  if h : lo ≤ n ∧ n ≤ hi then some ⟨n, h.1, h.2⟩ else none

theorem ofInt?_eq_some {n : Int} {x : MachineInt lo hi} : ofInt? n = some x ↔ x.val = n := by
  unfold ofInt?
  constructor
  · intro h
    split at h
    · cases h; rfl
    · cases h
  · rintro rfl
    rw [dif_pos ⟨x.lo_le, x.le_hi⟩]

theorem ofInt?_eq_none {n : Int} :
    (ofInt? n : Option (MachineInt lo hi)) = none ↔ n < lo ∨ hi < n := by
  unfold ofInt?
  split
  · rename_i h; simp; omega
  · rename_i h; simp; omega

/-- `checked_add`: the sum, when it fits. -/
def checkedAdd (a b : MachineInt lo hi) : Option (MachineInt lo hi) := ofInt? (a.val + b.val)

/-- `checked_sub`: the difference, when it fits. -/
def checkedSub (a b : MachineInt lo hi) : Option (MachineInt lo hi) := ofInt? (a.val - b.val)

/-- `checked_mul`: the product, when it fits. -/
def checkedMul (a b : MachineInt lo hi) : Option (MachineInt lo hi) := ofInt? (a.val * b.val)

/-- `checked_div`: the quotient, when the divisor is not zero and the quotient fits. On
non-negative operands this is the floor of the rational quotient. -/
def checkedDiv (a b : MachineInt lo hi) : Option (MachineInt lo hi) :=
  if b.val = 0 then none else ofInt? (a.val / b.val)

theorem checkedDiv_eq_some {a b x : MachineInt lo hi} :
    checkedDiv a b = some x ↔ b.val ≠ 0 ∧ x.val = a.val / b.val := by
  unfold checkedDiv
  by_cases hb : b.val = 0
  · simp [hb]
  · rw [if_neg hb, ofInt?_eq_some]; simp [hb]

end MachineInt

/-! ## The widths -/

/-- Unsigned 32-bit: `[0, 2 ^ 32 - 1]`. -/
abbrev U32 := MachineInt 0 4294967295

/-- Unsigned 64-bit: `[0, 2 ^ 64 - 1]`. -/
abbrev U64 := MachineInt 0 18446744073709551615

/-- Signed 128-bit: `[-2 ^ 127, 2 ^ 127 - 1]`. -/
abbrev I128 :=
  MachineInt (-170141183460469231731687303715884105728) 170141183460469231731687303715884105727

instance : Zero U32 := ⟨.lit 0 (by decide)⟩
instance : Zero U64 := ⟨.lit 0 (by decide)⟩
instance : Zero I128 := ⟨.lit 0 (by decide)⟩

@[simp] theorem U32.val_zero : (0 : U32).val = 0 := rfl
@[simp] theorem U64.val_zero : (0 : U64).val = 0 := rfl
@[simp] theorem I128.val_zero : (0 : I128).val = 0 := rfl

example : (4294967295 : Int) = 2 ^ 32 - 1 ∧ (18446744073709551615 : Int) = 2 ^ 64 - 1
    ∧ (170141183460469231731687303715884105727 : Int) = 2 ^ 127 - 1 := by norm_num
