import Mathlib.Algebra.Order.Group.Int
import Mathlib.Algebra.Order.Ring.Int
import Mathlib.Data.Nat.Cast.Order.Basic
import Mathlib.Data.Prod.Lex
import Mathlib.Order.Compare
import Regrid.Proofs.Scalar.Order
import Regrid.Scalar.Double

/-!
Contract: doubles are in order, and those that ascend are told apart by their difference.

Owns:
- the places of doubles on a line, with one place for both zeros;
- that the difference of doubles that ascend is rounded to one that is above zero, since no
  exponent is below that of the least positive double.

Does not own: how far a difference is from the exact one.
-/

namespace Regrid.Double

open Float.Model Float.Model.UnpackedFloat

/-! ### Places -/

/-- The place of a double: both zeros in the middle, then finite doubles of either sign by exponent
and significand, and infinities at the ends. -/
def place : UnpackedFloat → Int ×ₗ Int ×ₗ Int
  | .infinity .negative => toLex (-2, toLex (0, 0))
  | .finite .negative significand exponent _ => toLex (-1, toLex (-exponent, -significand))
  | .notANumber => toLex (0, toLex (0, 0))
  | .zero _ => toLex (0, toLex (0, 0))
  | .finite .positive significand exponent _ => toLex (1, toLex (exponent, significand))
  | .infinity .positive => toLex (2, toLex (0, 0))

theorem cmp_toLex {ι κ : Type} [LinearOrder ι] [LinearOrder κ] (first second : ι)
    (left right : κ) :
    cmp (toLex (first, left)) (toLex (second, right)) =
      (cmp first second).then (cmp left right) := by
  rcases lt_trichotomy first second with below | rfl | above
  · rw [below.cmp_eq_lt, (Prod.Lex.toLex_lt_toLex.mpr (.inl below)).cmp_eq_lt]
    rfl
  · rw [cmp_self_eq_eq]
    have strict : StrictMono fun item : κ => toLex (first, item) :=
      fun _ _ below => Prod.Lex.toLex_lt_toLex.mpr (.inr ⟨rfl, below⟩)
    exact strict.cmp_map_eq left right
  · rw [above.cmp_eq_gt, (Prod.Lex.toLex_lt_toLex.mpr (.inl above)).cmp_eq_gt]
    rfl

/-- Numbers are compared like their places. -/
theorem compare_eq_cmp {x y : UnpackedFloat} (first : x ≠ .notANumber)
    (second : y ≠ .notANumber) : x.compare y = some (cmp (place x) (place y)) := by
  have naturals : StrictMono ((↑) : Nat → Int) := Nat.strictMono_cast
  have negatives : StrictAnti fun n : Int => -n := fun _ _ below => neg_lt_neg below
  rcases x with (_ | _) | _ | _ | ⟨(_ | _), significand, exponent, _⟩
  case notANumber => exact absurd rfl first
  all_goals rcases y with (_ | _) | _ | _ | ⟨(_ | _), other, otherExponent, _⟩
  case finite.negative.finite.negative =>
    show some ((compare exponent otherExponent).then (compare significand other)).swap =
      some (cmp (toLex _) (toLex _))
    rw [cmp_toLex, cmp_self_eq_eq, cmp_toLex, negatives.cmp_map_eq, negatives.cmp_map_eq,
      naturals.cmp_map_eq, Ordering.swap_then, ← cmp_eq_compare, ← cmp_eq_compare, cmp_swap,
      cmp_swap]
    rfl
  case finite.positive.finite.positive =>
    show some ((compare exponent otherExponent).then (compare significand other)) =
      some (cmp (toLex _) (toLex _))
    rw [cmp_toLex, cmp_self_eq_eq, cmp_toLex, naturals.cmp_map_eq, cmp_eq_compare, cmp_eq_compare]
    rfl
  all_goals first | rfl | exact absurd rfl second

theorem lt_iff {x y : UnpackedFloat} (first : x ≠ .notANumber) (second : y ≠ .notANumber) :
    x.lt y = true ↔ place x < place y := by
  show (x.compare y == some .lt) = true ↔ _
  rw [compare_eq_cmp first second, beq_iff_eq, Option.some_inj, cmp_eq_lt_iff]

theorem beq_iff {x y : UnpackedFloat} (first : x ≠ .notANumber) (second : y ≠ .notANumber) :
    x.beq y = true ↔ place x = place y := by
  show (x.compare y == some .eq) = true ↔ _
  rw [compare_eq_cmp first second, beq_iff_eq, Option.some_inj, cmp_eq_eq_iff]

theorem ne_notANumber_of_lt {x y : UnpackedFloat} (below : x.lt y = true) :
    x ≠ .notANumber ∧ y ≠ .notANumber := by
  constructor
  · rintro rfl
    cases below
  · rintro rfl
    rcases x with (_ | _) | _ | _ | ⟨(_ | _), _, _, _⟩ <;> cases below

/-! ### Comparisons of doubles -/

theorem below_iff (x y : Float) :
    Scalar.below x y = true ↔ x.toModel.unpack.lt y.toModel.unpack = true := by
  show decide (decide (x.toModel < y.toModel) = true) = true ↔ _
  rw [decide_eq_true_iff, decide_eq_true_iff]
  rfl

theorem atMost_iff (x y : Float) :
    Scalar.atMost x y = true ↔ x.toModel.unpack.le y.toModel.unpack = true := by
  show decide (decide (x.toModel ≤ y.toModel) = true) = true ↔ _
  rw [decide_eq_true_iff, decide_eq_true_iff]
  rfl

/-- Only not-a-number does not equal itself. -/
theorem ne_notANumber {x : Float} (own : Scalar.equal x x = true) :
    x.toModel.unpack ≠ .notANumber := by
  intro absent
  change x.toModel.unpack.beq x.toModel.unpack = true at own
  rw [absent] at own
  cases own

instance : Scalar.Ordered Float where
  Rank := Int ×ₗ Int ×ₗ Int
  order := inferInstance
  rank := fun x => place x.toModel.unpack
  below_iff := by
    intro x y first second
    exact (below_iff x y).trans (lt_iff (ne_notANumber first) (ne_notANumber second))
  equal_iff := by
    intro x y first second
    exact beq_iff (ne_notANumber first) (ne_notANumber second)

/-! ### Rounding -/

theorem targetExponent_eq (exponent : Int) :
    Format.binary64.targetExponent exponent = max (exponent - 53) (-1074) := rfl

theorem mantissa_shiftRight (extended : ExtendedMantissa) (amount : Nat) :
    (extended >>> amount).mantissa = extended.mantissa / 2 ^ amount := by
  induction amount with
  | zero => exact (Nat.div_one _).symm
  | succ amount inductionHypothesis =>
      show (extended >>> amount).mantissa / 2 = _
      rw [inductionHypothesis, Nat.div_div_eq_div_mul, Nat.pow_succ]

theorem mantissa_ofMantissaAndAccuracy (mantissa : Nat) (accuracy : Accuracy) :
    (ExtendedMantissa.ofMantissaAndAccuracy mantissa accuracy).mantissa = mantissa := by
  rcases accuracy with _ | (_ | _ | _) <;> rfl

theorem le_roundedMantissa (extended : ExtendedMantissa) :
    extended.mantissa ≤ extended.roundedMantissa := by
  obtain ⟨mantissa, roundBit, stickyBit⟩ := extended
  cases roundBit <;> cases stickyBit
  · exact Nat.le_refl _
  · exact Nat.le_refl _
  · exact Nat.le_add_right _ _
  · exact Nat.le_add_right _ _

/-- A positive significand is shifted to fifty-three bits or less, and never shifted away. -/
theorem shiftToTargetExponent_bounds {significand : Nat} (positive : 0 < significand)
    {exponent : Int} (least : -1074 ≤ exponent) {accuracy : Accuracy}
    {extended : ExtendedMantissa} {shifted : Int}
    (done : shiftToTargetExponent Format.binary64 significand exponent accuracy =
      (extended, shifted)) :
    0 < extended.mantissa ∧ extended.mantissa < 2 ^ 53 ∧ -1074 ≤ shifted := by
  obtain ⟨rfl, rfl⟩ := Prod.mk.inj done
  rw [mantissa_shiftRight, mantissa_ofMantissaAndAccuracy, targetExponent_eq, totalExponent]
  generalize amountEq : (max _ _ - exponent).toNat = amount
  have lower := Nat.log2_self_le positive.ne'
  have upper := Nat.lt_log2_self (n := significand)
  have kept : amount ≤ significand.log2 := by omega
  have few : significand.log2 + 1 ≤ 53 + amount := by omega
  refine ⟨?_, ?_, by omega⟩
  · exact Nat.div_pos ((Nat.pow_le_pow_right Nat.two_pos kept).trans lower) (Nat.two_pow_pos _)
  · rw [Nat.div_lt_iff_lt_mul (Nat.two_pow_pos _), ← Nat.pow_add]
    exact upper.trans_le (Nat.pow_le_pow_right Nat.two_pos few)

/-- A number above zero as it comes out of rounding. Its exponent may be too large for a double. -/
inductive Positive : UnpackedFloat → Prop where
  | infinity : Positive (.infinity .positive)
  | finite {significand : Nat} {exponent : Int} (positive : 0 < significand)
      (below : significand < 2 ^ 53) (least : -1074 ≤ exponent) :
      Positive (.finite .positive significand exponent positive)

theorem positive_roundWithAccuracy {significand : Nat} (positive : 0 < significand)
    {exponent : Int} (least : -1074 ≤ exponent) (accuracy : Accuracy) :
    Positive (roundWithAccuracy Format.binary64 .positive significand exponent accuracy) := by
  unfold roundWithAccuracy
  rcases first : shiftToTargetExponent Format.binary64 significand exponent accuracy with
    ⟨extended, shifted⟩
  obtain ⟨kept, _, shiftedLeast⟩ := shiftToTargetExponent_bounds positive least first
  have rounded := kept.trans_le (le_roundedMantissa extended)
  dsimp only
  -- rounding up can take one bit too many, so there is a second shift
  rcases second : shiftToTargetExponent Format.binary64 extended.roundedMantissa shifted .exact with
    ⟨final, finalExponent⟩
  obtain ⟨finalKept, below, finalLeast⟩ :=
    shiftToTargetExponent_bounds rounded shiftedLeast second
  dsimp only
  rw [dif_neg finalKept.ne']
  exact .finite finalKept below finalLeast

theorem positive_round {significand : Nat} (positive : 0 < significand) {exponent : Int}
    (least : -1074 ≤ exponent) :
    Positive (UnpackedFloat.round Format.binary64 .positive significand exponent) := by
  apply positive_roundWithAccuracy
  · rw [Nat.shiftLeft_eq]
    exact Nat.mul_pos positive (Nat.two_pow_pos _)
  · rw [targetExponent_eq]
    omega

theorem positive_normalize {difference : Int} (positive : 0 < difference) {exponent : Int}
    (least : -1074 ≤ exponent) (sign : Sign) :
    Positive (UnpackedFloat.normalize Format.binary64 difference exponent sign) := by
  unfold UnpackedFloat.normalize
  rw [compare_gt_iff_gt.mpr positive]
  exact positive_round (by omega) least

/-! ### Bits -/

/-- A significand and an exponent that a double has: the leading bit is set, or the exponent is the
least one. -/
structure Canonical (significand : Nat) (exponent : Int) : Prop where
  below : significand < 2 ^ 53
  least : -1074 ≤ exponent
  full : exponent = -1074 ∨ 2 ^ 52 ≤ significand

theorem toNat_append (fraction : BitVec 52) :
    (1#1 ++ fraction).toNat = 2 ^ 52 + fraction.toNat := by
  rw [BitVec.toNat_append, ← Nat.shiftLeft_add_eq_or_of_lt fraction.isLt]
  rfl

theorem canonical_unpack {bits : BitVec Format.binary64.numBits} {sign : Sign}
    {significand : Nat} {exponent : Int} {positive : 0 < significand}
    (unpacked : UnpackedFloat.unpack Format.binary64 bits =
      .finite sign significand exponent positive) : Canonical significand exponent := by
  have fits : (unpackMantissa bits).toNat < 2 ^ 52 := (unpackMantissa bits).isLt
  change (if unpackExponent bits = -1#_ then _ else if unpackExponent bits = 0#_ then
    if _ : unpackMantissa bits = 0#_ then _ else _ else _) = _ at unpacked
  by_cases largest : unpackExponent bits = -1#_
  · rw [if_pos largest] at unpacked
    by_cases none : unpackMantissa bits = 0#_
    · cases (if_pos none).symm.trans unpacked
    · cases (if_neg none).symm.trans unpacked
  · rw [if_neg largest] at unpacked
    by_cases least : unpackExponent bits = 0#_
    · rw [if_pos least] at unpacked
      by_cases none : unpackMantissa bits = 0#_
      · cases (dif_pos none).symm.trans unpacked
      · cases (dif_neg none).symm.trans unpacked
        rw [least]
        exact ⟨by omega, by decide, .inl (by decide)⟩
    · cases (if_neg least).symm.trans unpacked
      have biased : (unpackExponent bits).toNat ≠ 0 :=
        fun none => least (BitVec.eq_of_toNat_eq none)
      have bias : Format.binary64.exponentBias = 1023 := rfl
      have width : Format.binary64.mantissaBitsWithoutImplicit = 52 := rfl
      rw [toNat_append]
      exact ⟨by omega, by omega, .inr (Nat.le_add_right _ _)⟩

theorem unpackSign_packComponents {format : Format} (sign : Sign)
    (exponent : BitVec format.exponentBits)
    (fraction : BitVec format.mantissaBitsWithoutImplicit) :
    unpackSign (packComponents format sign exponent fraction) = sign.toBitVec := by
  apply BitVec.eq_of_getLsbD_eq
  intro position inside
  obtain rfl : position = 0 := by omega
  show (((sign.toBitVec ++ exponent ++ fraction).extractLsb _ _).cast _).getLsbD 0 = _
  simp [BitVec.getLsbD_append, BitVec.getElem_append]

/-- What has the positive sign and is no zero is not at most zero. -/
theorem le_unpack {bits : BitVec Format.binary64.numBits} (sign : unpackSign bits = 0#1)
    (some : unpackExponent bits = 0#_ → unpackMantissa bits ≠ 0#_) :
    (UnpackedFloat.unpack Format.binary64 bits).le (.zero .positive) = false := by
  change UnpackedFloat.le (if unpackExponent bits = -1#_ then _ else if unpackExponent bits = 0#_
    then if _ : unpackMantissa bits = 0#_ then _ else _ else _) _ = _
  rw [sign]
  by_cases largest : unpackExponent bits = -1#_
  · rw [if_pos largest]
    by_cases none : unpackMantissa bits = 0#_
    · rw [if_pos none]
      rfl
    · rw [if_neg none]
      rfl
  · rw [if_neg largest]
    by_cases least : unpackExponent bits = 0#_
    · rw [if_pos least, dif_neg (some least)]
      rfl
    · rw [if_neg least]
      rfl

theorem le_packComponents {exponent : BitVec Format.binary64.exponentBits}
    {fraction : BitVec Format.binary64.mantissaBitsWithoutImplicit}
    (some : exponent = 0#_ → fraction ≠ 0#_) :
    (UnpackedFloat.unpack Format.binary64
      (packComponents Format.binary64 .positive exponent fraction)).le (.zero .positive) =
        false := by
  apply le_unpack
  · exact unpackSign_packComponents ..
  · rw [unpackExponent_packComponents, unpackMantissa_packComponents]
    exact some

/-- No number above zero is packed into a zero: it has an exponent or a fraction. -/
theorem Positive.le_pack {x : UnpackedFloat} (above : Positive x) :
    (Float.Model.pack x).unpack.le (.zero .positive) = false := by
  cases above with
  | infinity => rfl
  | @finite significand exponent positive below least =>
      have bias : Format.binary64.exponentBias = 1023 := rfl
      have bits : Format.binary64.mantissaBits = 53 := rfl
      show (UnpackedFloat.unpack Format.binary64 (UnpackedFloat.pack Format.binary64 _)).le _ = _
      unfold UnpackedFloat.pack
      simp only []
      split
      · rfl
      · split
        next full =>
          refine le_packComponents fun none => absurd (congrArg BitVec.toNat none) ?_
          rw [BitVec.toNat_ofNat, BitVec.toNat_ofNat]
          omega
        next partly =>
          refine le_packComponents fun _ none => absurd (congrArg BitVec.toNat none) ?_
          have short := (Nat.log2_lt positive.ne').mpr below
          have smaller : significand < 2 ^ 52 := (Nat.log2_lt positive.ne').mp (by omega)
          rw [BitVec.toNat_ofNat, BitVec.toNat_ofNat]
          omega

/-! ### Differences -/

/-- Finite doubles above zero stay in order when they are taken to one exponent. -/
theorem Canonical.shiftLeft_lt {significand other : Nat} {exponent otherExponent : Int}
    (canonical : Canonical significand exponent) (otherCanonical : Canonical other otherExponent)
    (below : toLex (exponent, (significand : Int)) < toLex (otherExponent, (other : Int))) :
    significand <<< (exponent - min exponent otherExponent).toNat <
      other <<< (otherExponent - min exponent otherExponent).toNat := by
  rw [Nat.shiftLeft_eq, Nat.shiftLeft_eq]
  rcases Prod.Lex.toLex_lt_toLex.mp below with lower | ⟨same, smaller⟩
  · have unshifted : (exponent - min exponent otherExponent).toNat = 0 := by omega
    have shifted : 1 ≤ (otherExponent - min exponent otherExponent).toNat := by omega
    have least := canonical.least
    have full := otherCanonical.full.resolve_left (by omega)
    calc significand * 2 ^ (exponent - min exponent otherExponent).toNat
        = significand := by rw [unshifted, Nat.pow_zero, Nat.mul_one]
      _ < 2 ^ 52 * 2 ^ 1 := canonical.below
      _ ≤ other * 2 ^ (otherExponent - min exponent otherExponent).toNat :=
          Nat.mul_le_mul full (Nat.pow_le_pow_right Nat.two_pos shifted)
  · obtain rfl : exponent = otherExponent := same
    exact Nat.mul_lt_mul_of_pos_right (Int.ofNat_lt.mp smaller) (Nat.two_pow_pos _)

theorem toLex_lt_of_neg {first second left right : Int}
    (below : toLex (-first, -left) < toLex (-second, -right)) :
    toLex (second, right) < toLex (first, left) := by
  rcases Prod.Lex.toLex_lt_toLex.mp below with lower | ⟨same, smaller⟩
  · exact Prod.Lex.toLex_lt_toLex.mpr (.inl (neg_lt_neg_iff.mp lower))
  · exact Prod.Lex.toLex_lt_toLex.mpr
      (.inr ⟨(neg_inj.mp same).symm, neg_lt_neg_iff.mp smaller⟩)

/-- The difference of doubles that ascend is above zero, before it is packed. -/
theorem positive_sub {x y : UnpackedFloat}
    (canonical : ∀ {sign significand exponent positive},
      x = .finite sign significand exponent positive → Canonical significand exponent)
    (otherCanonical : ∀ {sign significand exponent positive},
      y = .finite sign significand exponent positive → Canonical significand exponent)
    (below : x.lt y = true) : Positive (UnpackedFloat.sub Format.binary64 y x) := by
  obtain ⟨first, second⟩ := ne_notANumber_of_lt below
  have places := (lt_iff first second).mp below
  rcases x with (_ | _) | _ | _ | ⟨(_ | _), significand, exponent, some⟩ <;>
    rcases y with (_ | _) | _ | _ | ⟨(_ | _), other, otherExponent, otherSome⟩
  case zero.finite.positive =>
    have fits := otherCanonical rfl
    exact .finite otherSome fits.below fits.least
  case finite.negative.zero =>
    have fits := canonical rfl
    exact .finite some fits.below fits.least
  case finite.negative.finite.positive =>
    apply positive_normalize
    · show 0 < ((other <<< _ : Nat) : Int) - -((significand <<< _ : Nat) : Int)
      have kept : 0 < other <<< (otherExponent - min otherExponent exponent).toNat := by
        rw [Nat.shiftLeft_eq]
        exact Nat.mul_pos otherSome (Nat.two_pow_pos _)
      have added := Int.natCast_nonneg
        (significand <<< (exponent - min otherExponent exponent).toNat)
      omega
    · exact le_min (otherCanonical rfl).least (canonical rfl).least
  case finite.negative.finite.negative =>
    have sizes := toLex_lt_of_neg
      ((Prod.Lex.toLex_lt_toLex.mp places).resolve_left (lt_irrefl _)).2
    apply positive_normalize
    · show 0 < -((other <<< _ : Nat) : Int) - -((significand <<< _ : Nat) : Int)
      have shifted := (otherCanonical rfl).shiftLeft_lt (canonical rfl) sizes
      omega
    · exact le_min (otherCanonical rfl).least (canonical rfl).least
  case finite.positive.finite.positive =>
    have sizes := ((Prod.Lex.toLex_lt_toLex.mp places).resolve_left (lt_irrefl _)).2
    apply positive_normalize
    · show 0 < ((other <<< _ : Nat) : Int) - ((significand <<< _ : Nat) : Int)
      have shifted := (canonical rfl).shiftLeft_lt (otherCanonical rfl) sizes
      rw [min_comm] at shifted
      omega
    · exact le_min (otherCanonical rfl).least (canonical rfl).least
  all_goals first | exact .infinity | cases below

theorem unpack_zero : (Scalar.zero : Float).toModel.unpack = .zero .positive := rfl

instance : Scalar.Separated Float where
  atMost_sub := by
    intro x y ascending
    have above := positive_sub canonical_unpack canonical_unpack ((below_iff x y).mp ascending)
    rw [← Bool.not_eq_true, atMost_iff, unpack_zero, Bool.not_eq_true]
    exact above.le_pack

end Regrid.Double
