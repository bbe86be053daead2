import Regrid.Proofs.Scalar.Double

/-!
Contract: what the difference of two doubles tells about their order.

Owns:
- that the difference of doubles that do not ascend is rounded to one that is not above zero;
- the doubles for which the difference decides the order: numbers that are not one infinity twice.

Does not own: the difference of doubles that ascend, and vectors.

Not-a-number fails every comparison, so a difference that is not a number passes for one above zero.
This happens for operands that are not numbers and for an infinity less itself, and nowhere else.
-/

namespace Regrid.Double

open Float.Model Float.Model.UnpackedFloat

theorem le_iff {x y : UnpackedFloat} (first : x ≠ .notANumber) (second : y ≠ .notANumber) :
    x.le y = true ↔ place x ≤ place y := by
  show (x.compare y).any (·.isLE) = true ↔ _
  rw [compare_eq_cmp first second, Option.any_some]
  rcases lt_trichotomy (place x) (place y) with below | same | above
  · rw [below.cmp_eq_lt]
    exact iff_of_true rfl below.le
  · rw [same.cmp_eq_eq]
    exact iff_of_true rfl same.le
  · rw [above.cmp_eq_gt]
    exact iff_of_false nofun above.not_ge

/-- Doubles of which one is below the other equal themselves. -/
theorem equal_self_of_below {x y : Float} (below : Scalar.below x y = true) :
    Scalar.equal x x = true ∧ Scalar.equal y y = true := by
  obtain ⟨first, second⟩ := ne_notANumber_of_lt ((below_iff x y).mp below)
  exact ⟨(beq_iff first first).mpr rfl, (beq_iff second second).mpr rfl⟩

theorem not_equal_of_below {x y : Float} (below : Scalar.below x y = true) :
    ¬ Scalar.equal x y = true := by
  obtain ⟨first, second⟩ := equal_self_of_below below
  rw [Scalar.Ordered.equal_iff first second]
  exact ((Scalar.Ordered.below_iff first second).mp below).ne

theorem atMost_iff_rank {x y : Float} (first : Scalar.equal x x = true)
    (second : Scalar.equal y y = true) :
    Scalar.atMost x y = true ↔ Scalar.Ordered.rank x ≤ Scalar.Ordered.rank y :=
  (atMost_iff x y).trans (le_iff (ne_notANumber first) (ne_notANumber second))

/-! ### Rounding -/

/-- A number that is not above zero, as it comes out of rounding. -/
inductive NotAbove : UnpackedFloat → Prop where
  | infinity : NotAbove (.infinity .negative)
  | zero (sign : Sign) : NotAbove (.zero sign)
  | finite {significand : Nat} {exponent : Int} (positive : 0 < significand) :
      NotAbove (.finite .negative significand exponent positive)

theorem notAbove_roundWithAccuracy (significand : Nat) (exponent : Int) (accuracy : Accuracy) :
    NotAbove (roundWithAccuracy Format.binary64 .negative significand exponent accuracy) := by
  unfold roundWithAccuracy
  rcases shiftToTargetExponent Format.binary64 significand exponent accuracy with
    ⟨extended, shifted⟩
  dsimp only
  rcases shiftToTargetExponent Format.binary64 extended.roundedMantissa shifted .exact with
    ⟨final, finalExponent⟩
  dsimp only
  by_cases vanishes : final.mantissa = 0
  · rw [dif_pos vanishes]
    exact .zero _
  · rw [dif_neg vanishes]
    exact .finite _

theorem notAbove_round (significand : Nat) (exponent : Int) :
    NotAbove (UnpackedFloat.round Format.binary64 .negative significand exponent) := by
  apply notAbove_roundWithAccuracy

theorem notAbove_normalize {difference : Int} (notAbove : difference ≤ 0) (exponent : Int)
    (sign : Sign) :
    NotAbove (UnpackedFloat.normalize Format.binary64 difference exponent sign) := by
  unfold UnpackedFloat.normalize
  rcases notAbove.lt_or_eq with below | rfl
  · rw [compare_lt_iff_lt.mpr below]
    exact notAbove_round ..
  · exact .zero sign

/-! ### Bits -/

theorem le_unpack_of_negative {bits : BitVec Format.binary64.numBits}
    (sign : unpackSign bits = 1#1) (number : unpackExponent bits ≠ -1#_) :
    (UnpackedFloat.unpack Format.binary64 bits).le (.zero .positive) = true := by
  change UnpackedFloat.le (if unpackExponent bits = -1#_ then _ else if unpackExponent bits = 0#_
    then if _ : unpackMantissa bits = 0#_ then _ else _ else _) _ = _
  rw [sign, if_neg number]
  by_cases least : unpackExponent bits = 0#_
  · rw [if_pos least]
    by_cases none : unpackMantissa bits = 0#_
    · rw [dif_pos none]
      rfl
    · rw [dif_neg none]
      rfl
  · rw [if_neg least]
    rfl

theorem NotAbove.le_pack {x : UnpackedFloat} (notAbove : NotAbove x) :
    (Float.Model.pack x).unpack.le (.zero .positive) = true := by
  cases notAbove with
  | infinity => rfl
  | zero sign => cases sign <;> rfl
  | @finite significand exponent positive =>
      show (UnpackedFloat.unpack Format.binary64 (UnpackedFloat.pack Format.binary64 _)).le _ = _
      unfold UnpackedFloat.pack
      simp only []
      split
      · rfl
      next fits =>
        split
        · apply le_unpack_of_negative
          · exact unpackSign_packComponents ..
          · rw [unpackExponent_packComponents]
            intro largest
            have full := congrArg BitVec.toNat largest
            have ones : (-1#11).toNat = 2 ^ 11 - 1 := rfl
            rw [BitVec.toNat_ofNat, ones] at full
            omega
        · apply le_unpack_of_negative
          · exact unpackSign_packComponents ..
          · rw [unpackExponent_packComponents]
            decide

/-! ### Differences -/

theorem Canonical.shiftLeft_le {significand other : Nat} {exponent otherExponent : Int}
    (canonical : Canonical significand exponent) (otherCanonical : Canonical other otherExponent)
    (most : toLex (exponent, (significand : Int)) ≤ toLex (otherExponent, (other : Int))) :
    significand <<< (exponent - min exponent otherExponent).toNat ≤
      other <<< (otherExponent - min exponent otherExponent).toNat := by
  rcases most.lt_or_eq with below | same
  · exact (canonical.shiftLeft_lt otherCanonical below).le
  · obtain ⟨rfl, equal⟩ := Prod.mk.inj (toLex.injective same)
    rw [Int.ofNat.inj equal]

theorem toLex_le_of_neg {first second left right : Int}
    (most : toLex (-first, -left) ≤ toLex (-second, -right)) :
    toLex (second, right) ≤ toLex (first, left) := by
  rcases most.lt_or_eq with below | same
  · exact (toLex_lt_of_neg below).le
  · obtain ⟨exponents, significands⟩ := Prod.mk.inj (toLex.injective same)
    rw [neg_inj.mp exponents, neg_inj.mp significands]

/-- The difference of numbers that do not ascend is not above zero, before it is packed. An infinity
less itself is no number. -/
theorem notAbove_sub {x y : UnpackedFloat}
    (canonical : ∀ {sign significand exponent positive},
      x = .finite sign significand exponent positive → Canonical significand exponent)
    (otherCanonical : ∀ {sign significand exponent positive},
      y = .finite sign significand exponent positive → Canonical significand exponent)
    (first : x ≠ .notANumber) (second : y ≠ .notANumber)
    (distinct : ∀ sign, x = .infinity sign → y ≠ .infinity sign) (falls : x.lt y = false) :
    NotAbove (UnpackedFloat.sub Format.binary64 y x) := by
  have places : place y ≤ place x := not_lt.mp fun below =>
    Bool.false_ne_true (falls.symm.trans ((lt_iff first second).mpr below))
  rcases x with (_ | _) | _ | _ | ⟨(_ | _), significand, exponent, some⟩ <;>
    rcases y with (_ | _) | _ | _ | ⟨(_ | _), other, otherExponent, otherSome⟩
  case zero.zero =>
    show NotAbove (if _ then _ else _)
    split
    · exact .zero _
    · exact .zero _
  case finite.positive.zero => exact .finite some
  case zero.finite.negative => exact .finite otherSome
  case finite.positive.finite.negative =>
    apply notAbove_normalize
    show -((other <<< _ : Nat) : Int) - ((significand <<< _ : Nat) : Int) ≤ 0
    have taken := Int.natCast_nonneg
      (other <<< (otherExponent - min otherExponent exponent).toNat)
    have less := Int.natCast_nonneg
      (significand <<< (exponent - min otherExponent exponent).toNat)
    omega
  case finite.negative.finite.negative =>
    apply notAbove_normalize
    show -((other <<< _ : Nat) : Int) - -((significand <<< _ : Nat) : Int) ≤ 0
    have sizes := toLex_le_of_neg
      ((Prod.Lex.toLex_le_toLex.mp places).resolve_left (lt_irrefl _)).2
    have shifted := (canonical rfl).shiftLeft_le (otherCanonical rfl) sizes
    rw [min_comm] at shifted
    omega
  case finite.positive.finite.positive =>
    apply notAbove_normalize
    show ((other <<< _ : Nat) : Int) - ((significand <<< _ : Nat) : Int) ≤ 0
    have sizes := ((Prod.Lex.toLex_le_toLex.mp places).resolve_left (lt_irrefl _)).2
    have shifted := (otherCanonical rfl).shiftLeft_le (canonical rfl) sizes
    omega
  all_goals first
    | exact .infinity
    | exact absurd rfl first
    | exact absurd rfl second
    | exact absurd rfl (distinct _ rfl)
    | cases falls

/-- A double is one infinity, and another double is the same one. -/
def SameInfinity (x y : Float) : Prop := x.isInf = true ∧ Scalar.equal x y = true

instance (x y : Float) : Decidable (SameInfinity x y) := inferInstanceAs (Decidable (_ ∧ _))

/-- Of numbers that are not one infinity twice, the difference decides whether they ascend. -/
theorem atMost_sub_iff {x y : Float} (first : Scalar.equal x x = true)
    (second : Scalar.equal y y = true) (distinct : ¬ SameInfinity x y) :
    Scalar.atMost (y - x) Scalar.zero = false ↔ Scalar.below x y = true := by
  constructor
  · intro passes
    by_contra falls
    have apart : ∀ sign, x.toModel.unpack = .infinity sign →
        y.toModel.unpack ≠ .infinity sign := by
      intro sign left right
      refine distinct ⟨?_, ?_⟩
      · show x.toModel.unpack.isInf = true
        rw [left]
        rfl
      · exact (beq_iff (ne_notANumber first) (ne_notANumber second)).mpr (by rw [left, right])
    have notAbove := notAbove_sub canonical_unpack canonical_unpack (ne_notANumber first)
      (ne_notANumber second) apart (Bool.eq_false_iff.mpr fun below =>
        falls ((below_iff x y).mpr below))
    have atMost : Scalar.atMost (y - x) Scalar.zero = true := by
      rw [atMost_iff, unpack_zero]
      exact notAbove.le_pack
    exact Bool.false_ne_true (passes.symm.trans atMost)
  · exact Scalar.Separated.atMost_sub

end Regrid.Double
