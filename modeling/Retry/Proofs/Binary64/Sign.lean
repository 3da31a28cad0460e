import Retry.Binary64.Arithmetic
import Retry.Proofs.Binary64.Rounding

/-!
# Numbers that are not negative

A number is not negative unless it is below zero: both zeros and the undefined value are not.
Products of such numbers are such numbers, whether they are rounded, infinite or undefined, and so
are powers.
-/

namespace Retry.Binary64

variable {a b base product : Binary64}

/-- A number that is not below zero. -/
inductive NotNegative : Binary64 → Prop
  | nan : NotNegative .nan
  | infinity : NotNegative (.infinity false)
  | finite {negative : Bool} {units : Nat} {representable : Representable units}
      (h : negative = false ∨ units = 0) : NotNegative (.finite negative units representable)

theorem signedUnits?_zero : signedUnits? 0 = some 0 := by
  have hzero : (0 : Binary64) = ofQuotient false 0 1 := by
    change ofNat 0 = _
    rw [ofNat, Nat.zero_mul]
  have hround := roundUnits_zero 1
  rw [hzero, ofQuotient_of_lt false (hround ▸ overflowUnits_pos)]
  simp only [signedUnits?, hround]
  rfl

theorem lt_zero_iff : a < 0 ↔ ∃ units, a.signedUnits? = some units ∧ units < 0 := by
  change Less a 0 ↔ _
  unfold Less
  rw [signedUnits?_zero]
  cases a.signedUnits? with
  | none => exact ⟨False.elim, fun ⟨_, hnone, _⟩ => nomatch hnone⟩
  | some units =>
      constructor
      · exact fun hneg => ⟨units, rfl, hneg⟩
      · rintro ⟨_, hunits, hneg⟩
        obtain rfl := Option.some_inj.mp hunits
        exact hneg

theorem signedUnits?_of_sign {negative : Bool} {units : Nat} {representable : Representable units}
    (hsign : negative = false ∨ units = 0) :
    (finite negative units representable).signedUnits? = some (units : Int) := by
  rcases hsign with rfl | rfl
  · rfl
  · cases negative <;> rfl

/-- Nothing else is meant than the order of the numbers. -/
theorem notNegative_iff : a.NotNegative ↔ ¬ a < 0 := by
  rw [lt_zero_iff]
  constructor
  · rintro ha ⟨units, hunits, hneg⟩
    cases ha with
    | nan => cases hunits
    | infinity =>
        obtain rfl := Option.some_inj.mp hunits
        exact Int.not_lt.mpr (Int.natCast_nonneg overflowUnits) hneg
    | finite h =>
        rw [signedUnits?_of_sign h] at hunits
        obtain rfl := Option.some_inj.mp hunits
        exact Int.not_lt.mpr (Int.natCast_nonneg _) hneg
  · intro hneg
    cases a with
    | nan => exact .nan
    | infinity negative =>
        cases negative with
        | false => exact .infinity
        | true =>
            exact absurd ⟨_, rfl, Int.neg_neg_of_pos (Int.natCast_pos.mpr overflowUnits_pos)⟩ hneg
    | finite negative units representable =>
        apply NotNegative.finite
        cases negative with
        | false => exact Or.inl rfl
        | true =>
            rcases Nat.eq_zero_or_pos units with hzero | hpos
            · exact Or.inr hzero
            · exact absurd ⟨_, rfl, Int.neg_neg_of_pos (Int.natCast_pos.mpr hpos)⟩ hneg

theorem lt_of_le_of_lt {c : Binary64} (hab : a ≤ b) (hbc : b < c) : a < c := by
  change AtMost a b at hab
  change Less b c at hbc
  change Less a c
  unfold AtMost at hab
  unfold Less at hbc ⊢
  cases ha : a.signedUnits? with
  | none => simp [ha] at hab
  | some x =>
      cases hb : b.signedUnits? with
      | none => simp [ha, hb] at hab
      | some y =>
          cases hc : c.signedUnits? with
          | none => simp [hb, hc] at hbc
          | some z =>
              simp only [ha, hb, hc] at hab hbc ⊢
              omega

theorem not_lt_iff_le (ha : a ≠ .nan) (hb : b ≠ .nan) : ¬ a < b ↔ b ≤ a := by
  have hsome : ∀ c : Binary64, c ≠ .nan → ∃ units, c.signedUnits? = some units := by
    intro c hc
    cases c with
    | nan => exact absurd rfl hc
    | infinity negative => exact ⟨_, rfl⟩
    | finite negative units representable => exact ⟨_, rfl⟩
  obtain ⟨x, hx⟩ := hsome a ha
  obtain ⟨y, hy⟩ := hsome b hb
  change ¬ Less a b ↔ AtMost b a
  rw [Less, AtMost, hx, hy]
  exact Int.not_lt

theorem NotNegative.of_le (ha : a.NotNegative) (hab : a ≤ b) : b.NotNegative :=
  notNegative_iff.mpr fun hb => notNegative_iff.mp ha (lt_of_le_of_lt hab hb)

section Order

variable {s t : Bool} {x y : Nat} {hx : Representable x} {hy : Representable y}

theorem finite_le_iff (hs : s = false ∨ x = 0) (ht : t = false ∨ y = 0) :
    finite s x hx ≤ finite t y hy ↔ x ≤ y := by
  change AtMost _ _ ↔ _
  rw [AtMost, signedUnits?_of_sign hs, signedUnits?_of_sign ht]
  exact Int.ofNat_le

theorem finite_lt_iff (hs : s = false ∨ x = 0) (ht : t = false ∨ y = 0) :
    finite s x hx < finite t y hy ↔ x < y := by
  change Less _ _ ↔ _
  rw [Less, signedUnits?_of_sign hs, signedUnits?_of_sign ht]
  exact Int.ofNat_lt

end Order

theorem notNegative_ofQuotient {negative : Bool} {num : Nat} (den : Nat)
    (h : negative = false ∨ num = 0) : (ofQuotient negative num den).NotNegative := by
  by_cases hlt : roundUnits num den < overflowUnits
  · rw [ofQuotient_of_lt negative hlt]
    refine .finite (h.imp_right fun hnum => ?_)
    rw [hnum, roundUnits_zero]
  · rw [ofQuotient_of_le negative (Nat.not_lt.mp hlt)]
    obtain rfl : negative = false := by
      refine h.resolve_right fun hnum => hlt ?_
      rw [hnum, roundUnits_zero]
      exact overflowUnits_pos
    exact .infinity

theorem notNegative_ofNat (n : Nat) : (ofNat n).NotNegative := by
  unfold ofNat
  exact notNegative_ofQuotient 1 (Or.inl rfl)

theorem notNegative_of_not_lt_one (hfinite : a.isFinite = true) (h : ¬ a < 1) :
    a.NotNegative := by
  have hdefined : (1 : Binary64) ≠ .nan := by decide +kernel
  have hone : NotNegative 1 := notNegative_ofNat 1
  -- The number one is kept from being computed in its units.
  generalize (1 : Binary64) = one at hdefined hone h
  refine hone.of_le ((not_lt_iff_le ?_ hdefined).mp h)
  rintro rfl
  cases hfinite

/-- **Products.** -/
theorem NotNegative.mul (ha : a.NotNegative) (hb : b.NotNegative) : (a * b).NotNegative := by
  change (Binary64.mul a b).NotNegative
  cases ha with
  | nan => exact .nan
  | infinity =>
      cases hb with
      | nan => exact .nan
      | infinity => exact .infinity
      | finite hb =>
          rw [Binary64.mul]
          split
          · exact .nan
          · rename_i hne
            rw [hb.resolve_right hne]
            exact .infinity
  | finite ha =>
      cases hb with
      | nan => exact .nan
      | infinity =>
          rw [Binary64.mul]
          split
          · exact .nan
          · rename_i hne
            rw [ha.resolve_right hne]
            exact .infinity
      | finite hb =>
          rw [Binary64.mul]
          apply notNegative_ofQuotient unitsPerOne
          rcases ha with rfl | rfl
          · rcases hb with rfl | rfl
            · exact Or.inl rfl
            · exact Or.inr (Nat.mul_zero _)
          · exact Or.inr (Nat.zero_mul _)

theorem NotNegative.powBits (bits : Nat) (exponent : Nat) (hproduct : product.NotNegative)
    (hbase : base.NotNegative) : (powBits bits product base exponent).NotNegative := by
  induction bits generalizing product base exponent with
  | zero => exact hproduct
  | succ bits ih =>
      have hnext : (if exponent % 2 = 1 then product * base else product).NotNegative := by
        split
        · exact hproduct.mul hbase
        · exact hproduct
      rw [Binary64.powBits]
      split
      · exact hnext
      · exact ih (exponent / 2) hnext (hbase.mul hbase)

/-- **Powers.** -/
theorem NotNegative.pow (hbase : base.NotNegative) (exponent : Nat) :
    (base ^ exponent).NotNegative :=
  NotNegative.powBits _ exponent (notNegative_ofNat 1) hbase

end Retry.Binary64
