import Retry.Proofs.Json.Reads

/-!
# Numbers as they are written

A number is read from its first character to the last one that belongs to it, and has the value that
its digits say (`Numeral.gives_number`). The parts are read in their order: integer digits,
fraction, exponent.
-/

namespace Retry.Json

open Reader

variable {digits rest left : List Char}

theorem not_isDigit_of_ends (h : Ends left) : ∀ c ∈ left.head?, c.isDigit = false :=
  fun c hc => (h c hc).1

namespace IsDigits

theorem exists_cons (h : IsDigits digits) :
    ∃ first more, digits = first :: more ∧ first.isDigit = true := by
  obtain ⟨first, more, rfl⟩ := List.exists_cons_of_ne_nil h.ne_nil
  exact ⟨first, more, rfl, h.isDigit first List.mem_cons_self⟩

theorem digits_append (h : IsDigits digits) (hleft : ∀ c ∈ left.head?, c.isDigit = false) :
    Reader.digits (digits ++ left) = .ok (digits, left) := by
  have hnone : left.takeWhile Char.isDigit = [] ∧ left.dropWhile Char.isDigit = left := by
    cases left with
    | nil => exact ⟨rfl, rfl⟩
    | cons c left =>
        have hc : ¬ c.isDigit = true := by simp [hleft c rfl]
        exact ⟨List.takeWhile_cons_of_neg hc, List.dropWhile_cons_of_neg hc⟩
  unfold Reader.digits
  rw [List.takeWhile_append_of_pos h.isDigit, List.dropWhile_append_of_pos h.isDigit, hnone.1,
    hnone.2, List.append_nil]

theorem isEmpty_eq (h : IsDigits digits) : digits.isEmpty = false := by
  simpa using h.ne_nil

end IsDigits

theorem gives_float (negative : Bool) (significand : Nat) (scale : Int) (left : List Char) :
    Gives (Reader.float negative significand scale left)
      ((floatOf negative significand scale).map .float) left := by
  unfold Reader.float
  cases floatOf negative significand scale with
  | none => exact ⟨_, rfl⟩
  | some number => rfl

theorem Exponent.gives_exponentPart (exponent : Exponent) (negative : Bool) (significand : Nat)
    (scale : Int) (hleft : Ends left) :
    Gives (exponentPart negative significand scale (exponent.chars ++ left))
      ((exponent.value? negative significand scale).map .float) left := by
  obtain ⟨first, more, hdigits, hfirst⟩ := exponent.isDigits.exists_cons
  have hread := exponent.isDigits.digits_append (not_isDigit_of_ends hleft)
  rw [hdigits, List.cons_append] at hread
  have hplus : first ≠ '+' := by rintro rfl; exact absurd hfirst (by decide)
  have hminus : first ≠ '-' := by rintro rfl; exact absurd hfirst (by decide)
  unfold exponentPart Exponent.chars Exponent.value?
  rw [hdigits]
  cases habsorb : absorb exponentBound 0 (first :: more) with
  | mk value surplus =>
      -- A sign is skipped; the digits come next with or without one.
      cases hsign : exponent.sign with
      | none =>
          cases surplus with
          | nil =>
              simpa [bind_apply, skip_cons, peek_apply, hplus, hminus, hfirst, hread, habsorb]
                using gives_float ..
          | cons c unread =>
              by_cases hzero : significand = 0
              · simpa [bind_apply, skip_cons, peek_apply, hplus, hminus, hfirst, hread, habsorb,
                  hzero] using gives_float ..
              · simp [bind_apply, skip_cons, peek_apply, hplus, hminus, hfirst, hread, habsorb,
                  hzero, Gives]
      | some sign =>
          have hsign := exponent.sign_eq sign hsign
          cases surplus with
          | nil =>
              simpa [bind_apply, skip_cons, peek_apply, hsign, hfirst, hread, habsorb]
                using gives_float ..
          | cons c unread =>
              by_cases hlarge : ¬ significand = 0 ∧ ¬ sign = '-'
              · have hsign : sign = '+' := hsign.resolve_right hlarge.2
                simp [bind_apply, skip_cons, peek_apply, hsign, hfirst, hread, habsorb,
                  hlarge.1, Gives]
              · simpa [bind_apply, skip_cons, peek_apply, hsign, hfirst, hread, habsorb, hlarge]
                  using gives_float ..

theorem Numeral.exponentChars_head (numeral : Numeral) (hleft : Ends left) :
    ∀ c ∈ (numeral.exponentChars ++ left).head?, c.isDigit = false := by
  unfold exponentChars
  cases numeral.exponent with
  | none => exact not_isDigit_of_ends hleft
  | some exponent =>
      intro c hc
      obtain rfl := Option.some_inj.mp hc
      rcases exponent.mark_eq with h | h <;> rw [h] <;> decide

theorem Numeral.gives_fractionPart (numeral : Numeral) {digits : List Char}
    (hfraction : numeral.fraction = some digits) (hleft : Ends left) (whole : Nat) (scale : Int) :
    Gives
      (fractionPart numeral.negative whole scale
        ('.' :: (digits ++ (numeral.exponentChars ++ left))))
      (let (significand, surplus) := absorb UInt64.size whole digits
       (numeral.float? significand (scale - (digits.length - surplus.length))).map .float)
      left := by
  have hdigits := numeral.fraction_isDigits digits hfraction
  unfold fractionPart
  simp only [bind_apply, skip_cons, hdigits.digits_append (numeral.exponentChars_head hleft),
    hdigits.isEmpty_eq, Bool.false_eq_true, if_false, peek_apply]
  cases absorb UInt64.size whole digits with
  | mk significand surplus =>
      unfold exponentChars float?
      cases numeral.exponent with
      | some exponent =>
          have hpart := exponent.gives_exponentPart numeral.negative significand
            (scale - (digits.length - surplus.length)) hleft
          rcases exponent.mark_eq with h | h <;> simpa [Exponent.chars, h] using hpart
      | none =>
          have hfloat := gives_float numeral.negative significand
            (scale - (digits.length - surplus.length)) left
          cases left with
          | nil => exact hfloat
          | cons c left =>
              obtain ⟨_, _, he, hE⟩ := hleft c rfl
              simpa [he, hE] using hfloat

theorem Numeral.gives_unsigned (numeral : Numeral) (hleft : Ends left) :
    Gives
      (unsigned numeral.negative
        (numeral.whole ++ (numeral.fractionChars ++ (numeral.exponentChars ++ left))))
      numeral.value? left := by
  obtain ⟨first, more, hwhole, hfirst⟩ := numeral.whole_isDigits.exists_cons
  have hcanonical : ¬ (first = '0' ∧ 1 < numeral.whole.length) := by
    rintro ⟨rfl, hlength⟩
    have hone := numeral.whole_canonical (by rw [hwhole]; rfl)
    omega
  have hhead : ∀ c ∈ (numeral.fractionChars ++ (numeral.exponentChars ++ left)).head?,
      c.isDigit = false := by
    unfold fractionChars
    cases numeral.fraction with
    | none => exact numeral.exponentChars_head hleft
    | some digits => simp
  have hread := numeral.whole_isDigits.digits_append hhead
  have hpeek : (numeral.whole ++ (numeral.fractionChars ++ (numeral.exponentChars ++ left))).head?
      = some first := by rw [hwhole]; rfl
  unfold unsigned
  simp only [bind_apply, peek_apply, hpeek, hfirst, Bool.not_true, Bool.false_eq_true, if_false,
    hread, hcanonical]
  unfold Numeral.value? Numeral.parts
  cases habsorb : absorb UInt64.size 0 numeral.whole with
  | mk whole surplus =>
      cases hfraction : numeral.fraction with
      | some digits =>
          have hpart := numeral.gives_fractionPart hfraction hleft whole surplus.length
          simpa [fractionChars, hfraction] using hpart
      | none =>
          unfold fractionChars exponentChars float?
          cases hexponent : numeral.exponent with
          | some exponent =>
              have hpart := exponent.gives_exponentPart numeral.negative whole surplus.length hleft
              rcases exponent.mark_eq with h | h <;>
                simpa [Exponent.chars, h, hfraction] using hpart
          | none =>
              -- Neither a fraction nor an exponent: an integer, unless digits are left over.
              have hother : Gives
                  ((if surplus.isEmpty = true then
                      pure (integerOf numeral.negative whole)
                    else Reader.float numeral.negative whole surplus.length : Reader Number) left)
                  (if surplus.length = 0 then some (integerOf numeral.negative whole)
                    else (floatOf numeral.negative whole surplus.length).map .float) left := by
                cases surplus with
                | nil => rfl
                | cons c surplus => exact gives_float ..
              cases left with
              | nil => simpa [hfraction] using hother
              | cons c left =>
                  obtain ⟨_, hpoint, he, hE⟩ := hleft c rfl
                  simpa [hfraction, hpoint, he, hE] using hother

/-- **A number is read as what its digits say**, up to the first character that is none of it. -/
theorem Numeral.gives_number (numeral : Numeral) (hleft : Ends left) :
    Gives (number (numeral.chars ++ left)) numeral.value? left := by
  have hunsigned := numeral.gives_unsigned hleft
  unfold number Numeral.chars
  obtain ⟨first, more, hwhole, hfirst⟩ := numeral.whole_isDigits.exists_cons
  have hminus : first ≠ '-' := by
    rintro rfl
    exact absurd hfirst (by decide)
  cases hnegative : numeral.negative with
  | true =>
      rw [hnegative] at hunsigned
      simpa [bind_apply, peek_apply, skip_cons] using hunsigned
  | false =>
      rw [hnegative] at hunsigned
      simpa [bind_apply, peek_apply, hwhole, hminus] using hunsigned

end Retry.Json
