import Dossier.Numeric.Decimal
import Dossier.Proofs.Digits

/-!
# Written amounts

Reading an amount undoes writing it, trailing zeros included (`read?_text`). The reader gathers one
magnitude before and after the point; a written amount never reaches the digit at which it would
round, since its magnitude stays below the bound and its places within twenty-eight.

Taking the trailing zeros off keeps the value (`sameValue_normalize`).
-/

namespace Dossier

namespace Decimal

/-! ## The text -/

/-- The digits of an amount, at least one of them before the point. -/
def digits (d : Decimal) : List Char := padded (d.scale + 1) d.coeff.natAbs

/-- The digits before the point. -/
def whole (d : Decimal) : List Char := d.digits.take (d.digits.length - d.scale)

/-- The digits after the point. -/
def places (d : Decimal) : List Char := d.digits.drop (d.digits.length - d.scale)

theorem text_toList (d : Decimal) :
    d.text.toList = (if d.coeff < 0 then ['-'] else []) ++ d.whole ++
      (if d.places.isEmpty then [] else '.' :: d.places) := by
  simp only [text, String.toList_ofList]
  rfl

theorem scale_lt_length_digits (d : Decimal) : d.scale < d.digits.length :=
  le_length_padded (d.scale + 1) _

theorem length_places (d : Decimal) : d.places.length = d.scale := by
  have h := d.scale_lt_length_digits
  rw [places, List.length_drop]
  omega

theorem whole_append_places (d : Decimal) : d.whole ++ d.places = d.digits :=
  List.take_append_drop _ _

theorem isDigit_of_mem_digits (d : Decimal) : ∀ c ∈ d.digits, c.isDigit = true :=
  fun _ => isDigit_of_mem_padded

theorem isDigit_of_mem_whole (d : Decimal) : ∀ c ∈ d.whole, c.isDigit = true :=
  fun c hc => d.isDigit_of_mem_digits c (List.mem_of_mem_take hc)

theorem isDigit_of_mem_places (d : Decimal) : ∀ c ∈ d.places, c.isDigit = true :=
  fun c hc => d.isDigit_of_mem_digits c (List.mem_of_mem_drop hc)

theorem whole_eq_cons (d : Decimal) : ∃ c rest, d.whole = c :: rest ∧ c.isDigit = true := by
  have h := d.scale_lt_length_digits
  cases hwhole : d.whole with
  | nil =>
    have hlen := congrArg List.length hwhole
    rw [whole, List.length_take, List.length_nil] at hlen
    omega
  | cons c rest => exact ⟨c, rest, rfl, d.isDigit_of_mem_whole c (by simp [hwhole])⟩

/-! ## Reading the digits -/

section Magnitude

variable {cs : List Char} {magnitude scale : Nat}

theorem readMagnitude_whole (hcs : ∀ c ∈ cs, c.isDigit = true)
    (hlt : Nat.ofDigitChars 10 cs magnitude < bound) (seen : Bool) (rest : List Char) :
    readMagnitude seen false magnitude scale (cs ++ rest) =
      readMagnitude (seen || !cs.isEmpty) false (Nat.ofDigitChars 10 cs magnitude) scale rest := by
  induction cs generalizing seen magnitude with
  | nil => simp
  | cons c cs ih =>
    obtain ⟨hc, hcs⟩ := List.forall_mem_cons.1 hcs
    rw [ofDigitChars_cons_eq] at hlt ⊢
    have hgrown : ¬bound ≤ 10 * magnitude + (c.toNat - 48) := by
      have := le_ofDigitChars cs (10 * magnitude + (c.toNat - 48))
      omega
    rw [List.cons_append, readMagnitude, if_pos hc]
    simp [hgrown, ih hcs hlt]

/-- Digits after the point go into the magnitude and are counted. The twenty-eighth can only be the
last. -/
theorem readMagnitude_places (hcs : ∀ c ∈ cs, c.isDigit = true)
    (hlt : Nat.ofDigitChars 10 cs magnitude < bound) (hscale : scale + cs.length ≤ 28) :
    readMagnitude true true magnitude scale cs =
      some (Nat.ofDigitChars 10 cs magnitude, scale + cs.length) := by
  induction cs generalizing magnitude scale with
  | nil => simp [readMagnitude]
  | cons c cs ih =>
    obtain ⟨hc, hcs⟩ := List.forall_mem_cons.1 hcs
    rw [ofDigitChars_cons_eq] at hlt ⊢
    rw [List.length_cons] at hscale ⊢
    have hgrown : ¬bound ≤ 10 * magnitude + (c.toNat - 48) := by
      have := le_ofDigitChars cs (10 * magnitude + (c.toNat - 48))
      omega
    rw [readMagnitude, if_pos hc]
    simp only [hgrown, if_false, if_true, Bool.true_and, beq_iff_eq]
    split
    · have hnil : cs = [] := List.eq_nil_of_length_eq_zero (by omega)
      simp [hnil]
    · rw [ih hcs hlt (by omega)]
      congr 2
      omega

/-- **Digits with or without a point among them give one magnitude and the number of places.** -/
theorem readMagnitude_parts {whole fraction : List Char} (hwhole : ∀ c ∈ whole, c.isDigit = true)
    (hne : whole ≠ []) (hfraction : ∀ c ∈ fraction, c.isDigit = true)
    (hlt : digitsValue (whole ++ fraction) < bound) (hlength : fraction.length ≤ 28) :
    readMagnitude false false 0 0 (whole ++ if fraction.isEmpty then [] else '.' :: fraction) =
      some (digitsValue (whole ++ fraction), fraction.length) := by
  rw [digitsValue_eq, Nat.ofDigitChars_append] at hlt ⊢
  have hseen : (!whole.isEmpty) = true := by simp [hne]
  rw [readMagnitude_whole hwhole (Nat.lt_of_le_of_lt (le_ofDigitChars ..) hlt), hseen, Bool.false_or]
  split
  · rename_i hnone
    rw [List.isEmpty_iff.1 hnone]
    rfl
  · rw [readMagnitude, if_neg (by decide), if_pos (by decide),
      readMagnitude_places hfraction hlt (Nat.le_trans (Nat.le_of_eq (Nat.zero_add _)) hlength), Nat.zero_add]

end Magnitude

/-- The digits of an amount, with or without a point among them, give its magnitude and places. -/
theorem readMagnitude_digits (d : Decimal) :
    readMagnitude false false 0 0 (d.whole ++ if d.places.isEmpty then [] else '.' :: d.places) =
      some (d.coeff.natAbs, d.scale) := by
  have hvalue : digitsValue (d.whole ++ d.places) = d.coeff.natAbs := by
    rw [whole_append_places]
    exact digitsValue_padded _ _
  have hne : d.whole ≠ [] := by
    obtain ⟨c, rest, h, -⟩ := d.whole_eq_cons
    rw [h]
    exact List.cons_ne_nil _ _
  have hread := readMagnitude_parts d.isDigit_of_mem_whole hne d.isDigit_of_mem_places
    (by rw [hvalue]; exact d.coeff_lt) (by rw [length_places]; exact d.scale_le)
  rw [hvalue, length_places] at hread
  exact hread

/-! ## The sign -/

theorem splitSign_of_isDigit {c : Char} (hc : c.isDigit = true) (cs : List Char) :
    splitSign (c :: cs) = (false, c :: cs) := by
  unfold splitSign
  split <;> simp_all

/-- Digits are told from a sign before them. -/
theorem splitSign_parts (neg : Bool) {whole : List Char} (hwhole : ∀ c ∈ whole, c.isDigit = true)
    (hne : whole ≠ []) (rest : List Char) :
    splitSign ((if neg then ['-'] else []) ++ (whole ++ rest)) = (neg, whole ++ rest) := by
  cases neg with
  | true => rfl
  | false =>
    cases whole with
    | nil => exact absurd rfl hne
    | cons c cs => exact splitSign_of_isDigit (hwhole c List.mem_cons_self) _

/-- An integer is its magnitude with its sign. -/
theorem signed_natAbs (i : Int) : (if decide (i < 0) then -(i.natAbs : Int) else i.natAbs) = i := by
  by_cases hneg : i < 0
  · rw [if_pos (decide_eq_true hneg)]
    omega
  · rw [if_neg (by simpa using hneg)]
    omega

theorem mk?_natAbs (d : Decimal) :
    mk? (if decide (d.coeff < 0) then -(d.coeff.natAbs : Int) else d.coeff.natAbs) d.scale =
      some d := by
  rw [signed_natAbs, mk?, dif_pos ⟨d.coeff_lt, d.scale_le⟩]

/-- **Reading an amount undoes writing it.** -/
theorem read?_text (d : Decimal) : read? d.text.toList = some d := by
  have hsign : splitSign d.text.toList =
      (decide (d.coeff < 0), d.whole ++ if d.places.isEmpty then [] else '.' :: d.places) := by
    rw [text_toList]
    split
    · rename_i hneg
      rw [decide_eq_true hneg]
      rfl
    · rename_i hneg
      obtain ⟨c, rest, hwhole, hc⟩ := d.whole_eq_cons
      rw [decide_eq_false hneg, hwhole]
      exact splitSign_of_isDigit hc _
  have hplain : readPlain? d.text.toList = some d := by
    simp only [readPlain?, hsign, readMagnitude_digits]
    exact d.mk?_natAbs
  rw [read?, hplain]
  rfl

/-! ## Blanks -/

/-- A written amount begins with a sign or a digit and ends with a digit. -/
theorem trimBlanks_text (d : Decimal) : trimBlanks d.text.toList = d.text.toList := by
  refine trimBlanks_of_forall fun c hc => ?_
  rw [text_toList, List.mem_append, List.mem_append] at hc
  rcases hc with (hc | hc) | hc
  · split at hc
    · rw [List.mem_singleton.1 hc]
      decide
    · cases hc
  · exact isBlank_of_isDigit (d.isDigit_of_mem_whole c hc)
  · split at hc
    · cases hc
    · rcases List.mem_cons.1 hc with rfl | hc
      · decide
      · exact isBlank_of_isDigit (d.isDigit_of_mem_places c hc)

theorem text_ne_empty (d : Decimal) : d.text ≠ "" := by
  intro h
  have hread := d.read?_text
  rw [h] at hread
  cases hread

/-! ## Trailing zeros -/

/-- **An amount without its trailing zeros has the same value.** -/
theorem sameValue_normalize (d : Decimal) : d.sameValue d.normalize = true := by
  rw [sameValue, beq_iff_eq]
  obtain ⟨coeff, scale, hcoeff, hscale⟩ := d
  induction scale generalizing coeff with
  | zero => rw [normalize]
  | succ scale ih =>
    rw [normalize]
    split
    · rename_i hzero
      have hstep := ih (coeff / 10) (by omega) (by omega)
      generalize normalize ⟨coeff / 10, scale, _, _⟩ = short at hstep ⊢
      have hten : coeff = 10 * (coeff / 10) := by omega
      have hpow : ((Nat.pow 10 (scale + 1) : Nat) : Int) = 10 * (Nat.pow 10 scale : Nat) := by
        exact_mod_cast Nat.pow_succ'
      calc coeff * (Nat.pow 10 short.scale : Nat)
          = 10 * (coeff / 10 * (Nat.pow 10 short.scale : Nat)) := by
            rw [← Int.mul_assoc, ← hten]
        _ = 10 * (short.coeff * (Nat.pow 10 scale : Nat)) := by rw [hstep]
        _ = short.coeff * (Nat.pow 10 (scale + 1) : Nat) := by
            rw [hpow, Int.mul_left_comm]
    · rfl

end Decimal

end Dossier
