import Dossier.Proofs.DateText
import Dossier.Proofs.SameForm
import Dossier.Proofs.Shortest

/-!
# Documents read in several ways

One document may be read as a date, as a number and as an amount, and these readings have to agree where
one stands in for another.

**Dates** are neither numbers nor amounts. Whatever is read as a date begins, a sign aside, with the digits
of its year and a hyphen (`Instant.beginsWithYear`), and there the readers of numbers and amounts give up
(`Json.asNumber?_of_date`, `Json.asAmount?_of_date`).

**Amounts** that are read as numbers first are rounded to what a double can hold, and then to the amount
closest to that. Whole numbers below `2 ^ 53` are kept (`Json.kept_int`).
-/

namespace Dossier

/-! ## Dates are no numbers -/

namespace ReadTime

variable {cs rest : List Char}

/-- A text that begins, a sign aside, with digits and a hyphen, as years do with what follows them. -/
def BeginsWithYear (cs : List Char) : Prop :=
  ∃ ds rest, (∀ c ∈ ds, c.isDigit = true) ∧ (splitSign cs).2 = ds ++ '-' :: rest

theorem beginsWithYear_of_unsigned {least most n : Nat} {after : List Char} (hleast : 0 < least)
    (hnumber : number? least most cs = some (n, rest)) (hhyphen : char? '-' rest = some after) :
    BeginsWithYear cs := by
  obtain ⟨ds, hds, hlength, rfl⟩ := number?_some hnumber
  obtain rfl := char?_some hhyphen
  refine ⟨ds, after, hds, ?_⟩
  cases ds with
  | nil =>
    rw [List.length_nil] at hlength
    omega
  | cons d ds => exact congrArg Prod.snd (Decimal.splitSign_of_isDigit (hds d (.head _)) _)

theorem beginsWithYear_of_looseDate? {date : Date} (hblank : dropBlanks cs = cs)
    (h : looseDate? cs = some (date, rest)) : BeginsWithYear cs := by
  obtain ⟨⟨year, afterYear⟩, hyear, h⟩ := Option.bind_eq_some_iff.1 h
  obtain ⟨after, hhyphen, -⟩ := Option.bind_eq_some_iff.1 h
  rw [looseYear?, hblank] at hyear
  split at hyear <;> obtain ⟨⟨n, rest'⟩, hnumber, heq⟩ := Option.map_eq_some_iff.1 hyear <;> cases heq
  case h_3 => exact beginsWithYear_of_unsigned (by decide) hnumber hhyphen
  all_goals
    obtain ⟨ds, hds, -, rfl⟩ := number?_some hnumber
    obtain rfl := char?_some hhyphen
    exact ⟨ds, after, hds, rfl⟩

end ReadTime

theorem dropBlanks_trimBlanks (cs : List Char) : dropBlanks (trimBlanks cs) = trimBlanks cs := by
  refine dropBlanks_of_head fun c hc => ?_
  have hprefix : trimBlanks cs <+: dropBlanks cs := by
    rw [← List.reverse_suffix, trimBlanks, List.reverse_reverse]
    exact List.dropWhile_suffix _
  obtain ⟨rest, hrest⟩ := hprefix
  have hhead : (dropBlanks cs).head? = some c := by
    rw [← hrest, List.head?_append, hc]
    rfl
  have hnot := List.head?_dropWhile_not isBlank cs
  rw [← dropBlanks, hhead] at hnot
  simpa using hnot

section BeginsWithYear

open ReadTime

/-- **Whatever is read as a date begins with a year.** -/
theorem Instant.beginsWithYear {s : String} {t : Instant} (h : read? s = some t) :
    BeginsWithYear (trimBlanks s.toList) := by
  have hblank := dropBlanks_trimBlanks s.toList
  simp only [read?, Option.orElse_eq_orElse, Option.orElse_eq_or, Option.or_eq_some_iff] at h
  rcases h with hstamp | ⟨-, hclock | ⟨-, hdate⟩⟩
  · unfold readStamp? at hstamp
    obtain ⟨⟨year, afterYear⟩, hyear, hstamp⟩ := Option.bind_eq_some_iff.1 hstamp
    obtain ⟨after, hhyphen, -⟩ := Option.bind_eq_some_iff.1 hstamp
    exact beginsWithYear_of_unsigned (by decide) hyear hhyphen
  · obtain ⟨⟨date, rest⟩, hdate, -⟩ := Option.bind_eq_some_iff.1 hclock
    exact beginsWithYear_of_looseDate? hblank hdate
  · obtain ⟨⟨date, rest⟩, hdate, -⟩ := Option.bind_eq_some_iff.1 hdate
    exact beginsWithYear_of_looseDate? hblank hdate

theorem Numeral.read?_eq_none (h : BeginsWithYear cs) : Numeral.read? cs = none := by
  obtain ⟨ds, rest, hds, hbody⟩ := h
  have hdigits : splitDigits (ds ++ '-' :: rest) = (ds, '-' :: rest) :=
    splitDigits_append hds fun c hc => by cases hc; rfl
  simp [read?, hbody, hdigits]

namespace Decimal

/-- A hyphen after digits ends no magnitude. -/
theorem readMagnitude_hyphen {ds : List Char} (hds : ∀ c ∈ ds, c.isDigit = true) (rest : List Char)
    (seen : Bool) (magnitude scale : Nat) :
    readMagnitude seen false magnitude scale (ds ++ '-' :: rest) = none := by
  induction ds generalizing seen magnitude scale with
  | nil => simp [readMagnitude]
  | cons d ds ih =>
    obtain ⟨hd, hds⟩ := List.forall_mem_cons.1 hds
    rw [List.cons_append, readMagnitude, if_pos hd]
    simp [ih hds]

theorem readPlain?_eq_none (h : BeginsWithYear cs) : readPlain? cs = none := by
  obtain ⟨ds, rest, hds, hbody⟩ := h
  simp only [readPlain?, hbody, readMagnitude_hyphen hds]
  rfl

theorem splitSign_of_ne {c : Char} (hminus : c ≠ '-') (hplus : c ≠ '+') (cs : List Char) :
    splitSign (c :: cs) = (false, c :: cs) := by
  unfold splitSign
  split <;> simp_all

/-- A text that is cut off at some other character begins with its year as well. -/
theorem beginsWithYear_takeWhile {p : Char → Bool}
    (hp : ∀ c : Char, c.isDigit = true ∨ c = '-' ∨ c = '+' → p c = true) (h : BeginsWithYear cs) :
    BeginsWithYear (cs.takeWhile p) := by
  obtain ⟨ds, rest, hds, hbody⟩ := h
  have hfront : (ds ++ '-' :: rest).takeWhile p = ds ++ '-' :: rest.takeWhile p := by
    rw [List.takeWhile_append_of_pos fun c hc => hp c (.inl (hds c hc)),
      List.takeWhile_cons_of_pos (hp '-' (by decide))]
  have hsign : (splitSign (cs.takeWhile p)).2 = ((splitSign cs).2).takeWhile p := by
    cases cs with
    | nil => rfl
    | cons c cs =>
      by_cases hc : c = '-' ∨ c = '+'
      · rw [List.takeWhile_cons_of_pos (hp c (.inr hc))]
        rcases hc with rfl | rfl <;> rfl
      · obtain ⟨hminus, hplus⟩ := not_or.1 hc
        rw [splitSign_of_ne hminus hplus, List.takeWhile_cons]
        split
        · rw [splitSign_of_ne hminus hplus]
        · rfl
  exact ⟨ds, _, hds, by rw [hsign, hbody, hfront]⟩

theorem not_mark_of_isDigit {c : Char} (h : c.isDigit = true) : (!(c == 'e' || c == 'E')) = true := by
  have hrange := isDigit_iff.1 h
  rw [Bool.not_eq_true', Bool.or_eq_false_iff, beq_eq_false_iff_ne, beq_eq_false_iff_ne]
  refine ⟨?_, ?_⟩ <;> rintro rfl <;> exact absurd hrange (by decide)

/-- What begins with a year is no amount, not even up to a power of ten. -/
theorem read?_eq_none (h : BeginsWithYear cs) : read? cs = none := by
  have hmark : ∀ c : Char, c.isDigit = true ∨ c = '-' ∨ c = '+' → (!(c == 'e' || c == 'E')) = true := by
    rintro c (hdigit | rfl | rfl)
    · exact not_mark_of_isDigit hdigit
    · rfl
    · rfl
  have hfront := readPlain?_eq_none (beginsWithYear_takeWhile hmark h)
  rw [read?, readPlain?_eq_none h]
  show readScientific? cs = none
  simp only [readScientific?]
  split
  · rfl
  · rw [hfront]
    rfl

end Decimal

end BeginsWithYear

namespace Json

variable {raw : Json} {t : Instant}

/-- **A date is no number.** -/
theorem asNumber?_of_date (h : raw.asInstant? = some t) : raw.asNumber? = none := by
  cases raw with
  | string s =>
    show Numeral.read? (trimBlanks s.toList) >>= Numeral.toDouble? = none
    rw [Numeral.read?_eq_none (Instant.beginsWithYear h)]
    rfl
  | null | bool | number | array | object => cases h

/-- **A date is no amount.** -/
theorem asAmount?_of_date (h : raw.asInstant? = some t) : raw.asAmount? = none := by
  cases raw with
  | string s => exact Decimal.read?_eq_none (Instant.beginsWithYear h)
  | null | bool | number | array | object => cases h

end Json

/-! ## Whole numbers as amounts -/

namespace Decimal

/-- Binary places without a one in them go away by halving. -/
theorem fromFraction_mul_pow (n m places : Nat) : fromFraction n (m * Nat.pow 2 n) places = (m, places) := by
  induction n with
  | zero =>
    rw [fromFraction]
    exact congrArg (·, places) (Nat.mul_one m)
  | succ n ih =>
    have hpow : m * Nat.pow 2 (n + 1) = 2 * (m * Nat.pow 2 n) := by
      rw [Nat.mul_left_comm]
      exact congrArg (m * ·) Nat.pow_succ'
    rw [fromFraction, hpow, if_pos (Nat.mul_mod_right 2 _), Nat.mul_div_cancel_left _ (by decide), ih]

theorem eq_mul_pow {a b low high : Nat} (hle : low ≤ high) (h : a * Nat.pow 2 low = b * Nat.pow 2 high) :
    a = b * Nat.pow 2 (high - low) := by
  have hsum : high - low + low = high := by omega
  have hpow : Nat.pow 2 high = Nat.pow 2 (high - low) * Nat.pow 2 low :=
    (congrArg (Nat.pow 2) hsum.symm).trans (Nat.pow_add 2 _ _)
  rw [hpow, ← Nat.mul_assoc] at h
  exact Nat.eq_of_mul_eq_mul_right (Nat.two_pow_pos low) h

/-- A mantissa that fills the precision is the number that it stands for. -/
theorem eq_of_normal {mant exp n places : Nat} (hmant : 0x10000000000000 ≤ mant) (hn : n < Value.exactBound)
    (hle : places ≤ exp) (h : mant * Nat.pow 2 exp = n * Nat.pow 2 places) : exp - places = 0 ∧ mant = n := by
  have hvalue : n = mant * Nat.pow 2 (exp - places) := eq_mul_pow hle h.symm
  have hnone : exp - places = 0 := by
    by_contra hne
    have hpow : 2 ≤ Nat.pow 2 (exp - places) := Nat.le_self_pow hne 2
    have hlarge : 0x10000000000000 * 2 ≤ n := hvalue ▸ Nat.mul_le_mul hmant hpow
    have hsmall : n < 0x20000000000000 := hn
    omega
  rw [hnone] at hvalue
  exact ⟨hnone, (hvalue.trans (Nat.mul_one mant)).symm⟩

/-- **A double that stands for a whole number below its precision is closest to just that amount.** -/
theorem ofDouble?_whole {d : Double} {n : Nat} (hn : n < Value.exactBound)
    (hunits : d.units = n * Double.unitsPerOne) : ofDouble? d = mk? (if d.neg then -(n : Int) else n) 0 := by
  -- The number of places gets a name, so that nothing computes the power of it.
  obtain ⟨places, hplaces, hunit⟩ : ∃ places, 1074 = places ∧ Double.unitsPerOne = Nat.pow 2 places := by
    unfold Double.unitsPerOne
    generalize 1074 = k
    exact ⟨k, rfl, rfl⟩
  have hvalue : d.mant * Nat.pow 2 d.exp = n * Nat.pow 2 places := hunit ▸ hunits
  rw [ofDouble?, hplaces]
  by_cases hexp : places ≤ d.exp
  · have hmant : 0x10000000000000 ≤ d.mant := d.normal.resolve_left (by omega)
    have hzero : d.mant ≠ 0 := by omega
    obtain ⟨hnone, hself⟩ := eq_of_normal hmant hn hexp hvalue
    rw [if_neg hzero, if_pos hexp, hnone, hself]
    simp [fromMultiple]
  · have hmant : d.mant = n * Nat.pow 2 (places - d.exp) := eq_mul_pow (Nat.le_of_not_le hexp) hvalue
    by_cases hzero : d.mant = 0
    · have hn0 : n = 0 :=
        (Nat.mul_eq_zero.1 (hmant.symm.trans hzero)).resolve_right (Nat.ne_of_gt (Nat.two_pow_pos _))
      rw [if_pos hzero, hn0]
      rfl
    · rw [if_neg hzero, if_neg hexp, hmant, fromFraction_mul_pow]
      simp [fitPlaces, fitPrecision, stripZeros]

end Decimal

namespace Json

def asRounded? (raw : Json) : Option Decimal := raw.asNumber?.bind Decimal.ofDouble?

/-- Whether a document holds an amount that is still the same once it has been rounded. -/
def Kept (raw : Json) : Prop :=
  ∃ exact rounded, raw.asAmount? = some exact ∧ raw.asRounded? = some rounded ∧ rounded.sameValue exact = true

theorem read?_toString {i : Int} (hi : i.natAbs < Decimal.bound) :
    Decimal.read? (toString i).toList = some ⟨i, 0, hi, by decide⟩ := by
  have hdigits : (⟨i, 0, hi, by decide⟩ : Decimal).digits = Nat.toDigits 10 i.natAbs := by
    have hlength : 0 < (Nat.toDigits 10 i.natAbs).length := List.length_pos_iff.2 Nat.toDigits_ne_nil
    have hnone : 0 + 1 - (Nat.toDigits 10 i.natAbs).length = 0 := by omega
    rw [Decimal.digits, padded, hnone]
    rfl
  have htext : (⟨i, 0, hi, by decide⟩ : Decimal).text.toList = (toString i).toList := by
    rw [Decimal.text_toList, Decimal.whole, Decimal.places, hdigits, toList_toString]
    simp
  rw [← htext]
  exact Decimal.read?_text _

/-- **Whole numbers below `2 ^ 53` are kept.** -/
theorem kept_int {i : Int} (hi : i.natAbs < Value.exactBound) : Kept (.number (.int i)) := by
  have hbound : i.natAbs < Decimal.bound := Nat.lt_trans hi (by decide)
  obtain ⟨d, hd, hvalue⟩ := Double.ofInt?_signedUnits hi
  have hunits : d.units = i.natAbs * Double.unitsPerOne := by
    rw [Double.units_eq_natAbs, hvalue, Int.natAbs_mul, Int.natAbs_natCast]
  have hsign : (if d.neg then -(i.natAbs : Int) else i.natAbs) = i := by
    have hpos : (Double.unitsPerOne : Int) ≠ 0 := by
      exact_mod_cast Nat.ne_of_gt Double.unitsPerOne_pos
    refine Int.eq_of_mul_eq_mul_right hpos ?_
    rw [← hvalue, Double.signedUnits, hunits, Int.natCast_mul]
    split
    · exact Int.neg_mul _ _
    · rfl
  refine ⟨⟨i, 0, hbound, by decide⟩, ⟨i, 0, hbound, by decide⟩, read?_toString hbound, ?_, ?_⟩
  · show (Double.ofInt? i).bind Decimal.ofDouble? = _
    rw [hd, Option.bind_some, Decimal.ofDouble?_whole hi hunits, hsign, Decimal.mk?,
      dif_pos ⟨hbound, by decide⟩]
  · rw [Decimal.sameValue, beq_self_eq_true]

end Json

end Dossier
