import Dossier.Value.Basic

/-!
# Integers as doubles

A double is its own nearest double (`ofUnits?_units`), and every integer below `2 ^ 53` is the value
of some double (`exists_units`). So such an integer becomes a double of exactly its value
(`ofInt?_signedUnits`), and a double that stands for an integer comes back from it with the same
value, though zero loses its sign (`renderNumber_toDouble?`).
-/

namespace Dossier

/-! ## Arithmetic -/

theorem log2_mul_pow {n : Nat} (hn : n ≠ 0) (k : Nat) : (n * Nat.pow 2 k).log2 = n.log2 + k := by
  have hpos : 0 < Nat.pow 2 k := Nat.two_pow_pos k
  have hne : n * Nat.pow 2 k ≠ 0 := Nat.mul_ne_zero hn (Nat.ne_of_gt hpos)
  obtain ⟨hlow, hhigh⟩ := (Nat.log2_eq_iff hn).1 rfl
  refine (Nat.log2_eq_iff hne).2 ⟨?_, ?_⟩
  · rw [Nat.pow_add]
    exact Nat.mul_le_mul_right _ hlow
  · rw [Nat.add_right_comm, Nat.pow_add]
    exact Nat.mul_lt_mul_of_pos_right hhigh hpos

/-- A quotient without a remainder is not rounded. -/
theorem roundHalfEven_mul (q : Nat) {den : Nat} (hden : 0 < den) :
    roundHalfEven (q * den) den = q := by
  simp [roundHalfEven, Nat.mul_div_cancel q hden, hden]

namespace Double

/-! ## The nearest double -/

/-- **A double is its own nearest double.** Its mantissa fills 53 bits unless it has the least
exponent, so its exponent is found again from the size of the magnitude. -/
theorem ofUnits?_units (d : Double) : ofUnits? d.neg d.units 1 = some d := by
  have hpos : 0 < Nat.pow 2 d.exp := Nat.two_pow_pos d.exp
  have hexp : (d.units / 1).log2 - 52 = d.exp := by
    rw [Nat.div_one, units]
    rcases Nat.eq_zero_or_pos d.mant with hzero | hmant
    · have hnormal : d.exp = 0 := d.normal.resolve_right (by omega)
      rw [hzero, hnormal]
      rfl
    · have hne : d.mant ≠ 0 := by omega
      have hlt : d.mant.log2 < 53 := (Nat.log2_lt hne).2 d.mant_lt
      rw [log2_mul_pow hne]
      rcases d.normal with hnormal | hnormal
      · omega
      · have hle : 52 ≤ d.mant.log2 := (Nat.le_log2 hne).2 hnormal
        omega
  have hround : roundHalfEven d.units (1 * Nat.pow 2 d.exp) = d.mant := by
    rw [Nat.one_mul]
    exact roundHalfEven_mul d.mant hpos
  simp only [ofUnits?, hexp, hround, mk?, dif_pos, d.mant_lt, d.exp_le, d.normal, and_self]
  rfl

/-- Every natural number below `2 ^ 53` is the magnitude of a double. -/
theorem exists_units (neg : Bool) {n : Nat} (hn : n < 0x20000000000000) :
    ∃ d : Double, d.neg = neg ∧ d.units = n * unitsPerOne := by
  rcases Nat.eq_zero_or_pos n with rfl | hpos
  · exact ⟨zero neg, rfl, by rw [units, Nat.zero_mul]; exact Nat.zero_mul _⟩
  · have hne : n ≠ 0 := by omega
    have hlog : n.log2 < 53 := (Nat.log2_lt hne).2 hn
    have hmant : (n * Nat.pow 2 (52 - n.log2)).log2 = 52 := by
      rw [log2_mul_pow hne]
      omega
    have hmant_ne : n * Nat.pow 2 (52 - n.log2) ≠ 0 :=
      Nat.mul_ne_zero hne (Nat.ne_of_gt (Nat.two_pow_pos _))
    obtain ⟨hlow, hhigh⟩ := (Nat.log2_eq_iff hmant_ne).1 hmant
    refine ⟨⟨neg, n * Nat.pow 2 (52 - n.log2), n.log2 + 1022, hhigh, by omega, Or.inr hlow⟩,
      rfl, ?_⟩
    have hsum : 52 - n.log2 + (n.log2 + 1022) = 1074 := by omega
    have hpow : Nat.pow 2 (52 - n.log2) * Nat.pow 2 (n.log2 + 1022) = unitsPerOne := by
      unfold unitsPerOne
      rw [← hsum]
      exact (Nat.pow_add 2 _ _).symm
    exact (Nat.mul_assoc ..).trans (congrArg (n * ·) hpow)

/-! ## Integers -/

/-- **Integers below `2 ^ 53` are exact.** -/
theorem ofInt?_signedUnits {i : Int} (hi : i.natAbs < Value.exactBound) :
    ∃ d, ofInt? i = some d ∧ d.signedUnits = i * unitsPerOne := by
  obtain ⟨d, hneg, hunits⟩ := exists_units (decide (i < 0)) hi
  refine ⟨d, ?_, ?_⟩
  · rw [ofInt?, ofRatio?, ← hunits, ← hneg]
    exact d.ofUnits?_units
  · rw [signedUnits, hneg, hunits]
    generalize unitsPerOne = unit
    rw [Int.natCast_mul]
    by_cases hsign : i < 0
    · have habs : (i.natAbs : Int) = -i := by omega
      rw [if_pos (decide_eq_true hsign), habs, Int.neg_mul, Int.neg_neg]
    · have habs : (i.natAbs : Int) = i := by omega
      rw [if_neg (by simpa using hsign), habs]

/-- A double that stands for an integer has its value. -/
theorem toInt?_signedUnits {d : Double} {i : Int} (h : d.toInt? = some i) :
    d.signedUnits = i * unitsPerOne := by
  unfold toInt? at h
  unfold signedUnits
  generalize unitsPerOne = unit at h ⊢
  split at h
  · rename_i hdvd
    have hunits : (d.units : Int) = (d.units / unit : Nat) * unit := by
      exact_mod_cast (Nat.div_mul_cancel (Nat.dvd_of_mod_eq_zero hdvd)).symm
    cases h
    split
    · rw [hunits, Int.neg_mul]
    · exact hunits
  · cases h

end Double

/-! ## Numbers in documents -/

/-- **A finite number is read back from its document form with its value.** -/
theorem renderNumber_toDouble? (d : Double) :
    ∃ n e, Value.renderNumber (.finite d) = .number n ∧ n.toDouble? = some e ∧
      d.signedUnits = e.signedUnits := by
  simp only [Value.renderNumber]
  cases hint : d.toInt? with
  | none => exact ⟨.double d, d, rfl, rfl, rfl⟩
  | some i =>
    by_cases hexact : i.natAbs < Value.exactBound
    · obtain ⟨e, he, hvalue⟩ := Double.ofInt?_signedUnits hexact
      exact ⟨.int i, e, if_pos hexact, he, (Double.toInt?_signedUnits hint).trans hvalue.symm⟩
    · exact ⟨.double d, d, if_neg hexact, rfl, rfl⟩

end Dossier
