import Dossier.Json.Basic
import Dossier.Proofs.Amount
import Dossier.Proofs.Double

/-!
# Written numbers

A double is written in the fewest digits that still tell it from all others, and reading the digits
gives it back. The digits are a point of the interval that rounds to the double (`roundsFrom`), and
rounding brings every point of the interval back to it (`ofUnits?_of_roundsFrom`); where the text puts
the point makes no difference.

The digits lie on the coarsest grid that has a point of the interval. The next grid is wider than half a step
of the double (`step_le_of_none`), so there are at most eighteen digits (`shortest_lt`), and the last of them
is not zero (`shortest_mod_ten`).
-/

namespace Dossier

/-! ## Rounding -/

/-- A quotient within a half of an integer is rounded to it; at a half the integer has to be even. -/
theorem roundHalfEven_eq {num den q : Nat} (hlow : 2 * (q * den) ≤ 2 * num + den)
    (hhigh : 2 * num ≤ 2 * (q * den) + den)
    (htie : q % 2 = 0 ∨ (2 * (q * den) < 2 * num + den ∧ 2 * num < 2 * (q * den) + den))
    (hden : 0 < den) : roundHalfEven num den = q := by
  have hnum : num / den * den + num % den = num := Nat.div_add_mod' num den
  have hrest : num % den < den := Nat.mod_lt _ hden
  have hle : num / den ≤ q := by
    refine Nat.le_of_not_lt fun hlt => ?_
    have hmul : (q + 1) * den ≤ num / den * den := Nat.mul_le_mul_right den hlt
    rw [Nat.succ_mul] at hmul
    omega
  have hge : q ≤ num / den + 1 := by
    refine Nat.le_of_not_lt fun hlt => ?_
    have hmul : (num / den + 2) * den ≤ q * den := Nat.mul_le_mul_right den hlt
    rw [Nat.add_mul] at hmul
    omega
  simp only [roundHalfEven]
  obtain heq | heq : q = num / den ∨ q = num / den + 1 := by omega
  · rw [← heq] at hnum ⊢
    split
    · rfl
    · split <;> omega
  · have hmul : q * den = num / den * den + den := by rw [heq, Nat.succ_mul]
    split
    · omega
    · split <;> omega

theorem pow_add_mul (k exp den : Nat) :
    Nat.pow 2 (k + exp) * den = Nat.pow 2 k * (den * Nat.pow 2 exp) := by
  have hsplit : Nat.pow 2 (k + exp) = Nat.pow 2 k * Nat.pow 2 exp := Nat.pow_add 2 k exp
  rw [hsplit, Nat.mul_assoc, Nat.mul_comm den]

/-- A quotient that has `53` digits before the point when it is counted in steps of a power of two. -/
theorem log2_div {num den exp : Nat} (hden : 0 < den)
    (hlow : 0x10000000000000 * (den * Nat.pow 2 exp) ≤ num)
    (hhigh : num < 0x20000000000000 * (den * Nat.pow 2 exp)) : (num / den).log2 = 52 + exp := by
  have hle : Nat.pow 2 (52 + exp) ≤ num / den := by
    rw [Nat.le_div_iff_mul_le hden, pow_add_mul]
    exact hlow
  have hlt : num / den < Nat.pow 2 (52 + exp + 1) := by
    rw [Nat.add_right_comm, Nat.div_lt_iff_lt_mul hden, pow_add_mul]
    exact hhigh
  have hpos : 0 < Nat.pow 2 (52 + exp) := Nat.two_pow_pos _
  exact (Nat.log2_eq_iff (by omega)).2 ⟨hle, hlt⟩

theorem roundHalfEven_mul_right (num den : Nat) {c : Nat} (hc : 0 < c) :
    roundHalfEven (num * c) (den * c) = roundHalfEven num den := by
  have hlt (a b : Nat) : 2 * (a * c) < b * c ↔ 2 * a < b := by
    rw [← Nat.mul_assoc]
    exact Nat.mul_lt_mul_right hc
  have hgt (a b : Nat) : b * c < 2 * (a * c) ↔ b < 2 * a := by
    rw [← Nat.mul_assoc]
    exact Nat.mul_lt_mul_right hc
  simp only [roundHalfEven, Nat.mul_div_mul_right _ _ hc, Nat.mul_mod_mul_right, hlt, hgt]

namespace Double

variable {d : Double} {num den : Nat}

theorem ofUnits?_mul_right (neg : Bool) (num den : Nat) {c : Nat} (hc : 0 < c) :
    ofUnits? neg (num * c) (den * c) = ofUnits? neg num den := by
  have hswap (k : Nat) : den * c * k = den * k * c := Nat.mul_right_comm den c k
  simp only [ofUnits?, Nat.mul_div_mul_right _ _ hc, hswap, roundHalfEven_mul_right _ _ hc]

/-- A quotient at most half a step away from a double, and at most a quarter below a power of two. A half
away the mantissa has to be even. -/
structure Near (d : Double) (num den : Nat) : Prop where
  low : 2 * (d.mant * (den * Nat.pow 2 d.exp)) ≤ 2 * num + den * Nat.pow 2 d.exp
  high : 2 * num ≤ 2 * (d.mant * (den * Nat.pow 2 d.exp)) + den * Nat.pow 2 d.exp
  tie : d.mant % 2 = 0 ∨
    (2 * (d.mant * (den * Nat.pow 2 d.exp)) < 2 * num + den * Nat.pow 2 d.exp ∧
      2 * num < 2 * (d.mant * (den * Nat.pow 2 d.exp)) + den * Nat.pow 2 d.exp)
  power : d.mant = 0x10000000000000 ∧ d.exp ≠ 0 →
    4 * (d.mant * (den * Nat.pow 2 d.exp)) ≤ 4 * num + den * Nat.pow 2 d.exp

theorem near_of_roundsFrom (hd : d.mant ≠ 0) (h : d.roundsFrom (4 * num) den = true) :
    d.Near num den := by
  have hstep : Nat.pow 2 d.exp ≤ d.units := Nat.le_mul_of_pos_left _ (Nat.pos_of_ne_zero hd)
  have hmul : Nat.pow 2 d.exp * den ≤ d.units * den := Nat.mul_le_mul_right den hstep
  have hunits : d.mant * (den * Nat.pow 2 d.exp) = d.units * den := by
    rw [units, Nat.mul_assoc, Nat.mul_comm den]
  have hden : den * Nat.pow 2 d.exp = Nat.pow 2 d.exp * den := Nat.mul_comm ..
  unfold roundsFrom roundingEnds at h
  by_cases hpower : d.mant = 0x10000000000000 ∧ d.exp ≠ 0
  · have heven : d.mant % 2 = 0 := by omega
    simp only [if_pos hpower, if_pos heven, Bool.and_eq_true, decide_eq_true_eq, Nat.add_mul,
      Nat.sub_mul, Nat.mul_assoc] at h
    constructor <;> rw [hunits, hden] <;> omega
  · simp only [if_neg hpower, Nat.add_mul, Nat.sub_mul, Nat.mul_assoc] at h
    split at h <;> simp only [Bool.and_eq_true, decide_eq_true_eq] at h <;>
      constructor <;> rw [hunits, hden] <;> omega

theorem unitsPerOne_pos : 0 < unitsPerOne := by
  unfold unitsPerOne
  generalize (1074 : Nat) = k
  exact Nat.two_pow_pos k

theorem mk?_self (d : Double) : mk? d.neg d.mant d.exp = some d :=
  dif_pos ⟨d.mant_lt, d.exp_le, d.normal⟩

section Near

variable (h : d.Near num den) (hden : 0 < den)
include h hden

/-- Where the exponent comes out as that of the double, the mantissa does too. -/
theorem Near.ofUnits?_of_exponent (hexp : (num / den).log2 - 52 = d.exp) :
    ofUnits? d.neg num den = some d := by
  have hmant : roundHalfEven num (den * Nat.pow 2 d.exp) = d.mant :=
    roundHalfEven_eq h.low h.high h.tie (Nat.mul_pos hden (Nat.two_pow_pos _))
  simp only [ofUnits?, hexp, hmant, mk?_self]
  rfl

/-- The mantissa is below its bound by at least half a step. -/
theorem Near.lt : num < 0x20000000000000 * (den * Nat.pow 2 d.exp) := by
  have hhigh := h.high
  have hlt := d.mant_lt
  have hstep : 0 < den * Nat.pow 2 d.exp := Nat.mul_pos hden (Nat.two_pow_pos _)
  have hmul : d.mant * (den * Nat.pow 2 d.exp) ≤ 0x1fffffffffffff * (den * Nat.pow 2 d.exp) :=
    Nat.mul_le_mul_right _ (by omega)
  omega

theorem Near.log2_le (hexp : d.exp = 0) : (num / den).log2 ≤ 52 := by
  have hlt := h.lt hden
  have hpow : Nat.pow 2 d.exp = 1 := by rw [hexp]
  rw [hpow, Nat.mul_one] at hlt
  have hfits : num / den < Nat.pow 2 53 := (Nat.div_lt_iff_lt_mul hden).2 hlt
  rcases Nat.eq_zero_or_pos (num / den) with hzero | hpos
  · rw [hzero]
    decide
  · exact Nat.le_of_lt_succ ((Nat.log2_lt (by omega)).2 hfits)

/-- Below a power of two the steps are half as long, and rounding goes up to the power. -/
theorem Near.ofUnits?_below_power (hexp : d.exp ≠ 0)
    (hbelow : num < 0x10000000000000 * (den * Nat.pow 2 d.exp)) : ofUnits? d.neg num den = some d := by
  have hlow := h.low
  have hhigh := h.high
  have hmant : d.mant = 0x10000000000000 := by
    refine Nat.le_antisymm (Nat.le_of_not_lt fun hgt => ?_) (d.normal.resolve_left hexp)
    have hmul : 0x10000000000001 * (den * Nat.pow 2 d.exp) ≤ d.mant * (den * Nat.pow 2 d.exp) :=
      Nat.mul_le_mul_right _ hgt
    omega
  have hclose := h.power ⟨hmant, hexp⟩
  obtain ⟨exp, hsucc⟩ : ∃ exp, d.exp = exp + 1 := Nat.exists_eq_succ_of_ne_zero hexp
  have hhalf : den * Nat.pow 2 d.exp = 2 * (den * Nat.pow 2 exp) := by
    rw [hsucc, Nat.add_comm exp, Nat.mul_comm den]
    exact pow_add_mul 1 exp den
  rw [hmant, hhalf] at hclose
  have hbelow' : num < 0x20000000000000 * (den * Nat.pow 2 exp) := by omega
  have hlog : (num / den).log2 - 52 = exp := by
    rw [log2_div hden (by omega) hbelow', Nat.add_sub_cancel_left]
  have hround : roundHalfEven num (den * Nat.pow 2 exp) = 0x20000000000000 :=
    roundHalfEven_eq (by omega) (by omega) (.inl rfl) (Nat.mul_pos hden (Nat.two_pow_pos _))
  have hover : mk? d.neg 0x20000000000000 exp = none := dif_neg (by omega)
  have hcarry : mk? d.neg 0x10000000000000 (exp + 1) = some d := by
    rw [← hmant, ← hsucc]
    exact d.mk?_self
  simp only [ofUnits?, hlog, hround, hover]
  exact hcarry

end Near

/-- **Every quotient in the interval of a double rounds to it.** -/
theorem ofUnits?_of_roundsFrom (hd : d.mant ≠ 0) (hden : 0 < den)
    (h : d.roundsFrom (4 * num) den = true) : ofUnits? d.neg num den = some d := by
  have hnear := near_of_roundsFrom hd h
  by_cases hexp : d.exp = 0
  · have hlog := hnear.log2_le hden hexp
    exact hnear.ofUnits?_of_exponent hden (by omega)
  by_cases hbelow : num < 0x10000000000000 * (den * Nat.pow 2 d.exp)
  · exact hnear.ofUnits?_below_power hden hexp hbelow
  · have hlog := log2_div hden (Nat.le_of_not_lt hbelow) (hnear.lt hden)
    exact hnear.ofUnits?_of_exponent hden (by omega)

/-- The two ends of the interval lie on the two sides of the double. -/
theorem roundsFrom_self (hd : d.mant ≠ 0) (hden : 0 < den) :
    d.roundsFrom (4 * d.units * den) den = true := by
  have hpow : 0 < Nat.pow 2 d.exp := Nat.two_pow_pos _
  have hunits : 0 < d.units := Nat.mul_pos (Nat.pos_of_ne_zero hd) hpow
  have hlow : d.roundingEnds.1 < 4 * d.units := by
    simp only [roundingEnds]
    split <;> omega
  have hhigh : 4 * d.units < d.roundingEnds.2 := by
    simp only [roundingEnds]
    omega
  have hlow' := Nat.mul_lt_mul_of_pos_right hlow hden
  have hhigh' := Nat.mul_lt_mul_of_pos_right hhigh hden
  simp only [roundsFrom]
  split <;> simp only [Bool.and_eq_true, decide_eq_true_eq] <;> omega

/-! ## The shortest digits -/

/-- Digits that are found on a grid are a point of the interval. -/
theorem nearestOnGrid?_some {k : Int} {n : Nat} (h : d.nearestOnGrid? k = some n) :
    n ≠ 0 ∧ d.roundsFrom (n * (4 * unitsPerOne * Nat.pow 10 k.toNat)) (Nat.pow 10 (-k).toNat) = true := by
  simp only [nearestOnGrid?] at h
  split at h
  · rename_i hhits
    simp only [Bool.and_eq_true, decide_eq_true_eq] at hhits
    obtain ⟨⟨hlow, hlowHits⟩, hhighHits⟩ := hhits
    split at h
    · cases h
      exact ⟨hlow, hlowHits⟩
    · split at h
      · cases h
        exact ⟨Nat.succ_ne_zero _, hhighHits⟩
      · split at h <;> cases h
        · exact ⟨hlow, hlowHits⟩
        · exact ⟨Nat.succ_ne_zero _, hhighHits⟩
  · split at h
    · rename_i hhits
      simp only [Bool.and_eq_true, decide_eq_true_eq] at hhits
      cases h
      exact hhits
    · split at h
      · rename_i hhits
        cases h
        exact ⟨Nat.succ_ne_zero _, hhits⟩
      · cases h

/-- The interval has no gaps. -/
theorem roundsFrom_between {low point high : Nat} (hlow : d.roundsFrom low den = true)
    (hhigh : d.roundsFrom high den = true) (hle : low ≤ point) (hge : point ≤ high) :
    d.roundsFrom point den = true := by
  simp only [roundsFrom] at hlow hhigh ⊢
  by_cases heven : d.mant % 2 = 0
  · simp only [if_pos heven, Bool.and_eq_true, decide_eq_true_eq] at hlow hhigh ⊢
    omega
  · simp only [if_neg heven, Bool.and_eq_true, decide_eq_true_eq] at hlow hhigh ⊢
    omega

/-- A grid that has a point of the interval has one beside the double. -/
theorem isSome_nearestOnGrid? (hd : d.mant ≠ 0) {k : Int} {n : Nat} (hn : n ≠ 0)
    (h : d.roundsFrom (n * (4 * unitsPerOne * Nat.pow 10 k.toNat)) (Nat.pow 10 (-k).toNat) = true) :
    (d.nearestOnGrid? k).isSome := by
  have hden : 0 < Nat.pow 10 (-k).toNat := Nat.pow_pos (by decide)
  have hnum : 0 < 4 * unitsPerOne * Nat.pow 10 k.toNat :=
    Nat.mul_pos (Nat.mul_pos (by decide) unitsPerOne_pos) (Nat.pow_pos (by decide))
  have hself := roundsFrom_self hd hden
  simp only [nearestOnGrid?]
  generalize 4 * unitsPerOne * Nat.pow 10 k.toNat = num at h hnum ⊢
  generalize Nat.pow 10 (-k).toNat = den at h hden hself ⊢
  generalize 4 * d.units * den = target at hself ⊢
  have hbelow : target / num * num ≤ target := Nat.div_mul_le_self target num
  have habove : target ≤ (target / num + 1) * num :=
    Nat.le_of_lt (Nat.lt_mul_of_div_lt (Nat.lt_succ_self _) hnum)
  -- One of the two neighbours lies between the point and the double.
  have hhits : (target / num ≠ 0 ∧ d.roundsFrom (target / num * num) den = true) ∨
      d.roundsFrom ((target / num + 1) * num) den = true := by
    by_cases hle : n ≤ target / num
    · have hmul : n * num ≤ target / num * num := Nat.mul_le_mul_right num hle
      exact .inl ⟨by omega, roundsFrom_between h hself hmul hbelow⟩
    · have hmul : (target / num + 1) * num ≤ n * num := Nat.mul_le_mul_right num (Nat.lt_of_not_le hle)
      exact .inr (roundsFrom_between hself h habove hmul)
  split
  · split
    · rfl
    · split <;> rfl
  · split
    · rfl
    · split
      · rfl
      · simp_all

/-- Every double is a multiple of the least grid. -/
theorem exists_grid (hd : d.mant ≠ 0) {k : Int} (hk : k = -1074) :
    ∃ n, n ≠ 0 ∧
      d.roundsFrom (n * (4 * unitsPerOne * Nat.pow 10 k.toNat)) (Nat.pow 10 (-k).toNat) = true := by
  have hunits : d.units ≠ 0 := Nat.mul_ne_zero hd (Nat.ne_of_gt (Nat.two_pow_pos _))
  have hmultiple (k : Nat) :
      ∃ n, n ≠ 0 ∧ d.roundsFrom (n * (4 * Nat.pow 2 k * 1)) (Nat.pow 10 k) = true := by
    have hpow : Nat.pow 10 k = Nat.pow 2 k * Nat.pow 5 k := Nat.mul_pow 2 5 k
    have hfive : 0 < Nat.pow 5 k := Nat.pow_pos (by decide)
    have hself : 4 * d.units * Nat.pow 10 k = d.units * Nat.pow 5 k * (4 * Nat.pow 2 k * 1) := by
      rw [hpow, Nat.mul_one, Nat.mul_comm (Nat.pow 2 k), ← Nat.mul_assoc, ← Nat.mul_assoc,
        Nat.mul_comm 4, Nat.mul_right_comm d.units 4]
    exact ⟨d.units * Nat.pow 5 k, Nat.mul_ne_zero hunits (Nat.ne_of_gt hfive),
      hself ▸ roundsFrom_self hd (Nat.pow_pos (by decide))⟩
  have hden : (-k).toNat = 1074 := by omega
  have hnum : k.toNat = 0 := by omega
  have hone : Nat.pow 10 0 = 1 := rfl
  rw [hden, hnum, hone]
  unfold unitsPerOne
  generalize (1074 : Nat) = k
  exact hmultiple k

/-- The interval ends half a step above the double. -/
theorem le_highEnd {point den : Nat} (h : d.roundsFrom point den = true) :
    point ≤ (4 * d.units + 2 * Nat.pow 2 d.exp) * den := by
  simp only [roundsFrom] at h
  by_cases heven : d.mant % 2 = 0
  · simp only [if_pos heven, Bool.and_eq_true, decide_eq_true_eq] at h
    exact h.2
  · simp only [if_neg heven, Bool.and_eq_true, decide_eq_true_eq] at h
    exact Nat.le_of_lt h.2

/-- What lies above the double and not in its interval lies beyond the end of it. -/
theorem highEnd_le (hd : d.mant ≠ 0) {point den : Nat} (hden : 0 < den)
    (hmiss : d.roundsFrom point den = false) (hge : 4 * d.units * den ≤ point) :
    (4 * d.units + 2 * Nat.pow 2 d.exp) * den ≤ point := by
  have hself := roundsFrom_self hd hden
  refine Nat.le_of_not_lt fun hlt => ?_
  have hhit : d.roundsFrom point den = true := by
    simp only [roundsFrom] at hself ⊢
    have hlt : point < d.roundingEnds.2 * den := hlt
    by_cases heven : d.mant % 2 = 0
    · simp only [if_pos heven, Bool.and_eq_true, decide_eq_true_eq] at hself ⊢
      omega
    · simp only [if_neg heven, Bool.and_eq_true, decide_eq_true_eq] at hself ⊢
      omega
  rw [hhit] at hmiss
  cases hmiss

/-- No grid as coarse as the largest power of ten has a point of the interval. -/
theorem lt_of_onGrid {k : Int} {n : Nat} (hn : n ≠ 0)
    (h : d.roundsFrom (n * (4 * unitsPerOne * Nat.pow 10 k.toNat)) (Nat.pow 10 (-k).toNat) = true) :
    k < 310 := by
  refine Int.lt_of_not_ge fun hge => ?_
  have hone : Nat.pow 10 (-k).toNat = 1 := by
    have hzero : (-k).toNat = 0 := by omega
    rw [hzero]
  have hend := le_highEnd h
  rw [hone, Nat.mul_one, units] at hend
  have hself : 4 * unitsPerOne * Nat.pow 10 k.toNat ≤ n * (4 * unitsPerOne * Nat.pow 10 k.toNat) :=
    Nat.le_mul_of_pos_left _ (Nat.pos_of_ne_zero hn)
  -- The two exponents get names, so that nothing else computes the powers.
  obtain ⟨greatest, top, hgreatest, htop, hlarge⟩ : ∃ greatest top, greatest = 2045 ∧ top = 310 ∧
      0x80000000000000 * Nat.pow 2 greatest < 4 * unitsPerOne * Nat.pow 10 top :=
    ⟨_, _, rfl, rfl, by decide +kernel⟩
  have hten : 4 * unitsPerOne * Nat.pow 10 top ≤ 4 * unitsPerOne * Nat.pow 10 k.toNat :=
    Nat.mul_le_mul_left _ (Nat.pow_le_pow_right (by decide) (by omega))
  have hmant : d.mant * Nat.pow 2 d.exp ≤ 0x1fffffffffffff * Nat.pow 2 d.exp :=
    Nat.mul_le_mul_right _ (Nat.le_of_lt_succ d.mant_lt)
  have hexp : Nat.pow 2 d.exp ≤ Nat.pow 2 greatest :=
    Nat.pow_le_pow_right (by decide) (Nat.le_trans d.exp_le (Nat.le_of_eq hgreatest.symm))
  omega

/-- **A grid without a point of the interval is coarser than half a step of the double.** -/
theorem step_le_of_none (hd : d.mant ≠ 0) {k : Int} (h : d.nearestOnGrid? k = none) :
    2 * Nat.pow 2 d.exp * Nat.pow 10 (-k).toNat ≤ 4 * unitsPerOne * Nat.pow 10 k.toNat := by
  have hden : 0 < Nat.pow 10 (-k).toNat := Nat.pow_pos (by decide)
  have hnum : 0 < 4 * unitsPerOne * Nat.pow 10 k.toNat :=
    Nat.mul_pos (Nat.mul_pos (by decide) unitsPerOne_pos) (Nat.pow_pos (by decide))
  have hmiss (n : Nat) (hn : n ≠ 0) :
      d.roundsFrom (n * (4 * unitsPerOne * Nat.pow 10 k.toNat)) (Nat.pow 10 (-k).toNat) = false := by
    rw [Bool.eq_false_iff]
    intro hhit
    have hsome := isSome_nearestOnGrid? hd hn hhit
    rw [h] at hsome
    cases hsome
  generalize 4 * unitsPerOne * Nat.pow 10 k.toNat = num at hnum hmiss ⊢
  generalize Nat.pow 10 (-k).toNat = den at hden hmiss ⊢
  -- The next multiple above the double is beyond the end, and at most the width of the grid away.
  have habove : 4 * d.units * den ≤ (4 * d.units * den / num + 1) * num :=
    Nat.le_of_lt (Nat.lt_mul_of_div_lt (Nat.lt_succ_self _) hnum)
  have hnear : 4 * d.units * den / num * num ≤ 4 * d.units * den := Nat.div_mul_le_self _ _
  have hbeyond := highEnd_le hd hden (hmiss _ (Nat.add_one_ne_zero (4 * d.units * den / num))) habove
  have hend : (4 * d.units + 2 * Nat.pow 2 d.exp) * den = 4 * d.units * den + 2 * Nat.pow 2 d.exp * den :=
    Nat.add_mul _ _ _
  have hnext : (4 * d.units * den / num + 1) * num = 4 * d.units * den / num * num + num := Nat.succ_mul _ _
  omega

theorem exists_of_findSome?_range {α : Type} {f : Nat → Option α} {n : Nat} {a : α}
    (h : (List.range n).findSome? f = some a) : ∃ i < n, f i = some a ∧ ∀ j < i, f j = none := by
  induction n with
  | zero => cases h
  | succ n ih =>
    rw [List.range_succ, List.findSome?_append, Option.or_eq_some_iff] at h
    rcases h with h | ⟨hnone, h⟩
    · obtain ⟨i, hi, hfound⟩ := ih h
      exact ⟨i, Nat.lt_succ_of_lt hi, hfound⟩
    · rw [List.findSome?_eq_none_iff] at hnone
      exact ⟨n, Nat.lt_succ_self n, by simpa using h, fun j hj => hnone j (List.mem_range.2 hj)⟩

/-- **The shortest digits of a double are a point of the interval that rounds to it**, on the coarsest grid
that has one. -/
theorem shortest_spec (hd : d.mant ≠ 0) {n : Nat} {k : Int} (h : d.shortest = (n, k)) :
    n ≠ 0 ∧ -1074 ≤ k ∧ k < 310 ∧
      d.roundsFrom (n * (4 * unitsPerOne * Nat.pow 10 k.toNat)) (Nat.pow 10 (-k).toNat) = true ∧
      d.nearestOnGrid? (k + 1) = none := by
  simp only [shortest] at h
  cases hfind : (List.range 1385).findSome? fun (i : Nat) =>
      (d.nearestOnGrid? (310 - (i : Int))).map fun n => (n, 310 - (i : Int)) with
  | none =>
    have hnone := List.findSome?_eq_none_iff.1 hfind 1384 (by simp)
    rw [Option.map_eq_none_iff] at hnone
    obtain ⟨least, hleast⟩ : ∃ least : Int, (310 : Int) - (1384 : Nat) = least := ⟨_, rfl⟩
    rw [hleast] at hnone
    obtain ⟨n, hn, hgrid⟩ := exists_grid hd (hleast.symm.trans rfl)
    have hsome := isSome_nearestOnGrid? hd hn hgrid
    rw [hnone] at hsome
    cases hsome
  | some found =>
    rw [hfind] at h
    cases h
    obtain ⟨i, hi, hfound, hcoarser⟩ := exists_of_findSome?_range hfind
    obtain ⟨m, hm, heq⟩ := Option.map_eq_some_iff.1 hfound
    cases heq
    obtain ⟨hne, hrounds⟩ := nearestOnGrid?_some hm
    have hlt := lt_of_onGrid hne hrounds
    have hnone := hcoarser (i - 1) (by omega)
    rw [Option.map_eq_none_iff] at hnone
    have hprev : (310 : Int) - (i - 1 : Nat) = 310 - (i : Int) + 1 := by omega
    rw [hprev] at hnone
    exact ⟨hne, by omega, hlt, hrounds, hnone⟩

/-- The next grid is ten times as coarse. -/
theorem coarser_grid (k : Int) : Nat.pow 10 (k + 1).toNat * Nat.pow 10 (-k).toNat =
    10 * (Nat.pow 10 k.toNat * Nat.pow 10 (-(k + 1)).toNat) := by
  have hsucc (j : Nat) : Nat.pow 10 (j + 1) = 10 * Nat.pow 10 j := Nat.pow_succ'
  by_cases hk : 0 ≤ k
  · have hnum : (k + 1).toNat = k.toNat + 1 := by omega
    have hden : (-k).toNat = (-(k + 1)).toNat := by omega
    rw [hnum, hden, hsucc, Nat.mul_assoc]
  · have hnum : (k + 1).toNat = k.toNat := by omega
    have hden : (-k).toNat = (-(k + 1)).toNat + 1 := by omega
    rw [hnum, hden, hsucc, Nat.mul_left_comm]

/-- **The shortest digits of a double are at most eighteen.** -/
theorem shortest_lt (hd : d.mant ≠ 0) {n : Nat} {k : Int} (h : d.shortest = (n, k)) :
    n < Nat.pow 10 18 := by
  obtain ⟨-, -, -, hrounds, hnone⟩ := shortest_spec hd h
  have hend := le_highEnd hrounds
  have hstep := step_le_of_none hd hnone
  have hgrid := coarser_grid k
  have hpos : 0 < Nat.pow 2 d.exp * Nat.pow 10 (-k).toNat * Nat.pow 10 (-(k + 1)).toNat :=
    Nat.mul_pos (Nat.mul_pos (Nat.two_pow_pos _) (Nat.pow_pos (by decide))) (Nat.pow_pos (by decide))
  have hmant := d.mant_lt
  rw [units] at hend
  generalize Nat.pow 2 d.exp = step at hend hstep hpos
  generalize Nat.pow 10 k.toNat = num at hend hgrid
  generalize Nat.pow 10 (-k).toNat = den at hend hgrid hpos
  generalize Nat.pow 10 (k + 1).toNat = coarseNum at hstep hgrid
  generalize Nat.pow 10 (-(k + 1)).toNat = coarseDen at hstep hgrid hpos
  generalize 4 * unitsPerOne = one at hend hstep
  have hle : 2 * n * (step * den * coarseDen) ≤ 10 * (4 * d.mant + 2) * (step * den * coarseDen) :=
    calc 2 * n * (step * den * coarseDen)
        = n * den * (2 * step * coarseDen) := by grind
      _ ≤ n * den * (one * coarseNum) := Nat.mul_le_mul_left _ hstep
      _ = n * one * (coarseNum * den) := by grind
      _ = 10 * coarseDen * (n * (one * num)) := by rw [hgrid]; grind
      _ ≤ 10 * coarseDen * ((4 * (d.mant * step) + 2 * step) * den) := Nat.mul_le_mul_left _ hend
      _ = 10 * (4 * d.mant + 2) * (step * den * coarseDen) := by grind
  have hn := Nat.le_of_mul_le_mul_right hle hpos
  show n < 1000000000000000000
  omega

theorem roundsFrom_mul_left (point den : Nat) {c : Nat} (hc : 0 < c) :
    d.roundsFrom (c * point) (c * den) = d.roundsFrom point den := by
  have hle (a b : Nat) : a * (c * b) ≤ c * point ↔ a * b ≤ point := by
    rw [Nat.mul_left_comm]
    exact Nat.mul_le_mul_left_iff hc
  have hge (a b : Nat) : c * point ≤ a * (c * b) ↔ point ≤ a * b := by
    rw [Nat.mul_left_comm]
    exact Nat.mul_le_mul_left_iff hc
  simp only [roundsFrom, hle, hge, ← Nat.not_le]

/-- **The shortest digits of a double do not end in a zero**, which would be a point of the next grid. -/
theorem shortest_mod_ten (hd : d.mant ≠ 0) {n : Nat} {k : Int} (h : d.shortest = (n, k)) : n % 10 ≠ 0 := by
  intro hten
  obtain ⟨hn, -, -, hrounds, hnone⟩ := shortest_spec hd h
  obtain ⟨m, rfl⟩ := Nat.dvd_of_mod_eq_zero hten
  have hsucc (j : Nat) : Nat.pow 10 (j + 1) = 10 * Nat.pow 10 j := Nat.pow_succ'
  have hcoarse : d.roundsFrom (m * (4 * unitsPerOne * Nat.pow 10 (k + 1).toNat))
      (Nat.pow 10 (-(k + 1)).toNat) = true := by
    by_cases hk : 0 ≤ k
    · have hnum : (k + 1).toNat = k.toNat + 1 := by omega
      have hden : (-(k + 1)).toNat = (-k).toNat := by omega
      have hpoint : m * (4 * unitsPerOne * (10 * Nat.pow 10 k.toNat)) =
          10 * m * (4 * unitsPerOne * Nat.pow 10 k.toNat) := by grind
      rw [hnum, hden, hsucc, hpoint]
      exact hrounds
    · have hnum : (k + 1).toNat = k.toNat := by omega
      have hden : (-k).toNat = (-(k + 1)).toNat + 1 := by omega
      rw [hden, hsucc, Nat.mul_assoc, roundsFrom_mul_left _ _ (by decide)] at hrounds
      rw [hnum]
      exact hrounds
  have hsome := isSome_nearestOnGrid? hd (by omega) hcoarse
  rw [hnone] at hsome
  cases hsome

/-- **The shortest digits read back.** -/
theorem ofDecimal?_shortest (hd : d.mant ≠ 0) {n : Nat} {k : Int} (h : d.shortest = (n, k)) :
    ofDecimal? d.neg n k = some d := by
  obtain ⟨hn, hlow, hhigh, hrounds, -⟩ := shortest_spec hd h
  have hpoint : n * (4 * unitsPerOne * Nat.pow 10 k.toNat) =
      4 * (n * Nat.pow 10 k.toNat * unitsPerOne) := by
    rw [Nat.mul_assoc 4, Nat.mul_left_comm, Nat.mul_comm unitsPerOne, Nat.mul_assoc n]
  rw [hpoint] at hrounds
  have hunits := ofUnits?_of_roundsFrom hd (Nat.pow_pos (by decide)) hrounds
  unfold ofDecimal?
  rw [if_neg hn, if_neg (by omega), if_neg (by omega)]
  split
  · rename_i hk
    have hden : (-k).toNat = 0 := by omega
    rw [hden] at hunits
    exact hunits
  · rename_i hk
    have hnum : k.toNat = 0 := by omega
    have hone : Nat.pow 10 0 = 1 := rfl
    rw [hnum, hone, Nat.mul_one] at hunits
    exact hunits

end Double

/-! ## Reading numerals -/

namespace Numeral

theorem splitDigits_append {ds rest : List Char} (hds : ∀ c ∈ ds, c.isDigit = true)
    (hrest : ∀ c, rest.head? = some c → c.isDigit = false) : splitDigits (ds ++ rest) = (ds, rest) := by
  have htake := takeWhile_isDigit_append hds hrest
  have hdrop : (ds ++ rest).dropWhile Char.isDigit = rest := by
    have hall := List.takeWhile_append_dropWhile (p := Char.isDigit) (l := ds ++ rest)
    rw [htake] at hall
    exact List.append_cancel_left hall
  rw [splitDigits, htake, hdrop]

/-- The end of a numeral, which gives its power of ten. -/
def IsPower (rest : List Char) (power : Int) : Prop :=
  rest = [] ∧ power = 0 ∨ ∃ cs, rest = 'e' :: cs ∧ readExponent? cs = some power

/-- Parts that make a numeral: digits before the point, of which there are some, digits after it, and a power
of ten. -/
structure IsSpelled (whole fraction rest : List Char) (power : Int) : Prop where
  whole_digits : ∀ c ∈ whole, c.isDigit = true
  whole_ne : whole ≠ []
  fraction_digits : ∀ c ∈ fraction, c.isDigit = true
  rest_power : IsPower rest power

variable {rest : List Char} {power : Int}

theorem IsPower.head (h : IsPower rest power) : ∀ c, rest.head? = some c → c = 'e' := by
  obtain ⟨rfl, -⟩ | ⟨cs, rfl, -⟩ := h
  · nofun
  · rintro c hc
    cases hc
    rfl

/-- **A numeral is read part by part.** -/
theorem read?_parts (neg : Bool) {whole fraction : List Char} (h : IsSpelled whole fraction rest power) :
    read? ((if neg then ['-'] else []) ++
        (whole ++ ((if fraction.isEmpty then [] else '.' :: fraction) ++ rest))) =
      some ⟨neg, digitsValue (whole ++ fraction), power - fraction.length⟩ := by
  have hrest : ∀ c, rest.head? = some c → c.isDigit = false := by
    intro c hc
    rw [h.rest_power.head c hc]
    rfl
  -- The parts, one after the other.
  have hsign := Decimal.splitSign_parts neg h.whole_digits h.whole_ne
    ((if fraction.isEmpty then [] else '.' :: fraction) ++ rest)
  have hdigits : splitDigits (whole ++ ((if fraction.isEmpty then [] else '.' :: fraction) ++ rest)) =
      (whole, (if fraction.isEmpty then [] else '.' :: fraction) ++ rest) := by
    refine splitDigits_append h.whole_digits fun c hc => ?_
    cases fraction with
    | nil => exact hrest c hc
    | cons d ds =>
      cases hc
      rfl
  have hempty : whole.isEmpty = false := by simp [h.whole_ne]
  simp only [read?, hsign, hdigits, hempty, Bool.false_and]
  cases fraction with
  | nil =>
    obtain ⟨rfl, rfl⟩ | ⟨cs, rfl, hcs⟩ := h.rest_power
    · simp
    · simp [hcs]
  | cons d ds =>
    have hsplit := splitDigits_append h.fraction_digits hrest
    simp only [List.isEmpty_cons, Bool.false_eq_true, if_false, List.cons_append] at hsplit ⊢
    simp only [hsplit]
    obtain ⟨rfl, rfl⟩ | ⟨cs, rfl, hcs⟩ := h.rest_power
    · simp
    · simp [hcs]

end Numeral

/-! ## Written doubles -/

theorem digitsValue_toDigits (n : Nat) : digitsValue (Nat.toDigits 10 n) = n := by
  rw [digitsValue_eq, Nat.ofDigitChars_ten_toDigits]

theorem digitsValue_zeros_append (k : Nat) (cs : List Char) :
    digitsValue (List.replicate k '0' ++ cs) = digitsValue cs := by
  rw [digitsValue_eq, digitsValue_eq, Nat.ofDigitChars_append, Nat.ofDigitChars_replicate_zero,
    Nat.mul_zero]

theorem digitsValue_append_zeros (cs : List Char) (k : Nat) :
    digitsValue (cs ++ List.replicate k '0') = digitsValue cs * Nat.pow 10 k := by
  rw [digitsValue_eq, digitsValue_eq, Nat.ofDigitChars_append, Nat.ofDigitChars_replicate_zero,
    Nat.mul_comm]
  rfl

theorem isDigit_of_mem_zeros {k : Nat} {c : Char} (h : c ∈ List.replicate k '0') : c.isDigit = true := by
  rw [(List.mem_replicate.1 h).2]
  rfl

theorem isDigit_zero : ∀ c ∈ ['0'], c.isDigit = true := List.forall_mem_singleton.2 rfl

theorem isDigit_of_mem_append {cs ds : List Char} (hcs : ∀ c ∈ cs, c.isDigit = true)
    (hds : ∀ c ∈ ds, c.isDigit = true) : ∀ c ∈ cs ++ ds, c.isDigit = true :=
  fun c hc => (List.mem_append.1 hc).elim (hcs c) (hds c)

theorem isDigit_of_mem_toDigits {n : Nat} : ∀ c ∈ Nat.toDigits 10 n, c.isDigit = true :=
  fun _ hc => Nat.isDigit_of_mem_toDigits (by decide) (by decide) hc

/-- A power of ten is read back, whether a positive one has its sign or not. -/
theorem readExponent?_digits (power : Int) (plus : Bool) :
    readExponent? ((if power < 0 then ['-'] else if plus then ['+'] else []) ++
      Nat.toDigits 10 power.natAbs) = some power := by
  have hdigits : (Nat.toDigits 10 power.natAbs).any (fun c => !c.isDigit) = false := by
    rw [List.any_eq_false]
    intro c hc
    simp [isDigit_of_mem_toDigits c hc]
  have hempty : (Nat.toDigits 10 power.natAbs).isEmpty = false := by
    rw [Bool.eq_false_iff, ne_eq, List.isEmpty_iff]
    exact Nat.toDigits_ne_nil
  have hsign : splitSign ((if power < 0 then ['-'] else if plus then ['+'] else []) ++
      Nat.toDigits 10 power.natAbs) = (decide (power < 0), Nat.toDigits 10 power.natAbs) := by
    by_cases hneg : power < 0
    · simp [hneg, splitSign]
    · simp only [hneg, if_false, decide_false]
      cases plus with
      | true => rfl
      | false =>
        cases hcs : Nat.toDigits 10 power.natAbs with
        | nil => exact absurd hcs Nat.toDigits_ne_nil
        | cons c cs =>
          have hmem : c ∈ Nat.toDigits 10 power.natAbs := by simp [hcs]
          exact Decimal.splitSign_of_isDigit (isDigit_of_mem_toDigits c hmem) cs
  simp only [readExponent?, hsign, hempty, hdigits, digitsValue_toDigits, Bool.or_self,
    Decimal.signed_natAbs]
  rfl

/-- Digits that a layout places, as the parts of a numeral. Zeros may be added to them. -/
structure NumberLayout.Placed (layout : NumberLayout) (ds : List Char) (power : Int)
    (whole fraction rest : List Char) (e : Int) (zeros : Nat) : Prop
    extends Numeral.IsSpelled whole fraction rest e where
  text : layout.place ds power = whole ++ ((if fraction.isEmpty then [] else '.' :: fraction) ++ rest)
  value : digitsValue (whole ++ fraction) = digitsValue ds * Nat.pow 10 zeros
  scale : e - fraction.length = power + 1 - ds.length - zeros
  zeros_eq : zeros = 0 ∨ (zeros : Int) = power + 2 - ds.length ∧ power ≤ layout.greatest
  exponent_eq : e = 0 ∨ e = power
  fraction_le : fraction.length ≤ ds.length + (-layout.least).toNat

namespace NumberLayout

variable (layout : NumberLayout) {ds : List Char} {power : Int}

section Plain

variable (hds : ∀ c ∈ ds, c.isDigit = true) (hne : ds ≠ [])
  (hplain : layout.least ≤ power ∧ power ≤ layout.greatest)
include hds hne hplain

/-- Zeros before the digits: `0.00ds`. -/
theorem placed_below_one (hneg : power < 0) :
    layout.Placed ds power ['0'] (List.replicate (-power - 1).toNat '0' ++ ds) [] 0 0 where
  text := by
    have hfraction : (List.replicate (-power - 1).toNat '0' ++ ds).isEmpty = false := by simp [hne]
    rw [place, if_pos hplain, if_pos hneg, hfraction]
    simp
  whole_digits := isDigit_zero
  whole_ne := by simp
  fraction_digits := isDigit_of_mem_append (fun _ => isDigit_of_mem_zeros) hds
  rest_power := .inl ⟨rfl, rfl⟩
  value := (digitsValue_zeros_append ((-power - 1).toNat + 1) ds).trans (Nat.mul_one _).symm
  scale := by
    rw [List.length_append, List.length_replicate]
    omega
  zeros_eq := .inl rfl
  exponent_eq := .inl rfl
  fraction_le := by
    rw [List.length_append, List.length_replicate]
    omega

/-- Zeros and a place behind the digits: `ds00.0`. -/
theorem placed_whole (hneg : ¬power < 0) (hfits : ds.length ≤ power.toNat + 1) :
    layout.Placed ds power (ds ++ List.replicate (power.toNat + 1 - ds.length) '0') ['0'] [] 0
      (power.toNat + 1 - ds.length + 1) where
  text := by
    simp only [place, if_pos hplain, if_neg hneg, if_pos hfits]
    simp
  whole_digits := isDigit_of_mem_append hds fun _ => isDigit_of_mem_zeros
  whole_ne := by simp [hne]
  fraction_digits := isDigit_zero
  rest_power := .inl ⟨rfl, rfl⟩
  value := by rw [List.append_assoc, ← digitsValue_append_zeros, List.replicate_succ']
  scale := by
    rw [List.length_singleton]
    omega
  zeros_eq := .inr ⟨by omega, hplain.2⟩
  exponent_eq := .inl rfl
  fraction_le := by
    have hlength : 0 < ds.length := List.length_pos_iff.2 hne
    rw [List.length_singleton]
    omega

/-- The point among the digits: `d.ds`. -/
theorem placed_inside (hneg : ¬power < 0) (hfits : ¬ds.length ≤ power.toNat + 1) :
    layout.Placed ds power (ds.take (power.toNat + 1)) (ds.drop (power.toNat + 1)) [] 0 0 where
  text := by
    have hfraction : (ds.drop (power.toNat + 1)).isEmpty = false := by
      simp
      omega
    simp only [place, if_pos hplain, if_neg hneg, if_neg hfits, hfraction]
    simp
  whole_digits := fun c hc => hds c (List.mem_of_mem_take hc)
  whole_ne := by simp [hne]
  fraction_digits := fun c hc => hds c (List.mem_of_mem_drop hc)
  rest_power := .inl ⟨rfl, rfl⟩
  value := by
    rw [List.take_append_drop]
    exact (Nat.mul_one _).symm
  scale := by
    rw [List.length_drop]
    omega
  zeros_eq := .inl rfl
  exponent_eq := .inl rfl
  fraction_le := by
    rw [List.length_drop]
    omega

end Plain

/-- One digit before the point, and a power of ten: `d.dse10`. -/
theorem placed_power (hds : ∀ c ∈ ds, c.isDigit = true) (hne : ds ≠ [])
    (hplain : ¬(layout.least ≤ power ∧ power ≤ layout.greatest)) :
    layout.Placed ds power (ds.take 1) (ds.drop 1)
      ('e' :: ((if power < 0 then ['-'] else if layout.plus then ['+'] else []) ++
        Nat.toDigits 10 power.natAbs)) power 0 where
  text := by
    rw [place, if_neg hplain]
    simp only [List.append_assoc, List.cons_append]
  whole_digits := fun c hc => hds c (List.mem_of_mem_take hc)
  whole_ne := by simp [hne]
  fraction_digits := fun c hc => hds c (List.mem_of_mem_drop hc)
  rest_power := .inr ⟨_, rfl, readExponent?_digits power layout.plus⟩
  value := by
    rw [List.take_append_drop]
    exact (Nat.mul_one _).symm
  scale := by
    have hlength : 0 < ds.length := List.length_pos_iff.2 hne
    rw [List.length_drop]
    omega
  zeros_eq := .inl rfl
  exponent_eq := .inr rfl
  fraction_le := by
    rw [List.length_drop]
    omega

/-- **Placed digits are the parts of a numeral of their value.** -/
theorem exists_placed (hds : ∀ c ∈ ds, c.isDigit = true) (hne : ds ≠ []) (power : Int) :
    ∃ whole fraction rest e zeros, layout.Placed ds power whole fraction rest e zeros := by
  by_cases hplain : layout.least ≤ power ∧ power ≤ layout.greatest
  · by_cases hneg : power < 0
    · exact ⟨_, _, _, _, _, layout.placed_below_one hds hne hplain hneg⟩
    · by_cases hfits : ds.length ≤ power.toNat + 1
      · exact ⟨_, _, _, _, _, layout.placed_whole hds hne hplain hneg hfits⟩
      · exact ⟨_, _, _, _, _, layout.placed_inside hds hne hplain hneg hfits⟩
  · exact ⟨_, _, _, _, _, layout.placed_power hds hne hplain⟩

end NumberLayout

/-- A numeral with zeros behind its digits has the same nearest double. -/
theorem Double.ofDecimal?_zeros (neg : Bool) {n : Nat} {k : Int} (hn : n ≠ 0) (hk : 0 ≤ k)
    (hle : k ≤ 400) : ofDecimal? neg (n * Nat.pow 10 (k.toNat + 1)) (-1) = ofDecimal? neg n k := by
  have hpow : Nat.pow 10 (k.toNat + 1) = Nat.pow 10 k.toNat * 10 := Nat.pow_succ _ _
  have hdigits : n * Nat.pow 10 (k.toNat + 1) ≠ 0 :=
    Nat.mul_ne_zero hn (Nat.ne_of_gt (Nat.pow_pos (by decide)))
  have hten : Nat.pow 10 (-(-1 : Int)).toNat = 1 * 10 := rfl
  unfold ofDecimal?
  rw [if_neg hdigits, if_neg (by decide), if_neg (by omega), if_neg (by decide), if_neg hn,
    if_neg (by omega), if_neg (by omega), if_pos hk, hten, hpow, ← Nat.mul_assoc]
  unfold ofRatio?
  rw [Nat.mul_right_comm]
  exact ofUnits?_mul_right neg _ _ (by decide)

theorem Double.zero_of_mant {d : Double} (h : d.mant = 0) : zero d.neg = d := by
  have hexp : d.exp = 0 := d.normal.resolve_right (by omega)
  cases d
  cases h
  cases hexp
  rfl

theorem isSpelled_zero : Numeral.IsSpelled ['0'] ['0'] [] 0 :=
  ⟨isDigit_zero, by simp, isDigit_zero, .inl ⟨rfl, rfl⟩⟩

/-- **Any other double is written in its shortest digits.** -/
theorem NumberLayout.exists_written (layout : NumberLayout) {d : Double} (hd : d.mant ≠ 0) {n : Nat} {k : Int}
    (h : d.shortest = (n, k)) : ∃ whole fraction rest e zeros,
      layout.Placed (Nat.toDigits 10 n) (k + (Nat.toDigits 10 n).length - 1) whole fraction rest e zeros ∧
      (layout.write d).toList = (if d.neg then ['-'] else []) ++
        (whole ++ ((if fraction.isEmpty then [] else '.' :: fraction) ++ rest)) := by
  obtain ⟨whole, fraction, rest, e, zeros, hplaced⟩ :=
    layout.exists_placed (isDigit_of_mem_toDigits (n := n)) Nat.toDigits_ne_nil
      (k + (Nat.toDigits 10 n).length - 1)
  refine ⟨whole, fraction, rest, e, zeros, hplaced, ?_⟩
  rw [← hplaced.text]
  simp only [write, if_neg hd, h, String.toList_ofList]

/-- **A written double is a numeral whose nearest double it is.** -/
theorem NumberLayout.read?_write (layout : NumberLayout) (d : Double) :
    ∃ m, Numeral.read? (layout.write d).toList = some m ∧ m.toDouble? = some d ∧ m.scale ≤ 310 := by
  by_cases hmant : d.mant = 0
  · have hread := Numeral.read?_parts d.neg isSpelled_zero
    have hle : (-1 : Int) ≤ 310 := by decide
    refine ⟨⟨d.neg, 0, -1⟩, ?_, congrArg some (Double.zero_of_mant hmant), hle⟩
    simp only [write, if_pos hmant, String.toList_ofList]
    exact hread
  cases hshortest : d.shortest with
  | mk n k =>
    obtain ⟨hn, -, hhigh, -⟩ := Double.shortest_spec hmant hshortest
    obtain ⟨whole, fraction, rest, e, zeros, hplaced, hwritten⟩ := layout.exists_written hmant hshortest
    have hscale := hplaced.scale
    have hscale' : e - fraction.length = k - zeros := by omega
    have hread := Numeral.read?_parts d.neg hplaced.toIsSpelled
    rw [← hwritten, hplaced.value, digitsValue_toDigits, hscale'] at hread
    have hle : k - zeros ≤ 310 := by omega
    refine ⟨⟨d.neg, n * Nat.pow 10 zeros, k - zeros⟩, hread, ?_, hle⟩
    rw [Numeral.toDouble?, ← Double.ofDecimal?_shortest hmant hshortest]
    obtain rfl | hpos := Nat.eq_zero_or_pos zeros
    · show Double.ofDecimal? d.neg (n * 1) (k - 0) = _
      rw [Nat.mul_one, Int.sub_zero]
    · have hzeros := hplaced.zeros_eq
      have hk : 0 ≤ k ∧ zeros = k.toNat + 1 := by omega
      have hminus : k - zeros = -1 := by omega
      rw [hminus, hk.2]
      exact Double.ofDecimal?_zeros d.neg hn hk.1 (by omega)

theorem toList_toString (i : Int) :
    (toString i).toList = (if decide (i < 0) then ['-'] else []) ++ Nat.toDigits 10 i.natAbs := by
  cases i with
  | ofNat n =>
    show (toString n).toList = _
    simp
  | negSucc n =>
    show ("-" ++ toString (n + 1)).toList = _
    simp

theorem isSpelled_toDigits (n : Nat) : Numeral.IsSpelled (Nat.toDigits 10 n) [] [] 0 :=
  ⟨isDigit_of_mem_toDigits, Nat.toDigits_ne_nil, by simp, .inl ⟨rfl, rfl⟩⟩

theorem Numeral.read?_toString (i : Int) :
    read? (toString i).toList = some ⟨decide (i < 0), i.natAbs, 0⟩ := by
  have hread := read?_parts (decide (i < 0)) (isSpelled_toDigits i.natAbs)
  rw [List.append_nil (Nat.toDigits 10 i.natAbs), digitsValue_toDigits] at hread
  rw [toList_toString, ← List.append_nil (Nat.toDigits 10 i.natAbs)]
  exact hread

/-- **A number of a document is read back from its text.** -/
theorem Json.Number.read?_text (n : Json.Number) :
    ∃ m, Numeral.read? n.text.toList = some m ∧ m.toDouble? = n.toDouble? ∧ m.scale ≤ 310 := by
  cases n with
  | double d => exact NumberLayout.document.read?_write d
  | int i =>
    have hle : (0 : Int) ≤ 310 := by decide
    refine ⟨_, Numeral.read?_toString i, ?_, hle⟩
    show Double.ofDecimal? (decide (i < 0)) i.natAbs 0 = Double.ofInt? i
    unfold Double.ofDecimal?
    split
    · rename_i hzero
      obtain rfl : i = 0 := by omega
      unfold Double.ofInt? Double.ofRatio?
      rw [Int.natAbs_zero, Nat.zero_mul]
      exact (Double.zero false).ofUnits?_units.symm
    · rw [if_neg (by decide), if_neg (by omega), if_pos (by decide)]
      show Double.ofRatio? _ (i.natAbs * 1) 1 = _
      rw [Nat.mul_one]
      rfl

end Dossier
