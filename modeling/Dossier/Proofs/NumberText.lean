import Dossier.Proofs.Bounds
import Dossier.Proofs.Rendering
import Dossier.Proofs.Sql.Cell

/-!
# Numbers and their texts

A number in a document and a text that holds the same number are read along different ways: the one comes as
a double or an integer and is printed where an amount is wanted, the other is trimmed and read as it stands.
Both give the same.

**Amounts in parts.** The reader of amounts tries the whole text first, where a power of ten is in its way, and
then applies the power to the digits before it. On the parts of a numeral with few enough digits this comes to
one computation (`Decimal.read?_parts`, `Decimal.scaled?`).

**Exact amounts.** What comes out of it has exactly the value of the numeral. Nothing comes out of it for a
value that some amount has only if digits end in a zero too far behind the point, or begin with one before too
large a power (`Decimal.not_standsFor_of_scaled?`). Printed doubles do neither: their shortest digits have no
zero at the end and there are at most eighteen (`Double.shortest_mod_ten`, `Double.shortest_lt`). So a printed
number is read at its very value, or no amount has that value (`Json.Number.readExactly`).

Main result: `Field.number_and_text_alike`.
-/

namespace Dossier

/-! ## Powers of ten -/

section Exponents

variable {cs : List Char} {power : Int}

/-- A power of ten is written in digits, with a sign or without one. -/
theorem readExponent?_some (h : readExponent? cs = some power) :
    ∃ ds, (∀ c ∈ ds, c.isDigit = true) ∧ ds ≠ [] ∧
      (cs = '-' :: ds ∧ power = -(digitsValue ds : Int) ∨
        (cs = '+' :: ds ∨ cs = ds) ∧ power = digitsValue ds) := by
  simp only [readExponent?] at h
  split at h
  · cases h
  · next hdigits =>
    rw [Bool.or_eq_true, not_or, List.any_eq_true, List.isEmpty_iff] at hdigits
    obtain ⟨hne, hdigits⟩ := hdigits
    refine ⟨(splitSign cs).2, fun c hc => ?_, hne, ?_⟩
    · cases hdigit : c.isDigit with
      | true => rfl
      | false => exact absurd ⟨c, hc, by rw [hdigit]; rfl⟩ hdigits
    · unfold splitSign at h ⊢
      split at h <;> cases h
      · exact .inl ⟨rfl, rfl⟩
      · exact .inr ⟨.inl rfl, rfl⟩
      · exact .inr ⟨.inr rfl, rfl⟩

theorem not_blank_of_readExponent? (h : readExponent? cs = some power) : ∀ c ∈ cs, isBlank c = false := by
  obtain ⟨ds, hdigits, -, hcs⟩ := readExponent?_some h
  have hds : ∀ c ∈ ds, isBlank c = false := fun c hc => isBlank_of_isDigit (hdigits c hc)
  rcases hcs with ⟨rfl, -⟩ | ⟨rfl | rfl, -⟩
  · exact List.forall_mem_cons.2 ⟨by decide, hds⟩
  · exact List.forall_mem_cons.2 ⟨by decide, hds⟩
  · exact hds

end Exponents

/-! ## Texts in parts -/

namespace Numeral.IsSpelled

variable {neg : Bool} {whole fraction rest : List Char} {power : Int}

/-- Before the power of ten there are a sign, digits and a point. -/
theorem forall_front (neg : Bool) (h : IsSpelled whole fraction rest power) {P : Char → Prop} (hminus : P '-')
    (hpoint : P '.') (hdigit : ∀ c : Char, c.isDigit = true → P c) :
    ∀ c ∈ (if neg then ['-'] else []) ++ (whole ++ if fraction.isEmpty then [] else '.' :: fraction), P c := by
  intro c hc
  simp only [List.mem_append] at hc
  rcases hc with hc | hc | hc
  · cases neg with
    | true =>
      obtain rfl := List.mem_singleton.1 hc
      exact hminus
    | false => cases hc
  · exact hdigit c (h.whole_digits c hc)
  · split at hc
    · cases hc
    · rcases List.mem_cons.1 hc with rfl | hc
      · exact hpoint
      · exact hdigit c (h.fraction_digits c hc)

theorem not_blank (h : IsSpelled whole fraction rest power) :
    ∀ c ∈ (if neg then ['-'] else []) ++
      (whole ++ ((if fraction.isEmpty then [] else '.' :: fraction) ++ rest)), isBlank c = false := by
  have hfront := h.forall_front neg (P := (isBlank · = false)) (by decide) (by decide)
    fun _ => isBlank_of_isDigit
  have hrest : ∀ c ∈ rest, isBlank c = false := by
    obtain ⟨rfl, -⟩ | ⟨cs, rfl, hcs⟩ := h.rest_power
    · nofun
    · exact List.forall_mem_cons.2 ⟨by decide, not_blank_of_readExponent? hcs⟩
  intro c hc
  rw [← List.append_assoc whole, ← List.append_assoc] at hc
  exact (List.mem_append.1 hc).elim (hfront c) (hrest c)

end Numeral.IsSpelled

theorem Numeral.natAbs_coefficient (m : Numeral) : m.coefficient.natAbs = m.digits := by
  unfold coefficient
  split <;> omega

/-! ## Amounts in parts -/

namespace Decimal

variable {neg : Bool} {whole fraction rest cs : List Char} {power : Int}

theorem mk?_eq_none_iff {coeff : Int} {scale : Nat} :
    mk? coeff scale = none ↔ bound ≤ coeff.natAbs ∨ 28 < scale := by
  unfold mk? bound
  split
  · next hfits => exact ⟨nofun, fun h => by omega⟩
  · next hfits => exact ⟨fun _ => by omega, fun _ => rfl⟩

theorem mk?_eq_some {coeff : Int} {scale : Nat} {d : Decimal} (h : mk? coeff scale = some d) :
    d.coeff = coeff ∧ d.scale = scale := by
  unfold mk? at h
  split at h <;> cases h
  exact ⟨rfl, rfl⟩

/-- The amount of a coefficient with places, times a power of ten. -/
def scaled? (coeff : Int) (places : Nat) (power : Int) : Option Decimal :=
  if power ≤ places then mk? coeff (places - power).toNat
  else if 28 < power then none
  else mk? (coeff * Nat.pow 10 (power - places).toNat) 0

theorem readPower?_digits {ds : List Char} (hds : ∀ c ∈ ds, c.isDigit = true) (hne : ds ≠ [])
    (hcs : cs = '+' :: ds ∨ cs = ds) :
    readPower? cs = if digitsValue ds < 0x100000000 then some (digitsValue ds) else none := by
  have hany : ds.any (fun c => !c.isDigit) = false := by
    rw [List.any_eq_false]
    intro c hc
    simp [hds c hc]
  have hempty : ds.isEmpty = false := by simp [hne]
  rcases hcs with rfl | rfl
  · simp [readPower?, hany, hempty]
  · unfold readPower?
    split
    · exact absurd (hds '+' (.head _)) (by decide)
    · simp [hany, hempty]

/-- **A power of ten is taken off the places of an amount.** -/
theorem shiftBy?_eq (d : Decimal) (h : readExponent? cs = some power) :
    d.shiftBy? cs = scaled? d.coeff d.scale power := by
  obtain ⟨ds, hds, hne, ⟨rfl, rfl⟩ | ⟨hcs, rfl⟩⟩ := readExponent?_some h
  · show (readPower? ds >>= fun e => mk? d.coeff (d.scale + e)) = _
    have hle : -(digitsValue ds : Int) ≤ d.scale := by omega
    have hscale : ((d.scale : Int) - -(digitsValue ds : Int)).toNat = d.scale + digitsValue ds := by omega
    rw [readPower?_digits hds hne (.inr rfl), scaled?, if_pos hle, hscale]
    split
    · rfl
    · next hlarge => exact (mk?_eq_none_iff.2 (.inr (by omega))).symm
  · have hshift : d.shiftBy? cs = readPower? cs >>= fun e =>
        if e ≤ d.scale then mk? d.coeff (d.scale - e)
        else if 28 < e then none
        else mk? (d.coeff * Nat.pow 10 (e - d.scale)) 0 := by
      unfold shiftBy?
      split
      · rcases hcs with hcs | rfl
        · cases hcs
        · exact absurd (hds '-' (.head _)) (by decide)
      · rfl
    have hscale := d.scale_le
    have hdown : ((d.scale : Int) - (digitsValue ds : Int)).toNat = d.scale - digitsValue ds := by omega
    have hup : ((digitsValue ds : Int) - (d.scale : Int)).toNat = digitsValue ds - d.scale := by omega
    rw [hshift, readPower?_digits hds hne hcs, scaled?, hdown, hup]
    generalize digitsValue ds = e
    have hlarge : (28 : Int) < e ↔ 28 < e := by omega
    simp only [Int.ofNat_le, hlarge]
    split
    · rfl
    · rw [if_neg (by omega), if_pos (by omega)]
      rfl

/-- Digits after the point and then a power of ten make no magnitude. -/
theorem readMagnitude_mark {ds : List Char} {magnitude scale : Nat} (hds : ∀ c ∈ ds, c.isDigit = true)
    (hlt : Nat.ofDigitChars 10 ds magnitude < bound) (hscale : scale + ds.length ≤ 28) (rest : List Char) :
    readMagnitude true true magnitude scale (ds ++ 'e' :: rest) = none := by
  induction ds generalizing magnitude scale with
  | nil => simp [readMagnitude]
  | cons c ds ih =>
    obtain ⟨hc, hds⟩ := List.forall_mem_cons.1 hds
    rw [ofDigitChars_cons_eq] at hlt
    rw [List.length_cons] at hscale
    have hgrown : ¬bound ≤ 10 * magnitude + (c.toNat - 48) := by
      have := le_ofDigitChars ds (10 * magnitude + (c.toNat - 48))
      omega
    rw [List.cons_append, readMagnitude, if_pos hc]
    simp only [hgrown, if_false, if_true, Bool.true_and, beq_iff_eq]
    split
    · have hnil : ds = [] := List.eq_nil_of_length_eq_zero (by omega)
      simp [hnil, roundAt]
    · exact ih hds hlt (by omega)

section Parts

variable (neg : Bool) (h : Numeral.IsSpelled whole fraction rest power)
  (hlt : digitsValue (whole ++ fraction) < bound) (hlength : fraction.length ≤ 28)
include h hlt hlength

/-- Without a power of ten the parts are an amount. -/
theorem readPlain?_parts :
    readPlain? ((if neg then ['-'] else []) ++ (whole ++ if fraction.isEmpty then [] else '.' :: fraction)) =
      mk? (if neg then -(digitsValue (whole ++ fraction) : Int) else digitsValue (whole ++ fraction))
        fraction.length := by
  have hsign := splitSign_parts neg h.whole_digits h.whole_ne (if fraction.isEmpty then [] else '.' :: fraction)
  have hread := readMagnitude_parts h.whole_digits h.whole_ne h.fraction_digits hlt hlength
  simp only [readPlain?, hsign, hread]
  rfl

/-- A power of ten behind the parts is not read as one of them. -/
theorem readPlain?_mark :
    readPlain? ((if neg then ['-'] else []) ++
      (whole ++ ((if fraction.isEmpty then [] else '.' :: fraction) ++ 'e' :: cs))) = none := by
  have hsign := splitSign_parts neg h.whole_digits h.whole_ne
    ((if fraction.isEmpty then [] else '.' :: fraction) ++ 'e' :: cs)
  have hnone : readMagnitude false false 0 0
      (whole ++ ((if fraction.isEmpty then [] else '.' :: fraction) ++ 'e' :: cs)) = none := by
    rw [digitsValue_eq, Nat.ofDigitChars_append] at hlt
    have hseen : (!whole.isEmpty) = true := by simp [h.whole_ne]
    rw [readMagnitude_whole h.whole_digits (Nat.lt_of_le_of_lt (le_ofDigitChars ..) hlt), hseen, Bool.false_or]
    split
    · simp [readMagnitude]
    · rw [List.cons_append, readMagnitude, if_neg (by decide), if_pos (by decide)]
      exact readMagnitude_mark h.fraction_digits hlt (by omega) cs
  simp only [readPlain?, hsign, hnone]
  rfl

/-- **An amount is read part by part**, and a power of ten is taken off its places. -/
theorem read?_parts :
    read? ((if neg then ['-'] else []) ++
        (whole ++ ((if fraction.isEmpty then [] else '.' :: fraction) ++ rest))) =
      scaled? (if neg then -(digitsValue (whole ++ fraction) : Int) else digitsValue (whole ++ fraction))
        fraction.length power := by
  have hplain := readPlain?_parts neg h hlt hlength
  generalize hcoeff : (if neg then -(digitsValue (whole ++ fraction) : Int)
    else digitsValue (whole ++ fraction)) = coeff at hplain ⊢
  have hfits : coeff.natAbs < bound := by
    rw [← hcoeff]
    split <;> omega
  have hmade : mk? coeff fraction.length = some ⟨coeff, fraction.length, hfits, hlength⟩ :=
    dif_pos ⟨hfits, hlength⟩
  rw [hmade] at hplain
  obtain ⟨rfl, rfl⟩ | ⟨cs, rfl, hcs⟩ := h.rest_power
  · rw [List.append_nil, read?, hplain, scaled?, if_pos (Int.natCast_nonneg _), Int.sub_zero, Int.toNat_natCast,
      hmade]
    rfl
  · have hmark : ∀ c ∈ (if neg then ['-'] else []) ++
        (whole ++ if fraction.isEmpty then [] else '.' :: fraction), (!(c == 'e' || c == 'E')) = true :=
      h.forall_front neg rfl rfl fun _ => not_mark_of_isDigit
    rw [read?, readPlain?_mark neg h hlt hlength]
    show readScientific? _ = _
    rw [← List.append_assoc whole, ← List.append_assoc]
    have hdrop : ('e' :: cs).dropWhile (fun c => !(c == 'e' || c == 'E')) = 'e' :: cs := rfl
    have htake : ('e' :: cs).takeWhile (fun c => !(c == 'e' || c == 'E')) = [] := rfl
    simp only [readScientific?, List.dropWhile_append_of_pos hmark, List.takeWhile_append_of_pos hmark, hdrop,
      htake, List.append_nil, hplain]
    exact shiftBy?_eq _ hcs

end Parts

/-! ## Exact amounts -/

variable {a : Decimal} {m : Numeral} {places : Nat}

/-- Whether an amount has the value of a numeral. -/
def StandsFor (a : Decimal) (m : Numeral) : Prop := a.numeral.cmp m = .eq

theorem standsFor_iff : a.StandsFor m ↔
    a.coeff * Nat.pow 10 (-a.scale - m.scale).toNat = m.coefficient * Nat.pow 10 (m.scale + a.scale).toNat := by
  have hscale : m.scale - a.numeral.scale = m.scale + a.scale := Int.sub_neg _ _
  rw [StandsFor, Numeral.cmp, Std.LawfulEqCmp.compare_eq_iff_eq, coefficient_numeral, hscale]
  rfl

theorem standsFor_magnitude (h : a.StandsFor m) :
    a.coeff.natAbs * Nat.pow 10 (-a.scale - m.scale).toNat =
      m.digits * Nat.pow 10 (m.scale + a.scale).toNat := by
  have hmagnitude := congrArg Int.natAbs (standsFor_iff.1 h)
  simpa only [Int.natAbs_mul, Int.natAbs_natCast, Numeral.natAbs_coefficient] using hmagnitude

/-- No amount stands for a value that is beyond the bound. -/
theorem not_standsFor_of_large (hscale : 0 ≤ m.scale) (hlarge : bound ≤ m.digits * Nat.pow 10 m.scale.toNat)
    (a : Decimal) : ¬a.StandsFor m := by
  intro h
  have hmagnitude := standsFor_magnitude h
  have hfits : a.coeff.natAbs < bound := a.coeff_lt
  have hnone : (-(a.scale : Int) - m.scale).toNat = 0 := by omega
  have hsum : (m.scale + (a.scale : Int)).toNat = m.scale.toNat + a.scale := by omega
  have hpow : Nat.pow 10 (m.scale.toNat + a.scale) = Nat.pow 10 m.scale.toNat * Nat.pow 10 a.scale :=
    Nat.pow_add 10 _ _
  have hone : a.coeff.natAbs * Nat.pow 10 0 = a.coeff.natAbs := Nat.mul_one _
  have hgrows : m.digits * Nat.pow 10 m.scale.toNat ≤
      m.digits * Nat.pow 10 m.scale.toNat * Nat.pow 10 a.scale :=
    Nat.le_mul_of_pos_right _ (Nat.pow_pos (by decide))
  rw [hnone, hsum, hpow, hone, ← Nat.mul_assoc] at hmagnitude
  omega

/-- What is read stands for the numeral. -/
theorem standsFor_of_scaled? (hscale : m.scale = power - places)
    (h : scaled? m.coefficient places power = some a) : a.StandsFor m := by
  rw [standsFor_iff]
  unfold scaled? at h
  split at h
  · next hle =>
    obtain ⟨hvalue, hplaces⟩ := mk?_eq_some h
    have hleft : (-(a.scale : Int) - m.scale).toNat = 0 := by omega
    have hright : (m.scale + (a.scale : Int)).toNat = 0 := by omega
    rw [hleft, hright, hvalue]
  · next hlt =>
    split at h
    · cases h
    · obtain ⟨hvalue, hplaces⟩ := mk?_eq_some h
      have hleft : (-(a.scale : Int) - m.scale).toNat = 0 := by omega
      have hright : (m.scale + (a.scale : Int)).toNat = (power - places).toNat := by omega
      rw [hleft, hright, hvalue]
      exact Int.mul_one _

/-- **If nothing is read, no amount stands for the numeral**, as long as there is no zero at the end of digits
that go on too far, and none at the beginning of those with too large a power. -/
theorem not_standsFor_of_scaled? (hscale : m.scale = power - places) (hlt : m.digits < bound)
    (hshort : m.scale < -28 → m.digits % 10 ≠ 0)
    (hlarge : 28 < power → 0 < m.scale → bound ≤ m.digits * Nat.pow 10 m.scale.toNat)
    (h : scaled? m.coefficient places power = none) (a : Decimal) : ¬a.StandsFor m := by
  by_cases hle : power ≤ places
  · -- An amount has fewer places, so that the last digit would be a zero.
    intro hvalue
    have hmagnitude := standsFor_magnitude hvalue
    have hplaces := a.scale_le
    rw [scaled?, if_pos hle, mk?_eq_none_iff, Numeral.natAbs_coefficient] at h
    have hdigit := hshort (by omega)
    obtain ⟨j, hj⟩ : ∃ j, (-(a.scale : Int) - m.scale).toNat = j + 1 :=
      ⟨(-(a.scale : Int) - m.scale).toNat - 1, by omega⟩
    have hnone : (m.scale + (a.scale : Int)).toNat = 0 := by omega
    have hten : Nat.pow 10 (j + 1) = Nat.pow 10 j * 10 := Nat.pow_succ _ _
    have hone : m.digits * Nat.pow 10 0 = m.digits := Nat.mul_one _
    rw [hj, hnone, hten, hone, ← Nat.mul_assoc] at hmagnitude
    omega
  · -- The value is beyond the bound.
    have hbeyond : bound ≤ m.digits * Nat.pow 10 m.scale.toNat := by
      rw [scaled?, if_neg hle] at h
      split at h
      · next hpower => exact hlarge hpower (by omega)
      · rw [mk?_eq_none_iff, Int.natAbs_mul, Int.natAbs_natCast, Numeral.natAbs_coefficient, ← hscale] at h
        exact h.resolve_right (by decide)
    exact not_standsFor_of_large (by omega) hbeyond a

/-- Whether a text is read as an amount of just the value of a numeral, or refused because none has it. -/
def ReadExactly (cs : List Char) (m : Numeral) : Prop :=
  (∃ a, read? cs = some a ∧ a.StandsFor m) ∨ (read? cs = none ∧ ∀ a : Decimal, ¬a.StandsFor m)

/-- **Parts of a numeral are read exactly** as far as their digits fit. -/
theorem readExactly_parts (h : Numeral.IsSpelled whole fraction rest power)
    (hdigits : digitsValue (whole ++ fraction) = m.digits) (hscale : power - fraction.length = m.scale)
    (hlt : m.digits < bound) (hlength : fraction.length ≤ 28) (hshort : m.scale < -28 → m.digits % 10 ≠ 0)
    (hlarge : 28 < power → 0 < m.scale → bound ≤ m.digits * Nat.pow 10 m.scale.toNat) :
    ReadExactly ((if m.neg then ['-'] else []) ++
      (whole ++ ((if fraction.isEmpty then [] else '.' :: fraction) ++ rest))) m := by
  have hread := read?_parts m.neg h (hdigits ▸ hlt) hlength
  rw [hdigits] at hread
  cases hscaled : scaled? m.coefficient fraction.length power with
  | some a => exact .inl ⟨a, hread.trans hscaled, standsFor_of_scaled? hscale.symm hscaled⟩
  | none =>
    exact .inr ⟨hread.trans hscaled, not_standsFor_of_scaled? hscale.symm hlt hshort hlarge hscaled⟩

theorem tenPow_eighteen_lt : Nat.pow 10 18 < bound := by decide

theorem bound_le_tenPow : bound ≤ Nat.pow 10 29 := by decide

theorem readExactly_write_zero {d : Double} (hd : d.mant = 0) :
    ∃ m, Numeral.read? (NumberLayout.document.write d).toList = some m ∧
      ReadExactly (NumberLayout.document.write d).toList m := by
  have hread := Numeral.read?_parts d.neg isSpelled_zero
  have hshort : ¬(-1 : Int) < -28 := by decide
  have hlarge : ¬(28 : Int) < 0 := by decide
  have hexact : ReadExactly _ (⟨d.neg, 0, -1⟩ : Numeral) :=
    readExactly_parts isSpelled_zero rfl rfl (Nat.two_pow_pos 96) (by decide)
      (fun h => absurd h hshort) (fun h => absurd h hlarge)
  refine ⟨⟨d.neg, 0, -1⟩, ?_⟩
  simp only [NumberLayout.write, if_pos hd, String.toList_ofList]
  exact ⟨hread, hexact⟩

section Shortest

variable {d : Double} (hd : d.mant ≠ 0) {n : Nat} {k : Int} (hshortest : d.shortest = (n, k))
include hd hshortest

theorem length_shortest_le : (Nat.toDigits 10 n).length ≤ 18 :=
  (Nat.length_toDigits_le_iff (by decide) (by decide)).2 (Double.shortest_lt hd hshortest)

variable {whole fraction rest : List Char} {e : Int} {zeros : Nat}
  (hplaced : NumberLayout.document.Placed (Nat.toDigits 10 n) (k + (Nat.toDigits 10 n).length - 1)
    whole fraction rest e zeros)
include hplaced

/-- With the zeros behind them there are at most eighteen digits. -/
theorem placed_lt_bound : n * Nat.pow 10 zeros < bound := by
  have hcount := length_shortest_le hd hshortest
  have hzeros : zeros = 0 ∨ (zeros : Int) = _ ∧ _ ≤ (15 : Int) := hplaced.zeros_eq
  calc n * Nat.pow 10 zeros
      < Nat.pow 10 (Nat.toDigits 10 n).length * Nat.pow 10 zeros :=
        Nat.mul_lt_mul_of_pos_right (lt_tenPow_length n) (Nat.pow_pos (by decide))
    _ = Nat.pow 10 ((Nat.toDigits 10 n).length + zeros) := (Nat.pow_add 10 _ _).symm
    _ ≤ Nat.pow 10 18 := Nat.pow_le_pow_right (by decide) (by omega)
    _ < bound := tenPow_eighteen_lt

theorem length_fraction_le : fraction.length ≤ 28 := by
  have hcount := length_shortest_le hd hshortest
  have hfraction : fraction.length ≤ (Nat.toDigits 10 n).length + 5 := hplaced.fraction_le
  omega

/-- Digits that go on too far are the shortest ones, with no zero at the end. -/
theorem placed_mod_ten (hshort : e - fraction.length < -28) : n * Nat.pow 10 zeros % 10 ≠ 0 := by
  have hscale := hplaced.scale
  have hexponent := hplaced.exponent_eq
  have hzeros := hplaced.zeros_eq
  have hcount := length_shortest_le hd hshortest
  have hnone : zeros = 0 := by omega
  rw [hnone]
  show n * 1 % 10 ≠ 0
  rw [Nat.mul_one]
  exact Double.shortest_mod_ten hd hshortest

/-- Digits with too large a power stand for a value beyond the bound, as they have no zero at the beginning. -/
theorem bound_le_placed (hlarge : 28 < e) (hscaled : 0 < e - fraction.length) :
    bound ≤ n * Nat.pow 10 zeros * Nat.pow 10 (e - fraction.length).toNat := by
  obtain ⟨hn, -⟩ := Double.shortest_spec hd hshortest
  have hscale := hplaced.scale
  have hexponent := hplaced.exponent_eq
  have hzeros : zeros = 0 ∨ (zeros : Int) = _ ∧ _ ≤ (15 : Int) := hplaced.zeros_eq
  have hnone : zeros = 0 := by omega
  have hexp : 29 ≤ (Nat.toDigits 10 n).length - 1 + (e - fraction.length).toNat := by omega
  rw [hnone]
  calc bound ≤ Nat.pow 10 29 := bound_le_tenPow
    _ ≤ Nat.pow 10 ((Nat.toDigits 10 n).length - 1 + (e - fraction.length).toNat) :=
      Nat.pow_le_pow_right (by decide) hexp
    _ = Nat.pow 10 ((Nat.toDigits 10 n).length - 1) * Nat.pow 10 (e - fraction.length).toNat :=
      Nat.pow_add 10 _ _
    _ ≤ n * 1 * Nat.pow 10 (e - fraction.length).toNat := by
      rw [Nat.mul_one]
      exact Nat.mul_le_mul_right _ (tenPow_length_le hn)

end Shortest

/-- **A written double is read exactly.** It has no more digits than an amount can hold, and neither a zero at
the end of its shortest digits nor one at the beginning. -/
theorem readExactly_write (d : Double) : ∃ m, Numeral.read? (NumberLayout.document.write d).toList = some m ∧
    ReadExactly (NumberLayout.document.write d).toList m := by
  by_cases hd : d.mant = 0
  · exact readExactly_write_zero hd
  cases hshortest : d.shortest with
  | mk n k =>
    obtain ⟨whole, fraction, rest, e, zeros, hplaced, hwritten⟩ :=
      NumberLayout.document.exists_written hd hshortest
    have hvalue : digitsValue (whole ++ fraction) = n * Nat.pow 10 zeros := by
      rw [hplaced.value, digitsValue_toDigits]
    have hread := Numeral.read?_parts d.neg hplaced.toIsSpelled
    rw [← hwritten, hvalue] at hread
    refine ⟨⟨d.neg, n * Nat.pow 10 zeros, e - fraction.length⟩, hread, ?_⟩
    rw [hwritten]
    exact readExactly_parts (m := ⟨d.neg, _, _⟩) hplaced.toIsSpelled hvalue rfl
      (placed_lt_bound hd hshortest hplaced) (length_fraction_le hd hshortest hplaced)
      (placed_mod_ten hd hshortest hplaced) (bound_le_placed hd hshortest hplaced)

/-- Digits that outgrow the bound before the point make no magnitude. -/
theorem readMagnitude_large {ds : List Char} {magnitude : Nat} (hds : ∀ c ∈ ds, c.isDigit = true)
    (hlt : magnitude < bound) (hlarge : bound ≤ Nat.ofDigitChars 10 ds magnitude) (seen : Bool) (scale : Nat) :
    readMagnitude seen false magnitude scale ds = none := by
  induction ds generalizing seen magnitude with
  | nil => exact absurd hlarge (Nat.not_le_of_lt hlt)
  | cons c ds ih =>
    obtain ⟨hc, hds⟩ := List.forall_mem_cons.1 hds
    rw [ofDigitChars_cons_eq] at hlarge
    rw [readMagnitude, if_pos hc]
    by_cases hgrown : bound ≤ 10 * magnitude + (c.toNat - 48)
    · simp [hgrown]
    · simp [hgrown, ih hds (Nat.lt_of_not_le hgrown) hlarge]

theorem read?_large {i : Int} (hi : bound ≤ i.natAbs) : read? (toString i).toList = none := by
  have hdigits : ∀ c ∈ Nat.toDigits 10 i.natAbs, c.isDigit = true := isDigit_of_mem_toDigits
  have hsign := splitSign_parts (decide (i < 0)) hdigits Nat.toDigits_ne_nil []
  have hmagnitude : readMagnitude false false 0 0 (Nat.toDigits 10 i.natAbs) = none := by
    refine readMagnitude_large hdigits (Nat.two_pow_pos 96) ?_ _ _
    rw [← digitsValue_eq, digitsValue_toDigits]
    exact hi
  have hplain : readPlain? (toString i).toList = none := by
    rw [List.append_nil] at hsign
    simp only [readPlain?, toList_toString, hsign, hmagnitude]
    rfl
  have hunmarked : (toString i).toList.dropWhile (fun c => !(c == 'e' || c == 'E')) = [] := by
    rw [List.dropWhile_eq_nil_iff, toList_toString, ← List.append_nil (Nat.toDigits 10 i.natAbs)]
    exact (isSpelled_toDigits i.natAbs).forall_front _ rfl rfl fun _ => not_mark_of_isDigit
  rw [read?, hplain]
  show readScientific? _ = none
  simp only [readScientific?, hunmarked]

/-- **So is a written integer**, which is refused exactly beyond the bound. -/
theorem readExactly_toString (i : Int) :
    ReadExactly (toString i).toList ⟨decide (i < 0), i.natAbs, 0⟩ := by
  by_cases hi : i.natAbs < bound
  · have hvalue : digitsValue (Nat.toDigits 10 i.natAbs ++ []) = i.natAbs := by
      rw [List.append_nil, digitsValue_toDigits]
    have hshort : ¬(0 : Int) < -28 := by decide
    have hlarge : ¬(28 : Int) < 0 := by decide
    have hexact := readExactly_parts (m := ⟨decide (i < 0), i.natAbs, 0⟩) (isSpelled_toDigits i.natAbs) hvalue
      rfl hi (by decide) (fun h => absurd h hshort) (fun h => absurd h hlarge)
    rw [toList_toString]
    simpa using hexact
  · refine .inr ⟨read?_large (Nat.le_of_not_lt hi), not_standsFor_of_large (Int.le_refl 0) ?_⟩
    show bound ≤ i.natAbs * 1
    omega

end Decimal

namespace Json.Number

variable {n : Number} {m : Numeral}

/-- **The text of a number is read as an amount of exactly its value**, or there is no such amount. -/
theorem readExactly (hm : Numeral.read? n.text.toList = some m) : Decimal.ReadExactly n.text.toList m := by
  cases n with
  | int i =>
    have hread : Numeral.read? (Number.int i).text.toList = _ := Numeral.read?_toString i
    rw [hread] at hm
    cases hm
    exact Decimal.readExactly_toString i
  | double d =>
    obtain ⟨m', hread, hexact⟩ := Decimal.readExactly_write d
    obtain rfl : m' = m := Option.some.inj (hread.symm.trans hm)
    exact hexact

/-- A number is written in the parts of a numeral. -/
theorem exists_spelled (n : Number) : ∃ (neg : Bool) (whole fraction rest : List Char) (power : Int),
    Numeral.IsSpelled whole fraction rest power ∧ n.text.toList = (if neg then ['-'] else []) ++
      (whole ++ ((if fraction.isEmpty then [] else '.' :: fraction) ++ rest)) := by
  cases n with
  | int i =>
    refine ⟨decide (i < 0), _, [], [], 0, isSpelled_toDigits i.natAbs, ?_⟩
    show (toString i).toList = _
    rw [toList_toString]
    simp
  | double d =>
    by_cases hmant : d.mant = 0
    · refine ⟨d.neg, ['0'], ['0'], [], 0, isSpelled_zero, ?_⟩
      show (NumberLayout.document.write d).toList = _
      simp only [NumberLayout.write, if_pos hmant, String.toList_ofList]
      rfl
    · obtain ⟨whole, fraction, rest, e, zeros, hplaced, hwritten⟩ :=
        NumberLayout.document.exists_written hmant (Prod.eta d.shortest).symm
      exact ⟨d.neg, whole, fraction, rest, e, hplaced.toIsSpelled, hwritten⟩

theorem trimBlanks_text (n : Number) : trimBlanks n.text.toList = n.text.toList := by
  obtain ⟨neg, whole, fraction, rest, power, hspelled, htext⟩ := n.exists_spelled
  rw [htext]
  exact trimBlanks_of_forall hspelled.not_blank

theorem text_ne_empty (n : Number) : n.text ≠ "" := by
  intro h
  obtain ⟨m, hread, -⟩ := n.read?_text
  rw [h] at hread
  cases hread

end Json.Number

/-! ## Fields -/

namespace Field

variable {f : Field} {raw : Json}

theorem convert_number (hkind : f.kind = .number) (hpresent : f.isAbsent raw = false) : f.convert raw =
    (f.expect (.wrongType .number) raw.asNumber?).map fun d => some (.number (.finite d)) := by
  simp only [convert, hpresent, convertPresent, hkind]
  cases raw.asNumber? <;> rfl

theorem convert_currency (hkind : f.kind = .currency) (hpresent : f.isAbsent raw = false) : f.convert raw =
    (f.expect (.wrongType .amount) raw.asAmount?).map fun d => some (.currency d) := by
  simp only [convert, hpresent, convertPresent, hkind]
  cases raw.asAmount? <;> rfl

/-- What becomes of a number in a field of numbers: the double that is nearest to it, if there is one. -/
def TakesNumber (f : Field) (n : Json.Number) (result : Except FieldError (Option Value)) : Prop :=
  match n.toDouble? with
  | some d => result = .ok (some (.number (.finite d)))
  | none => result = .error (.of f (.wrongType .number))

/-- What becomes of a number in a field of amounts: the amount of just its value, if there is one. -/
def TakesAmount (f : Field) (m : Numeral) (result : Except FieldError (Option Value)) : Prop :=
  (∃ a : Decimal, result = .ok (some (.currency a)) ∧ a.StandsFor m) ∨
    (result = .error (.of f (.wrongType .amount)) ∧ ∀ a : Decimal, ¬a.StandsFor m)

/-- **A number and its text convert alike**, whatever the number. A field of numbers makes the nearest double
out of both; a field of amounts makes an amount of exactly the printed value, and refuses the number only if
no amount has it. -/
theorem number_and_text_alike (hkind : f.kind = .number ∨ f.kind = .currency) (n : Json.Number) :
    f.convert (.string n.text) = f.convert (.number n) ∧
    (f.kind = .number → f.TakesNumber n (f.convert (.string n.text))) ∧
    (f.kind = .currency → ∃ m, Numeral.read? n.text.toList = some m ∧ m.toDouble? = n.toDouble? ∧
      f.TakesAmount m (f.convert (.string n.text))) := by
  have htext : f.isAbsent (.string n.text) = false := isAbsent_string n.text_ne_empty
  have hnumber : f.isAbsent (.number n) = false := rfl
  obtain ⟨m, hread, hdouble, -⟩ := n.read?_text
  have hasNumber : (Json.string n.text).asNumber? = n.toDouble? := by
    rw [Json.asNumber?, n.trimBlanks_text, Double.read?, hread, ← hdouble]
    rfl
  have hasAmount : (Json.string n.text).asAmount? = Decimal.read? n.text.toList := by
    rw [Json.asAmount?, n.trimBlanks_text]
  refine ⟨?_, ?_, ?_⟩
  · rcases hkind with hkind | hkind
    · rw [convert_number hkind htext, convert_number hkind hnumber, hasNumber]
      rfl
    · rw [convert_currency hkind htext, convert_currency hkind hnumber, hasAmount]
      rfl
  · intro hkind
    rw [convert_number hkind htext, hasNumber, TakesNumber]
    cases n.toDouble? <;> rfl
  · intro hkind
    refine ⟨m, hread, hdouble, ?_⟩
    rw [convert_currency hkind htext, hasAmount]
    obtain ⟨a, hamount, hvalue⟩ | ⟨hnone, hvalue⟩ := Json.Number.readExactly hread
    · rw [hamount]
      exact .inl ⟨a, rfl, hvalue⟩
    · rw [hnone]
      exact .inr ⟨rfl, hvalue⟩

namespace NumberSample

/-- The double nearest to `1.5e-10`. -/
def small : Json.Number := .double ⟨false, 5802843934150220, 989, by decide, by decide, .inr (by decide)⟩

/-- The double nearest to `1e30`, which is beyond all amounts. -/
def large : Json.Number := .double ⟨false, 7105427357601002, 1121, by decide, by decide, .inr (by decide)⟩

def price : Field := plain "price" .currency

def weight : Field := plain "weight" .number

end NumberSample

open NumberSample in
/-- A small number is the price that its text says, a large one no price at all, but a number still. -/
theorem small_and_large_alike :
    price.convert (.string "1.5e-10") = price.convert (.number small) ∧
    price.convert (.number small) = .ok (some (.currency ⟨15, 11, by decide, by decide⟩)) ∧
    price.convert (.string "1e+30") = price.convert (.number large) ∧
    price.convert (.number large) = .error (.of price (.wrongType .amount)) ∧
    weight.convert (.string "1e+30") = weight.convert (.number large) := by
  have hsmall : small.text = "1.5e-10" := by decide +kernel
  have hlarge : large.text = "1e+30" := by decide +kernel
  have hprice := number_and_text_alike (f := price) (.inr rfl)
  have hweight := number_and_text_alike (f := weight) (.inl rfl)
  rw [← hsmall, ← hlarge]
  refine ⟨(hprice small).1, ?_, (hprice large).1, ?_, (hweight large).1⟩
  · rw [← (hprice small).1, hsmall]
    rfl
  · rw [← (hprice large).1, hlarge]
    rfl

end Field

end Dossier
