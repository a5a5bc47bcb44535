import Dossier.Uuid

/-!
# Written identifiers

Reading undoes writing (`read?_text`), so two identifiers with the same text are the same
(`text_injective`). The digits are written most significant first, and each digit that is read back
is the one that was written.
-/

namespace Dossier

/-! ## Digits -/

theorem digitValue?_digitChar : ∀ d < 16, digitValue? (Nat.digitChar d) = some d := by decide

theorem numberIn?_append (base : Nat) (cs : List Char) (c : Char) :
    numberIn? base (cs ++ [c]) = (numberIn? base cs).bind fun n =>
      (digitValue? c).bind fun d => if d < base then some (base * n + d) else none := by
  simp [numberIn?, List.foldlM_append]

namespace Uuid

theorem length_hexDigits (places n : Nat) : (hexDigits places n).length = places := by
  induction places generalizing n with
  | zero => rfl
  | succ places ih => simp [hexDigits, ih]

/-- The digits of a number are read back as the number, as far as the places go. -/
theorem numberIn?_hexDigits (places n : Nat) :
    numberIn? 16 (hexDigits places n) = some (n % Nat.pow 16 places) := by
  induction places generalizing n with
  | zero => simp [hexDigits, numberIn?, Nat.mod_one]
  | succ places ih =>
    have hd : n % 16 < 16 := Nat.mod_lt _ (by decide)
    rw [hexDigits, numberIn?_append, ih, digitValue?_digitChar _ hd]
    simp only [Option.bind_some, hd, if_true]
    have hpow : Nat.pow 16 (places + 1) = 16 * Nat.pow 16 places := Nat.pow_succ'
    rw [hpow, Nat.mod_mul, Nat.add_comm]

theorem readSimple?_hexDigits (u : Uuid) : readSimple? (hexDigits 32 u.value) = some u := by
  have hlt : u.value < Nat.pow 16 32 := u.value_lt
  rw [readSimple?, if_pos (length_hexDigits ..), numberIn?_hexDigits, Nat.mod_eq_of_lt hlt]
  simp [mk?, u.value_lt]

/-! ## The hyphenated form -/

/-- Five groups of digits, put together and taken apart again. -/
theorem readHyphenated?_groups {a b c d e : List Char} (ha : a.length = 8) (hb : b.length = 4)
    (hc : c.length = 4) (hd : d.length = 4) (he : e.length = 12) :
    readHyphenated? (a ++ '-' :: b ++ '-' :: c ++ '-' :: d ++ '-' :: e) =
      readSimple? (a ++ b ++ c ++ d ++ e) := by
  simp (disch := omega) [readHyphenated?, List.drop_append, List.drop_of_length_le,
    ha, hb, hc, hd, he]

theorem take_drop_append_drop (l : List Char) (i n : Nat) :
    (l.drop i).take n ++ l.drop (i + n) = l.drop i := by
  rw [← List.drop_drop, List.take_append_drop]

theorem chars_groups (u : Uuid) : ∃ a b c d e : List Char,
    a.length = 8 ∧ b.length = 4 ∧ c.length = 4 ∧ d.length = 4 ∧ e.length = 12 ∧
    hexDigits 32 u.value = a ++ b ++ c ++ d ++ e ∧
    u.chars = a ++ '-' :: b ++ '-' :: c ++ '-' :: d ++ '-' :: e := by
  have hlen := length_hexDigits 32 u.value
  generalize hh : hexDigits 32 u.value = hex at hlen
  refine ⟨hex.take 8, (hex.drop 8).take 4, (hex.drop 12).take 4, (hex.drop 16).take 4, hex.drop 20,
    by simp [hlen], by simp [hlen], by simp [hlen], by simp [hlen], by simp [hlen], ?_,
    by simp [chars, hh]⟩
  have h₁ := take_drop_append_drop hex 8 4
  have h₂ := take_drop_append_drop hex 12 4
  have h₃ := take_drop_append_drop hex 16 4
  simp only [List.append_assoc, h₃, h₂, h₁, List.take_append_drop]

theorem length_chars (u : Uuid) : u.chars.length = 36 := by
  obtain ⟨a, b, c, d, e, ha, hb, hc, hd, he, -, h⟩ := u.chars_groups
  simp [h, ha, hb, hc, hd, he]

theorem readHyphenated?_chars (u : Uuid) : readHyphenated? u.chars = some u := by
  obtain ⟨a, b, c, d, e, ha, hb, hc, hd, he, hhex, h⟩ := u.chars_groups
  rw [h, readHyphenated?_groups ha hb hc hd he, ← hhex, readSimple?_hexDigits]

/-- **Reading undoes writing.** -/
theorem read?_text (u : Uuid) : read? u.text = some u := by
  simp [read?, text, length_chars, readHyphenated?_chars]

theorem text_ne_empty (u : Uuid) : u.text ≠ "" := by
  intro h
  have hlist := congrArg String.toList h
  rw [text, String.toList_ofList] at hlist
  have hlength := u.length_chars
  rw [hlist] at hlength
  cases hlength

theorem text_injective {u v : Uuid} (h : u.text = v.text) : u = v := by
  have hr := u.read?_text
  rw [h, read?_text] at hr
  exact (Option.some.inj hr).symm

@[simp] theorem text_inj {u v : Uuid} : u.text = v.text ↔ u = v :=
  ⟨text_injective, fun h => h ▸ rfl⟩

end Uuid

end Dossier
