import Dossier.Proofs.Uuid
import Mathlib.Data.String.Basic

/-!
# The order of texts

Texts compare by their characters. A database that compares them by their bytes in UTF-8 has the same
order (`compare_utf8`): of two characters the greater has the greater encoding, whatever comes behind.

Identifiers compare by their values, and so do their texts (`Uuid.compare_text`): digits in equally many
places are in the order of the numbers, and the hyphens stand at the same places.
-/

namespace Dossier

/-! ## Bytes -/

def utf8 (s : String) : List UInt8 := s.toList.flatMap String.utf8EncodeChar

section Bytes

variable (as bs : List UInt8)

theorem compare_append_left (bytes : List UInt8) :
    compare (bytes ++ as) (bytes ++ bs) = compare as bs := by
  induction bytes with
  | nil => rfl
  | cons b bytes ih =>
    have hself : compare b b = .eq := Std.ReflCmp.compare_self
    rw [List.cons_append, List.cons_append, List.compare_cons_cons, hself, ih]
    rfl

theorem compare_cons_of_lt {m n : Nat} (hm : m < n) (hn : n < 256) :
    compare (UInt8.ofNat m :: as) (UInt8.ofNat n :: bs) = .lt := by
  have hlt : UInt8.ofNat m < UInt8.ofNat n := by
    rw [UInt8.lt_iff_toNat_lt]
    simp
    omega
  rw [List.compare_cons_cons, Std.compare_eq_lt.2 hlt]
  rfl

variable {as bs}

theorem compare_cons_of_le {m n base : Nat} (hm : m ≤ n) (hn : n + base < 256)
    (hrest : m = n → compare as bs = .lt) :
    compare (UInt8.ofNat (m + base) :: as) (UInt8.ofNat (n + base) :: bs) = .lt := by
  rcases Nat.lt_or_eq_of_le hm with hlt | rfl
  · exact compare_cons_of_lt as bs (by omega) hn
  · exact (compare_append_left as bs [_]).trans (hrest rfl)

/-- **The greater of two characters has the greater bytes.** -/
theorem compare_utf8EncodeChar {c d : Char} (h : c < d) (as bs : List UInt8) :
    compare (String.utf8EncodeChar c ++ as) (String.utf8EncodeChar d ++ bs) = .lt := by
  have hval : c.val.toNat < d.val.toNat := h
  have hmax : d.val.toNat < 0x110000 := by
    rcases d.valid with h | h <;> omega
  unfold String.utf8EncodeChar
  generalize c.val.toNat = m at *
  generalize d.val.toNat = n at *
  simp only
  -- An encoding in more bytes has the greater first byte; of two in equally many the first byte to differ
  -- decides.
  split_ifs
  case pos => exact compare_cons_of_lt as bs hval (by omega)
  all_goals simp only [List.cons_append, List.nil_append]
  all_goals first | exact compare_cons_of_lt _ _ (by omega) (by omega) | skip
  · refine compare_cons_of_le (by omega) (by omega) fun _ => ?_
    exact compare_cons_of_lt _ _ (by omega) (by omega)
  · refine compare_cons_of_le (by omega) (by omega) fun _ => ?_
    refine compare_cons_of_le (by omega) (by omega) fun _ => ?_
    exact compare_cons_of_lt _ _ (by omega) (by omega)
  · refine compare_cons_of_le (by omega) (by omega) fun _ => ?_
    refine compare_cons_of_le (by omega) (by omega) fun _ => ?_
    refine compare_cons_of_le (by omega) (by omega) fun _ => ?_
    exact compare_cons_of_lt _ _ (by omega) (by omega)

end Bytes

theorem utf8EncodeChar_eq_cons (c : Char) : ∃ b bs, String.utf8EncodeChar c = b :: bs := by
  cases hc : String.utf8EncodeChar c with
  | nil =>
    have hlength := String.length_utf8EncodeChar c
    have hpos := Char.utf8Size_pos c
    rw [hc, List.length_nil] at hlength
    omega
  | cons b bs => exact ⟨b, bs, rfl⟩

theorem compare_flatMap {cs ds : List Char} (h : cs < ds) :
    compare (cs.flatMap String.utf8EncodeChar) (ds.flatMap String.utf8EncodeChar) = .lt := by
  induction cs generalizing ds with
  | nil =>
    cases ds with
    | nil => cases h
    | cons d ds =>
      obtain ⟨b, bs, hd⟩ := utf8EncodeChar_eq_cons d
      rw [List.flatMap_cons, hd]
      rfl
  | cons c cs ih =>
    cases ds with
    | nil => cases h
    | cons d ds =>
      rw [List.flatMap_cons, List.flatMap_cons]
      rcases List.cons_lt_cons_iff.1 h with hlt | ⟨rfl, hlt⟩
      · exact compare_utf8EncodeChar hlt _ _
      · rw [compare_append_left]
        exact ih hlt

/-- **The order of texts is that of their bytes.** -/
theorem compare_utf8 (s t : String) : compare (utf8 s) (utf8 t) = compare s t := by
  have hlt {s t : String} (h : s < t) : compare (utf8 s) (utf8 t) = .lt :=
    compare_flatMap (String.lt_iff_toList_lt.1 h)
  rcases lt_trichotomy s t with h | rfl | h
  · rw [hlt h, compare_lt_iff_lt.2 h]
  · rw [compare_eq_iff_eq.2 rfl]
    exact Std.ReflCmp.compare_self
  · rw [compare_gt_iff_gt.2 h]
    exact Std.OrientedCmp.gt_of_lt (hlt h)

/-! ## Identifiers -/

theorem append_lt_append_iff {a b c d : List Char} (h : a.length = b.length) :
    a ++ c < b ++ d ↔ a < b ∨ a = b ∧ c < d := by
  induction a generalizing b with
  | nil =>
    obtain rfl := List.eq_nil_of_length_eq_zero h.symm
    simp
  | cons x a ih =>
    cases b with
    | nil => cases h
    | cons y b =>
      have hlen : a.length = b.length := by simpa using h
      simp only [List.cons_append, List.cons_lt_cons_iff, ih hlen, List.cons.injEq]
      constructor
      · rintro (hxy | ⟨rfl, hab | ⟨rfl, hcd⟩⟩)
        · exact .inl (.inl hxy)
        · exact .inl (.inr ⟨rfl, hab⟩)
        · exact .inr ⟨⟨rfl, rfl⟩, hcd⟩
      · rintro ((hxy | ⟨rfl, hab⟩) | ⟨⟨rfl, rfl⟩, hcd⟩)
        · exact .inl hxy
        · exact .inr ⟨rfl, .inl hab⟩
        · exact .inr ⟨rfl, .inr ⟨rfl, hcd⟩⟩

/-- Characters put in at the same places do not change the order. -/
theorem append_cons_lt_iff {a b c d : List Char} (h : a.length = b.length) (x : Char) :
    a ++ x :: c < b ++ x :: d ↔ a ++ c < b ++ d := by
  rw [append_lt_append_iff h, append_lt_append_iff h, List.cons_lt_cons_iff]
  simp

namespace Uuid

theorem digitChar_lt_iff : ∀ m < 16, ∀ n < 16, Nat.digitChar m < Nat.digitChar n ↔ m < n := by decide

/-- The digits in some places are those of a number as far as the places go. -/
theorem hexDigits_eq_iff (places m n : Nat) :
    hexDigits places m = hexDigits places n ↔ m % Nat.pow 16 places = n % Nat.pow 16 places := by
  constructor
  · intro h
    have hm := numberIn?_hexDigits places m
    rw [h, numberIn?_hexDigits] at hm
    exact (Option.some.inj hm).symm
  · intro h
    induction places generalizing m n with
    | zero => rfl
    | succ places ih =>
      have hpow : Nat.pow 16 (places + 1) = 16 * Nat.pow 16 places := Nat.pow_succ'
      rw [hpow, Nat.mod_mul, Nat.mod_mul] at h
      have hdigit : m % 16 = n % 16 := by omega
      rw [hexDigits, hexDigits, hdigit, ih (m / 16) (n / 16) (by omega)]

/-- Digits of equally many places are in the order of the numbers. -/
theorem hexDigits_lt_iff (places m n : Nat) :
    hexDigits places m < hexDigits places n ↔ m % Nat.pow 16 places < n % Nat.pow 16 places := by
  induction places generalizing m n with
  | zero => simp [hexDigits, Nat.mod_one]
  | succ places ih =>
    have hpow : Nat.pow 16 (places + 1) = 16 * Nat.pow 16 places := Nat.pow_succ'
    have hlength : (hexDigits places (m / 16)).length = (hexDigits places (n / 16)).length := by
      rw [length_hexDigits, length_hexDigits]
    have hlast : [Nat.digitChar (m % 16)] < [Nat.digitChar (n % 16)] ↔ m % 16 < n % 16 := by
      rw [← digitChar_lt_iff _ (Nat.mod_lt _ (by decide)) _ (Nat.mod_lt _ (by decide)),
        List.cons_lt_cons_iff]
      simp
    rw [hexDigits, hexDigits, append_lt_append_iff hlength, ih, hexDigits_eq_iff, hlast, hpow,
      Nat.mod_mul, Nat.mod_mul]
    omega

theorem chars_lt_iff (u v : Uuid) : u.chars < v.chars ↔ u.value < v.value := by
  obtain ⟨a, b, c, d, e, ha, hb, hc, hd, -, hhex, hchars⟩ := u.chars_groups
  obtain ⟨a', b', c', d', e', ha', hb', hc', hd', -, hhex', hchars'⟩ := v.chars_groups
  have hlt (w : Uuid) : w.value % Nat.pow 16 32 = w.value := Nat.mod_eq_of_lt w.value_lt
  have horder := hexDigits_lt_iff 32 u.value v.value
  rw [hlt, hlt, hhex, hhex'] at horder
  rw [← horder, hchars, hchars']
  simp only [List.append_assoc, List.cons_append]
  rw [append_cons_lt_iff (by omega), ← List.append_assoc, ← List.append_assoc,
    append_cons_lt_iff (by simp only [List.length_append]; omega), ← List.append_assoc,
    ← List.append_assoc, append_cons_lt_iff (by simp only [List.length_append]; omega),
    ← List.append_assoc, ← List.append_assoc,
    append_cons_lt_iff (by simp only [List.length_append]; omega)]
  simp only [List.append_assoc]

/-- **Identifiers are in the order of their texts.** -/
theorem compare_text (u v : Uuid) : compare u.text v.text = compare u v := by
  have hlt (u v : Uuid) : u.text < v.text ↔ u.value < v.value := by
    rw [String.lt_iff_toList_lt, text, text, String.toList_ofList, String.toList_ofList, chars_lt_iff]
  rw [compare_eq]
  rcases Nat.lt_trichotomy u.value v.value with h | h | h
  · rw [compare_lt_iff_lt.2 h, compare_lt_iff_lt.2 ((hlt u v).2 h)]
  · obtain rfl : u = v := by cases u; cases v; cases h; rfl
    rw [compare_eq_iff_eq.2 rfl, compare_eq_iff_eq.2 rfl]
  · rw [compare_gt_iff_gt.2 h, compare_gt_iff_gt.2 ((hlt v u).2 h)]

end Uuid

end Dossier
