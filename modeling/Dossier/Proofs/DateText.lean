import Dossier.Proofs.Digits
import Mathlib.Data.List.TakeWhile

/-!
# Written dates

Which written dates are read back: those of the years `0000` to `9999`, and no others
(`read?_text`).

**Years of four digits.** A full timestamp is read part by part, each a number of exactly as many
digits as were written (`number?_padded`), and the parts make up the instant again: a fraction of
three, six or nine places, and the sixtieth second of a leap second.

**Other years** are written with a sign, which the full timestamp does not have. The two looser
forms do allow it, but they know no offset: whatever they take from the front of a text, the letter
`Z` at its end stays (`mem_of_looseDate?`, `mem_of_looseClock?`), so they never reach the end.
-/

namespace Dossier

namespace ReadTime

/-! ## Numbers and separators -/

/-- A reading that has taken its first step goes on with what is left. -/
theorem bind_step {α β : Type} {reading : Option α} {next : α → Option β} {a : α}
    {result : Option β} (hfirst : reading = some a) (hnext : next a = result) : (reading >>= next) = result := by
  rw [hfirst]
  exact hnext

/-- Exactly the digits that were written are read. -/
theorem number?_padded {width n : Nat} (hwidth : 0 < width) (hn : n < Nat.pow 10 width)
    (rest : List Char) : number? width width (padded width n ++ rest) = some (n, rest) := by
  have hlen := length_padded hwidth hn
  have htake : (padded width n ++ rest).take width = padded width n := List.take_left' hlen
  have hdigits : (padded width n).takeWhile Char.isDigit = padded width n :=
    List.takeWhile_eq_self_iff.2 fun _ hc => isDigit_of_mem_padded hc
  rw [number?, htake, hdigits]
  simp [hlen, digitsValue_padded]

theorem number?_two {n : Nat} (hn : n < 100) (rest : List Char) :
    number? 2 2 (padded 2 n ++ rest) = some (n, rest) := number?_padded (by decide) hn rest

/-- A number that is read is some digits at the front. -/
theorem number?_some {least most n : Nat} {cs rest : List Char} (h : number? least most cs = some (n, rest)) :
    ∃ ds, (∀ c ∈ ds, c.isDigit = true) ∧ least ≤ ds.length ∧ cs = ds ++ rest := by
  have hprefix : (cs.take most).takeWhile Char.isDigit <+: cs :=
    (List.takeWhile_prefix _).trans (List.take_prefix _ _)
  have hdigits : ∀ c ∈ (cs.take most).takeWhile Char.isDigit, c.isDigit = true :=
    fun c hc => List.mem_takeWhile_imp hc
  simp only [number?] at h
  generalize (cs.take most).takeWhile Char.isDigit = ds at h hprefix hdigits
  obtain ⟨tail, rfl⟩ := hprefix
  rw [List.drop_left] at h
  split at h
  · cases h
  · rename_i hlength
    cases h
    exact ⟨ds, hdigits, Nat.le_of_not_lt hlength, rfl⟩

theorem char?_some {c : Char} {cs rest : List Char} (h : char? c cs = some rest) : cs = c :: rest := by
  cases cs with
  | nil => cases h
  | cons d cs =>
    rw [char?] at h
    split at h
    · rename_i hd
      cases h
      rw [hd]
    · cases h

theorem char?_cons (c : Char) (cs : List Char) : char? c (c :: cs) = some cs := if_pos rfl

/-- Digits after a point, before something that is no digit. -/
theorem fraction?_padded {width n : Nat} (hwidth : 0 < width) (hwidth9 : width ≤ 9)
    (hn : n < Nat.pow 10 width) (c : Char) (rest : List Char) (hc : c.isDigit = false) :
    fraction? ('.' :: padded width n ++ c :: rest) =
      some (n * Nat.pow 10 (9 - width), c :: rest) := by
  have hlen := length_padded hwidth hn
  have hdigits :
      ((padded width n ++ c :: rest).take 9).takeWhile Char.isDigit = padded width n := by
    rw [List.take_append, List.take_of_length_le (by omega)]
    refine takeWhile_isDigit_append (fun c hc => isDigit_of_mem_padded hc) fun d hd => ?_
    have hmem : some d = some c := by
      rw [List.head?_take] at hd
      split at hd
      · cases hd
      · exact hd.symm
    cases hmem
    exact hc
  have hnumber : number? 1 9 (padded width n ++ c :: rest) = some (n, c :: rest) := by
    rw [number?, hdigits]
    simp [hlen, digitsValue_padded, Nat.not_lt.2 hwidth]
  have hcount : (padded width n ++ c :: rest).length - (c :: rest).length = width := by
    rw [List.length_append, hlen]
    omega
  simp only [List.cons_append, fraction?, hnumber, Option.map_some, hcount, List.dropWhile_cons, hc]
  rfl

end ReadTime

theorem Date.mk?_self (d : Date) : Date.mk? d.year d.month d.day = some d :=
  dif_pos ⟨d.month_pos, d.month_le, d.day_pos, d.day_le⟩

open ReadTime

namespace Instant

theorem fraction?_fractionText {nano : Nat} (hnano : nano < 1000000000) :
    fraction? (fractionText nano ++ ['Z']) = some (nano, ['Z']) := by
  unfold fractionText
  split
  · rename_i hzero
    rw [hzero]
    rfl
  · split
    · rename_i hmillis
      have hlt : nano / 1000000 < 1000 := by omega
      rw [fraction?_padded (by decide) (by decide) hlt 'Z' [] (by decide)]
      congr 2
      change nano / 1000000 * 1000000 = nano
      omega
    · split
      · rename_i hmicros
        have hlt : nano / 1000 < 1000000 := by omega
        rw [fraction?_padded (by decide) (by decide) hlt 'Z' [] (by decide)]
        congr 2
        change nano / 1000 * 1000 = nano
        omega
      · rw [fraction?_padded (by decide) (by decide) hnano 'Z' [] (by decide)]
        congr 2
        exact Nat.mul_one nano

/-! ## The parts make up the instant -/

theorem mk?_self (t : Instant) : mk? t.date t.second t.nano = some t :=
  dif_pos ⟨t.second_lt, t.nano_ok⟩

/-- The second that is written: the sixtieth for a leap second. -/
def writtenSecond (t : Instant) : Nat := t.second % 60 + (if nanosPerSecond ≤ t.nano then 1 else 0)

theorem writtenSecond_le (t : Instant) : t.writtenSecond ≤ 60 := by
  unfold writtenSecond
  split <;> omega

/-- **The clock reading of an instant is the instant.** -/
theorem clock?_parts (t : Instant) :
    clock? t.date (t.second / 3600) (t.second / 60 % 60) t.writtenSecond (t.nano % nanosPerSecond) =
      some t := by
  have hsecond := t.second_lt
  have hnano := t.nano_ok
  have hself := t.mk?_self
  unfold clock? writtenSecond nanosPerSecond
  rw [if_pos (by split <;> omega)]
  by_cases hleap : 1000000000 ≤ t.nano
  · -- a leap second follows the last second of a minute
    rw [if_pos hleap, if_pos (by omega)]
    have hs : 3600 * (t.second / 3600) + 60 * (t.second / 60 % 60) + 59 = t.second := by omega
    have hn : 1000000000 + t.nano % 1000000000 = t.nano := by omega
    rw [hs, hn, hself]
  · rw [if_neg hleap, if_neg (by omega)]
    have hs : 3600 * (t.second / 3600) + 60 * (t.second / 60 % 60) + (t.second % 60 + 0) =
        t.second := by omega
    have hn : t.nano % 1000000000 = t.nano := by omega
    rw [hs, hn, hself]

theorem ofLocal_zero (t : Instant) : t.ofLocal 0 = some t := by
  have hsecond := t.second_lt
  unfold ofLocal
  simp only [Int.mul_zero, Int.sub_zero, secondsPerDay]
  rw [if_neg (by omega), if_pos (by omega), Int.toNat_natCast, mk?_self]

/-! ## Years of four digits -/

/-- Whether the year is one of those written as four digits. -/
def InFourDigitYear (t : Instant) : Prop := 0 ≤ t.date.year ∧ t.date.year ≤ 9999

instance (t : Instant) : Decidable t.InFourDigitYear := inferInstanceAs (Decidable (_ ∧ _))

/-- The parts of the written form, one after the other. -/
theorem chars_eq {t : Instant} (h : t.InFourDigitYear) :
    t.chars = padded 4 t.date.year.toNat ++ '-' :: (padded 2 t.date.month ++ '-' ::
      (padded 2 t.date.day ++ 'T' :: (padded 2 (t.second / 3600) ++ ':' ::
      (padded 2 (t.second / 60 % 60) ++ ':' :: (padded 2 t.writtenSecond ++
      (fractionText (t.nano % nanosPerSecond) ++ ['Z'])))))) := by
  have hyearText : Date.yearText t.date.year = padded 4 t.date.year.toNat := if_pos h
  simp only [chars, Date.chars, hyearText, writtenSecond, List.append_assoc, List.cons_append]

theorem fraction?_chars (t : Instant) :
    fraction? (fractionText (t.nano % nanosPerSecond) ++ ['Z']) =
      some (t.nano % nanosPerSecond, ['Z']) :=
  fraction?_fractionText (Nat.mod_lt _ (by decide))

theorem offset?_utc (separator : List Char → Option (List Char)) :
    offset? separator ['Z'] = some (0, []) := rfl

theorem readStamp?_chars {t : Instant} (h : t.InFourDigitYear) : readStamp? t.chars = some t := by
  have hmonth := t.date.month_le
  have hday : t.date.day < 100 := by
    have := t.date.day_le
    unfold daysInMonth at this
    split at this
    · split at this <;> omega
    · split at this <;> omega
  have hsecond := t.second_lt
  have hwritten := t.writtenSecond_le
  have hyear : ((t.date.year.toNat : Nat) : Int) = t.date.year := Int.toNat_of_nonneg h.1
  have hyear_lt : t.date.year.toNat < 10000 := by
    have := h.2
    omega
  rw [readStamp?, chars_eq h]
  -- the date
  refine bind_step (number?_padded (by decide) hyear_lt _) ?_
  refine bind_step (char?_cons ..) ?_
  refine bind_step (number?_two (by omega) _) ?_
  refine bind_step (char?_cons ..) ?_
  refine bind_step (number?_two (by omega) _) ?_
  -- the letter between, then the clock reading
  refine bind_step rfl ?_
  refine bind_step (number?_two (by omega) _) ?_
  refine bind_step (char?_cons ..) ?_
  refine bind_step (number?_two (by omega) _) ?_
  refine bind_step (char?_cons ..) ?_
  refine bind_step (number?_two (by omega) _) ?_
  refine bind_step t.fraction?_chars ?_
  -- the offset, after which nothing is left
  refine bind_step (offset?_utc _) ?_
  refine bind_step (hyear ▸ t.date.mk?_self) ?_
  exact bind_step t.clock?_parts t.ofLocal_zero

/-- A full timestamp begins with a digit. -/
theorem readStamp?_eq_none {c : Char} (hc : c.isDigit = false) (cs : List Char) :
    readStamp? (c :: cs) = none := by
  have hnumber : number? 4 4 (c :: cs) = none := by simp [number?, hc]
  rw [readStamp?, hnumber]
  rfl

/-! ## Forms without an offset -/

end Instant

namespace ReadTime

section LetterStays

variable {cs rest : List Char}

theorem mem_of_number? {least most n : Nat} (h : number? least most cs = some (n, rest))
    (hmem : 'Z' ∈ cs) : 'Z' ∈ rest := by
  obtain ⟨ds, hds, -, rfl⟩ := number?_some h
  rcases List.mem_append.1 hmem with hdigit | hrest
  · exact absurd (hds _ hdigit) (by decide)
  · exact hrest

theorem mem_of_dropWhile {p : Char → Bool} (hp : p 'Z' = false) (hmem : 'Z' ∈ cs) :
    'Z' ∈ cs.dropWhile p := by
  rw [← List.takeWhile_append_dropWhile (p := p) (l := cs), List.mem_append] at hmem
  refine hmem.resolve_left fun hfront => ?_
  rw [List.mem_takeWhile_imp hfront] at hp
  cases hp

theorem mem_of_char? {c : Char} (h : char? c cs = some rest) (hc : c ≠ 'Z') (hmem : 'Z' ∈ cs) :
    'Z' ∈ rest := by
  obtain rfl := char?_some h
  exact (List.mem_cons.1 hmem).resolve_left hc.symm

theorem mem_of_looseNumber? {n : Nat} (h : looseNumber? cs = some (n, rest)) (hmem : 'Z' ∈ cs) :
    'Z' ∈ rest :=
  mem_of_number? h (mem_of_dropWhile (by decide) hmem)

theorem mem_of_looseYear? {year : Int} (h : looseYear? cs = some (year, rest)) (hmem : 'Z' ∈ cs) :
    'Z' ∈ rest := by
  have hblank : 'Z' ∈ dropBlanks cs := mem_of_dropWhile (by decide) hmem
  unfold looseYear? at h
  split at h <;> rename_i hcs <;>
    obtain ⟨⟨n, rest'⟩, hnumber, heq⟩ := Option.map_eq_some_iff.1 h <;> cases heq <;>
    refine mem_of_number? hnumber ?_
  · rw [hcs] at hblank
    exact (List.mem_cons.1 hblank).resolve_left (by decide)
  · rw [hcs] at hblank
    exact (List.mem_cons.1 hblank).resolve_left (by decide)
  · exact hblank

/-- The letter stays when a date is read. -/
theorem mem_of_looseDate? {date : Date} (h : looseDate? cs = some (date, rest)) (hmem : 'Z' ∈ cs) :
    'Z' ∈ rest := by
  simp only [looseDate?, Option.bind_eq_bind, Option.bind_eq_some_iff, Prod.exists] at h
  obtain ⟨year, cs₁, hyear, cs₂, hminus, month, cs₃, hmonth, cs₄, hminus', day, cs₅, hday, h⟩ := h
  split at h
  · obtain ⟨d, -, heq⟩ := Option.bind_eq_some_iff.1 h
    cases heq
    exact mem_of_looseNumber? hday <| mem_of_char? hminus' (by decide) <|
      mem_of_looseNumber? hmonth <| mem_of_char? hminus (by decide) <| mem_of_looseYear? hyear hmem
  · cases h

theorem mem_of_fraction? {nano : Nat} (h : fraction? cs = some (nano, rest)) (hmem : 'Z' ∈ cs) :
    'Z' ∈ rest := by
  unfold fraction? at h
  split at h
  · obtain ⟨⟨n, rest'⟩, hnumber, heq⟩ := Option.map_eq_some_iff.1 h
    cases heq
    have hdigits := (List.mem_cons.1 hmem).resolve_left (by decide)
    exact mem_of_dropWhile (by decide) (mem_of_number? hnumber hdigits)
  · cases h
    exact hmem

/-- The letter stays when a clock reading is read. -/
theorem mem_of_looseClock? {date : Date} {t : Instant} (h : looseClock? date cs = some (t, rest))
    (hmem : 'Z' ∈ cs) : 'Z' ∈ rest := by
  simp only [looseClock?, Option.bind_eq_bind, Option.bind_eq_some_iff, Prod.exists] at h
  obtain ⟨hour, cs₁, hhour, cs₂, hcolon, minute, cs₃, hminute, cs₄, hcolon', second, cs₅, hsecond,
    nano, cs₆, hfraction, _, -, heq⟩ := h
  cases heq
  exact mem_of_fraction? hfraction <| mem_of_looseNumber? hsecond <|
    mem_of_char? hcolon' (by decide) <| mem_of_looseNumber? hminute <|
    mem_of_char? hcolon (by decide) <| mem_of_looseNumber? hhour hmem

end LetterStays

end ReadTime

namespace Instant

variable {cs : List Char}

/-- A text with the letter `Z` is no clock reading. -/
theorem readClock?_eq_none (hmem : 'Z' ∈ cs) : readClock? cs = none := by
  rw [Option.eq_none_iff_forall_ne_some]
  intro t h
  simp only [readClock?, Option.bind_eq_bind, Option.bind_eq_some_iff, Prod.exists] at h
  obtain ⟨date, cs₁, hdate, cs₂, hletter, u, cs₃, hclock, h⟩ := h
  have hstays : 'Z' ∈ cs₃ := mem_of_looseClock? hclock <| mem_of_char? hletter (by decide) <|
    mem_of_looseDate? hdate hmem
  cases cs₃ with
  | nil => cases hstays
  | cons c cs₃ => cases h

/-- A text with the letter `Z` is no plain date. -/
theorem readDate?_eq_none (hmem : 'Z' ∈ cs) : readDate? cs = none := by
  rw [Option.eq_none_iff_forall_ne_some]
  intro t h
  simp only [readDate?, Option.bind_eq_bind, Option.bind_eq_some_iff, Prod.exists] at h
  obtain ⟨date, cs₁, hdate, h⟩ := h
  have hstays : 'Z' ∈ cs₁ := mem_of_looseDate? hdate hmem
  cases cs₁ with
  | nil => cases hstays
  | cons c cs₁ => cases h

/-! ## Written dates -/

/-- A written instant begins with a digit, or with a sign when its year has no four digits. -/
theorem chars_eq_cons (t : Instant) : ∃ c cs, t.chars = c :: cs ∧ isBlank c = false ∧
    (¬t.InFourDigitYear → c.isDigit = false) := by
  by_cases h : t.InFourDigitYear
  · rw [chars_eq h]
    have hlen := le_length_padded 4 t.date.year.toNat
    cases hpadded : padded 4 t.date.year.toNat with
    | nil =>
      rw [hpadded] at hlen
      cases hlen
    | cons c cs =>
      have hdigit : c.isDigit = true := isDigit_of_mem_padded (by rw [hpadded]; exact .head _)
      exact ⟨c, _, rfl, isBlank_of_isDigit hdigit, fun hnot => absurd h hnot⟩
  · have hyear : Date.yearText t.date.year =
        (if t.date.year < 0 then '-' else '+') :: padded 4 t.date.year.natAbs := if_neg h
    simp only [chars, Date.chars, hyear, List.cons_append]
    exact ⟨_, _, rfl, by split <;> decide, fun _ => by split <;> decide⟩

theorem text_ne_empty (t : Instant) : t.text ≠ "" := by
  obtain ⟨c, cs, hchars, -, -⟩ := t.chars_eq_cons
  intro h
  have hlist := congrArg String.toList h
  rw [text, String.toList_ofList, hchars] at hlist
  cases hlist

theorem getLast?_chars (t : Instant) : t.chars.getLast? = some 'Z' := by
  simp only [chars, List.getLast?_append, List.getLast?_singleton, Option.some_or]

/-- There is nothing to trim about a written instant. -/
theorem trimBlanks_chars (t : Instant) : trimBlanks t.chars = t.chars := by
  obtain ⟨c, cs, hchars, hblank, -⟩ := t.chars_eq_cons
  refine trimBlanks_of_ends (fun d hd => ?_) fun d hd => ?_
  · rw [hchars] at hd
    cases hd
    exact hblank
  · rw [getLast?_chars] at hd
    cases hd
    decide

/-- **A written instant is read back when its year has four digits, and is refused otherwise.** -/
theorem read?_text (t : Instant) : read? t.text = if t.InFourDigitYear then some t else none := by
  rw [read?, text, String.toList_ofList, trimBlanks_chars]
  by_cases h : t.InFourDigitYear
  · rw [if_pos h, readStamp?_chars h]
    rfl
  · obtain ⟨c, cs, hchars, -, hsign⟩ := t.chars_eq_cons
    have hmem : 'Z' ∈ t.chars := List.mem_of_getLast? t.getLast?_chars
    rw [if_neg h, readClock?_eq_none hmem, readDate?_eq_none hmem, hchars,
      readStamp?_eq_none (hsign h)]
    rfl

end Instant

end Dossier
