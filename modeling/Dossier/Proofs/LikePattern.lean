import Dossier.Predicate.Document

/-!
# Patterns match what they were made from

A text filter is evaluated in two ways: records in memory are searched for the text, and a database is
asked for a `LIKE` pattern made from it.

**Patterns** (`Like`). A percent sign stands for any run of characters and an underscore for any one. A
backslash takes away the meaning of the character behind it.

**Escaping.** An escaped text in front of a pattern matches itself and leaves the rest to the pattern
(`like_escapeLike_append`), whatever percent signs, underscores and backslashes it has. So the percent
signs that a mode puts around it are the only ones that stand for anything.

Main result: `like_likePattern`.
-/

namespace Dossier

/-! ## Patterns -/

/-- The characters with a meaning of their own in a pattern. -/
def isLikeSign (c : Char) : Prop := c = '\\' ∨ c = '%' ∨ c = '_'

/-- A text matches a pattern. -/
inductive Like : List Char → List Char → Prop
  | done : Like [] []
  | run {pattern text : List Char} (skipped : List Char) (rest : Like pattern text) :
      Like ('%' :: pattern) (skipped ++ text)
  | one {pattern text : List Char} (c : Char) (rest : Like pattern text) :
      Like ('_' :: pattern) (c :: text)
  | escaped {pattern text : List Char} (c : Char) (rest : Like pattern text) :
      Like ('\\' :: c :: pattern) (c :: text)
  | plain {pattern text : List Char} {c : Char} (plain : ¬ isLikeSign c) (rest : Like pattern text) :
      Like (c :: pattern) (c :: text)

section Like

variable {pattern text : List Char}

theorem like_nil_iff : Like [] text ↔ text = [] := by
  constructor
  · intro h
    cases h
    rfl
  · rintro rfl
    exact .done

theorem like_run_iff :
    Like ('%' :: pattern) text ↔ ∃ skipped rest, text = skipped ++ rest ∧ Like pattern rest := by
  constructor
  · generalize hsigns : '%' :: pattern = signs
    intro h
    cases h with
    | done => cases hsigns
    | run skipped rest =>
      cases hsigns
      exact ⟨skipped, _, rfl, rest⟩
    | one => simp at hsigns
    | escaped => simp at hsigns
    | plain plain =>
      cases hsigns
      exact absurd (.inr (.inl rfl)) plain
  · rintro ⟨skipped, rest, rfl, h⟩
    exact .run skipped h

theorem like_escaped_iff {c : Char} :
    Like ('\\' :: c :: pattern) text ↔ ∃ rest, text = c :: rest ∧ Like pattern rest := by
  constructor
  · generalize hsigns : '\\' :: c :: pattern = signs
    intro h
    cases h with
    | done => cases hsigns
    | run => simp at hsigns
    | one => simp at hsigns
    | escaped _ rest =>
      cases hsigns
      exact ⟨_, rfl, rest⟩
    | plain plain =>
      cases hsigns
      exact absurd (.inl rfl) plain
  · rintro ⟨rest, rfl, h⟩
    exact .escaped c h

theorem like_plain_iff {c : Char} (hc : ¬ isLikeSign c) :
    Like (c :: pattern) text ↔ ∃ rest, text = c :: rest ∧ Like pattern rest := by
  constructor
  · intro h
    cases h with
    | run | one | escaped => simp [isLikeSign] at hc
    | plain _ rest => exact ⟨_, rfl, rest⟩
  · rintro ⟨rest, rfl, h⟩
    exact .plain hc h

theorem like_any (text : List Char) : Like ['%'] text := by
  have h := Like.run text .done
  rwa [List.append_nil] at h

end Like

/-! ## Escaping -/

/-- A text with each occurrence of one character escaped. -/
def escaping (sign : Char) (text : List Char) : List Char :=
  text.flatMap fun c => if c = sign then ['\\', c] else [c]

/-- A text is escaped sign by sign. Backslashes come first, as those that are put in front of the other
signs are not to be escaped again. -/
theorem escapeLike_eq (text : List Char) :
    escapeLike text = escaping '_' (escaping '%' (escaping '\\' text)) := by
  induction text with
  | nil => rfl
  | cons c rest ih =>
    have hcons (sign c : Char) (text : List Char) : escaping sign (c :: text) =
        (if c = sign then ['\\', c] else [c]) ++ escaping sign text := rfl
    rw [escapeLike, ih, hcons]
    by_cases hbackslash : c = '\\'
    · subst hbackslash
      simp [hcons]
    · by_cases hpercent : c = '%'
      · subst hpercent
        simp [hcons]
      · by_cases hunderscore : c = '_' <;> simp [hcons, hbackslash, hpercent, hunderscore]

/-- **An escaped text in front of a pattern matches itself.** -/
theorem like_escapeLike_append (escaped pattern text : List Char) :
    Like (escapeLike escaped ++ pattern) text ↔ ∃ rest, text = escaped ++ rest ∧ Like pattern rest := by
  induction escaped generalizing text with
  | nil => simp [escapeLike]
  | cons c escaped ih =>
    have hrest : (∃ tail, text = c :: tail ∧ Like (escapeLike escaped ++ pattern) tail) ↔
        ∃ rest, text = c :: escaped ++ rest ∧ Like pattern rest := by
      simp only [ih]
      constructor
      · rintro ⟨_, rfl, rest, rfl, h⟩
        exact ⟨rest, rfl, h⟩
      · rintro ⟨rest, rfl, h⟩
        exact ⟨_, rfl, rest, rfl, h⟩
    rw [escapeLike, ← hrest]
    split
    · exact like_escaped_iff
    · rename_i hc
      exact like_plain_iff (by simpa [isLikeSign, or_assoc] using hc)

/-! ## Modes -/

/-- A pattern stands in a text where a mode looks for it. -/
def TextMatch.Places (mode : TextMatch) (pattern text : List Char) : Prop :=
  match mode with
  | .contains => pattern <:+: text
  | .startsWith => pattern <+: text
  | .endsWith => pattern <:+ text

theorem occursIn_iff {pattern text : List Char} : occursIn pattern text = true ↔ pattern <:+: text := by
  induction text with
  | nil => simp [occursIn]
  | cons c text ih =>
    rw [occursIn, Bool.or_eq_true, List.isPrefixOf_iff_prefix, ih, List.infix_cons_iff]

theorem TextMatch.holds_iff (mode : TextMatch) {pattern text : List Char} :
    mode.holds pattern text = true ↔ mode.Places pattern text := by
  cases mode with
  | contains => exact occursIn_iff
  | startsWith => exact List.isPrefixOf_iff_prefix
  | endsWith => exact List.isSuffixOf_iff_suffix

/-- The percent signs that a mode puts around an escaped text stand for what its mode leaves open. -/
theorem TextMatch.like_iff_places (mode : TextMatch) {pattern text : String} :
    Like (likePattern mode pattern).toList text.toList ↔ mode.Places pattern.toList text.toList := by
  unfold likePattern
  rw [String.toList_ofList]
  cases mode with
  | contains =>
    rw [List.cons_append, like_run_iff]
    simp only [like_escapeLike_append]
    constructor
    · rintro ⟨skipped, _, htext, rest, rfl, -⟩
      exact ⟨skipped, rest, by rw [htext, List.append_assoc]⟩
    · rintro ⟨skipped, rest, htext⟩
      exact ⟨skipped, _, by rw [← htext, List.append_assoc], rest, rfl, like_any rest⟩
  | startsWith =>
    rw [like_escapeLike_append]
    constructor
    · rintro ⟨rest, htext, -⟩
      exact ⟨rest, htext.symm⟩
    · rintro ⟨rest, htext⟩
      exact ⟨rest, htext.symm, like_any rest⟩
  | endsWith =>
    have hself (text : List Char) : Like (escapeLike pattern.toList) text ↔ text = pattern.toList := by
      have h := like_escapeLike_append pattern.toList [] text
      simpa [like_nil_iff] using h
    simp only [like_run_iff, hself]
    constructor
    · rintro ⟨skipped, _, htext, rfl⟩
      exact ⟨skipped, htext.symm⟩
    · rintro ⟨skipped, htext⟩
      exact ⟨skipped, _, htext.symm, rfl⟩

/-- A text with letter case taken away. -/
def folded (s : String) : String := String.ofList (lowered s.toList)

/-- **A pattern matches the texts that have what it was made from where its mode looks for it**, and a
search in memory finds it in the same texts, letter case aside. -/
theorem like_likePattern (mode : TextMatch) (pattern : String) :
    (∀ text : String, Like (likePattern mode pattern).toList text.toList ↔
      mode.Places pattern.toList text.toList) ∧
    ∀ value, Predicate.textHolds mode pattern value = true ↔ ∃ text, value.text? = some text ∧
      Like (likePattern mode (folded pattern)).toList (folded text).toList := by
  refine ⟨fun text => mode.like_iff_places, fun value => ?_⟩
  unfold Predicate.textHolds
  cases value.text? with
  | none => simp
  | some text =>
    simp only [Option.some.injEq, exists_eq_left', mode.like_iff_places, mode.holds_iff]
    simp only [folded, String.toList_ofList]

end Dossier
