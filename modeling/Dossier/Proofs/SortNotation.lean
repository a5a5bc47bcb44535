import Dossier.Proofs.RequiredFields
import Dossier.Proofs.SortNames
import Dossier.Proofs.Structure
import Dossier.Proofs.TextOrder
import Mathlib.Data.List.Perm.Basic

/-!
# The notations of sort orders agree

A sort order can be written down as one text, as an array of texts and objects, and as an object of
directions. In a text, blanks may stand around the parts between commas, parts may be blank, a direction may
be in any letter case, and `asc` may be left out (`SortSpec.WrittenText`). An array may cut the order
anywhere (`SortSpec.WrittenAs`).

**All of them are read as the order that was written** (`notations_agree`). An object has no order of its
own, so its specifications come out in the order of the bytes of their fields.

The argument goes through the words of a part: trimming a part leaves its words alone
(`blankSeparated_trimBlanks`), and a part has a field and perhaps a direction for its words
(`WrittenPart.blankSeparated`), also if the field is called `desc`.
-/

namespace Dossier

/-! ## Words between blanks -/

def Blanks (cs : List Char) : Prop := ∀ c ∈ cs, isBlank c = true

instance (cs : List Char) : Decidable (Blanks cs) := decidable_of_iff (cs.all isBlank = true) List.all_eq_true

/-- **Words split at a blank.** -/
theorem blankSeparated_append_cons {b : Char} (hb : isBlank b = true) (cs rest : List Char) :
    blankSeparated (cs ++ b :: rest) = blankSeparated cs ++ blankSeparated rest := by
  unfold blankSeparated
  rw [List.splitOnP_append_cons cs rest hb, List.filter_append]

theorem blankSeparated_word {word : List Char} (hne : word ≠ []) (h : ∀ c ∈ word, isBlank c = false) :
    blankSeparated word = [word] := by
  unfold blankSeparated
  rw [List.splitOnP_eq_singleton h]
  exact List.filter_cons_of_pos (by simpa using hne)

namespace Blanks

variable {blanks : List Char}

theorem nil : Blanks [] := nofun

theorem blankSeparated_append (h : Blanks blanks) (rest : List Char) :
    blankSeparated (blanks ++ rest) = blankSeparated rest := by
  induction blanks with
  | nil => rfl
  | cons b blanks ih =>
    rw [List.cons_append, ← List.nil_append (b :: _), blankSeparated_append_cons (h b List.mem_cons_self),
      ih fun c hc => h c (List.mem_cons_of_mem _ hc)]
    rfl

theorem append_blankSeparated (h : Blanks blanks) (cs : List Char) :
    blankSeparated (cs ++ blanks) = blankSeparated cs := by
  cases blanks with
  | nil => rw [List.append_nil]
  | cons b blanks =>
    have hrest : blankSeparated blanks = [] := by
      have hblanks : Blanks blanks := fun c hc => h c (List.mem_cons_of_mem _ hc)
      rw [← List.append_nil blanks, hblanks.blankSeparated_append]
      rfl
    rw [blankSeparated_append_cons (h b List.mem_cons_self), hrest, List.append_nil]

end Blanks

theorem blanks_takeWhile (cs : List Char) : Blanks (cs.takeWhile isBlank) :=
  fun _ hc => List.mem_takeWhile_imp hc

theorem exists_eq_append_trimBlanks (cs : List Char) :
    ∃ before after, Blanks before ∧ Blanks after ∧ cs = before ++ trimBlanks cs ++ after := by
  refine ⟨cs.takeWhile isBlank, ((dropBlanks cs).reverse.takeWhile isBlank).reverse,
    blanks_takeWhile cs, fun c hc => blanks_takeWhile _ c (List.mem_reverse.1 hc), ?_⟩
  have hback : trimBlanks cs ++ ((dropBlanks cs).reverse.takeWhile isBlank).reverse = dropBlanks cs := by
    rw [trimBlanks, ← List.reverse_append, dropBlanks.eq_1 (dropBlanks cs).reverse,
      List.takeWhile_append_dropWhile, List.reverse_reverse]
  rw [List.append_assoc, hback]
  exact List.takeWhile_append_dropWhile.symm

/-- **Trimming leaves the words alone.** -/
theorem blankSeparated_trimBlanks (cs : List Char) : blankSeparated (trimBlanks cs) = blankSeparated cs := by
  obtain ⟨before, after, hbefore, hafter, hcs⟩ := exists_eq_append_trimBlanks cs
  conv_rhs => rw [hcs, hafter.append_blankSeparated, hbefore.blankSeparated_append]

/-! ## Directions -/

namespace SortDirection

/-- The name of a direction, each letter in either case. -/
def Spelled (direction : SortDirection) (word : List Char) : Prop :=
  List.Forall₂ (fun letter c => c = letter ∨ c = letter.toUpper) direction.name.toList word

instance (direction : SortDirection) (word : List Char) : Decidable (direction.Spelled word) :=
  inferInstanceAs (Decidable (List.Forall₂ _ _ _))

variable {direction : SortDirection} {word : List Char}

/-- The letters of a direction are lower case, and stand in names in either case. -/
theorem letter_of_name {letter : Char} (h : letter ∈ direction.name.toList) :
    (letter.toLower = letter ∧ letter.toUpper.toLower = letter) ∧
      SortSpec.isNameChar letter = true ∧ SortSpec.isNameChar letter.toUpper = true := by
  have hall : (direction.name.toList.all fun letter =>
      decide ((letter.toLower = letter ∧ letter.toUpper.toLower = letter) ∧
        SortSpec.isNameChar letter = true ∧ SortSpec.isNameChar letter.toUpper = true)) = true := by
    cases direction <;> decide +kernel
  exact of_decide_eq_true (List.all_eq_true.1 hall letter h)

theorem Spelled.map_toLower (h : direction.Spelled word) : word.map Char.toLower = direction.name.toList := by
  have hletters : ∀ letter ∈ direction.name.toList,
      letter.toLower = letter ∧ letter.toUpper.toLower = letter :=
    fun _ hletter => (letter_of_name hletter).1
  unfold Spelled at h
  generalize direction.name.toList = letters at h hletters
  induction h with
  | nil => rfl
  | cons hc _ ih =>
    obtain ⟨⟨hlower, hupper⟩, hrest⟩ := List.forall_mem_cons.1 hletters
    rw [List.map_cons, ih hrest]
    rcases hc with rfl | rfl
    · rw [hlower]
    · rw [hupper]

theorem Spelled.ne_nil (h : direction.Spelled word) : word ≠ [] := by
  rintro rfl
  have hname := h.map_toLower
  cases direction <;> simp [name] at hname

theorem Spelled.isNameChar (h : direction.Spelled word) : ∀ c ∈ word, SortSpec.isNameChar c = true := by
  have hletters : ∀ letter ∈ direction.name.toList,
      SortSpec.isNameChar letter = true ∧ SortSpec.isNameChar letter.toUpper = true :=
    fun _ hletter => (letter_of_name hletter).2
  unfold Spelled at h
  generalize direction.name.toList = letters at h hletters
  induction h with
  | nil => exact nofun
  | cons hc _ ih =>
    obtain ⟨⟨hlower, hupper⟩, hrest⟩ := List.forall_mem_cons.1 hletters
    refine List.forall_mem_cons.2 ⟨?_, ih hrest⟩
    rcases hc with rfl | rfl
    · exact hlower
    · exact hupper

/-- **A direction is read in any letter case.** -/
theorem read_spelled (h : direction.Spelled word) : read word = .ok direction := by
  unfold read
  rw [h.map_toLower]
  cases direction <;> rfl

end SortDirection

/-! ## Parts of a text -/

namespace SortSpec

variable {spec : SortSpec} {specs : List SortSpec}

/-- The characters of names are visible ones of ASCII. -/
theorem isBlank_of_isNameChar {c : Char} (h : isNameChar c = true) : isBlank c = false := by
  have between {low high : Char} (h : low.val ≤ c.val ∧ c.val ≤ high.val) (hlow : 33 ≤ low.toNat)
      (hhigh : high.toNat ≤ 126) : isBlank c = false :=
    isBlank_of_visible (Nat.le_trans hlow (UInt32.le_iff_toNat_le.1 h.1))
      (Nat.le_trans (UInt32.le_iff_toNat_le.1 h.2) hhigh)
  rcases (isNameChar_iff c).1 h with h | rfl | rfl
  · have hcases : ((c.isUpper || c.isLower) || c.isDigit) = true := h
    simp only [Bool.or_eq_true] at hcases
    rcases hcases with (hupper | hlower) | hdigit
    · have hletter : 'A'.val ≤ c.val ∧ c.val ≤ 'Z'.val := of_decide_eq_true hupper
      exact between hletter (by decide) (by decide)
    · have hletter : 'a'.val ≤ c.val ∧ c.val ≤ 'z'.val :=
        (Bool.and_eq_true_iff.1 hlower).imp of_decide_eq_true of_decide_eq_true
      exact between hletter (by decide) (by decide)
    · exact isBlank_of_isDigit hdigit
  · decide
  · decide

theorem ne_comma_of_isNameChar {c : Char} (h : isNameChar c = true) : c ≠ ',' := by
  rintro rfl
  exact absurd h (by decide)

theorem ne_comma_of_isBlank {c : Char} (h : isBlank c = true) : c ≠ ',' := by
  rintro rfl
  exact absurd h (by decide)

theorem Vetted.isNameChar {name : String} (h : Vetted name) : ∀ c ∈ name.toList, isNameChar c = true :=
  fun c hc => (isNameChar_iff c).2 (h.2 c hc)

theorem Vetted.toList_ne_nil {name : String} (h : Vetted name) : name.toList ≠ [] := by
  simpa using h.1

theorem Vetted.checkField {name : String} (h : Vetted name) : checkField name.toList = .ok name := by
  have hvalid : (!name.toList.isEmpty && name.toList.all SortSpec.isNameChar) = true := by
    rw [Bool.and_eq_true, List.all_eq_true]
    exact ⟨by simpa using h.1, h.isNameChar⟩
  rw [SortSpec.checkField, if_pos hvalid, String.ofList_toList]

/-- A specification as it may stand between commas: its field, and its direction after blanks unless that is
ascending. -/
inductive WrittenPart : SortSpec → List Char → Prop
  | bare (field : String) : WrittenPart ⟨field, .asc⟩ field.toList
  | directed (spec : SortSpec) {between word : List Char} (hne : between ≠ []) (hbetween : Blanks between)
      (hword : spec.direction.Spelled word) : WrittenPart spec (spec.field.toList ++ between ++ word)

theorem WrittenPart.blankSeparated {core : List Char} (h : WrittenPart spec core)
    (hfield : Vetted spec.field) :
    (blankSeparated core = [spec.field.toList] ∧ spec.direction = .asc) ∨
      ∃ word, blankSeparated core = [spec.field.toList, word] ∧ spec.direction.Spelled word := by
  have hwords : Dossier.blankSeparated spec.field.toList = [spec.field.toList] :=
    blankSeparated_word hfield.toList_ne_nil fun c hc => isBlank_of_isNameChar (hfield.isNameChar c hc)
  cases h with
  | bare field => exact .inl ⟨hwords, rfl⟩
  | @directed _ between word hne hbetween hword =>
    refine .inr ⟨word, ?_, hword⟩
    obtain ⟨b, blanks, rfl⟩ := List.exists_cons_of_ne_nil hne
    have hblanks : Blanks blanks := fun c hc => hbetween c (List.mem_cons_of_mem _ hc)
    rw [List.append_assoc, List.cons_append, blankSeparated_append_cons (hbetween b List.mem_cons_self),
      hwords, hblanks.blankSeparated_append,
      blankSeparated_word hword.ne_nil fun c hc => isBlank_of_isNameChar (hword.isNameChar c hc)]
    rfl

theorem WrittenPart.comma_notMem {core : List Char} (h : WrittenPart spec core) (hfield : Vetted spec.field) :
    ',' ∉ core := by
  have hname : ',' ∉ spec.field.toList := fun hc => ne_comma_of_isNameChar (hfield.isNameChar _ hc) rfl
  cases h with
  | bare field => exact hname
  | directed _ _ hbetween hword =>
    simp only [List.mem_append, not_or]
    exact ⟨⟨hname, fun hc => ne_comma_of_isBlank (hbetween _ hc) rfl⟩,
      fun hc => ne_comma_of_isNameChar (hword.isNameChar _ hc) rfl⟩

/-- **A part with the words of a specification is read as it.** -/
theorem WrittenPart.readPart {core part : List Char} (h : WrittenPart spec core) (hfield : Vetted spec.field)
    (hwords : Dossier.blankSeparated part = Dossier.blankSeparated core) : readPart part = .ok spec := by
  unfold SortSpec.readPart
  rw [hwords]
  rcases h.blankSeparated hfield with ⟨hcore, hasc⟩ | ⟨word, hcore, hword⟩
  · rw [hcore]
    simp only [hfield.checkField]
    rw [← hasc]
    rfl
  · rw [hcore]
    simp only [SortDirection.read_spelled hword, hfield.checkField]
    rfl

/-! ## Texts -/

/-- Parts between commas that write specifications, blank parts among them. -/
inductive WrittenParts : List SortSpec → List (List Char) → Prop
  | nil : WrittenParts [] []
  | blank {specs : List SortSpec} {part : List Char} {parts : List (List Char)} (hpart : Blanks part)
      (hparts : WrittenParts specs parts) : WrittenParts specs (part :: parts)
  | spec {spec : SortSpec} {specs : List SortSpec} {before core after : List Char} {parts : List (List Char)}
      (hbefore : Blanks before) (hcore : WrittenPart spec core) (hafter : Blanks after)
      (hparts : WrittenParts specs parts) : WrittenParts (spec :: specs) ((before ++ core ++ after) :: parts)

/-- A text with commas between its parts. -/
def WrittenText (specs : List SortSpec) (s : String) : Prop :=
  ∃ parts, WrittenParts specs parts ∧ s.toList = [','].intercalate parts

theorem WrittenParts.comma_notMem {parts : List (List Char)} (h : WrittenParts specs parts)
    (hvetted : ∀ spec ∈ specs, Vetted spec.field) : ∀ part ∈ parts, ',' ∉ part := by
  induction h with
  | nil => exact nofun
  | blank hpart _ ih =>
    exact List.forall_mem_cons.2 ⟨fun hc => ne_comma_of_isBlank (hpart _ hc) rfl, ih hvetted⟩
  | spec hbefore hcore hafter _ ih =>
    obtain ⟨hfield, hrest⟩ := List.forall_mem_cons.1 hvetted
    refine List.forall_mem_cons.2 ⟨?_, ih hrest⟩
    simp only [List.mem_append, not_or]
    exact ⟨⟨fun hc => ne_comma_of_isBlank (hbefore _ hc) rfl, hcore.comma_notMem hfield⟩,
      fun hc => ne_comma_of_isBlank (hafter _ hc) rfl⟩

/-- The parts that are not blank, one for each specification. -/
theorem WrittenParts.readParts {parts : List (List Char)} (h : WrittenParts specs parts)
    (hvetted : ∀ spec ∈ specs, Vetted spec.field) :
    List.Forall₂ (fun part spec => SortSpec.readPart part = .ok spec)
      ((parts.map trimBlanks).filter fun part => !part.isEmpty) specs := by
  induction h with
  | nil => exact .nil
  | blank hpart _ ih =>
    rw [List.map_cons, trimBlanks_eq_nil.2 hpart]
    exact ih hvetted
  | @spec spec _ before core after _ hbefore hcore hafter _ ih =>
    obtain ⟨hfield, hrest⟩ := List.forall_mem_cons.1 hvetted
    have hwords : Dossier.blankSeparated (trimBlanks (before ++ core ++ after)) =
        Dossier.blankSeparated core := by
      rw [blankSeparated_trimBlanks, hafter.append_blankSeparated, hbefore.blankSeparated_append]
    have hread := hcore.readPart hfield hwords
    have hne : trimBlanks (before ++ core ++ after) ≠ [] := by
      intro hnil
      rw [hnil] at hread
      cases hread
    rw [List.map_cons, List.filter_cons_of_pos (by simpa using hne)]
    exact .cons hread (ih hrest)

theorem readText_written {s : String} (h : WrittenText specs s)
    (hvetted : ∀ spec ∈ specs, Vetted spec.field) :
    readText s = .ok specs := by
  obtain ⟨parts, hparts, hs⟩ := h
  have hread := mapM_of_forall₂ (hparts.readParts hvetted)
  unfold readText
  rw [hs]
  rcases eq_or_ne parts [] with rfl | hne
  · -- the text without parts is the one with an empty part
    exact hread
  · rw [List.splitOn_intercalate ',' (hparts.comma_notMem hvetted) hne]
    exact hread

/-! ## Arrays -/

/-- An item of an array: a text, or one specification as an object. -/
inductive WrittenItem : List SortSpec → Json → Prop
  | text {specs : List SortSpec} {s : String} (h : WrittenText specs s) : WrittenItem specs (.string s)
  | object (spec : SortSpec) : WrittenItem [spec] spec.render

/-- A sort order as a text, or cut into the items of an array. -/
inductive WrittenAs : List SortSpec → Json → Prop
  | text {specs : List SortSpec} {s : String} (h : WrittenText specs s) : WrittenAs specs (.string s)
  | array {groups : List (List SortSpec)} {items : List Json} (h : List.Forall₂ WrittenItem groups items) :
      WrittenAs groups.flatten (.array items)

theorem ofJson?_render (spec : SortSpec) : ofJson? spec.render = some spec := by
  obtain ⟨field, direction⟩ := spec
  unfold ofJson? render
  rw [Json.parts?_ofMembers]
  cases direction <;> rfl

theorem WrittenItem.readItem {item : Json} (h : WrittenItem specs item)
    (hvetted : ∀ spec ∈ specs, Vetted spec.field) : readItem item = .ok specs := by
  cases h with
  | text h => exact readText_written h hvetted
  | object spec =>
    have hspec := ofJson?_render spec
    unfold render Json.ofMembers at hspec ⊢
    rw [SortSpec.readItem, hspec]

theorem readAll_written {document : Json} (h : WrittenAs specs document)
    (hvetted : ∀ spec ∈ specs, Vetted spec.field) : readAll document = .ok specs := by
  cases h with
  | text h => exact readText_written h hvetted
  | @array groups items hitems =>
    have hread : items.mapM SortSpec.readItem = .ok groups := by
      refine mapM_of_forall₂ ?_
      induction hitems with
      | nil => exact .nil
      | cons hitem _ ih =>
        rw [List.flatten_cons, List.forall_mem_append] at hvetted
        exact .cons (hitem.readItem hvetted.1) (ih hvetted.2)
    show (items.mapM SortSpec.readItem).map List.flatten = _
    rw [hread]
    rfl

/-! ## Objects -/

/-- Members with the direction of each field under its name. -/
def WrittenMembers (specs : List SortSpec) (members : List (String × Json)) : Prop :=
  List.Forall₂ (fun member spec => member.1 = spec.field ∧
    ∃ word : String, spec.direction.Spelled word.toList ∧ member.2 = .string word) members specs

theorem WrittenMembers.readMembers {members : List (String × Json)} (h : WrittenMembers specs members)
    (hvetted : ∀ spec ∈ specs, Vetted spec.field) :
    List.Forall₂ (fun member spec => readMember member = .ok spec) members specs := by
  induction h with
  | nil => exact .nil
  | @cons member spec _ _ hmember _ ih =>
    obtain ⟨hname, word, hword, htext⟩ := hmember
    obtain ⟨hfield, hrest⟩ := List.forall_mem_cons.1 hvetted
    refine .cons ?_ (ih hrest)
    unfold readMember
    rw [htext, hname, hfield.checkField]
    show (SortDirection.read word.toList >>= fun direction => _) = _
    rw [SortDirection.read_spelled hword]
    rfl

/-- A member is read under its own name. -/
theorem name_of_readMember {member : String × Json} (h : readMember member = .ok spec) :
    member.1 = spec.field := by
  obtain ⟨direction, -, h⟩ := bind_ok h
  obtain ⟨name, hname, h⟩ := bind_ok h
  cases h
  unfold checkField at hname
  split at hname
  · cases hname
    exact String.ofList_toList.symm
  · cases hname

theorem names_of_readMembers {members : List (String × Json)}
    (h : List.Forall₂ (fun member spec => readMember member = .ok spec) members specs) :
    members.map Prod.fst = specs.map SortSpec.field := by
  induction h with
  | nil => rfl
  | cons hmember _ ih => rw [List.map_cons, List.map_cons, name_of_readMember hmember, ih]

/-- **An object gives its specifications in the order of the bytes of their fields.** -/
theorem readAll_members {members : List (String × Json)} (h : WrittenMembers specs members)
    (hvetted : ∀ spec ∈ specs, Vetted spec.field) (hnodup : (specs.map SortSpec.field).Nodup) :
    ∃ sorted, readAll (.ofMembers members) = .ok sorted ∧ sorted.Perm specs ∧
      sorted.Pairwise fun a b => compare (utf8 a.field) (utf8 b.field) = .lt := by
  have hread := h.readMembers hvetted
  rw [← names_of_readMembers hread] at hnodup
  -- the object has the members in the order of their names, so they are read as another order of `specs`
  obtain ⟨sorted, hsorted, hspecs⟩ := List.perm_comp_forall₂ (Entries.ofList_perm hnodup) hread
  have hnames : ((Entries.ofList members).map Prod.fst).Pairwise fun a b => compare a b = .lt :=
    List.pairwise_map.2 (Entries.Sorted.ofList members)
  rw [names_of_readMembers hsorted, List.pairwise_map] at hnames
  exact ⟨sorted, mapM_of_forall₂ hsorted, hspecs, hnames.imp fun hlt => by rwa [compare_utf8]⟩

/-! ## All of them -/

/-- **All notations of a sort order agree.** A text and an array give back the order that was written, and an
object gives it in the order of the bytes of the fields. -/
theorem notations_agree (specs : List SortSpec) (hvetted : ∀ spec ∈ specs, Vetted spec.field) :
    (∀ document, WrittenAs specs document → readAll document = .ok specs) ∧
    ∀ members, WrittenMembers specs members → (specs.map SortSpec.field).Nodup →
      ∃ sorted, readAll (.ofMembers members) = .ok sorted ∧ sorted.Perm specs ∧
        sorted.Pairwise fun a b => compare (utf8 a.field) (utf8 b.field) = .lt :=
  ⟨fun _ h => readAll_written h hvetted, fun _ h hnodup => readAll_members h hvetted hnodup⟩

namespace NotationSample

/-- An order by fields two of which are called like directions. -/
def order : List SortSpec := [⟨"desc", .asc⟩, ⟨"asc", .desc⟩, ⟨"a.b_1", .asc⟩]

/-- The order with an em space, blank parts and directions in odd letter case. -/
def text : String := "  desc ,, asc\u2003dEsC,\ta.b_1  aSc ,"

/-- The order cut into a text, an object and a text of blank parts. -/
def cut : List Json := [.string "desc ASC,asc DESC", SortSpec.render ⟨"a.b_1", .asc⟩, .string " , "]

def members : List (String × Json) :=
  [("desc", .string "ASC"), ("asc", .string "Desc"), ("a.b_1", .string "asc")]

theorem text_written : WrittenAs order (.string text) := by
  refine .text ⟨[[' ', ' '] ++ "desc".toList ++ [' '], [],
    [' '] ++ ("asc".toList ++ ['\u2003'] ++ "dEsC".toList) ++ [],
    ['\t'] ++ ("a.b_1".toList ++ [' ', ' '] ++ "aSc".toList) ++ [' '], []], ?_, by decide +kernel⟩
  have hasc : WrittenPart ⟨"asc", .desc⟩ ("asc".toList ++ ['\u2003'] ++ "dEsC".toList) :=
    .directed _ (by decide) (by decide) (by decide +kernel)
  have hpoint : WrittenPart ⟨"a.b_1", .asc⟩ ("a.b_1".toList ++ [' ', ' '] ++ "aSc".toList) :=
    .directed _ (by decide) (by decide) (by decide +kernel)
  exact .spec (by decide) (.bare "desc") (by decide) <| .blank .nil <|
    .spec (by decide) hasc .nil <| .spec (by decide) hpoint (by decide) <| .blank .nil .nil

theorem cut_written : WrittenAs order (.array cut) := by
  have hdesc : WrittenPart ⟨"desc", .asc⟩ ("desc".toList ++ [' '] ++ "ASC".toList) :=
    .directed _ (by decide) (by decide) (by decide +kernel)
  have hasc : WrittenPart ⟨"asc", .desc⟩ ("asc".toList ++ [' '] ++ "DESC".toList) :=
    .directed _ (by decide) (by decide) (by decide +kernel)
  have hwords : WrittenText [⟨"desc", .asc⟩, ⟨"asc", .desc⟩] "desc ASC,asc DESC" :=
    ⟨_, .spec .nil hdesc .nil (.spec .nil hasc .nil .nil), by decide +kernel⟩
  have hblank : WrittenText [] " , " :=
    ⟨[[' '], [' ']], .blank (by decide) (.blank (by decide) .nil), by decide +kernel⟩
  exact .array (.cons (.text hwords) (.cons (.object _) (.cons (.text hblank) .nil)))

theorem members_written : WrittenMembers order members :=
  .cons ⟨rfl, "ASC", by decide +kernel, rfl⟩ <| .cons ⟨rfl, "Desc", by decide +kernel, rfl⟩ <|
    .cons ⟨rfl, "asc", by decide +kernel, rfl⟩ .nil

end NotationSample

open NotationSample in
/-- The order is read from the text and the array as it is, and from the object sorted. -/
theorem sample_notations_agree :
    readAll (.string text) = .ok order ∧ readAll (.array cut) = .ok order ∧
      ∃ sorted, readAll (.ofMembers members) = .ok sorted ∧ sorted.Perm order ∧
        sorted.Pairwise fun a b => compare (utf8 a.field) (utf8 b.field) = .lt := by
  have hcheck : ∀ spec ∈ order, checkField spec.field.toList = .ok spec.field := by decide +kernel
  have hvetted : ∀ spec ∈ order, Vetted spec.field :=
    fun spec hspec => vetted_of_checkField (hcheck spec hspec)
  obtain ⟨hread, hmembers⟩ := notations_agree order hvetted
  exact ⟨hread _ text_written, hread _ cut_written, hmembers _ members_written (by decide +kernel)⟩

end SortSpec

end Dossier
