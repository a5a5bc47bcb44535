import Dossier.Proofs.Condition
import Dossier.Proofs.Dict
import Dossier.Proofs.TypedValue

/-!
# Variables are replaced once

The table of variables holds texts that callers choose: the parameters of a path stand next to the identity
of the user. None of them may be read as anything but a value.

**One pass.** What a document stands for is a relation on documents alone (`Variables.Stands`): a reference
becomes what the table holds, as it is, and an array that a reference stands for is opened up where the
reference is an item of an array. Resolution finds exactly this (`resolve_eq_ok_iff`). It looks up the names
that the document itself mentions and no others, so nothing comes of references inside a table
(`resolve_congr`).

**Errors** (`resolve_outcome`). Resolution fails just when a text refers to a variable that is not in the
table, and names the first such text.

**Paths.** A parameter of the path is stored under a name of its own namespace, whatever the parameter is
called (`get?_ofCaller_of_not_path`). So a condition that mentions no name there is compiled alike with any
parameters.

Main result: `Variables.path_cannot_rewrite`.
-/

namespace Dossier

/-! ## References in documents -/

/-- A text that refers to a variable: a dollar sign, and two identifiers with a point between them. -/
def RefersTo (s name : String) : Prop :=
  ∃ space field : String, isIdentifier space.toList = true ∧ isIdentifier field.toList = true ∧
    name = space ++ "." ++ field ∧ s = "$" ++ name

theorem point_not_mem_of_isIdentifier {cs : List Char} (h : isIdentifier cs = true) : '.' ∉ cs := by
  intro hdot
  cases cs with
  | nil => cases hdot
  | cons c rest =>
    simp only [isIdentifier, Bool.and_eq_true, List.all_eq_true] at h
    obtain ⟨hfirst, hrest⟩ := h
    rcases List.mem_cons.1 hdot with rfl | hmem
    · exact absurd hfirst (by decide)
    · exact absurd (hrest '.' hmem) (by decide)

theorem variableName?_eq_some_iff {s name : String} : variableName? s = some name ↔ RefersTo s name := by
  constructor
  · intro h
    unfold variableName? at h
    split at h
    · rename_i rest hs
      split at h
      · rename_i space field hparts
        split at h
        · rename_i hids
          simp only [Bool.and_eq_true] at hids
          have hrest : rest = space ++ '.' :: field := by
            have hjoin : ['.'].intercalate (rest.splitOn '.') = rest := List.intercalate_splitOn '.'
            rw [hparts] at hjoin
            simpa [List.intercalate] using hjoin.symm
          cases h
          refine ⟨String.ofList space, String.ofList field, by simpa using hids.1, by simpa using hids.2,
            String.toList_injective (by simp [hrest]), String.toList_injective (by simp [hs])⟩
        · cases h
      · cases h
    · cases h
  · rintro ⟨space, field, hspace, hfield, rfl, rfl⟩
    have hparts : (space.toList ++ '.' :: field.toList).splitOn '.' = [space.toList, field.toList] := by
      have hpoint : ∀ part ∈ [space.toList, field.toList], '.' ∉ part := by
        simp [point_not_mem_of_isIdentifier hspace, point_not_mem_of_isIdentifier hfield]
      simpa [List.intercalate] using List.splitOn_intercalate '.' hpoint (by simp)
    have hchars : ("$" ++ (space ++ "." ++ field)).toList =
        '$' :: (space.toList ++ '.' :: field.toList) := by simp
    have hname : String.ofList (space.toList ++ '.' :: field.toList) = space ++ "." ++ field :=
      String.toList_injective (by simp)
    unfold variableName?
    rw [hchars]
    simp [hparts, hspace, hfield, hname]

theorem variableName?_eq_none_iff {s : String} : variableName? s = none ↔ ∀ name, ¬RefersTo s name := by
  simp only [Option.eq_none_iff_forall_ne_some, ne_eq, variableName?_eq_some_iff]

namespace Json

mutual

/-- The texts of a document from left to right, those of its arrays included and of objects left out. -/
def texts : Json → List String
  | .string s => [s]
  | .array items => textsOfAll items
  | _ => []

def textsOfAll : List Json → List String
  | [] => []
  | item :: rest => item.texts ++ textsOfAll rest

end

/-- A document with a reference to a variable. -/
def Mentions (document : Json) (name : String) : Prop := ∃ s ∈ document.texts, RefersTo s name

end Json

namespace Variables

mutual

/-- What a document stands for, given a table of variables. -/
inductive Stands (vars : Variables) : Json → Json → Prop
  /-- A reference stands for what the table holds, whatever this looks like. -/
  | reference {s name : String} {held : Json} :
    RefersTo s name → vars.get? name = some held → Stands vars (.string s) held
  | text {s : String} : (∀ name, ¬RefersTo s name) → Stands vars (.string s) (.string s)
  | array {items parts : List Json} : StandAll vars items parts → Stands vars (.array items) (.array parts)
  /-- Anything else is kept, objects too. -/
  | other {document : Json} :
    (∀ s, document ≠ .string s) → (∀ items, document ≠ .array items) → Stands vars document document

/-- What the items of an array stand for. -/
inductive StandAll (vars : Variables) : List Json → List Json → Prop
  | nil : StandAll vars [] []
  /-- An item that is itself a reference to an array is opened up. -/
  | spliced {s name : String} {inner rest parts : List Json} :
    RefersTo s name → vars.get? name = some (.array inner) → StandAll vars rest parts →
      StandAll vars (.string s :: rest) (inner ++ parts)
  /-- Any other item makes one item, which may be an array. -/
  | single {item part : Json} {rest parts : List Json} :
    Stands vars item part →
      (∀ s name inner, item = .string s → RefersTo s name → part ≠ .array inner) →
      StandAll vars rest parts → StandAll vars (item :: rest) (part :: parts)

end

variable {vars vars' : Variables}

theorem isReference_iff {item : Json} :
    isReference item = true ↔ ∃ s name, item = .string s ∧ RefersTo s name := by
  simp only [← variableName?_eq_some_iff]
  cases item <;> simp [isReference, Option.isSome_iff_exists]

/-! ## One pass -/

theorem ofText_eq_ok_iff {s : String} {result : Json} :
    vars.ofText s = .ok result ↔ vars.Stands (.string s) result := by
  unfold ofText
  constructor
  · intro h
    split at h
    · rename_i hplain
      cases h
      exact .text (variableName?_eq_none_iff.1 hplain)
    · rename_i name hname
      split at h
      · rename_i held hheld
        cases h
        exact .reference (variableName?_eq_some_iff.1 hname) hheld
      · cases h
  · rintro (⟨hrefers, hheld⟩ | hplain | - | ⟨htext, -⟩)
    · simp [variableName?_eq_some_iff.2 hrefers, hheld]
    · simp [variableName?_eq_none_iff.2 hplain]
    · exact absurd rfl (htext s)

/-- An item and what it stands for make the items that they have in the relation. -/
theorem standAll_cons_iff {item : Json} {rest result : List Json} :
    vars.StandAll (item :: rest) result ↔
      ∃ one parts, vars.Stands item one ∧ vars.StandAll rest parts ∧ result = spliced item one ++ parts := by
  constructor
  · rintro (- | ⟨hrefers, hheld, hrest⟩ | ⟨hitem, hsingle, hrest⟩)
    · rename_i s name inner parts
      refine ⟨.array inner, parts, .reference hrefers hheld, hrest, ?_⟩
      simp [spliced, isReference_iff.2 ⟨s, name, rfl, hrefers⟩]
    · rename_i one parts
      refine ⟨one, parts, hitem, hrest, ?_⟩
      cases one with
      | array inner =>
        have hnot : ¬isReference item = true := fun h => by
          obtain ⟨s, name, heq, hrefers⟩ := isReference_iff.1 h
          exact hsingle s name inner heq hrefers rfl
        simp [spliced, hnot]
      | _ => rfl
  · rintro ⟨one, parts, hitem, hrest, rfl⟩
    by_cases hopened : isReference item = true ∧ ∃ inner, one = .array inner
    · obtain ⟨href, inner, rfl⟩ := hopened
      obtain ⟨s, -, rfl, -⟩ := isReference_iff.1 href
      simp only [spliced, href, if_true]
      rcases hitem with ⟨hrefers, hheld⟩ | - | - | -
      exact .spliced hrefers hheld hrest
    · have hsingle : spliced item one = [one] := by
        cases one with
        | array inner =>
          have hnot : ¬isReference item = true := fun h => hopened ⟨h, inner, rfl⟩
          simp [spliced, hnot]
        | _ => rfl
      rw [hsingle]
      exact .single hitem
        (fun s name inner heq hrefers harray =>
          hopened ⟨isReference_iff.2 ⟨s, name, heq, hrefers⟩, inner, harray⟩)
        hrest

mutual

/-- **Resolution finds what a document stands for.** -/
theorem resolve_eq_ok_iff (value result : Json) :
    vars.resolve value = .ok result ↔ vars.Stands value result := by
  match value with
  | .string s => exact ofText_eq_ok_iff
  | .array items =>
    rw [resolve]
    constructor
    · intro h
      obtain ⟨parts, hparts, rfl⟩ := map_ok h
      exact .array ((resolveItems_eq_ok_iff items parts).1 hparts)
    · rintro (- | - | hparts | ⟨-, harray⟩)
      · rw [(resolveItems_eq_ok_iff items _).2 hparts]
        rfl
      · exact absurd rfl (harray items)
  | .null | .bool _ | .number _ | .object _ =>
    constructor
    · intro h
      cases h
      exact .other (fun _ => nofun) fun _ => nofun
    · rintro (- | - | - | -)
      rfl

theorem resolveItems_eq_ok_iff (items parts : List Json) :
    vars.resolveItems items = .ok parts ↔ vars.StandAll items parts := by
  match items with
  | [] =>
    constructor
    · intro h
      cases h
      exact .nil
    · rintro ⟨⟩
      rfl
  | item :: rest =>
    rw [standAll_cons_iff, resolveItems]
    constructor
    · intro h
      split at h
      · cases h
      · rename_i one hone
        obtain ⟨others, hothers, rfl⟩ := map_ok h
        exact ⟨one, others, (resolve_eq_ok_iff item one).1 hone,
          (resolveItems_eq_ok_iff rest others).1 hothers, rfl⟩
    · rintro ⟨one, others, hone, hothers, rfl⟩
      rw [(resolve_eq_ok_iff item one).2 hone, (resolveItems_eq_ok_iff rest others).2 hothers]
      rfl

end

mutual

/-- **Resolution looks up the names that a document refers to, and nothing that the table holds.** -/
theorem resolve_congr (value : Json)
    (h : ∀ s ∈ value.texts, ∀ name, RefersTo s name → vars.get? name = vars'.get? name) :
    vars.resolve value = vars'.resolve value := by
  match value with
  | .string s =>
    rw [resolve, resolve, ofText, ofText]
    split
    · rfl
    · rename_i name hname
      rw [h s List.mem_cons_self name (variableName?_eq_some_iff.1 hname)]
  | .array items => rw [resolve, resolve, resolveItems_congr items h]
  | .null | .bool _ | .number _ | .object _ => rfl

theorem resolveItems_congr (items : List Json)
    (h : ∀ s ∈ Json.textsOfAll items, ∀ name, RefersTo s name → vars.get? name = vars'.get? name) :
    vars.resolveItems items = vars'.resolveItems items := by
  match items with
  | [] => rfl
  | item :: rest =>
    rw [resolveItems, resolveItems,
      resolve_congr item fun s hs => h s (List.mem_append_left _ hs),
      resolveItems_congr rest fun s hs => h s (List.mem_append_right _ hs)]

end

mutual

/-- **A document that refers to nothing stands for itself.** -/
theorem resolve_eq_self (value : Json) (h : ∀ s ∈ value.texts, ∀ name, ¬RefersTo s name) :
    vars.resolve value = .ok value := by
  match value with
  | .string s => exact ofText_eq_ok_iff.2 (.text (h s List.mem_cons_self))
  | .array items =>
    rw [resolve, resolveItems_eq_self items h]
    rfl
  | .null | .bool _ | .number _ | .object _ => rfl

theorem resolveItems_eq_self (items : List Json)
    (h : ∀ s ∈ Json.textsOfAll items, ∀ name, ¬RefersTo s name) :
    vars.resolveItems items = .ok items := by
  match items with
  | [] => rfl
  | item :: rest =>
    have hitem : ∀ s ∈ item.texts, ∀ name, ¬RefersTo s name := fun s hs => h s (List.mem_append_left _ hs)
    have hsingle : spliced item item = [item] := by
      cases item <;> rfl
    rw [resolveItems, resolve_eq_self item hitem,
      resolveItems_eq_self rest fun s hs => h s (List.mem_append_right _ hs)]
    show Except.ok (spliced item item ++ rest) = _
    rw [hsingle]
    rfl

end

/-! ## Errors -/

/-- Whether a text refers to a variable that is not in the table. -/
def lacks (vars : Variables) (s : String) : Bool :=
  match variableName? s with
  | some name => !vars.contains name
  | none => false

theorem lacks_iff {s : String} :
    vars.lacks s = true ↔ ∃ name, RefersTo s name ∧ vars.get? name = none := by
  simp only [← variableName?_eq_some_iff]
  unfold lacks
  cases variableName? s <;> simp [Dict.contains]

theorem ofText_outcome (s : String) :
    vars.lacks s = false ∧ (∃ result, vars.ofText s = .ok result) ∨
      vars.lacks s = true ∧ vars.ofText s = .error (.unknownVariable s) := by
  unfold lacks ofText
  cases variableName? s with
  | none => simp
  | some name => cases hget : vars.get? name <;> simp [Dict.contains, hget]

mutual

/-- **Resolution names the first text that refers to an unknown variable, and fails for nothing else.** -/
theorem resolve_outcome (value : Json) :
    value.texts.find? vars.lacks = none ∧ (∃ result, vars.resolve value = .ok result) ∨
      ∃ s, value.texts.find? vars.lacks = some s ∧ vars.resolve value = .error (.unknownVariable s) := by
  match value with
  | .string s =>
    rcases @ofText_outcome vars s with ⟨hknown, hok⟩ | ⟨hlacks, herror⟩
    · exact .inl ⟨by simp [Json.texts, hknown], hok⟩
    · exact .inr ⟨s, by simp [Json.texts, hlacks], herror⟩
  | .array items =>
    rw [resolve, Json.texts]
    rcases resolveItems_outcome items with ⟨hnone, parts, hparts⟩ | ⟨s, hs, herror⟩
    · exact .inl ⟨hnone, .array parts, by rw [hparts]; rfl⟩
    · exact .inr ⟨s, hs, by rw [herror]; rfl⟩
  | .null | .bool _ | .number _ | .object _ => exact .inl ⟨rfl, _, rfl⟩

theorem resolveItems_outcome (items : List Json) :
    (Json.textsOfAll items).find? vars.lacks = none ∧ (∃ parts, vars.resolveItems items = .ok parts) ∨
      ∃ s, (Json.textsOfAll items).find? vars.lacks = some s ∧
        vars.resolveItems items = .error (.unknownVariable s) := by
  match items with
  | [] => exact .inl ⟨rfl, [], rfl⟩
  | item :: rest =>
    rw [resolveItems, Json.textsOfAll, List.find?_append]
    rcases resolve_outcome item with ⟨hnone, one, hone⟩ | ⟨s, hs, herror⟩
    · rw [hnone, hone, Option.none_or]
      rcases resolveItems_outcome rest with ⟨hrest, parts, hparts⟩ | ⟨s, hs, herror⟩
      · exact .inl ⟨hrest, spliced item one ++ parts, by rw [hparts]; rfl⟩
      · exact .inr ⟨s, hs, by rw [herror]; rfl⟩
    · exact .inr ⟨s, by rw [hs]; rfl, by rw [herror]⟩

end

theorem resolve_eq_error_iff {value : Json} {error : ConditionError} :
    vars.resolve value = .error error ↔
      ∃ s, value.texts.find? vars.lacks = some s ∧ error = .unknownVariable s := by
  rcases @resolve_outcome vars value with ⟨hnone, result, hok⟩ | ⟨s, hs, herror⟩
  · simp [hnone, hok]
  · simp [hs, herror, eq_comm]

/-! ## The variables of a request -/

/-- A name outside the namespace of the path has the same value whatever the parameters are. -/
theorem get?_ofCaller_of_not_path {name : String} (h : ∀ param, name ≠ "path." ++ param)
    (caller : Caller) (roles : List String) (now : Instant) :
    (ofCaller caller roles now).get? name = (ofCaller { caller with path := ∅ } roles now).get? name := by
  have hnone : Entries.get? name
      (caller.path.entries.map fun entry => ("path." ++ entry.1, Json.string entry.2)).reverse = none := by
    refine Entries.get?_eq_none.2 fun entry hentry heq => ?_
    obtain ⟨param, -, rfl⟩ := List.mem_map.1 (List.mem_reverse.1 hentry)
    exact h param.1 heq.symm
  unfold ofCaller
  rw [Dict.get?_ofList, Dict.get?_ofList, List.reverse_append, Entries.get?_append, hnone]
  rfl

end Variables

/-! ## Conditions -/

namespace Condition

variable {vars vars' : Variables} {entity? : Option Entity}

mutual

/-- Tables that agree on the variables of a condition compile it alike. -/
theorem compile_congr (c : Condition)
    (h : ∀ leaf ∈ c.leaves, vars.resolve leaf.value = vars'.resolve leaf.value) :
    c.compile vars entity? = c.compile vars' entity? := by
  match c with
  | .always | .never => rfl
  | .and parts => rw [compile, compile, compileAll_congr parts h]
  | .or parts => rw [compile, compile, compileAll_congr parts h]
  | .not inner => rw [compile, compile, compile_congr inner h]
  | .compare leaf =>
    rw [compile, compile, Comparison.compile, Comparison.compile, h leaf List.mem_cons_self]

theorem compileAll_congr (parts : List Condition)
    (h : ∀ leaf ∈ leavesOfAll parts, vars.resolve leaf.value = vars'.resolve leaf.value) :
    compileAll vars entity? parts = compileAll vars' entity? parts := by
  match parts with
  | [] => rfl
  | part :: rest =>
    rw [compileAll, compileAll, compile_congr part fun leaf hleaf => h leaf (List.mem_append_left _ hleaf),
      compileAll_congr rest fun leaf hleaf => h leaf (List.mem_append_right _ hleaf)]

end

end Condition

namespace Variables

/-- **What callers choose is only ever a value.**

Of two requests that differ in the parameters of their paths only, a condition that mentions none of these
is compiled to the same predicate or the same error, and the identity that the table holds is that of the
caller. And whatever a table holds, a document is resolved to just what it stands for, by the names that it
mentions itself. A document without references is left as it is, and resolution fails exactly when a
reference names no variable, with the first such reference for its error. -/
theorem path_cannot_rewrite :
    (∀ (caller : Caller) (path : Dict String String) (roles : List String) (now : Instant),
      (∀ (entity? : Option Entity) (c : Condition),
        (∀ leaf ∈ c.leaves, ∀ param, ¬leaf.value.Mentions ("path." ++ param)) →
        c.compile (ofCaller { caller with path } roles now) entity? =
          c.compile (ofCaller caller roles now) entity?) ∧
      (ofCaller { caller with path } roles now).get? "user.id" = some (.string caller.user) ∧
      (ofCaller { caller with path } roles now).get? "user.roles" = some (.array (roles.map .string)) ∧
      (ofCaller { caller with path } roles now).get? "tenant.id" = some (.string caller.tenant)) ∧
    ∀ (vars : Variables) (value : Json),
      (∀ result, vars.resolve value = .ok result ↔ vars.Stands value result) ∧
      (∀ vars' : Variables, (∀ name, value.Mentions name → vars.get? name = vars'.get? name) →
        vars.resolve value = vars'.resolve value) ∧
      ((∀ name, ¬value.Mentions name) → vars.resolve value = .ok value) ∧
      ((∃ error, vars.resolve value = .error error) ↔
        ∃ s ∈ value.texts, ∃ name, RefersTo s name ∧ vars.get? name = none) ∧
      ∀ error, vars.resolve value = .error error →
        ∃ s, value.texts.find? vars.lacks = some s ∧ error = .unknownVariable s := by
  constructor
  · intro caller path roles now
    have hsame {name : String} (h : ∀ param, name ≠ "path." ++ param) :
        (ofCaller { caller with path } roles now).get? name =
          (ofCaller { caller with path := ∅ } roles now).get? name :=
      get?_ofCaller_of_not_path h { caller with path } roles now
    refine ⟨fun entity? c hpath => ?_, ?_, ?_, ?_⟩
    · refine Condition.compile_congr c fun leaf hleaf => resolve_congr _ fun s hs name hrefers => ?_
      have hnot (param : String) : name ≠ "path." ++ param := by
        rintro rfl
        exact hpath leaf hleaf param ⟨s, hs, hrefers⟩
      rw [hsame hnot, get?_ofCaller_of_not_path hnot caller]
    all_goals
      rw [hsame fun param heq => by simpa using congrArg (fun s => s.toList.head?) heq]
      rfl
  · intro vars value
    refine ⟨resolve_eq_ok_iff value, fun vars' hnames => ?_, fun hnone => ?_, ?_, fun error herror => ?_⟩
    · exact resolve_congr value fun s hs name hrefers => hnames name ⟨s, hs, hrefers⟩
    · exact resolve_eq_self value fun s hs name hrefers => hnone name ⟨s, hs, hrefers⟩
    · have hfound : (∃ error, vars.resolve value = .error error) ↔
          (value.texts.find? vars.lacks).isSome = true := by
        simp only [resolve_eq_error_iff, Option.isSome_iff_exists]
        exact ⟨fun ⟨_, s, hs, _⟩ => ⟨s, hs⟩, fun ⟨s, hs⟩ => ⟨_, s, hs, rfl⟩⟩
      rw [hfound, List.find?_isSome]
      simp only [lacks_iff]
    · exact resolve_eq_error_iff.1 herror

namespace RegionSample

/-- A path whose parameters are named and filled so as to look like the identity of someone else. -/
def path : Dict String String :=
  .ofList [("user.id", "eve"), ("id", "$user.id"), ("roles", "$user.roles"), ("tenant.id", "other")]

def caller : Caller := { tenant := "acme", user := "ann" }

def owned : Condition :=
  .or [.compare ⟨"owner", .eq, .string "$user.id"⟩,
    .not (.compare ⟨"team", .notAmong, .array [.string "$user.roles", .string "guest"]⟩)]

def table : Variables :=
  .ofList [("user.id", .string "$tenant.id"), ("user.roles", .array [.string "$path.id", .string "clerk"])]

def nested : Json := .array [.string "$user.roles", .array [.string "$user.id"], .string "$5.00"]

theorem owned_mentions (leaf : Comparison) (hleaf : leaf ∈ owned.leaves) (param : String) :
    ¬leaf.value.Mentions ("path." ++ param) := by
  rintro ⟨s, hs, -, -, -, -, -, hname⟩
  have hmem : s ∈ ["$user.id", "$user.roles", "guest"] := by
    have hleaves : owned.leaves = [⟨"owner", .eq, .string "$user.id"⟩,
      ⟨"team", .notAmong, .array [.string "$user.roles", .string "guest"]⟩] := rfl
    simp only [hleaves, List.mem_cons, List.not_mem_nil, or_false] at hleaf
    obtain rfl | rfl := hleaf
    · exact List.mem_of_mem_take (i := 1) hs
    · exact List.mem_of_mem_drop (i := 1) hs
  subst hname
  simp only [List.mem_cons, List.not_mem_nil, or_false] at hmem
  obtain h | h | h := hmem <;> simpa using congrArg (fun s => s.toList.take 2) h

end RegionSample

open RegionSample in
/-- A path full of intrusive parameters leaves the condition as it is. References inside the table come out
as they are, opened up only where a reference to an array is an item, with any other variable changed; a
price is no reference, and a parameter that is not there is an error. -/
theorem intrusive_path_ignored :
    owned.compile (ofCaller { caller with path } ["sales"] .epoch) none =
      owned.compile (ofCaller caller ["sales"] .epoch) none ∧
    table.resolve nested = .ok (.array [.string "$path.id", .string "clerk",
      .array [.string "$tenant.id"], .string "$5.00"]) ∧
    table.resolve nested = resolve (table.insert "tenant.id" (.string "acme")) nested ∧
    table.resolve (.string "$5.00") = .ok (.string "$5.00") ∧
    ∃ s, [("$path.id" : String)].find? table.lacks = some s ∧
      ConditionError.unknownVariable "$path.id" = .unknownVariable s := by
  obtain ⟨hcondition, hresolve⟩ := path_cannot_rewrite
  have hid : RefersTo "$user.id" "user.id" := ⟨"user", "id", by decide⟩
  have hroles : RefersTo "$user.roles" "user.roles" := ⟨"user", "roles", by decide⟩
  have hprice : ∀ name, ¬RefersTo "$5.00" name := variableName?_eq_none_iff.1 (by decide +kernel)
  refine ⟨(hcondition caller path ["sales"] .epoch).1 none owned owned_mentions, ?_, ?_, ?_, ?_⟩
  · have hheld : table.get? "user.roles" = some (.array [.string "$path.id", .string "clerk"]) := rfl
    refine ((hresolve table nested).1 _).2 (.array ?_)
    refine .spliced hroles hheld ?_
    refine .single (.array ?_) (fun _ _ _ h => by cases h) ?_
    · exact .single (.reference hid rfl) (fun _ _ _ _ _ h => by cases h) .nil
    · exact .single (.text hprice) (fun _ _ _ _ _ h => by cases h) .nil
  · refine (hresolve table nested).2.1 _ fun name hmention => ?_
    rw [Dict.get?_insert, if_neg]
    rintro rfl
    obtain ⟨s, hs, hrefers⟩ := hmention
    have hname := variableName?_eq_some_iff.2 hrefers
    simp only [nested, Json.texts, Json.textsOfAll, List.append_nil, List.singleton_append, List.mem_cons,
      List.not_mem_nil, or_false] at hs
    obtain rfl | rfl | rfl := hs <;> exact absurd hname (by decide +kernel)
  · refine (hresolve table (.string "$5.00")).2.2.1 fun name hmention => ?_
    obtain ⟨s, hs, hrefers⟩ := hmention
    obtain rfl := List.mem_singleton.1 hs
    exact hprice name hrefers
  · refine (hresolve table (.string "$path.id")).2.2.2.2 _ ?_
    have hpath : variableName? "$path.id" = some "path.id" := by decide +kernel
    rw [resolve, ofText, hpath]
    rfl

end Variables

end Dossier
