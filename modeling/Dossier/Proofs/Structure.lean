import Dossier.Json.Structure
import Dossier.Proofs.Dict

/-!
# Structures read back

A reader undoes a writer if it gives back whatever is written (`Json.ReadsBack`). The writers of lists,
dictionaries and optional parts are undone when those of their items are, and a writer that is undone tells
any two values apart (`Json.ReadsBack.injective`).
-/

namespace Dossier

/-- A dictionary is the one of its entries. -/
theorem Dict.ofList_entries {κ α : Type} [Ord κ] [DecidableEq κ] [Std.TransOrd κ] [Std.LawfulEqOrd κ]
    (d : Dict κ α) : ofList d.entries = d :=
  Dict.ext fun key => by rw [Dict.get?_ofList, d.sorted.get?_reverse]; rfl

namespace Json

variable {α : Type} {read : Json → Option α} {write : α → Json}

/-- What is written is read back. -/
def ReadsBack (read : Json → Option α) (write : α → Json) : Prop := ∀ a, read (write a) = some a

theorem ReadsBack.injective (h : ReadsBack read write) : Function.Injective write := by
  intro a b hab
  have hsame : some a = some b := by rw [← h a, ← h b, hab]
  exact Option.some.inj hsame

/-- The parts of an object are what its members have under their names, the last of a name. -/
theorem parts?_ofMembers (names : List String) (members : List (String × Json)) :
    (ofMembers members).parts? names = some (names.map fun name => Entries.get? name members.reverse) := by
  unfold ofMembers parts?
  simp only [Entries.get?_ofList]

/-- Items that are each read back, read one after the other. -/
theorem mapM_map_of_readsBack {β γ : Type} {f : γ → Option β} {g : β → γ} (h : ∀ b, f (g b) = some b)
    (bs : List β) : (bs.map g).mapM f = some bs := by
  induction bs with
  | nil => rfl
  | cons b rest ih =>
    rw [List.map_cons, List.mapM_cons, h b, ih]
    rfl

theorem ReadsBack.list (h : ReadsBack read write) :
    ReadsBack (list? read) fun as => .array (as.map write) :=
  mapM_map_of_readsBack h

theorem ReadsBack.dict (h : ReadsBack read write) :
    ReadsBack (dict? read) fun d => .ofDict (d.mapEntries fun _ a => write a) := by
  intro d
  have hmembers := mapM_map_of_readsBack
    (f := fun entry : String × Json => (read entry.2).map fun a => (entry.1, a))
    (g := fun entry : String × α => (entry.1, write entry.2))
    (fun entry => by simp only [h entry.2, Option.map_some]) d.entries
  calc
    _ = (some d.entries).map Dict.ofList := congrArg (Option.map Dict.ofList) hmembers
    _ = some d := by rw [Option.map_some, Dict.ofList_entries]

/-- A part that may be missing is written as null then, so nothing else may be. -/
theorem ReadsBack.optional (h : ReadsBack read write) (hnull : ∀ a, write a ≠ .null) :
    ReadsBack (nullable? read) fun part => (part.map write).getD .null := by
  intro part
  cases part with
  | none => rfl
  | some a =>
    show nullable? read (write a) = _
    unfold nullable?
    split
    · next hwritten => exact absurd hwritten (hnull a)
    · rw [h a]
      rfl

theorem readsBack_text : ReadsBack text? .string := fun _ => rfl

end Json

end Dossier
