/-!
# Dictionaries

Finite maps as lists of entries in strictly ascending key order. Each map has one representation, so
equal maps are equal values, and walking a map goes by key.

The functions on plain entry lists (`Entries`) are shared with documents, whose objects are such
lists without the proof of order.
-/

namespace Dossier

namespace Entries

variable {κ α β : Type}

def get? [DecidableEq κ] (key : κ) : List (κ × α) → Option α
  | [] => none
  | (k, v) :: rest => if key = k then some v else get? key rest

/-- Puts a value under a key, in the place its order gives it, replacing an older one. -/
def insert [Ord κ] (key : κ) (value : α) : List (κ × α) → List (κ × α)
  | [] => [(key, value)]
  | (k, v) :: rest =>
    match compare key k with
    | .lt => (key, value) :: (k, v) :: rest
    | .eq => (key, value) :: rest
    | .gt => (k, v) :: insert key value rest

def erase [DecidableEq κ] (key : κ) (entries : List (κ × α)) : List (κ × α) :=
  entries.filter fun entry => decide (entry.1 ≠ key)

/-- The entries of a list in key order; of two with one key the later one stays. -/
def ofList [Ord κ] (entries : List (κ × α)) : List (κ × α) :=
  entries.foldl (fun acc (k, v) => insert k v acc) []

/-- Entries in strictly ascending key order. -/
def Sorted [Ord κ] (entries : List (κ × α)) : Prop :=
  entries.Pairwise fun a b => compare a.1 b.1 = .lt

theorem mem_insert [Ord κ] {key : κ} {value : α} {entry : κ × α} {entries : List (κ × α)}
    (h : entry ∈ insert key value entries) : entry = (key, value) ∨ entry ∈ entries := by
  induction entries with
  | nil => simpa [insert] using h
  | cons head rest ih =>
    obtain ⟨k, v⟩ := head
    rw [insert] at h
    split at h <;> simp only [List.mem_cons] at h ⊢
    · exact h
    · rcases h with h | h
      · exact Or.inl h
      · exact Or.inr (Or.inr h)
    · rcases h with h | h
      · exact Or.inr (Or.inl h)
      · rcases ih h with h | h
        · exact Or.inl h
        · exact Or.inr (Or.inr h)

theorem Sorted.insert [Ord κ] [Std.TransOrd κ] [Std.LawfulEqOrd κ] (key : κ) (value : α)
    {entries : List (κ × α)} (h : Sorted entries) : Sorted (insert key value entries) := by
  induction entries with
  | nil => simp [Entries.insert, Sorted]
  | cons head rest ih =>
    obtain ⟨k, v⟩ := head
    have hrest := List.pairwise_cons.1 h
    rw [Entries.insert]
    split <;> rename_i hc
    · refine List.pairwise_cons.2 ⟨fun entry hm => ?_, h⟩
      rcases List.mem_cons.1 hm with rfl | hm
      · exact hc
      · exact Std.TransCmp.lt_trans hc (hrest.1 entry hm)
    · obtain rfl : key = k := Std.LawfulEqOrd.eq_of_compare hc
      exact List.pairwise_cons.2 hrest
    · refine List.pairwise_cons.2 ⟨fun entry hm => ?_, ih hrest.2⟩
      rcases mem_insert hm with rfl | hm
      · exact Std.OrientedCmp.lt_of_gt hc
      · exact hrest.1 entry hm

theorem Sorted.erase [Ord κ] [DecidableEq κ] (key : κ) {entries : List (κ × α)} (h : Sorted entries) :
    Sorted (erase key entries) :=
  List.Pairwise.sublist List.filter_sublist h

theorem Sorted.ofList [Ord κ] [Std.TransOrd κ] [Std.LawfulEqOrd κ] (entries : List (κ × α)) :
    Sorted (ofList entries) := by
  unfold Entries.ofList
  suffices h : ∀ acc : List (κ × α), Sorted acc →
      Sorted (entries.foldl (fun acc (k, v) => Entries.insert k v acc) acc) from h [] List.Pairwise.nil
  induction entries with
  | nil => exact fun _ h => h
  | cons head rest ih => exact fun acc h => ih _ (h.insert head.1 head.2)

theorem Sorted.mapValues [Ord κ] (f : κ → α → β) {entries : List (κ × α)} (h : Sorted entries) :
    Sorted (entries.map fun entry => (entry.1, f entry.1 entry.2)) := by
  unfold Sorted
  rw [List.pairwise_map]
  exact h

end Entries

/-- A finite map. -/
structure Dict (κ : Type) [Ord κ] (α : Type) where
  entries : List (κ × α)
  sorted : Entries.Sorted entries

namespace Dict

variable {κ α β : Type} [Ord κ]

instance [DecidableEq κ] [DecidableEq α] : DecidableEq (Dict κ α) := fun a b =>
  if h : a.entries = b.entries then
    .isTrue (by cases a; cases b; cases h; rfl)
  else .isFalse fun e => h (congrArg entries e)

def empty : Dict κ α := ⟨[], List.Pairwise.nil⟩

instance : EmptyCollection (Dict κ α) := ⟨empty⟩

instance : Inhabited (Dict κ α) := ⟨empty⟩

def get? [DecidableEq κ] (d : Dict κ α) (key : κ) : Option α := Entries.get? key d.entries

def contains [DecidableEq κ] (d : Dict κ α) (key : κ) : Bool := (d.get? key).isSome

/-- The keys in ascending order. -/
def keys (d : Dict κ α) : List κ := d.entries.map (·.1)

def values (d : Dict κ α) : List α := d.entries.map (·.2)

def size (d : Dict κ α) : Nat := d.entries.length

/-- Puts a value under a key, replacing an older one. -/
def insert [Std.TransOrd κ] [Std.LawfulEqOrd κ] (d : Dict κ α) (key : κ) (value : α) : Dict κ α :=
  ⟨Entries.insert key value d.entries, d.sorted.insert key value⟩

def erase [DecidableEq κ] (d : Dict κ α) (key : κ) : Dict κ α :=
  ⟨Entries.erase key d.entries, d.sorted.erase key⟩

/-- The map of a list of entries; of two with one key the later one stays. -/
def ofList [Std.TransOrd κ] [Std.LawfulEqOrd κ] (entries : List (κ × α)) : Dict κ α :=
  ⟨Entries.ofList entries, Entries.Sorted.ofList entries⟩

/-- Changes each value by a function of its key and itself. -/
def mapEntries (f : κ → α → β) (d : Dict κ α) : Dict κ β :=
  ⟨d.entries.map fun entry => (entry.1, f entry.1 entry.2), d.sorted.mapValues f⟩

def filter (keep : κ → α → Bool) (d : Dict κ α) : Dict κ α :=
  ⟨d.entries.filter fun entry => keep entry.1 entry.2, List.Pairwise.sublist List.filter_sublist d.sorted⟩

end Dict

end Dossier
