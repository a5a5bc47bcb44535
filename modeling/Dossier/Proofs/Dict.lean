import Dossier.Dict

/-!
# Looking up in dictionaries

What is found under a key after an insertion, a removal, a filter or a change of every value. The
facts about plain entry lists (`Entries`) come first, since objects of documents use them too;
those about dictionaries follow from them.

A list of entries in ascending order is determined by what is found under each key (`Sorted.ext`),
so two dictionaries with equal look-ups are equal.
-/

namespace Dossier

namespace Entries

variable {κ α β : Type} [DecidableEq κ]

/-! ## Membership -/

omit [DecidableEq κ] in
theorem ne_of_compare_ne [Ord κ] [Std.LawfulEqOrd κ] {a b : κ} (h : compare a b ≠ .eq) : a ≠ b := by
  rintro rfl
  have hself : compare a a = .eq := Std.ReflCmp.compare_self
  exact h hself

theorem mem_of_get? {key : κ} {value : α} {entries : List (κ × α)}
    (h : get? key entries = some value) :
    (key, value) ∈ entries := by
  induction entries with
  | nil => simp [get?] at h
  | cons entry rest ih =>
    obtain ⟨k, v⟩ := entry
    rw [get?] at h
    split at h
    · rename_i hk
      cases h
      exact hk ▸ List.mem_cons_self
    · exact List.mem_cons_of_mem _ (ih h)

theorem get?_eq_none {key : κ} {entries : List (κ × α)} :
    get? key entries = none ↔ ∀ entry ∈ entries, entry.1 ≠ key := by
  induction entries with
  | nil => simp [get?]
  | cons entry rest ih =>
    obtain ⟨k, v⟩ := entry
    rw [get?]
    split
    · rename_i hk
      simp [hk]
    · rename_i hk
      rw [ih]
      simp only [List.mem_cons, forall_eq_or_imp]
      exact ⟨fun h => ⟨fun e => hk e.symm, h⟩, fun h => h.2⟩

/-- Keys in ascending order are distinct, so an entry is what is found under its key. -/
theorem Sorted.get?_of_mem [Ord κ] [Std.TransOrd κ] [Std.LawfulEqOrd κ] {key : κ} {value : α}
    {entries : List (κ × α)} (hs : Sorted entries) (h : (key, value) ∈ entries) :
    get? key entries = some value := by
  induction entries with
  | nil => simp at h
  | cons entry rest ih =>
    obtain ⟨k, v⟩ := entry
    have hcons := List.pairwise_cons.1 hs
    rw [get?]
    rcases List.mem_cons.1 h with heq | hmem
    · cases heq
      simp
    · have hlt : compare k key = .lt := hcons.1 _ hmem
      have hne : k ≠ key := ne_of_compare_ne (by simp [hlt])
      rw [if_neg hne.symm]
      exact ih hcons.2 hmem

theorem Sorted.mem_iff [Ord κ] [Std.TransOrd κ] [Std.LawfulEqOrd κ] {key : κ} {value : α}
    {entries : List (κ × α)} (hs : Sorted entries) :
    (key, value) ∈ entries ↔ get? key entries = some value :=
  ⟨hs.get?_of_mem, mem_of_get?⟩

theorem Sorted.get?_reverse [Ord κ] [Std.TransOrd κ] [Std.LawfulEqOrd κ]
    {entries : List (κ × α)} (hs : Sorted entries) (key : κ) :
    get? key entries.reverse = get? key entries := by
  cases hreverse : get? key entries.reverse with
  | some value => exact (hs.get?_of_mem (List.mem_reverse.1 (mem_of_get? hreverse))).symm
  | none =>
    rw [get?_eq_none] at hreverse
    exact (get?_eq_none.2 fun entry hentry => hreverse entry (List.mem_reverse.2 hentry)).symm

/-! ## Operations -/

theorem get?_insert [Ord κ] [Std.TransOrd κ] [Std.LawfulEqOrd κ] (key' key : κ) (value : α)
    (entries : List (κ × α)) :
    get? key' (insert key value entries) =
      if key' = key then some value else get? key' entries := by
  induction entries with
  | nil => simp [insert, get?]
  | cons entry rest ih =>
    obtain ⟨k, v⟩ := entry
    rw [insert]
    split
    · simp only [get?]
    · rename_i hc
      obtain rfl : key = k := Std.LawfulEqOrd.eq_of_compare hc
      simp only [get?]
      split <;> rfl
    · rename_i hc
      have hne : key ≠ k := ne_of_compare_ne (by simp [hc])
      simp only [get?, ih]
      by_cases hk : key' = k
      · subst hk
        simp [hne.symm]
      · simp [hk]

theorem get?_erase (key' key : κ) (entries : List (κ × α)) :
    get? key' (erase key entries) = if key' = key then none else get? key' entries := by
  induction entries with
  | nil => simp [erase, get?]
  | cons entry rest ih =>
    obtain ⟨k, v⟩ := entry
    unfold erase at ih ⊢
    rw [List.filter_cons]
    split
    · rename_i hk
      have hk : k ≠ key := by simpa using hk
      simp only [get?, ih]
      by_cases hkey : key' = k
      · subst hkey
        simp [hk]
      · simp [hkey]
    · rename_i hk
      obtain rfl : k = key := by simpa using hk
      rw [ih, get?]
      split <;> rfl

/-- A key that is new makes one entry more. -/
theorem Sorted.length_insert [Ord κ] [Std.TransOrd κ] [Std.LawfulEqOrd κ] (key : κ) (value : α)
    {entries : List (κ × α)} (hs : Sorted entries) :
    (Entries.insert key value entries).length =
      if (get? key entries).isSome then entries.length else entries.length + 1 := by
  induction entries with
  | nil => rfl
  | cons entry rest ih =>
    obtain ⟨k, v⟩ := entry
    have hcons := List.pairwise_cons.1 hs
    rw [Entries.insert]
    split <;> rename_i hc
    · -- the key comes before all that are there
      have habsent : get? key ((k, v) :: rest) = none := by
        refine get?_eq_none.2 fun entry hentry => ?_
        rcases List.mem_cons.1 hentry with rfl | hentry
        · exact (ne_of_compare_ne (by simp [hc])).symm
        · exact (ne_of_compare_ne (by simp [Std.TransCmp.lt_trans hc (hcons.1 entry hentry)])).symm
      simp [habsent]
    · obtain rfl : key = k := Std.LawfulEqOrd.eq_of_compare hc
      simp [get?]
    · have hne : key ≠ k := ne_of_compare_ne (by simp [hc])
      rw [List.length_cons, ih hcons.2, get?, if_neg hne]
      split <;> rfl

/-- What a filter that looks at keys only leaves under a key. -/
theorem get?_filter_key (keep : κ → Bool) (key : κ) (entries : List (κ × α)) :
    get? key (entries.filter fun entry => keep entry.1) =
      if keep key then get? key entries else none := by
  induction entries with
  | nil => simp [get?]
  | cons entry rest ih =>
    obtain ⟨k, v⟩ := entry
    rw [List.filter_cons]
    split
    · rename_i hk
      simp only [get?, ih]
      by_cases hkey : key = k
      · subst hkey
        simp [hk]
      · simp [hkey]
    · rename_i hk
      rw [ih, get?]
      by_cases hkey : key = k
      · subst hkey
        simp [hk]
      · simp [hkey]

theorem get?_map (f : κ → α → β) (key : κ) (entries : List (κ × α)) :
    get? key (entries.map fun entry => (entry.1, f entry.1 entry.2)) =
      (get? key entries).map (f key) := by
  induction entries with
  | nil => rfl
  | cons entry rest ih =>
    obtain ⟨k, v⟩ := entry
    simp only [List.map_cons, get?, ih]
    by_cases hkey : key = k
    · subst hkey
      simp
    · simp [hkey]

theorem get?_append (key : κ) (entries others : List (κ × α)) :
    get? key (entries ++ others) = (get? key entries <|> get? key others) := by
  induction entries with
  | nil => simp [get?]
  | cons entry rest ih =>
    obtain ⟨k, v⟩ := entry
    simp only [List.cons_append, get?, ih]
    split <;> simp

/-- Entries put into a list one after the other: the last of a key stays. -/
theorem get?_foldl_insert [Ord κ] [Std.TransOrd κ] [Std.LawfulEqOrd κ] (key : κ)
    (entries acc : List (κ × α)) :
    get? key (entries.foldl (fun acc (k, v) => insert k v acc) acc) =
      (get? key entries.reverse <|> get? key acc) := by
  induction entries generalizing acc with
  | nil => simp [get?]
  | cons entry rest ih =>
    obtain ⟨k, v⟩ := entry
    simp only [List.foldl_cons, ih, List.reverse_cons, get?_append, get?_insert, get?]
    cases get? key rest.reverse with
    | some w => simp
    | none => by_cases hkey : key = k <;> simp [hkey]

theorem get?_ofList [Ord κ] [Std.TransOrd κ] [Std.LawfulEqOrd κ] (key : κ)
    (entries : List (κ × α)) :
    get? key (ofList entries) = get? key entries.reverse := by
  rw [ofList, get?_foldl_insert]
  simp [get?]

omit [DecidableEq κ] in
/-- Entries in ascending order stay so where values are changed or entries left out. -/
theorem Sorted.filterMap [Ord κ] (g : κ → α → Option β) {entries : List (κ × α)} (hs : Sorted entries) :
    Sorted (entries.filterMap fun entry => (g entry.1 entry.2).map fun value => (entry.1, value)) := by
  refine List.pairwise_filterMap.2 (hs.imp fun {a b} h => ?_)
  simp only [Option.map_eq_some_iff]
  rintro _ ⟨v, -, rfl⟩ _ ⟨w, -, rfl⟩
  exact h

theorem Sorted.get?_filterMap [Ord κ] [Std.TransOrd κ] [Std.LawfulEqOrd κ] (g : κ → α → Option β)
    {entries : List (κ × α)} (hs : Sorted entries) (key : κ) :
    get? key (entries.filterMap fun entry => (g entry.1 entry.2).map fun value => (entry.1, value)) =
      (get? key entries).bind (g key) := by
  apply Option.ext
  intro value
  rw [← (hs.filterMap g).mem_iff, Option.bind_eq_some_iff]
  simp only [List.mem_filterMap, Option.map_eq_some_iff, Prod.exists, Prod.mk.injEq, ← hs.mem_iff]
  constructor
  · rintro ⟨k, a, hmem, v, hv, rfl, rfl⟩
    exact ⟨a, hmem, hv⟩
  · rintro ⟨a, hmem, hv⟩
    exact ⟨key, a, hmem, value, hv, rfl, rfl⟩

/-! ## Distinct keys -/

omit [DecidableEq κ] in
/-- A new key adds its entry to those that are there. -/
theorem insert_perm [Ord κ] [Std.LawfulEqOrd κ] {key : κ} (value : α) {entries : List (κ × α)}
    (hnew : ∀ entry ∈ entries, entry.1 ≠ key) :
    (insert key value entries).Perm ((key, value) :: entries) := by
  induction entries with
  | nil => exact .refl _
  | cons entry rest ih =>
    obtain ⟨k, v⟩ := entry
    rw [insert]
    split
    · exact .refl _
    · next hc => exact absurd (Std.LawfulEqOrd.eq_of_compare hc).symm (hnew _ List.mem_cons_self)
    · have hrest := ih fun entry hentry => hnew entry (List.mem_cons_of_mem _ hentry)
      exact (hrest.cons (k, v)).trans (.swap ..)

omit [DecidableEq κ] in
theorem foldl_insert_perm [Ord κ] [Std.LawfulEqOrd κ] {entries acc : List (κ × α)}
    (hnodup : (entries.map Prod.fst).Nodup)
    (hnew : ∀ entry ∈ acc, entry.1 ∉ entries.map Prod.fst) :
    (entries.foldl (fun acc (k, v) => insert k v acc) acc).Perm (entries ++ acc) := by
  induction entries generalizing acc with
  | nil => exact .refl _
  | cons entry rest ih =>
    obtain ⟨k, v⟩ := entry
    rw [List.map_cons, List.nodup_cons] at hnodup
    have hinsert : (insert k v acc).Perm ((k, v) :: acc) :=
      insert_perm v fun entry hentry hkey => hnew entry hentry (hkey ▸ List.mem_cons_self)
    have hrest := ih hnodup.2 fun entry hentry => by
      rcases List.mem_cons.1 (hinsert.mem_iff.1 hentry) with rfl | hold
      · exact hnodup.1
      · exact fun hkey => hnew entry hold (List.mem_cons_of_mem _ hkey)
    exact (hrest.trans (hinsert.append_left rest)).trans List.perm_middle

omit [DecidableEq κ] in
/-- **Distinct keys keep all their entries.** -/
theorem ofList_perm [Ord κ] [Std.LawfulEqOrd κ] {entries : List (κ × α)}
    (hnodup : (entries.map Prod.fst).Nodup) :
    (ofList entries).Perm entries := by
  have hperm := foldl_insert_perm hnodup fun entry hentry => absurd hentry List.not_mem_nil
  rwa [List.append_nil] at hperm

/-! ## Extensionality -/

/-- Entries in ascending order are determined by what is found under each key. -/
theorem Sorted.ext [Ord κ] [Std.TransOrd κ] [Std.LawfulEqOrd κ] {entries others : List (κ × α)}
    (hs : Sorted entries) (ho : Sorted others) (h : ∀ key, get? key entries = get? key others) :
    entries = others := by
  have hmem : ∀ entry, entry ∈ entries ↔ entry ∈ others := fun ⟨key, value⟩ => by
    rw [hs.mem_iff, ho.mem_iff, h key]
  have hnodup : ∀ {l : List (κ × α)}, Sorted l → l.Nodup := fun hl => by
    refine List.Pairwise.imp (fun {a b} hlt => ?_) hl
    exact fun heq => ne_of_compare_ne (by simp [hlt]) (congrArg Prod.fst heq)
  refine List.Perm.eq_of_pairwise ?_
    (show entries.Pairwise fun a b => compare a.1 b.1 = .lt from hs) ho
    ((List.perm_ext_iff_of_nodup (hnodup hs) (hnodup ho)).2 hmem)
  intro a b _ _ hab hba
  exact absurd hba (Std.OrientedCmp.not_lt_of_lt hab)

end Entries

namespace Dict

variable {κ α β : Type} [Ord κ]

section

variable [DecidableEq κ]

@[simp] theorem get?_empty (key : κ) : (∅ : Dict κ α).get? key = none := rfl

theorem get?_erase (d : Dict κ α) (key key' : κ) :
    (d.erase key).get? key' = if key' = key then none else d.get? key' :=
  Entries.get?_erase ..

theorem entries_foldl_erase (d : Dict κ α) (keys : List κ) :
    (keys.foldl erase d).entries = keys.foldl (fun acc key => Entries.erase key acc) d.entries := by
  induction keys generalizing d with
  | nil => rfl
  | cons key keys ih => exact ih _

theorem get?_foldl_erase (d : Dict κ α) (keys : List κ) (key : κ) :
    (keys.foldl erase d).get? key = if key ∈ keys then none else d.get? key := by
  induction keys generalizing d with
  | nil => simp
  | cons k keys ih =>
    rw [List.foldl_cons, ih, get?_erase]
    by_cases hkey : key = k <;> simp [hkey]

theorem get?_mapEntries (f : κ → α → β) (d : Dict κ α) (key : κ) :
    (d.mapEntries f).get? key = (d.get? key).map (f key) :=
  Entries.get?_map ..

variable [Std.TransOrd κ] [Std.LawfulEqOrd κ]

theorem mem_entries {d : Dict κ α} {key : κ} {value : α} :
    (key, value) ∈ d.entries ↔ d.get? key = some value :=
  d.sorted.mem_iff

theorem mem_values {d : Dict κ α} {value : α} :
    value ∈ d.values ↔ ∃ key, d.get? key = some value := by
  simp only [values, List.mem_map]
  constructor
  · rintro ⟨⟨key, _⟩, hmem, rfl⟩
    exact ⟨key, mem_entries.1 hmem⟩
  · rintro ⟨key, h⟩
    exact ⟨(key, value), mem_entries.2 h, rfl⟩

theorem get?_filter (d : Dict κ α) (keep : κ → α → Bool) (key : κ) :
    (d.filter keep).get? key = (d.get? key).filter (keep key) := by
  apply Option.ext
  intro value
  rw [← mem_entries, Option.filter_eq_some_iff, ← mem_entries]
  exact List.mem_filter

theorem get?_insert (d : Dict κ α) (key : κ) (value : α) (key' : κ) :
    (d.insert key value).get? key' = if key' = key then some value else d.get? key' :=
  Entries.get?_insert ..

theorem size_insert (d : Dict κ α) (key : κ) (value : α) :
    (d.insert key value).size = if (d.get? key).isSome then d.size else d.size + 1 :=
  d.sorted.length_insert key value

theorem get?_ofList (entries : List (κ × α)) (key : κ) :
    (ofList entries).get? key = Entries.get? key entries.reverse :=
  Entries.get?_ofList ..

omit [DecidableEq κ] in
theorem entries_foldl_insert (d : Dict κ α) (added : List (κ × α)) :
    (added.foldl (fun d entry => d.insert entry.1 entry.2) d).entries =
      added.foldl (fun acc entry => Entries.insert entry.1 entry.2 acc) d.entries := by
  induction added generalizing d with
  | nil => rfl
  | cons entry added ih => exact ih _

theorem mem_keys {d : Dict κ α} {key : κ} : key ∈ d.keys ↔ ∃ value, d.get? key = some value := by
  simp only [keys, List.mem_map]
  constructor
  · rintro ⟨⟨_, value⟩, hmem, rfl⟩
    exact ⟨value, mem_entries.1 hmem⟩
  · rintro ⟨value, h⟩
    exact ⟨(key, value), mem_entries.2 h, rfl⟩

/-- A dictionary made of a list has the keys of the list. -/
theorem exists_get?_ofList {entries : List (κ × α)} {key : κ} :
    (∃ value, (ofList entries).get? key = some value) ↔ ∃ entry ∈ entries, entry.1 = key := by
  rw [get?_ofList, ← Option.isSome_iff_exists, Option.isSome_iff_ne_none, ne_eq,
    Entries.get?_eq_none]
  simp

/-- A dictionary that gives each key of a list what a function makes of it. -/
theorem get?_ofList_map (g : κ → α) {ks : List κ} {key : κ} (h : key ∈ ks) :
    (ofList (ks.map fun k => (k, g k))).get? key = some (g key) := by
  obtain ⟨value, hvalue⟩ : ∃ value, (ofList (ks.map fun k => (k, g k))).get? key = some value :=
    exists_get?_ofList.2 ⟨(key, g key), List.mem_map_of_mem h, rfl⟩
  have hmem := hvalue
  rw [get?_ofList] at hmem
  have hentry := List.mem_reverse.1 (Entries.mem_of_get? hmem)
  obtain ⟨k, -, hk⟩ := List.mem_map.1 hentry
  cases hk
  exact hvalue

theorem ext {d d' : Dict κ α} (h : ∀ key, d.get? key = d'.get? key) : d = d' := by
  cases d with
  | mk entries hs =>
    cases d' with
    | mk others ho =>
      have := hs.ext ho h
      subst this
      rfl

/-- Dictionaries that have values under the same keys walk through the same keys. -/
theorem keys_eq {d : Dict κ α} {d' : Dict κ β}
    (h : ∀ key, (d.get? key).isSome = (d'.get? key).isSome) : d.keys = d'.keys := by
  have hblank : d.mapEntries (fun _ _ => ()) = d'.mapEntries fun _ _ => () := by
    refine Dict.ext fun key => ?_
    have hkey := h key
    rw [get?_mapEntries, get?_mapEntries]
    generalize d.get? key = found at hkey ⊢
    generalize d'.get? key = found' at hkey ⊢
    cases found <;> cases found' <;> first | rfl | cases hkey
  have hkeys {γ : Type} (e : Dict κ γ) : (e.mapEntries fun _ _ => ()).keys = e.keys :=
    List.map_map ..
  rw [← hkeys d, ← hkeys d', hblank]

end

end Dict

end Dossier
