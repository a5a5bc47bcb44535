import Dossier.Proofs.CallRules
import Dossier.Proofs.Dict
import Dossier.Service.Payload

/-!
# What a payload becomes

The changes that a payload asks for are gathered field by field. `Gathered` says what they are:
each change stands under the name of a field that the payload has a member for, and is what the
field makes of this member; no member of a field is passed over.

The only demands on the way are those that look for the target of a lookup.
-/

namespace Dossier

/-- The changes that the members of a payload ask for, as far as the given fields go. -/
structure Gathered (members : List (String × Json)) (fields : List Field) (changes : Changes) :
    Prop where
  sound : ∀ {name change}, changes.get? name = some change → ∃ f ∈ fields, f.name = name ∧
    ∃ raw, Entries.get? name members = some raw ∧ f.convert raw = .ok change ∧
      (f.required = true → raw.isBlank = false)
  complete : ∀ f ∈ fields, (Entries.get? f.name members).isSome → (changes.get? f.name).isSome

namespace Gathered

variable {members : List (String × Json)} {fields : List Field} {changes : Changes} {f : Field}

theorem nil : Gathered members [] ∅ := ⟨fun h => by simp at h, by simp⟩

/-- A field that the payload says nothing about. -/
theorem skip (h : Gathered members fields changes) (hf : Entries.get? f.name members = none) :
    Gathered members (fields ++ [f]) changes where
  sound hc := by
    obtain ⟨g, hg, rest⟩ := h.sound hc
    exact ⟨g, List.mem_append_left _ hg, rest⟩
  complete g hg hsome := by
    rcases List.mem_append.1 hg with hg | hg
    · exact h.complete g hg hsome
    · rw [List.mem_singleton.1 hg, hf] at hsome
      cases hsome

/-- A field with a member of the payload, which is converted. -/
theorem add (h : Gathered members fields changes) {raw : Json} {value : Option Value}
    (hraw : Entries.get? f.name members = some raw) (hconv : f.convert raw = .ok value)
    (hblank : f.required = true → raw.isBlank = false) :
    Gathered members (fields ++ [f]) (changes.insert f.name value) where
  sound {name change} hc := by
    rw [Dict.get?_insert] at hc
    split at hc
    · rename_i hname
      cases hc
      exact ⟨f, by simp, hname.symm, raw, hname ▸ hraw, hconv, hblank⟩
    · obtain ⟨g, hg, rest⟩ := h.sound hc
      exact ⟨g, List.mem_append_left _ hg, rest⟩
  complete g hg hsome := by
    rw [Dict.get?_insert]
    split
    · rfl
    · rename_i hne
      rcases List.mem_append.1 hg with hg | hg
      · exact h.complete g hg hsome
      · exact absurd (congrArg Field.name (List.mem_singleton.1 hg)) hne

end Gathered

/-! ## New records -/

/-- The values among some changes are those that are not removals. -/
theorem Changes.get?_values (changes : Changes) (name : String) :
    (Changes.values changes).get? name = (changes.get? name).join := by
  have hsorted := changes.sorted.filterMap fun _ change => change
  rw [Changes.values, Dict.get?_ofList, hsorted.get?_reverse]
  exact changes.sorted.get?_filterMap (fun _ change => change) name

namespace Service

theorem checkRequired_ok {members : List (String × Json)} {fields : List Field}
    (h : checkRequired members fields = .ok ()) :
    ∀ f ∈ fields, f.required = true → lacks members f = false := by
  induction fields with
  | nil => simp
  | cons f rest ih =>
    rw [checkRequired] at h
    split at h
    · cases h
    · rename_i hf
      intro g hg hreq
      rcases List.mem_cons.1 hg with rfl | hg
      · simpa [hreq] using hf
      · exact ih h g hg hreq

theorem payloadMembers_ok {mask : FieldMask} {payload : Json} {members : List (String × Json)}
    (h : payloadMembers mask payload = .ok members) :
    payload = .object members ∧ mask.checkWritable members = .ok () := by
  cases payload with
  | object ms =>
    rw [payloadMembers] at h
    cases hcheck : mask.checkWritable ms with
    | ok u =>
      rw [hcheck] at h
      cases h
      exact ⟨rfl, hcheck⟩
    | error fault =>
      rw [hcheck] at h
      cases h
  | _ => cases h

/-! ## Gathering -/

variable {s : Service} {ctx : Context} {P : Demand → Prop}

/-- The demands by which lookups are checked: live records of the caller's tenant are counted. -/
def ChecksTargets (s : Service) (ctx : Context) (P : Demand → Prop) : Prop :=
  ∀ name target id, s.schema.find name = .ok target →
    P (.count target ((scope ctx.tenant target.name).both (byId id)))

theorem checkTarget_obeys (hP : ChecksTargets s ctx P) (f : Field) (target : LookupTarget)
    (id : String) :
    (s.checkTarget ctx f target id).Obeys P (WhenOk fun _ => True) := by
  refine Call.obeys_done_bind' fun entity hentity => ?_
  have hfind : s.schema.find target.entity = .ok entity := by
    cases hf : s.schema.find target.entity with
    | ok e => rw [hf] at hentity; cases hentity; rfl
    | error error => rw [hf] at hentity; cases hentity
  split
  · exact Call.obeys_fail
  · rename_i uuid _
    refine Call.obeys_store_bind (hP _ _ _ hfind) fun found => ?_
    split
    · exact Call.obeys_fail
    · exact Call.obeys_pure trivial

theorem convert_obeys (hP : ChecksTargets s ctx P) (f : Field) (raw : Json) :
    (s.convert ctx f raw).Obeys P (WhenOk fun value => f.convert raw = .ok value) := by
  refine Call.obeys_done_bind' fun value hvalue => ?_
  have hconv : f.convert raw = .ok value := by
    cases hf : f.convert raw with
    | ok v => rw [hf] at hvalue; cases hvalue; rfl
    | error error => rw [hf] at hvalue; cases hvalue
  split
  · exact (checkTarget_obeys hP ..).bind' fun _ _ => Call.obeys_pure hconv
  · exact Call.obeys_pure hconv

theorem gatherField_obeys (hP : ChecksTargets s ctx P) {members : List (String × Json)}
    {done : List Field}
    {changes : Changes} (h : Gathered members done changes) {f : Field} {raw : Json}
    (hraw : Entries.get? f.name members = some raw) :
    (s.gatherField ctx f raw changes).Obeys P (WhenOk (Gathered members (done ++ [f]))) := by
  unfold gatherField
  split
  · exact Call.obeys_fail
  · rename_i hblank
    refine (convert_obeys hP f raw).bind' fun value hvalue => Call.obeys_pure ?_
    exact h.add hraw hvalue fun hreq => by simpa [hreq] using hblank

/-- **Gathering gives the changes that the payload asks for**, and looks for nothing but targets. -/
theorem gather_obeys (hP : ChecksTargets s ctx P) (members : List (String × Json)) :
    ∀ (fields done : List Field) (changes : Changes), Gathered members done changes →
      (s.gather ctx members fields changes).Obeys P (WhenOk (Gathered members (done ++ fields)))
  | [], done, changes, h => Call.obeys_pure (show Gathered .. from (List.append_nil done).symm ▸ h)
  | f :: rest, done, changes, h => by
    rw [gather]
    have hsplit : done ++ f :: rest = done ++ [f] ++ rest := by simp
    rw [hsplit]
    split
    · rename_i hnone
      exact gather_obeys hP members rest (done ++ [f]) changes (h.skip hnone)
    · rename_i raw hraw
      exact (gatherField_obeys hP h hraw).bind' fun changes' h' =>
        gather_obeys hP members rest (done ++ [f]) changes' h'

end Service

end Dossier
