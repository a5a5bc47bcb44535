import Dossier.Proofs.CallRules
import Dossier.Proofs.Dict
import Dossier.Service.Session

/-!
# Answers of a store in memory

What a demand gets from a store in memory, and the store after it. All that the store does not
decide is given by the `Surroundings`: the access of callers, the files, the identifier and the
time that a write takes, and in which order the store walks its records. A store keeps its records
in no particular order, so nothing that is proved here may hang on one.

**What an answer does to the store** (`Surroundings.answer_store`). It leaves the store as it is,
or puts a new record under a free identifier, or changes one record that meets the guard of a
write.

**Sessions** answer in this way as long as no trouble is planned (`Session.answer_eq`); they walk
the records by identifier.
-/

namespace Dossier

/-! ## Changes of a store -/

namespace Store

theorem find?_put (s : Store) (r : Record) (id : Uuid) :
    (s.put r).find? id = if id = r.id then some r else s.find? id :=
  Dict.get?_insert ..

theorem find?_insert (s : Store) (id : Uuid) (r : Record) (id' : Uuid) :
    (⟨s.records.insert id r⟩ : Store).find? id' = if id' = id then some r else s.find? id' :=
  Dict.get?_insert ..

theorem mem_values {s : Store} {r : Record} : r ∈ s.records.values ↔ ∃ id, s.find? id = some r :=
  Dict.mem_values

/-- A guarded change finds a record that meets the guard and changes it, or does nothing at all. -/
theorem change_cases (s : Store) (entity : Entity) (id : Uuid) (guard : Predicate)
    (f : Record → Record) :
    (∃ before, s.find? id = some before ∧ concerns entity guard before = true ∧
      s.change entity id guard f = (some (f before), ⟨s.records.insert id (f before)⟩)) ∨
    ((∀ before, s.find? id = some before → concerns entity guard before = false) ∧
      s.change entity id guard f = (none, s)) := by
  unfold change
  cases hfind : s.find? id with
  | none => exact Or.inr ⟨by simp, rfl⟩
  | some before =>
    by_cases hguard : concerns entity guard before = true
    · exact Or.inl ⟨before, rfl, hguard, if_pos hguard⟩
    · exact Or.inr ⟨by simpa using hguard, if_neg hguard⟩

theorem create_cases (s : Store) (r : Record) :
    (s.find? r.id = none ∧ s.create r = .ok (s.put r)) ∨
      ((s.find? r.id).isSome ∧ s.create r = .error (.duplicate r.id)) := by
  unfold create Dict.contains
  rw [show s.records.get? r.id = s.find? r.id from rfl]
  cases s.find? r.id with
  | none => exact Or.inl ⟨rfl, rfl⟩
  | some before => exact Or.inr ⟨rfl, rfl⟩

end Store

/-! ## Answers -/

/-- All that a store in memory does not decide by itself. -/
structure Surroundings where
  access : Caller → Except Fault Access
  file : String → String → Option StoredFile
  /-- The identifier that a new record takes. -/
  newId : Uuid
  /-- The time of a write. -/
  time : Instant
  /-- The order in which the store walks its records. -/
  order : List Record → List Record
  order_perm : ∀ records, (order records).Perm records

namespace Surroundings

variable (e : Surroundings)

def create (store : Store) (draft : Draft) : Except StoreError Record × Store :=
  let r := draft.record e.newId e.time
  match store.create r with
  | .ok after => (.ok r, after)
  | .error error => (.error error, store)

/-- A new record is taken in where its identifier is free. -/
theorem create_cases (store : Store) (draft : Draft) :
    (store.find? e.newId = none ∧ e.create store draft =
      (.ok (draft.record e.newId e.time), store.put (draft.record e.newId e.time))) ∨
    ((store.find? e.newId).isSome ∧
      e.create store draft = (.error (.duplicate e.newId), store)) := by
  have hcases := store.create_cases (draft.record e.newId e.time)
  unfold create
  dsimp only
  rcases hcases with ⟨hfree, h⟩ | ⟨htaken, h⟩
  · rw [h]
    exact Or.inl ⟨hfree, rfl⟩
  · rw [h]
    exact Or.inr ⟨htaken, rfl⟩

def answer (store : Store) : (d : Demand) → d.Answer × Store
  | .access caller => (e.access caller, store)
  | .fetch entity p => (.ok ((e.order store.records.values).find? (Store.concerns entity p)), store)
  | .list entity q =>
    (.ok (q.page ((e.order store.records.values).filter (Store.concerns entity q.predicate))),
      store)
  | .count entity p =>
    (.ok ((e.order store.records.values).countP (Store.concerns entity p)), store)
  | .approval workflows caller entity draft =>
    (workflows.approval caller entity (draft.record e.newId e.time), store)
  | .create _ draft => e.create store draft
  | .write entity id guard w actor =>
    let (r, store) := store.write entity id guard w ⟨actor, e.time⟩
    (.ok r, store)
  | .file tenant id => (e.file tenant id, store)
  | .audit _ => ((), store)
  | .notify _ => ((), store)

/-- A record that is found is stored and meets what was asked for. -/
theorem mem_of_found {store : Store} {p : Record → Bool} {r : Record}
    (h : (e.order store.records.values).find? p = some r) :
    r ∈ store.records.values ∧ p r = true :=
  ⟨(e.order_perm _).mem_iff.1 (List.mem_of_find?_eq_some h), List.find?_some h⟩

theorem answer_count (store : Store) (entity : Entity) (p : Predicate) :
    e.answer store (.count entity p) = (.ok (store.count entity p), store) := by
  simp only [answer, Store.count, Store.matching, ← List.countP_eq_length_filter]
  rw [(e.order_perm store.records.values).countP_eq]

/-- **What an answer does to the store**: nothing, a new record, or a write whose guard holds. -/
theorem answer_store (store : Store) (d : Demand) :
    (e.answer store d).2 = store ∨
    (∃ entity draft, d = .create entity draft ∧ store.find? e.newId = none ∧
      (e.answer store d).2 = store.put (draft.record e.newId e.time)) ∨
    (∃ entity id guard w actor before, d = .write entity id guard w actor ∧
      store.find? id = some before ∧ Store.concerns entity guard before = true ∧
      (e.answer store d).2 = ⟨store.records.insert id (w.apply ⟨actor, e.time⟩ before)⟩) := by
  cases d with
  | create entity draft =>
    rcases e.create_cases store draft with ⟨hfree, h⟩ | ⟨-, h⟩
    · exact Or.inr (Or.inl ⟨entity, draft, rfl, hfree, by rw [answer, h]⟩)
    · exact Or.inl (by rw [answer, h])
  | write entity id guard w actor =>
    rcases store.change_cases entity id guard (w.apply ⟨actor, e.time⟩) with
      ⟨before, hfind, hguard, h⟩ | ⟨-, h⟩
    · refine Or.inr (Or.inr ⟨entity, id, guard, w, actor, before, rfl, hfind, hguard, ?_⟩)
      simp [answer, Store.write, h]
    · exact Or.inl (by simp [answer, Store.write, h])
  | _ => exact Or.inl rfl

end Surroundings

def Demand.ReadOnly : Demand → Prop
  | .create .. => False
  | .write .. => False
  | _ => True

theorem Surroundings.answer_readOnly (e : Surroundings) (store : Store) {d : Demand}
    (h : d.ReadOnly) :
    (e.answer store d).2 = store := by
  cases d <;> first | rfl | exact h.elim

/-! ## Calls served without interruption -/

namespace Call

variable {α β : Type}

/-- The result of a call, and the store after it, when nothing comes between its demands. -/
def serve (e : Surroundings) : Call α → Store → Except Fault α × Store
  | .done result, store => (result, store)
  | .ask d next, store => (next (e.answer store d).1).serve e (e.answer store d).2

theorem serve_access (e : Surroundings) (caller : Caller) (next : Except Fault Access → Call α)
    (store : Store) :
    (Call.ask (.access caller) next).serve e store = (next (e.access caller)).serve e store := rfl

theorem serve_bind_ok {e : Surroundings} {c : Call α} {f : α → Call β} {store after : Store} {a : α}
    (h : c.serve e store = (.ok a, after)) : (c >>= f).serve e store = (f a).serve e after := by
  induction c generalizing store with
  | done result =>
    cases h
    rfl
  | ask d next ih => exact ih _ h

theorem serve_bind_error {e : Surroundings} {c : Call α} {f : α → Call β} {store after : Store}
    {fault : Fault} (h : c.serve e store = (.error fault, after)) :
    (c >>= f).serve e store = (.error fault, after) := by
  induction c generalizing store with
  | done result =>
    cases h
    rfl
  | ask d next ih => exact ih _ h

/-- A call that ends well has gone through its first part. -/
theorem exists_serve_of_bind {e : Surroundings} {c : Call α} {f : α → Call β} {store after : Store}
    {b : β} (h : (c >>= f).serve e store = (.ok b, after)) :
    ∃ a mid, c.serve e store = (.ok a, mid) ∧ (f a).serve e mid = (.ok b, after) := by
  cases hc : c.serve e store with
  | mk result mid =>
    cases result with
    | ok a => exact ⟨a, mid, rfl, (serve_bind_ok hc).symm.trans h⟩
    | error fault =>
      rw [serve_bind_error hc] at h
      cases h

/-- A computation between two demands, in a call that ends well. -/
theorem exists_ok_of_bind {e : Surroundings} {result : Except Fault α} {f : α → Call β}
    {store after : Store} {b : β} (h : (Call.done result >>= f).serve e store = (.ok b, after)) :
    ∃ a, result = .ok a ∧ (f a).serve e store = (.ok b, after) := by
  obtain ⟨a, mid, hdone, h⟩ := exists_serve_of_bind h
  cases hdone
  exact ⟨a, rfl, h⟩

/-- What a call comes to, in a store or in a session, when it is known to end well. -/
theorem exists_ok_of_isSome {σ : Type} {r : Except Fault α × σ}
    (h : r.1.toOption.isSome = true) : ∃ a after, r = (.ok a, after) := by
  obtain ⟨result, after⟩ := r
  cases result with
  | ok a => exact ⟨a, after, rfl⟩
  | error fault => cases h

/-- A call that only reads leaves the store as it is. -/
theorem Obeys.serve_readOnly {Q : Except Fault α → Prop} {c : Call α}
    (h : c.Obeys Demand.ReadOnly Q)
    (e : Surroundings) (store : Store) : (c.serve e store).2 = store ∧ Q (c.serve e store).1 := by
  induction h with
  | done h => exact ⟨rfl, h⟩
  | ask h _ ih =>
    have hstep := e.answer_readOnly store h
    rw [serve, hstep]
    exact ih _

/-- A call begins with a part that only reads: either this ends well, or the call is refused without
regard to what would have come behind it. -/
theorem Obeys.serve_or_refused {ι : Type} {Q : Except Fault α → Prop} {c : Call α}
    (h : c.Obeys Demand.ReadOnly Q) (f : ι → α → Call β) (e : Surroundings) (store : Store) :
    (∃ a, c.serve e store = (.ok a, store)) ∨
      ∃ fault, ∀ i, (c >>= f i).serve e store = (.error fault, store) := by
  have hsame := (h.serve_readOnly e store).1
  cases hc : c.serve e store with
  | mk result after =>
    rw [hc] at hsame
    cases hsame
    cases result with
    | ok a => exact .inl ⟨a, rfl⟩
    | error fault => exact .inr ⟨fault, fun _ => serve_bind_error hc⟩

end Call

/-! ## Sessions -/

namespace Session

/-- The surroundings that a session makes for the next demand. -/
def surroundings (s : Session) : Surroundings where
  access := s.accessOf
  file := s.file?
  newId := s.idOf (s.creations + 1)
  time := s.timeOf (s.writes + 1)
  order := id
  order_perm := List.Perm.refl

theorem attempt_eq {α : Type} {s : Session} (hf : s.failures = []) (operation : StoreOperation)
    (run : Session → Except StoreError α × Session) : s.attempt operation run = run s := by
  have huse : s.use operation = (false, s) := by
    cases s
    cases hf
    rfl
  rw [attempt, huse]

/-- **A session without trouble answers as its surroundings say.** -/
theorem answer_eq {s : Session} (hf : s.failures = []) (hi : s.interferences = []) (d : Demand) :
    (s.answer d).1 = (s.surroundings.answer s.store d).1 ∧
      (s.answer d).2.store = (s.surroundings.answer s.store d).2 := by
  cases d with
  | access caller => exact ⟨rfl, rfl⟩
  | fetch entity p => rw [answer, attempt_eq hf]; exact ⟨rfl, rfl⟩
  | list entity q => rw [answer, attempt_eq hf]; exact ⟨rfl, rfl⟩
  | count entity p =>
    rw [answer, attempt_eq hf, Surroundings.answer_count]
    exact ⟨rfl, rfl⟩
  | approval workflows caller entity draft => exact ⟨rfl, rfl⟩
  | create entity draft =>
    rw [answer, attempt_eq hf]
    simp only [create, Surroundings.answer, Surroundings.create, surroundings]
    have hcases := s.store.create_cases
      (draft.record (s.idOf (s.creations + 1)) (s.timeOf (s.writes + 1)))
    rcases hcases with ⟨-, h⟩ | ⟨-, h⟩ <;> rw [h] <;> exact ⟨rfl, rfl⟩
  | write entity id guard w actor =>
    rw [answer, attempt_eq hf]
    simp [write, interfered, hi, Surroundings.answer, surroundings]
  | file tenant id => exact ⟨rfl, rfl⟩
  | audit entry =>
    refine ⟨rfl, ?_⟩
    simp only [answer, audit]
    split <;> rfl
  | notify n => exact ⟨rfl, rfl⟩

/-- No trouble comes up by itself. -/
theorem answer_untroubled {s : Session} (hf : s.failures = []) (hi : s.interferences = [])
    (d : Demand) :
    (s.answer d).2.failures = [] ∧ (s.answer d).2.interferences = [] := by
  cases d with
  | create entity draft =>
    rw [answer, attempt_eq hf]
    simp only [create]
    split <;> exact ⟨hf, hi⟩
  | write entity id guard w actor =>
    rw [answer, attempt_eq hf]
    exact ⟨hf, rfl⟩
  | audit entry =>
    simp only [answer, audit]
    split <;> exact ⟨hf, hi⟩
  | fetch entity p => rw [answer, attempt_eq hf]; exact ⟨hf, hi⟩
  | list entity q => rw [answer, attempt_eq hf]; exact ⟨hf, hi⟩
  | count entity p => rw [answer, attempt_eq hf]; exact ⟨hf, hi⟩
  | _ => exact ⟨hf, hi⟩

end Session

end Dossier
