import Dossier.Proofs.GuardedWrites
import Dossier.Proofs.Patch
import Dossier.Proofs.Report
import Dossier.Proofs.TypedStore

/-!
# The audit trail tells the history of each record

Many calls run over one store, and each enters its write in the audit trail some time after it has
made it. The **ledger** (`World.ledger`) is a ghost of such a run: the writes in the order in which
they reached the store, each with the copy that its call had read, the record just before and just
after, and the entry that the call has since made of it.

**One call** (`Account`). It has written nothing; or it holds a copy that it is about to change; or
it is about to make the entry of its only write; or it does nothing more that counts.

**One record** (`Ledger.Covers`). The changes that its writes are entered with, applied one after the
other in the order of the writes, show the record as it stands. A step keeps this: the guard of a
write sees to it that copy and record agree on the mark of deletion, and in the data it is enough
that the write overlooks nothing (`Record.ShownBy.changes`).

A new record is entered with its data only, so until it is deleted for the first time the trail has
nothing of a mark of deletion. And a write can overlook a change: a client that sets a field to what
it has read there, after another client has changed it, has changed it back and enters no change.

Main result: `trail_reconstructs`.
-/

namespace Dossier

/-! ## The ledger -/

/-- A write that has reached the store. -/
structure Deed where
  /-- The call that has written, by its place. -/
  call : Nat
  /-- The record as the call had read it; nothing for a creation. -/
  copy : Option Record
  before : Option Record
  after : Record
  /-- What the call has entered in the audit trail. -/
  entry : Option AuditEntry := none

namespace Deed

def changes (deed : Deed) : List FieldChange :=
  match deed.copy with
  | some copy => copy.changes deed.after
  | none => deed.after.additions

/-- The fields that a write has changed unseen, because its call had an outdated copy. -/
def overlooked (deed : Deed) : List String :=
  match deed.copy, deed.before with
  | some copy, some before => Record.overlooked copy before deed.after
  | _, _ => []

/-- An entry of the call of some place. -/
def enter (i : Nat) (entry : AuditEntry) (deed : Deed) : Deed :=
  if deed.call = i then { deed with entry := some entry } else deed

theorem call_enter (i : Nat) (entry : AuditEntry) (deed : Deed) :
    (deed.enter i entry).call = deed.call := by
  unfold enter
  split <;> rfl

theorem after_enter (i : Nat) (entry : AuditEntry) (deed : Deed) :
    (deed.enter i entry).after = deed.after := by
  unfold enter
  split <;> rfl

theorem changes_enter (i : Nat) (entry : AuditEntry) (deed : Deed) :
    (deed.enter i entry).changes = deed.changes := by
  unfold enter
  split <;> rfl

theorem overlooked_enter (i : Nat) (entry : AuditEntry) (deed : Deed) :
    (deed.enter i entry).overlooked = deed.overlooked := by
  unfold enter
  split <;> rfl

/-- An entry that says of a write what there is to say. -/
structure Entered (deed : Deed) (entry : AuditEntry) : Prop where
  id : entry.id = deed.after.id
  changes : entry.changes = deed.changes

end Deed

structure Ledger where
  /-- The record that each call has read last. -/
  copies : Nat → Option Record := fun _ => none
  /-- The writes in their order. -/
  deeds : List Deed := []

namespace Ledger

def of (l : Ledger) (id : Uuid) : List Deed := l.deeds.filter fun deed => deed.after.id = id

/-- What the audit trail says of a record, in the order of the writes. -/
def trail (l : Ledger) (id : Uuid) : List FieldChange :=
  ((l.of id).filterMap (·.entry)).flatMap (·.changes)

/-- The ledger after a call has got an answer from a store. -/
def note (l : Ledger) (i : Nat) (store : Store) : (d : Demand) → d.Answer → Ledger
  | .fetch _ _, .ok (some r) => { l with copies := Function.update l.copies i (some r) }
  | .create _ _, .ok r => { l with deeds := l.deeds ++ [⟨i, none, none, r, none⟩] }
  | .write _ id _ _ _, .ok (some r) =>
    { l with deeds := l.deeds ++ [⟨i, l.copies i, store.find? id, r, none⟩] }
  | .audit entry, _ => { l with deeds := l.deeds.map (Deed.enter i entry) }
  | _, _ => l

end Ledger

namespace World

def note (w : World) (l : Ledger) : Event → Ledger
  | .proceed i e =>
    match w.calls[i]? with
    | some c =>
      match c.rest with
      | .ask d _ => l.note i w.store d (e.answer w.store d).1
      | .done _ => l
    | none => l
  | _ => l

def ledger (s : Service) : World → Ledger → List Event → Ledger
  | _, l, [] => l
  | w, l, event :: rest => ledger s (w.step s event) (w.note l event) rest

end World

/-! ## One call -/

/-- Demands that add nothing to the writes of a ledger. -/
def Demand.Unnoted : Demand → Prop
  | .create .. => False
  | .write .. => False
  | .audit _ => False
  | _ => True

theorem Demand.Silent.unnoted {d : Demand} (h : d.Silent) : d.Unnoted := by
  cases d with
  | create entity draft => exact h.elim
  | write entity id guard w actor => exact h.elim
  | audit entry => exact h.elim
  | _ => trivial

/-- A record whose data has nothing in the place where change lists put the mark of deletion. -/
def Record.Plain (r : Record) : Prop := r.data.get? "deleted" = none

/-- Where a call stands with its ledger. -/
inductive Account (q : ServiceRequest) (l : Ledger) (i : Nat) : Call ServiceReply → Prop
  | owing {entity : Entity} {rest : Call ServiceReply} (owes : q.Owes entity rest)
      (none : ∀ deed ∈ l.deeds, deed.call ≠ i) : Account q l i rest
  | copying {entity : Entity} {id : Uuid} {forced : Predicate} {copy : Record}
      {rest : Call ServiceReply} (held : l.copies i = some copy)
      (plain : copy.Plain) (deleted : copy.deleted = q.operation.onDeleted)
      (revises : rest.Revises entity id (q.guard entity id forced) (q.changeReport entity id copy))
      (none : ∀ deed ∈ l.deeds, deed.call ≠ i) : Account q l i rest
  | due {entry : AuditEntry} {ds : List Demand} {rest : Call ServiceReply}
      (own : ∀ deed ∈ l.deeds, deed.call = i → deed.Entered entry)
      (reports : rest.Reports (.audit entry :: ds)) (last : ∀ d ∈ ds, d.Unnoted) :
      Account q l i rest
  | settled {rest : Call ServiceReply} (unnoted : rest.Obeys Demand.Unnoted fun _ => True) :
      Account q l i rest

/-! ## Notes -/

namespace Ledger

variable {l : Ledger} {i j : Nat} {store : Store} {d : Demand} {deed : Deed}

theorem copies_note_of_ne (answer : d.Answer) (h : j ≠ i) :
    (l.note i store d answer).copies j = l.copies j := by
  unfold note
  split <;> first | rfl | exact Function.update_of_ne h ..

theorem deeds_note_of_unnoted (answer : d.Answer) (h : d.Unnoted) :
    (l.note i store d answer).deeds = l.deeds := by
  unfold note
  split <;> first | rfl | exact h.elim

/-- The note of a call changes nothing about the writes of the others. -/
theorem mem_deeds_of_note {answer : d.Answer} (hmem : deed ∈ (l.note i store d answer).deeds)
    (hne : deed.call ≠ i) : deed ∈ l.deeds := by
  unfold note at hmem
  split at hmem
  · exact hmem
  · exact (List.mem_append.1 hmem).resolve_right fun h => hne (by rw [List.mem_singleton.1 h])
  · exact (List.mem_append.1 hmem).resolve_right fun h => hne (by rw [List.mem_singleton.1 h])
  · obtain ⟨own, hown, rfl⟩ := List.mem_map.1 hmem
    rw [Deed.call_enter] at hne
    rwa [Deed.enter, if_neg hne]
  · exact hmem

end Ledger

/-! ## The trail of a record -/

namespace Ledger

/-- The changes that the writes to a record are to be entered with. -/
def history (l : Ledger) (id : Uuid) : List FieldChange := (l.of id).flatMap Deed.changes

/-- A ledger whose writes, where they overlook nothing, lead up to the records of a store. -/
structure Covers (l : Ledger) (store : Store) : Prop where
  absent : ∀ id, store.find? id = none → l.of id = []
  shows : ∀ id r, store.find? id = some r → (∀ deed ∈ l.of id, deed.overlooked = []) →
    r.ShownBy (replay (l.history id) ∅)

theorem Covers.empty : ({} : Ledger).Covers .empty where
  absent _ _ := rfl
  shows _ _ h := nomatch h

theorem Covers.of_deeds_eq {l l' : Ledger} {store : Store} (h : l.Covers store)
    (hdeeds : l'.deeds = l.deeds) : l'.Covers store where
  absent id hid := by
    rw [of, hdeeds]
    exact h.absent id hid
  shows id r hr hall := by
    rw [history, of, hdeeds]
    exact h.shows id r hr (by rwa [of, hdeeds] at hall)

/-- Entries change nothing about the writes. -/
theorem Covers.enter {l : Ledger} {store : Store} (h : l.Covers store) (i : Nat)
    (entry : AuditEntry) : { l with deeds := l.deeds.map (Deed.enter i entry) }.Covers store := by
  have hof (id : Uuid) : ({ l with deeds := l.deeds.map (Deed.enter i entry) } : Ledger).of id =
      (l.of id).map (Deed.enter i entry) := by
    simp [of, List.filter_map, Function.comp_def, Deed.after_enter]
  refine ⟨fun id hid => by rw [hof, h.absent id hid]; rfl, fun id r hr hall => ?_⟩
  have hhistory : ({ l with deeds := l.deeds.map (Deed.enter i entry) } : Ledger).history id =
      l.history id := by
    simp [history, hof, List.flatMap_map, Deed.changes_enter]
  rw [hhistory]
  refine h.shows id r hr fun deed hmem => ?_
  have hentered := hall (deed.enter i entry) (by rw [hof]; exact List.mem_map_of_mem hmem)
  rwa [Deed.overlooked_enter] at hentered

variable {l : Ledger} {store : Store} {deed : Deed} {r : Record}

theorem of_append (l : Ledger) (deed : Deed) (id : Uuid) :
    ({ l with deeds := l.deeds ++ [deed] } : Ledger).of id =
      if deed.after.id = id then l.of id ++ [deed] else l.of id := by
  simp only [of, List.filter_append, List.filter_cons, List.filter_nil, decide_eq_true_eq]
  split <;> simp

/-- One more write: it is enough to look at the record that was written. -/
theorem Covers.append (h : l.Covers store) {id : Uuid} (hid : deed.after.id = id)
    (hshown : (∀ d ∈ l.of id, d.overlooked = []) → deed.overlooked = [] →
      deed.after.ShownBy (replay deed.changes (replay (l.history id) ∅))) :
    { l with deeds := l.deeds ++ [deed] }.Covers ⟨store.records.insert id deed.after⟩ where
  absent other hother := by
    rw [Store.find?_insert] at hother
    split at hother
    · cases hother
    · rename_i hne
      rw [of_append, if_neg fun heq => hne (by rw [← heq, hid])]
      exact h.absent other hother
  shows other r hr hall := by
    rw [Store.find?_insert] at hr
    rw [history, of_append]
    rw [of_append] at hall
    split at hr
    · rename_i heq
      subst heq
      cases hr
      rw [if_pos hid] at hall ⊢
      rw [List.flatMap_append, replay_append]
      have hdeed := hall deed (by simp)
      have hearlier := fun d hd => hall d (List.mem_append_left _ hd)
      rw [List.flatMap_singleton]
      exact hshown hearlier hdeed
    · rename_i hne
      have hother : deed.after.id ≠ other := fun heq => hne (by rw [← heq, hid])
      rw [if_neg hother] at hall ⊢
      exact h.shows other r hr hall

/-- A new record is shown by its additions. -/
theorem Covers.create (h : l.Covers store) (i : Nat) (hfree : store.find? r.id = none)
    (hlive : r.deleted = false) (hplain : r.Plain) :
    Covers { l with deeds := l.deeds ++ [⟨i, none, none, r, none⟩] } (store.put r) := by
  refine h.append rfl fun _ _ => ?_
  rw [history, h.absent _ hfree]
  exact Record.shownBy_additions hlive hplain

/-- A write takes the record from before to after, as far as its copy can tell. -/
theorem Covers.write (h : l.Covers store) (i : Nat) {id : Uuid} {copy before : Record}
    (hcopy : l.copies i = some copy) (hbefore : store.find? id = some before) (hid : r.id = id)
    (hdeleted : copy.deleted = before.deleted) (hplain : copy.Plain) (hafter : r.Plain) :
    Covers { l with deeds := l.deeds ++ [⟨i, l.copies i, store.find? id, r, none⟩] }
      ⟨store.records.insert id r⟩ := by
  rw [hcopy, hbefore]
  refine h.append hid fun hearlier hdeed => ?_
  exact (h.shows id before hbefore hearlier).changes hdeleted hdeed hplain hafter

/-- A workflow has no part in data and marks of deletion. -/
theorem Covers.setApproval (h : l.Covers store) (entity : Entity) (id : Uuid)
    (state : Option Approval) : l.Covers (store.setApproval entity id state).2 := by
  unfold Store.setApproval
  rcases store.change_cases entity id .always fun r => r.withApproval state with
    ⟨before, hbefore, -, hchange⟩ | ⟨-, hchange⟩
  · rw [hchange]
    refine ⟨fun other hother => ?_, fun other r hr hall => ?_⟩
    · rw [Store.find?_insert] at hother
      split at hother
      · cases hother
      · exact h.absent other hother
    · rw [Store.find?_insert] at hr
      split at hr
      · rename_i heq
        subst heq
        cases hr
        have hshown := h.shows other before hbefore hall
        exact ⟨hshown.data, hshown.deleted⟩
      · exact h.shows other r hr hall
  · rw [hchange]
    exact h

end Ledger

/-! ## Answers -/

/-- Data of a declared entity cannot be mistaken for a mark of deletion. -/
theorem Record.Typed.plain {schema : Schema} (hs : schema.Registered) {r : Record}
    (h : r.Typed schema) : r.Plain := by
  obtain ⟨entity, hfind, hfits⟩ := h
  unfold Record.Plain
  rw [Option.eq_none_iff_forall_ne_some]
  intro value hvalue
  obtain ⟨f, hf, hname⟩ := hfits.declared "deleted" value hvalue
  have hsystem := (hs.sound hfind).2.notSystem f hf
  rw [hname] at hsystem
  cases hsystem

def Store.Plain (store : Store) : Prop := ∀ id r, store.find? id = some r → r.Plain

namespace Ledger

/-- A ledger that leads up to a store, with entries that say what there is to say. -/
structure Sound (l : Ledger) (store : Store) : Prop where
  covers : l.Covers store
  entered : ∀ deed ∈ l.deeds, ∀ entry, deed.entry = some entry → deed.Entered entry

variable {l : Ledger} {i : Nat} {store : Store} {deed : Deed}

theorem Sound.of_deeds_eq {l' : Ledger} (h : l.Sound store) (hdeeds : l'.deeds = l.deeds) :
    l'.Sound store where
  covers := h.covers.of_deeds_eq hdeeds
  entered := by
    rw [hdeeds]
    exact h.entered

/-- A demand that neither stores nor enters anything. -/
theorem Sound.note (h : l.Sound store) (e : Surroundings) {d : Demand} (hd : d.Unnoted) :
    (l.note i store d (e.answer store d).1).Sound (e.answer store d).2 := by
  have hreads : d.ReadOnly := by
    cases d with
    | create entity draft => exact hd.elim
    | write entity id guard w actor => exact hd.elim
    | _ => trivial
  rw [e.answer_readOnly store hreads]
  exact h.of_deeds_eq (deeds_note_of_unnoted _ hd)

/-- A write that has yet to be entered. -/
theorem Sound.append {after : Store} (h : l.Sound store) (hopen : deed.entry = none)
    (hcovers : Covers { l with deeds := l.deeds ++ [deed] } after) :
    Sound { l with deeds := l.deeds ++ [deed] } after where
  covers := hcovers
  entered d hd entry hentry := by
    rcases List.mem_append.1 hd with hd | hd
    · exact h.entered d hd entry hentry
    · rw [List.mem_singleton.1 hd, hopen] at hentry
      cases hentry

theorem Sound.enter (h : l.Sound store) {entry : AuditEntry}
    (hown : ∀ deed ∈ l.deeds, deed.call = i → deed.Entered entry) :
    Sound { l with deeds := l.deeds.map (Deed.enter i entry) } store where
  covers := h.covers.enter i entry
  entered deed hdeed made hmade := by
    obtain ⟨own, hmem, rfl⟩ := List.mem_map.1 hdeed
    have hentered : own.Entered made := by
      unfold Deed.enter at hmade
      split at hmade
      · rename_i hcall
        cases hmade
        exact hown own hmem hcall
      · exact h.entered own hmem made hmade
    exact ⟨by rw [Deed.after_enter]; exact hentered.id,
      by rw [Deed.changes_enter]; exact hentered.changes⟩

end Ledger

section Answers

variable {q : ServiceRequest} {l : Ledger} {i : Nat} {store : Store} {entity : Entity} {d : Demand}
  {next : d.Answer → Call ServiceReply}

theorem Call.Fails.account {rest : Call ServiceReply} (h : rest.Fails) : Account q l i rest :=
  .settled (h.mono (fun _ h => h.unnoted) fun _ _ => trivial)

theorem Call.Reports.unnoted {ds : List Demand} {rest : Call ServiceReply} (h : rest.Reports ds)
    (hds : ∀ d ∈ ds, d.Unnoted) : rest.Obeys Demand.Unnoted fun _ => True := by
  induction h with
  | done a => exact .done trivial
  | @tell d ds next _ _ ih =>
    exact .ask (hds d List.mem_cons_self) fun answer =>
      ih answer fun d hd => hds d (List.mem_cons_of_mem _ hd)

/-- A call that has just written for the first time is due to enter it. -/
theorem Account.of_deed {deed : Deed} {entry : AuditEntry} {ds : List Demand}
    {rest : Call ServiceReply} (hnone : ∀ deed ∈ l.deeds, deed.call ≠ i)
    (hentered : deed.Entered entry) (hreports : rest.Reports (.audit entry :: ds))
    (hlast : ∀ d ∈ ds, d.Unnoted) : Account q { l with deeds := l.deeds ++ [deed] } i rest := by
  refine .due (fun own hown hcall => ?_) hreports hlast
  rcases List.mem_append.1 hown with hown | hown
  · exact absurd hcall (hnone own hown)
  · rwa [List.mem_singleton.1 hown]

variable (e : Surroundings)

/-- Before the record is read. -/
theorem ServiceRequest.Owes.account (h : q.Owes entity (.ask d next)) (hsound : l.Sound store)
    (hplain : store.Plain) (hafter : (e.answer store d).2.Plain)
    (hnone : ∀ deed ∈ l.deeds, deed.call ≠ i) :
    Account q (l.note i store d (e.answer store d).1) i (next (e.answer store d).1) ∧
      (l.note i store d (e.answer store d).1).Sound (e.answer store d).2 := by
  cases h with
  | ask silent rest =>
    refine ⟨.owing (rest _) ?_, hsound.note e silent.unnoted⟩
    rwa [l.deeds_note_of_unnoted _ silent.unnoted]
  | @create draft next creates created error =>
    rw [Surroundings.answer] at hafter ⊢
    rcases e.create_cases store draft with ⟨hfree, hcreate⟩ | ⟨-, hcreate⟩
    · rw [hcreate] at hafter ⊢
      refine ⟨.of_deed hnone ⟨rfl, rfl⟩ (created _) fun d hd => ?_,
        hsound.append rfl (hsound.covers.create i hfree rfl (hafter e.newId _ ?_))⟩
      · rw [List.mem_singleton.1 hd]
        trivial
      · rw [Store.find?_put]
        exact if_pos rfl
    · rw [hcreate]
      exact ⟨(error _).account, hsound⟩
  | @read id forced next changes found missing error =>
    refine ⟨?_, hsound.note e trivial⟩
    cases hfound : (e.order store.records.values).find? (Store.concerns entity
        (Service.reachable q.ctx entity q.operation.onDeleted id forced)) with
    | none =>
      rw [show (e.answer store (.fetch ..)).1 = .ok none from congrArg Except.ok hfound]
      exact missing.account
    | some copy =>
      rw [show (e.answer store (.fetch ..)).1 = .ok (some copy) from congrArg Except.ok hfound]
      obtain ⟨hstored, hconcerns⟩ := e.mem_of_found hfound
      obtain ⟨key, hkey⟩ := Store.mem_values.1 hstored
      have hreach := (Store.concerns_iff.1 hconcerns).2
      exact .copying (Function.update_self ..) (hplain key copy hkey)
        ((copy.meets_reachable ..).1 hreach).2.2.1 (found copy) hnone

/-- Between the read and the write. -/
theorem Call.Revises.account {id : Uuid} {forced : Predicate} {copy : Record}
    (h : (Call.ask d next).Revises entity id (q.guard entity id forced)
      (q.changeReport entity id copy)) (hsound : l.Sound store) (hafter : (e.answer store d).2.Plain)
    (hcopy : l.copies i = some copy) (hplain : copy.Plain)
    (hdeleted : copy.deleted = q.operation.onDeleted) (hnone : ∀ deed ∈ l.deeds, deed.call ≠ i) :
    Account q (l.note i store d (e.answer store d).1) i (next (e.answer store d).1) ∧
      (l.note i store d (e.answer store d).1).Sound (e.answer store d).2 := by
  cases h with
  | count counts rest =>
    have hsame : l.note i store d (e.answer store d).1 = l := by
      cases d <;> first | rfl | exact counts.elim
    refine ⟨?_, hsound.note e counts.silent.unnoted⟩
    rw [hsame]
    exact .copying hcopy hplain hdeleted (rest _) hnone
  | @write w actor next written missed error =>
    rw [Surroundings.answer, Store.write] at hafter ⊢
    rcases store.change_cases entity id (q.guard entity id forced) (w.apply ⟨actor, e.time⟩) with
      ⟨before, hbefore, hguard, hchange⟩ | ⟨-, hchange⟩
    · rw [hchange] at hafter ⊢
      have hmeets := (Store.concerns_iff.1 hguard).2
      rw [ServiceRequest.guard, before.meets_both, Bool.and_eq_true, before.meets_reachable] at hmeets
      obtain ⟨⟨-, -, hmark, hid, -⟩, -⟩ := hmeets
      have hid' : (w.apply ⟨actor, e.time⟩ before).id = id := (w.apply_id ..).trans hid
      have hplain' := hafter id _ ((Store.find?_insert ..).trans (if_pos rfl))
      refine ⟨.of_deed hnone ⟨hid'.symm, ?_⟩ (written _) fun d hd => ?_, hsound.append rfl
        (hsound.covers.write i hcopy hbefore hid' (hdeleted.trans hmark.symm) hplain hplain')⟩
      · rw [Deed.changes, hcopy]
        rfl
      · cases hop : q.operation <;> rw [hop] at hd <;>
          simp only [List.mem_singleton, List.not_mem_nil] at hd
        rw [hd]
        trivial
    · rw [hchange]
      exact ⟨missed.account, hsound⟩

/-- After the write. -/
theorem Call.Reports.account {entry : AuditEntry} {ds : List Demand}
    (h : (Call.ask d next).Reports (.audit entry :: ds)) (hsound : l.Sound store)
    (hown : ∀ deed ∈ l.deeds, deed.call = i → deed.Entered entry) (hlast : ∀ d ∈ ds, d.Unnoted) :
    Account q (l.note i store d (e.answer store d).1) i (next (e.answer store d).1) ∧
      (l.note i store d (e.answer store d).1).Sound (e.answer store d).2 := by
  cases h with
  | tell _ rest => exact ⟨.settled ((rest ()).unnoted hlast), hsound.enter hown⟩

end Answers

/-! ## Steps -/

theorem Account.mono {q : ServiceRequest} {l l' : Ledger} {i : Nat} {rest : Call ServiceReply}
    (h : Account q l i rest) (hcopies : l'.copies i = l.copies i)
    (hdeeds : ∀ deed ∈ l'.deeds, deed.call = i → deed ∈ l.deeds) : Account q l' i rest := by
  have hnone (hnone : ∀ deed ∈ l.deeds, deed.call ≠ i) : ∀ deed ∈ l'.deeds, deed.call ≠ i :=
    fun deed hmem hcall => hnone deed (hdeeds deed hmem hcall) hcall
  cases h with
  | owing owes none => exact .owing owes (hnone none)
  | copying held plain deleted revises none =>
    exact .copying (hcopies.trans held) plain deleted revises (hnone none)
  | due own reports last =>
    exact .due (fun deed hmem hcall => own deed (hdeeds deed hmem hcall) hcall) reports last
  | settled unnoted => exact .settled unnoted

theorem Account.start (s : Service) (q : ServiceRequest) {l : Ledger} {i : Nat}
    (hnone : ∀ deed ∈ l.deeds, deed.call ≠ i) : Account q l i (q.call s) := by
  cases hfind : s.schema.find q.entity with
  | ok entity => exact .owing (q.call_owes s hfind) hnone
  | error error =>
    rw [q.call_unknown s hfind]
    exact (Call.fails_error _).account

/-- A call goes on, and the ledger with it. -/
theorem Account.answer {q : ServiceRequest} {l : Ledger} {i : Nat} {store : Store} {d : Demand}
    {next : d.Answer → Call ServiceReply} (h : Account q l i (.ask d next)) (e : Surroundings)
    (hsound : l.Sound store) (hplain : store.Plain) (hafter : (e.answer store d).2.Plain) :
    Account q (l.note i store d (e.answer store d).1) i (next (e.answer store d).1) ∧
      (l.note i store d (e.answer store d).1).Sound (e.answer store d).2 := by
  cases h with
  | owing owes none => exact owes.account e hsound hplain hafter none
  | copying held plain deleted revises none =>
    exact revises.account e hsound hafter held plain deleted none
  | due own reports last => exact reports.account e hsound own last
  | settled unnoted => exact ⟨.settled (unnoted.next _), hsound.note e unnoted.demand⟩

structure Ledger.Faithful (l : Ledger) (w : World) : Prop where
  sound : l.Sound w.store
  accounts : ∀ i c, w.calls[i]? = some c → Account c.request l i c.rest
  made : ∀ deed ∈ l.deeds, deed.call < w.calls.length

namespace World

variable {s : Service} {w : World} {l : Ledger}

theorem faithful_quiet : ({} : Ledger).Faithful (quiet .empty) where
  sound := ⟨.empty, fun _ h => nomatch h⟩
  accounts _ _ h := nomatch h
  made _ h := nomatch h

/-- The world and the ledger after a call has got an answer. -/
theorem proceed_eq {i : Nat} {c : Progress} {d : Demand} {next : d.Answer → Call ServiceReply}
    (hi : w.calls[i]? = some c) (hrest : c.rest = .ask d next) (e : Surroundings) :
    ∃ granted, w.step s (.proceed i e) = ⟨(e.answer w.store d).2,
        w.calls.set i ⟨c.request, granted, next (e.answer w.store d).1⟩⟩ ∧
      w.note l (.proceed i e) = l.note i w.store d (e.answer w.store d).1 := by
  refine ⟨(d.granted? (e.answer w.store d).1).or c.granted, ?_, ?_⟩
  · simp [step, proceed, hi, Progress.proceed, hrest]
  · simp [note, hi, hrest]

/-- A call that arrives has yet to do anything. -/
theorem faithful_arrive (h : l.Faithful w) (q : ServiceRequest) :
    (w.note l (.arrive q)).Faithful (w.step s (.arrive q)) := by
  refine ⟨h.sound, fun i c hi => ?_, fun deed hdeed => ?_⟩
  · rcases Nat.lt_or_ge i w.calls.length with hlt | hge
    · exact h.accounts i c (by rwa [step, List.getElem?_append_left hlt] at hi)
    · rw [step, List.getElem?_append_right hge, List.getElem?_singleton] at hi
      split at hi
      · cases hi
        exact .start s q fun deed hdeed hcall => by
          have := h.made deed hdeed
          omega
      · cases hi
  · rw [step, List.length_append]
    exact Nat.lt_add_right _ (h.made deed hdeed)

/-- An answer moves the account of the call that gets it, and the others do not hear of it. -/
theorem faithful_answer (h : l.Faithful w) {i : Nat} {c : Progress} {d : Demand}
    {next : d.Answer → Call ServiceReply} (hi : w.calls[i]? = some c) (hrest : c.rest = .ask d next)
    (hplain : w.store.Plain) (e : Surroundings) (hafter : (w.step s (.proceed i e)).store.Plain) :
    (w.note l (.proceed i e)).Faithful (w.step s (.proceed i e)) := by
  obtain ⟨granted, hstep, hnote⟩ := proceed_eq (s := s) (l := l) hi hrest e
  rw [hstep] at hafter ⊢
  rw [hnote]
  have haccount := h.accounts i c hi
  rw [hrest] at haccount
  obtain ⟨hnext, hsound⟩ := haccount.answer e h.sound hplain hafter
  refine ⟨hsound, fun j c' hj => ?_, fun deed hdeed => ?_⟩
  · rw [List.getElem?_set] at hj
    split at hj
    · rename_i heq
      subst heq
      split at hj
      · cases hj
        exact hnext
      · cases hj
    · rename_i hne
      refine (h.accounts j c' hj).mono (Ledger.copies_note_of_ne _ (Ne.symm hne))
        fun deed hdeed hcall => ?_
      exact Ledger.mem_deeds_of_note hdeed (by rw [hcall]; exact Ne.symm hne)
  · rw [List.length_set]
    by_cases hcall : deed.call = i
    · rw [hcall]
      exact (List.getElem?_eq_some_iff.1 hi).1
    · exact h.made deed (Ledger.mem_deeds_of_note hdeed hcall)

/-- **A step of any call keeps the ledger faithful.** -/
theorem faithful_step (h : l.Faithful w) (hplain : w.store.Plain) (event : Event)
    (hafter : (w.step s event).store.Plain) : (w.note l event).Faithful (w.step s event) := by
  cases event with
  | arrive q => exact faithful_arrive h q
  | approval entity id state =>
    exact ⟨⟨h.sound.covers.setApproval entity id state, h.sound.entered⟩, h.accounts, h.made⟩
  | proceed i e =>
    cases hi : w.calls[i]? with
    | none =>
      have hstep : w.step s (.proceed i e) = w ∧ w.note l (.proceed i e) = l := by
        simp [step, proceed, note, hi]
      rwa [hstep.1, hstep.2]
    | some c =>
      cases hrest : c.rest with
      | done result =>
        have hcalls : w.calls.set i c = w.calls := by
          obtain ⟨hlt, rfl⟩ := List.getElem?_eq_some_iff.1 hi
          exact List.set_getElem_self hlt
        have hstep : w.step s (.proceed i e) = w ∧ w.note l (.proceed i e) = l := by
          simp [step, proceed, Progress.proceed, note, hi, hrest, hcalls]
        rwa [hstep.1, hstep.2]
      | ask d next => exact faithful_answer h hi hrest hplain e hafter

theorem faithful_run (hs : s.schema.Registered) (h : l.Faithful w) (hsound : w.Sound s)
    (htyped : w.store.Typed s.schema) (events : List Event) :
    (w.ledger s l events).Faithful (w.run s events) := by
  induction events generalizing w l with
  | nil => exact h
  | cons event rest ih =>
    have hplain {store : Store} (htyped : store.Typed s.schema) : store.Plain :=
      fun id r hr => (htyped.typed id r hr).plain hs
    have hafter := hsound.step_typed hs htyped event
    exact ih (faithful_step h (hplain htyped) event (hplain hafter)) (hsound.step event) hafter

end World

/-! ## What the trail tells -/

/-- Where all writes to a record have been entered, the trail has the changes of all of them. -/
theorem Ledger.Sound.trail_eq {l : Ledger} {store : Store} (h : l.Sound store) {id : Uuid}
    (hall : ∀ deed ∈ l.of id, deed.entry.isSome = true) : l.trail id = l.history id := by
  have hentered : ∀ deed ∈ l.of id, ∀ entry, deed.entry = some entry → deed.Entered entry :=
    fun deed hdeed => h.entered deed (List.mem_of_mem_filter hdeed)
  unfold Ledger.trail Ledger.history
  generalize l.of id = deeds at hall hentered
  induction deeds with
  | nil => rfl
  | cons deed rest ih =>
    obtain ⟨entry, hentry⟩ := Option.isSome_iff_exists.1 (hall deed List.mem_cons_self)
    rw [List.filterMap_cons, hentry, List.flatMap_cons, List.flatMap_cons,
      (hentered deed List.mem_cons_self entry hentry).changes,
      ih (fun d hd => hall d (List.mem_cons_of_mem _ hd))
        fun d hd => hentered d (List.mem_cons_of_mem _ hd)]

namespace World

/-- **The audit trail reconstructs each record.**

Calls run over a store that was empty at first, and interleave in any way, also with workflows. Take
any record that is stored in the end, and suppose that the calls that have written to it have also
entered their writes, and that none of these writes has overlooked a change of another call. Then the
changes that were entered for it, applied to an empty object in the order of the writes, give its data
as it is shown, field by field and with no other field, and its mark of deletion; a record that was
never deleted has none. -/
theorem trail_reconstructs {s : Service} (hs : s.schema.Registered) (events : List Event) (id : Uuid)
    (r : Record) (hr : ((quiet .empty).run s events).store.find? id = some r)
    (hentered : ∀ deed ∈ ((quiet .empty).ledger s {} events).of id, deed.entry.isSome = true)
    (hseen : ∀ deed ∈ ((quiet .empty).ledger s {} events).of id, deed.overlooked = []) :
    r.ShownBy (replay (((quiet .empty).ledger s {} events).trail id) ∅) ∧
      ∀ deed ∈ ((quiet .empty).ledger s {} events).of id, ∀ entry, deed.entry = some entry →
        entry.id = id := by
  have hfaithful := faithful_run hs faithful_quiet (sound_quiet .empty) (.empty s.schema) events
  rw [hfaithful.sound.trail_eq hentered]
  refine ⟨hfaithful.sound.covers.shows id r hr hseen, fun deed hdeed entry hentry => ?_⟩
  obtain ⟨hmem, hid⟩ := List.mem_filter.1 hdeed
  exact (hfaithful.sound.entered deed hmem entry hentry).id.trans (of_decide_eq_true hid)

end World

/-! ## Two changes at a time -/

namespace Sample

def change (field : String) (value : Json) : Event :=
  .arrive ⟨ctx, task.name, .update Uuid.nil.text (.object [(field, value)])⟩

/-- Some calls get an answer each. -/
def proceeding (calls : List Nat) : List Event := calls.map fun i => .proceed i (surroundings .nil)

def entered : List Event := creation ++ proceeding [0, 0]

/-- Two changes of the task are under way. Both have read it before the second is written and entered,
and then the first. -/
def twoChanges (first second : Event) : List Event :=
  entered ++ first :: second :: proceeding [1, 1, 2, 2, 2, 2, 2, 1, 1, 1]

def overlapping : List Event :=
  twoChanges (change "effort" (.number (.int 3))) (change "title" (.string "Act"))

/-- The first change is to the title that its client has read. -/
def settingBack : List Event :=
  twoChanges (change "title" (.string "Plan")) (change "title" (.string "Act"))

end Sample

namespace World

open Sample in
/-- Two changes of different fields that overlap are both in the trail. -/
theorem overlapping_changes_told : service.schema.Registered ∧ ∃ r,
    ((quiet .empty).run service overlapping).store.find? .nil = some r ∧
      r.ShownBy (replay (((quiet .empty).ledger service {} overlapping).trail .nil) ∅) := by
  have hstored : (((quiet .empty).run service overlapping).store.find? .nil).isSome = true := by
    decide +kernel
  have htold : (((quiet .empty).ledger service {} overlapping).of .nil).all
      (fun deed => deed.entry.isSome && deed.overlooked.isEmpty) = true := by decide +kernel
  simp only [List.all_eq_true, Bool.and_eq_true, List.isEmpty_iff] at htold
  obtain ⟨r, hr⟩ := Option.isSome_iff_exists.1 hstored
  obtain ⟨hshown, -⟩ := trail_reconstructs registered _ .nil r hr
    (fun deed hdeed => (htold deed hdeed).1) fun deed hdeed => (htold deed hdeed).2
  exact ⟨registered, r, hr, hshown⟩

open Sample in
/-- The trail of a new record says nothing of a mark of deletion. And where one client sets the title
back to what it has read, after another has changed it, the trail is left with the other title. -/
theorem trail_tells_otherwise :
    (∃ r, ((quiet .empty).run service entered).store.find? .nil = some r ∧
      (∀ deed ∈ ((quiet .empty).ledger service {} entered).of .nil, deed.entry.isSome = true) ∧
      (replay (((quiet .empty).ledger service {} entered).trail .nil) ∅).get? "deleted" ≠
        some (.bool r.deleted)) ∧
    ∃ r, ((quiet .empty).run service settingBack).store.find? .nil = some r ∧
      (∀ deed ∈ ((quiet .empty).ledger service {} settingBack).of .nil,
        deed.entry.isSome = true) ∧
      (r.dataMembers.get? "title").bind Json.text? = some "Plan" ∧
      ((replay (((quiet .empty).ledger service {} settingBack).trail .nil) ∅).get? "title").bind
        Json.text? = some "Act" := by
  constructor
  · have hstored : (((quiet .empty).run service entered).store.find? .nil).isSome = true := by
      decide +kernel
    have hentered : (((quiet .empty).ledger service {} entered).of .nil).all (·.entry.isSome) =
        true := by decide +kernel
    have hunmarked : ((replay (((quiet .empty).ledger service {} entered).trail .nil) ∅).get?
        "deleted").isNone = true := by decide +kernel
    obtain ⟨r, hr⟩ := Option.isSome_iff_exists.1 hstored
    refine ⟨r, hr, List.all_eq_true.1 hentered, ?_⟩
    rw [Option.isNone_iff_eq_none.1 hunmarked]
    exact nofun
  · have hstored : (((quiet .empty).run service settingBack).store.find? .nil).any
        (fun r => (r.dataMembers.get? "title").bind Json.text? == some "Plan") = true := by
      decide +kernel
    obtain ⟨r, hr, htitle⟩ := (Option.any_eq_true ..).1 hstored
    exact ⟨r, hr, List.all_eq_true.1 (by decide +kernel), by simpa using htitle, by decide +kernel⟩

end World

end Dossier
