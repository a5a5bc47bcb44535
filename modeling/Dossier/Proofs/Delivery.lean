import Dossier.Notify.Dispatcher
import Mathlib.Data.List.Infix

/-!
# Notifications are delivered in order

Any number of senders dispatch notifications, and one worker delivers them to the notifiers. What comes of
a call, and when, is left open: each call may be taken, refused, or cut off.

**Steps** (`Dispatcher.Event`). A sender comes, dispatches or goes; the worker goes on; the worker is
stopped. Steps that cannot be taken change nothing.

**What was enqueued** (`Dispatcher.enqueued`). The notifications of a run that found room, in order.

**What was attempted** (`Dispatcher.attempts`). The notifications that the notifier at a place was called
with, in order.

**The invariant** (`Dispatcher.Sound`). Up to the one under way, every notification that was enqueued has
been taken up, and those behind it wait. The notifiers up to the one being called have been called with all
that was taken up, the others with all but the last (`Dispatcher.Progress`). What comes of a call has no
part in this.

**Clocks.** Where every notifier takes a known time, the worker goes through steps of this kind
(`exists_run_work`).

Main result: `delivered_in_order`.
-/

namespace Dossier

/-- The notification that the notifier at a place is called with. -/
def Sighting.calledAt? {α : Type} (place : Nat) : Sighting α → Option α
  | @Sighting.called _ p _ a _ => if p = place then some a else none
  | .ended .. => none

/-- A call is one of the notifier that stands at its place. -/
def Sighting.Placed {α : Type} (notifiers : List Notifier) : Sighting α → Prop
  | @Sighting.called _ p n _ _ => notifiers[p]? = some n
  | .ended .. => True

def Activity.Working {α : Type} : Activity α → Prop
  | .idle | .delivering .. => True
  | .exited | .stopped => False

namespace Dispatcher

variable {α : Type}

/-! ## Runs -/

inductive Event (α : Type) where
  | dispatch (a : α)
  | join
  | leave
  /-- The worker goes on. If a call is under way, it ends at this time and with this outcome. -/
  | advance (time : Nat) (outcome : Notifier.Outcome)
  | stop

/-- A dispatcher after a step. Where no senders are left, none dispatches or lets another one in. -/
def apply (d : Dispatcher α) : Event α → Dispatcher α
  | .dispatch a => if d.senders = 0 then d else (d.dispatch a).2
  | .join => if d.senders = 0 then d else d.join
  | .leave => d.leave
  | .advance time outcome => (d.advance? time outcome).getD d
  | .stop => d.stop

def run (d : Dispatcher α) (events : List (Event α)) : Dispatcher α := events.foldl apply d

def puts (d : Dispatcher α) : Event α → List α
  | .dispatch a => if d.senders ≠ 0 ∧ (d.dispatch a).1 = .enqueued then [a] else []
  | _ => []

/-- The notifications of a run that were enqueued, in order. -/
def enqueued (d : Dispatcher α) : List (Event α) → List α
  | [] => []
  | event :: rest => d.puts event ++ (d.apply event).enqueued rest

/-- The notifications that the notifier at a place was called with, in order. -/
def attempts (d : Dispatcher α) (place : Nat) : List α := d.log.filterMap (Sighting.calledAt? place)

def start (notifiers : List Notifier) (timeout capacity : Nat) : Dispatcher α where
  notifiers := notifiers
  timeout := timeout
  queue := .ofCapacity capacity

theorem run_append (d : Dispatcher α) (earlier later : List (Event α)) :
    d.run (earlier ++ later) = (d.run earlier).run later := List.foldl_append

/-! ## Dispatching -/

/-- A notification finds room in an open queue and is put behind the others, or it is dropped. -/
theorem dispatch_cases (d : Dispatcher α) (a : α) :
    ((d.queue.waiting.length < d.queue.capacity ∧ d.queue.accepting = true) ∧
      d.dispatch a =
        (.enqueued, { d with queue := { d.queue with waiting := d.queue.waiting ++ [a] } })) ∨
    (¬ (d.queue.waiting.length < d.queue.capacity ∧ d.queue.accepting = true) ∧
      (d.dispatch a).1 ≠ .enqueued ∧ (d.dispatch a).2 = d) := by
  unfold dispatch Queue.offer
  by_cases haccepting : d.queue.accepting = true
  · by_cases hroom : d.queue.waiting.length < d.queue.capacity
    · exact .inl ⟨⟨hroom, haccepting⟩, by simp [hroom, haccepting]⟩
    · exact .inr ⟨fun h => hroom h.1, by simp [hroom, haccepting]⟩
  · exact .inr ⟨fun h => haccepting h.2, by simp [haccepting]⟩

/-! ## The invariant -/

/-- How far the worker has come with the notifications that were enqueued. -/
inductive Progress (notifiers : List Notifier) (sent : List α) (d : Dispatcher α) : Prop
  | idle {taken : List α} (activity : d.activity = .idle) (order : sent = taken ++ d.queue.waiting)
      (called : ∀ place < notifiers.length, d.attempts place = taken)
  /-- The notifiers up to the current one have been called with the notification under way. -/
  | delivering {taken : List α} {a : α} {calledAt : Nat} {earlier : List Notifier} {n : Notifier}
      {others : List Notifier} (activity : d.activity = .delivering a calledAt n others)
      (split : notifiers = earlier ++ n :: others) (order : sent = taken ++ a :: d.queue.waiting)
      (called : ∀ place < notifiers.length,
        d.attempts place = if place ≤ earlier.length then taken ++ [a] else taken)
  | exited (activity : d.activity = .exited) (alone : d.senders = 0)
      (called : ∀ place < notifiers.length, d.attempts place = sent)
  | stopped (activity : d.activity = .stopped)
      (called : ∀ place < notifiers.length, d.attempts place <+: sent)

/-- What holds of a dispatcher whatever its worker is doing. -/
structure Framed (notifiers : List Notifier) (capacity : Nat) (d : Dispatcher α) : Prop where
  served : d.notifiers = notifiers
  size : d.queue.capacity = max capacity 1
  room : d.queue.waiting.length ≤ max capacity 1
  placed : ∀ s ∈ d.log, s.Placed notifiers

structure Sound (notifiers : List Notifier) (capacity : Nat) (sent : List α) (d : Dispatcher α) : Prop
    extends d.Framed notifiers capacity where
  accepting : d.queue.accepting = true ↔ d.activity.Working
  progress : d.Progress notifiers sent

variable {notifiers : List Notifier} {timeout capacity : Nat} {sent : List α} {d : Dispatcher α}

/-- Wherever the worker is, each notifier has been called with a first part of what was sent. -/
theorem Progress.called_prefix (h : d.Progress notifiers sent) {place : Nat}
    (hplace : place < notifiers.length) : d.attempts place <+: sent := by
  cases h with
  | @idle taken _ order called =>
    rw [called place hplace, order]
    exact List.prefix_append ..
  | @delivering taken a _ _ _ _ _ _ order called =>
    have hlast : taken ++ [a] <+: sent := ⟨d.queue.waiting, by simp [order]⟩
    rw [called place hplace]
    split
    · exact hlast
    · exact (List.prefix_append taken [a]).trans hlast
  | exited _ _ called => rw [called place hplace]
  | stopped _ called => exact called place hplace

/-- A working worker has taken up all but what waits, and no notifier is behind by more than one. -/
theorem Progress.taken (h : d.Progress notifiers sent) (hworking : d.activity.Working) :
    ∃ taken, sent = taken ++ d.queue.waiting ∧ ∀ place < notifiers.length,
      d.attempts place = taken ∨ ∃ a, d.attempts place ++ [a] = taken := by
  cases h with
  | idle _ order called => exact ⟨_, order, fun place hplace => .inl (called place hplace)⟩
  | @delivering taken a _ _ _ _ _ _ order called =>
    refine ⟨taken ++ [a], by simp [order], fun place hplace => ?_⟩
    rw [called place hplace]
    split
    · exact .inl rfl
    · exact .inr ⟨a, rfl⟩
  | exited activity => rw [activity] at hworking; exact hworking.elim
  | stopped activity => rw [activity] at hworking; exact hworking.elim

theorem Sound.start (notifiers : List Notifier) (timeout capacity : Nat) :
    (start notifiers timeout capacity : Dispatcher α).Sound notifiers capacity [] where
  served := rfl
  size := rfl
  room := Nat.zero_le _
  placed _ h := nomatch h
  accepting := ⟨fun _ => trivial, fun _ => rfl⟩
  progress := .idle rfl rfl fun _ _ => rfl

/-! ## Steps of the worker -/

theorem attempts_finish (d : Dispatcher α) (a : α) (calledAt : Nat) (n : Notifier) (time : Nat)
    (outcome : Notifier.Outcome) (place : Nat) :
    (d.finish a calledAt n time outcome).attempts place = d.attempts place := by
  cases outcome <;> simp [finish, attempts, Sighting.calledAt?]

theorem queue_finish (d : Dispatcher α) (a : α) (calledAt : Nat) (n : Notifier) (time : Nat)
    (outcome : Notifier.Outcome) : (d.finish a calledAt n time outcome).queue = d.queue := by
  cases outcome <;> rfl

theorem Framed.finish (h : d.Framed notifiers capacity) (a : α) (calledAt : Nat) (n : Notifier)
    (time : Nat) (outcome : Notifier.Outcome) :
    (d.finish a calledAt n time outcome).Framed notifiers capacity := by
  have hended : ∀ s ∈ d.log ++ [.ended n a calledAt time], s.Placed notifiers := by
    intro s hs
    rcases List.mem_append.1 hs with hs | hs
    · exact h.placed s hs
    · rw [List.mem_singleton.1 hs]
      trivial
  cases outcome with
  | delivered => exact ⟨h.served, h.size, h.room, hended⟩
  | refused => exact ⟨h.served, h.size, h.room, hended⟩
  | timedOut => exact h

theorem attempts_call_cons (d : Dispatcher α) (a : α) (time : Nat) (n : Notifier) (others : List Notifier)
    (place : Nat) : (d.call a time (n :: others)).attempts place =
      d.attempts place ++ if d.notifiers.length - (others.length + 1) = place then [a] else [] := by
  unfold attempts call
  rw [List.filterMap_append]
  congr 1
  simp only [List.filterMap_cons, List.filterMap_nil, Sighting.calledAt?]
  split <;> simp_all

/-- Once the notifiers before some others have been called with a notification, the first of those is
called with it; with none left the worker is idle again. -/
theorem Framed.call (h : d.Framed notifiers capacity) (haccepting : d.queue.accepting = true)
    (earlier : List Notifier) {ns : List Notifier} (hsplit : notifiers = earlier ++ ns)
    {taken : List α} {a : α} (horder : sent = taken ++ a :: d.queue.waiting)
    (hcalled : ∀ place < notifiers.length,
      d.attempts place = if place < earlier.length then taken ++ [a] else taken) (time : Nat) :
    (d.call a time ns).Sound notifiers capacity sent := by
  cases ns with
  | nil =>
    refine ⟨⟨h.served, h.size, h.room, h.placed⟩, ⟨fun _ => trivial, fun _ => haccepting⟩, ?_⟩
    rw [List.append_nil] at hsplit
    have hall (place : Nat) (hplace : place < notifiers.length) : d.attempts place = taken ++ [a] :=
      (hcalled place hplace).trans (if_pos (hsplit ▸ hplace))
    exact .idle rfl (by simp [horder, Dispatcher.call]) hall
  | cons n others =>
    have hplace : d.notifiers.length - (others.length + 1) = earlier.length := by
      rw [h.served, hsplit, List.length_append, List.length_cons, Nat.add_sub_cancel]
    refine ⟨⟨h.served, h.size, h.room, ?_⟩, ⟨fun _ => trivial, fun _ => haccepting⟩, ?_⟩
    · intro s hs
      rcases List.mem_append.1 hs with hs | hs
      · exact h.placed s hs
      · rw [List.mem_singleton.1 hs]
        show notifiers[d.notifiers.length - (others.length + 1)]? = some n
        rw [hplace, hsplit]
        simp
    · refine .delivering rfl hsplit horder fun place hlt => ?_
      rw [attempts_call_cons, hplace, hcalled place hlt]
      rcases Nat.lt_trichotomy place earlier.length with hless | rfl | hmore
      · rw [if_pos hless, if_neg hless.ne', if_pos hless.le, List.append_nil]
      · rw [if_neg (Nat.lt_irrefl _), if_pos rfl, if_pos (Nat.le_refl _)]
      · rw [if_neg hmore.not_gt, if_neg hmore.ne, if_neg hmore.not_ge, List.append_nil]

/-- The worker takes up the oldest notification that waits, or nobody is left and it exits. -/
theorem takeUp?_cases {e : Dispatcher α} {time : Nat} (h : d.takeUp? time = some e) :
    (∃ a rest, d.queue.waiting = a :: rest ∧
      e = { d with queue := { d.queue with waiting := rest } }.call a time d.notifiers) ∨
    (d.queue.waiting = [] ∧ d.senders = 0 ∧
      e = { d with queue := d.queue.close, activity := .exited, clock := time }) := by
  unfold takeUp? Queue.take? at h
  cases hwaiting : d.queue.waiting with
  | nil =>
    simp only [hwaiting, Option.ite_none_right_eq_some, Option.some.injEq] at h
    exact .inr ⟨rfl, h.1, h.2.symm⟩
  | cons a rest =>
    simp only [hwaiting, Option.some.injEq] at h
    exact .inl ⟨a, rest, rfl, h.symm⟩

theorem Sound.takeUp? (h : d.Sound notifiers capacity sent) (hidle : d.activity = .idle)
    {e : Dispatcher α} {time : Nat} (htaken : d.takeUp? time = some e) :
    e.Sound notifiers capacity sent := by
  have haccepting : d.queue.accepting = true := h.accepting.2 (by rw [hidle]; trivial)
  obtain ⟨taken, horder, hcalled⟩ : ∃ taken, sent = taken ++ d.queue.waiting ∧
      ∀ place < notifiers.length, d.attempts place = taken := by
    cases h.progress with
    | idle _ order called => exact ⟨_, order, called⟩
    | delivering activity => simp [hidle] at activity
    | exited activity => simp [hidle] at activity
    | stopped activity => simp [hidle] at activity
  obtain ⟨a, rest, hwaiting, rfl⟩ | ⟨hwaiting, halone, rfl⟩ := takeUp?_cases htaken
  · have hroom : rest.length ≤ max capacity 1 := by
      have := h.room
      rw [hwaiting, List.length_cons] at this
      omega
    have hframed : Framed notifiers capacity { d with queue := { d.queue with waiting := rest } } :=
      ⟨h.served, h.size, hroom, h.placed⟩
    refine hframed.call haccepting [] h.served.symm (hwaiting ▸ horder) ?_ time
    intro place hplace
    rw [List.length_nil, if_neg (Nat.not_lt_zero _)]
    exact hcalled place hplace
  · refine ⟨⟨h.served, h.size, Nat.zero_le _, h.placed⟩, ⟨nofun, nofun⟩, ?_⟩
    refine .exited rfl halone fun place hplace => ?_
    rw [horder, hwaiting, List.append_nil]
    exact hcalled place hplace

/-- Whatever the worker does next, and however the call under way ends. -/
theorem Sound.advance? (h : d.Sound notifiers capacity sent) {e : Dispatcher α} {time : Nat}
    {outcome : Notifier.Outcome} (hstep : d.advance? time outcome = some e) :
    e.Sound notifiers capacity sent := by
  unfold Dispatcher.advance? at hstep
  split at hstep
  · next hidle => exact h.takeUp? hidle hstep
  · next a calledAt n others hbusy =>
    cases hstep
    have haccepting : d.queue.accepting = true := h.accepting.2 (by rw [hbusy]; trivial)
    cases h.progress with
    | idle activity => simp [hbusy] at activity
    | @delivering taken a' _ earlier n' others' activity split order called =>
      obtain ⟨rfl, -, rfl, rfl⟩ : a = a' ∧ _ ∧ n = n' ∧ others = others' := by
        simpa [hbusy] using activity
      refine (h.toFramed.finish a calledAt n time outcome).call (by rw [queue_finish, haccepting])
        (earlier ++ [n]) (by rw [split, List.append_assoc, List.singleton_append])
        (by rw [queue_finish, order]) ?_ time
      intro place hplace
      simp only [attempts_finish, called place hplace, List.length_append, List.length_singleton,
        Nat.lt_succ_iff]
    | exited activity => simp [hbusy] at activity
    | stopped activity => simp [hbusy] at activity
  · cases hstep
  · cases hstep

/-! ## Steps of everyone -/

theorem Sound.dispatch (h : d.Sound notifiers capacity sent) (hsenders : d.senders ≠ 0) {a : α}
    (hroom : d.queue.waiting.length < d.queue.capacity) (haccepting : d.queue.accepting = true) :
    Sound notifiers capacity (sent ++ [a])
      { d with queue := { d.queue with waiting := d.queue.waiting ++ [a] } } := by
  have hlength : (d.queue.waiting ++ [a]).length ≤ max capacity 1 := by
    rw [List.length_append, List.length_singleton, ← h.size]
    exact hroom
  refine ⟨⟨h.served, h.size, hlength, h.placed⟩, h.accepting, ?_⟩
  cases h.progress with
  | idle activity order called =>
    exact .idle activity (by rw [order, List.append_assoc]) called
  | delivering activity split order called =>
    exact .delivering activity split (by rw [order, List.append_assoc, List.cons_append]) called
  | exited _ alone => exact absurd alone hsenders
  | stopped activity =>
    have := h.accepting.1 haccepting
    rw [activity] at this
    exact this.elim

/-- Senders may come and go as long as none is left once the worker has exited. -/
theorem Sound.setSenders (h : d.Sound notifiers capacity sent) {senders : Nat}
    (hnone : d.senders = 0 → senders = 0) : Sound notifiers capacity sent { d with senders } := by
  refine ⟨⟨h.served, h.size, h.room, h.placed⟩, h.accepting, ?_⟩
  cases h.progress with
  | idle activity order called => exact .idle activity order called
  | delivering activity split order called => exact .delivering activity split order called
  | exited activity alone called => exact .exited activity (hnone alone) called
  | stopped activity called => exact .stopped activity called

theorem Sound.stop (h : d.Sound notifiers capacity sent) : d.stop.Sound notifiers capacity sent := by
  unfold Dispatcher.stop
  split
  · exact h
  · exact ⟨⟨h.served, h.size, Nat.zero_le _, h.placed⟩, ⟨nofun, nofun⟩,
      .stopped rfl fun _ hplace => h.progress.called_prefix hplace⟩

theorem Sound.apply (h : d.Sound notifiers capacity sent) (event : Event α) :
    (d.apply event).Sound notifiers capacity (sent ++ d.puts event) := by
  cases event with
  | dispatch a =>
    by_cases hsenders : d.senders = 0
    · simpa [Dispatcher.apply, puts, hsenders] using h
    · obtain ⟨⟨hroom, haccepting⟩, hdispatch⟩ | ⟨-, hdropped, hsame⟩ := d.dispatch_cases a
      · simpa [Dispatcher.apply, puts, hsenders, hdispatch] using h.dispatch hsenders hroom haccepting
      · simpa [Dispatcher.apply, puts, hsenders, hdropped, hsame] using h
  | join =>
    rw [show d.puts .join = [] from rfl, List.append_nil, Dispatcher.apply]
    split
    · exact h
    · next hsenders => exact h.setSenders fun halone => absurd halone hsenders
  | leave =>
    rw [show d.puts .leave = [] from rfl, List.append_nil]
    exact h.setSenders fun halone => by rw [halone]
  | advance time outcome =>
    rw [show d.puts (.advance time outcome) = [] from rfl, List.append_nil, Dispatcher.apply]
    cases hstep : d.advance? time outcome with
    | none => exact h
    | some e => exact h.advance? hstep
  | stop =>
    rw [show d.puts .stop = [] from rfl, List.append_nil]
    exact h.stop

theorem Sound.run (h : d.Sound notifiers capacity sent) (events : List (Event α)) :
    (d.run events).Sound notifiers capacity (sent ++ d.enqueued events) := by
  induction events generalizing d sent with
  | nil => simpa [enqueued, Dispatcher.run] using h
  | cons event rest ih =>
    have := ih (h.apply event)
    rwa [List.append_assoc] at this

/-! ## The exit -/

theorem senders_call (d : Dispatcher α) (a : α) (time : Nat) (ns : List Notifier) :
    (d.call a time ns).senders = d.senders := by
  cases ns <;> rfl

theorem call_not_stopped (d : Dispatcher α) (a : α) (time : Nat) (ns : List Notifier) :
    (d.call a time ns).activity ≠ .stopped := by
  cases ns with
  | nil => exact fun h => nomatch h
  | cons => exact fun h => nomatch h

/-- With nobody left, a worker that has not exited goes on, and does not stop by itself. -/
theorem exists_advance? (halone : d.senders = 0) (hstopped : d.activity ≠ .stopped) (time : Nat)
    (outcome : Notifier.Outcome) :
    (d.activity = .exited ∧ d.advance? time outcome = none) ∨
      ∃ e, d.advance? time outcome = some e ∧ e.senders = 0 ∧ e.activity ≠ .stopped := by
  unfold advance?
  cases hactivity : d.activity with
  | idle =>
    refine .inr ?_
    cases htake : d.takeUp? time with
    | none =>
      unfold takeUp? at htake
      split at htake
      · cases htake
      · simp [halone] at htake
    | some e =>
      refine ⟨e, rfl, ?_⟩
      obtain ⟨a, rest, -, rfl⟩ | ⟨-, -, rfl⟩ := takeUp?_cases htake
      · exact ⟨(senders_call ..).trans halone, call_not_stopped _ _ _ _⟩
      · exact ⟨halone, nofun⟩
  | delivering a calledAt n others =>
    refine .inr ⟨_, rfl, (senders_call ..).trans ?_, call_not_stopped _ _ _ _⟩
    cases outcome <;> exact halone
  | exited => exact .inl ⟨rfl, rfl⟩
  | stopped => exact absurd hactivity hstopped

/-- Once it has exited the worker is done for good. -/
theorem exited_run (h : d.activity = .exited) (events : List (Event α)) :
    (d.run events).activity = .exited := by
  induction events generalizing d with
  | nil => exact h
  | cons event rest ih =>
    refine ih (d := d.apply event) ?_
    cases event with
    | dispatch a =>
      rw [apply]
      split
      · exact h
      · exact h
    | join =>
      rw [apply]
      split
      · exact h
      · exact h
    | leave => exact h
    | advance time outcome => simp [apply, advance?, h]
    | stop => simp [apply, stop, h]

theorem exited_of_effort_eq_zero (hstopped : d.activity ≠ .stopped) (h : d.effort = 0) :
    d.activity = .exited := by
  unfold effort at h
  cases hactivity : d.activity with
  | idle => simp [hactivity] at h
  | delivering => simp [hactivity] at h
  | exited => rfl
  | stopped => exact absurd hactivity hstopped

/-- With nobody left, the worker exits after as many steps as its effort says. The induction is on the
steps, of which each costs some effort. -/
theorem exited_of_effort_le {later : List (Event α)}
    (hlater : ∀ event ∈ later, ∃ time outcome, event = .advance time outcome) (halone : d.senders = 0)
    (hstopped : d.activity ≠ .stopped) (heffort : d.effort ≤ later.length) :
    (d.run later).activity = .exited := by
  induction later generalizing d with
  | nil => exact exited_of_effort_eq_zero hstopped (Nat.le_zero.1 heffort)
  | cons event rest ih =>
    obtain ⟨time, outcome, rfl⟩ := hlater event List.mem_cons_self
    obtain ⟨hexited, -⟩ | ⟨e, hstep, halone', hstopped'⟩ := exists_advance? halone hstopped time outcome
    · exact exited_run hexited _
    · show ((d.apply (.advance time outcome)).run rest).activity = .exited
      rw [show d.apply (.advance time outcome) = e by simp [apply, hstep]]
      have hless := effort_advance? hstep
      rw [List.length_cons] at heffort
      exact ih (fun event hmem => hlater event (List.mem_cons_of_mem _ hmem)) halone' hstopped' (by omega)

/-! ## Clocks -/

/-- Where every notifier takes a known time, what the worker does by a moment is a row of its steps. -/
theorem exists_run_work (d : Dispatcher α) (moment : Nat) :
    ∃ events, (∀ event ∈ events, ∃ time outcome, event = Event.advance time outcome) ∧
      d.work moment = d.run events := by
  induction d using work.induct moment with
  | case1 d e hstep ih =>
    obtain ⟨events, hevents, hrun⟩ := ih
    obtain ⟨time, outcome, hadvance⟩ := exists_advance?_of_step? hstep
    refine ⟨.advance time outcome :: events, ?_, ?_⟩
    · intro event hmem
      rcases List.mem_cons.1 hmem with rfl | hmem
      · exact ⟨time, outcome, rfl⟩
      · exact hevents event hmem
    · rw [work]
      split
      · next e' hstep' =>
        obtain rfl : e = e' := by simpa [hstep] using hstep'
        rw [hrun]
        show e.run events = (d.apply (.advance time outcome)).run events
        rw [show d.apply (.advance time outcome) = e by simp [apply, hadvance]]
      · next hnone => simp [hstep] at hnone
  | case2 d hnone =>
    refine ⟨[], nofun, ?_⟩
    rw [work]
    split
    · next e hstep => simp [hnone] at hstep
    · rfl

/-! ## Delivery -/

/-- Whatever senders and the worker do and however calls end: no more notifications wait than there is
room for; a notification is enqueued exactly when there is room and the worker still takes
notifications up, and else nothing changes; each notifier has been called with a first part of what was
enqueued, in order, and while the worker works none lags behind what it has taken up by more than one;
once the worker has exited, each has been called with all of it. With nobody left, the worker does
exit. -/
theorem delivered_in_order (notifiers : List Notifier) (timeout capacity : Nat) (events : List (Event α)) :
    let d := (start notifiers timeout capacity).run events
    let sent := (start notifiers timeout capacity).enqueued events
    d.queue.waiting.length ≤ max capacity 1 ∧
    (∀ a,
      ((d.queue.waiting.length < max capacity 1 ∧ d.activity.Working) ∧ d.dispatch a =
        (.enqueued, { d with queue := { d.queue with waiting := d.queue.waiting ++ [a] } })) ∨
      (¬ (d.queue.waiting.length < max capacity 1 ∧ d.activity.Working) ∧
        (d.dispatch a).1 ≠ .enqueued ∧ (d.dispatch a).2 = d)) ∧
    (∀ s ∈ d.log, s.Placed notifiers) ∧
    (∀ place < notifiers.length, d.attempts place <+: sent) ∧
    (d.activity.Working → ∃ taken, sent = taken ++ d.queue.waiting ∧ ∀ place < notifiers.length,
      d.attempts place = taken ∨ ∃ a, d.attempts place ++ [a] = taken) ∧
    (d.activity = .exited →
      d.senders = 0 ∧ ∀ place < notifiers.length, d.attempts place = sent) ∧
    (d.senders = 0 → d.activity ≠ .stopped → ∀ later : List (Event α),
      (∀ event ∈ later, ∃ time outcome, event = .advance time outcome) → d.effort ≤ later.length →
        (d.run later).activity = .exited) := by
  intro d sent
  have h : d.Sound notifiers capacity sent := (Sound.start notifiers timeout capacity).run events
  refine ⟨h.room, fun a => ?_, h.placed, fun _ => h.progress.called_prefix, h.progress.taken, ?_, ?_⟩
  · have := d.dispatch_cases a
    rwa [h.size, h.accepting] at this
  · intro hexited
    cases h.progress with
    | idle activity => simp [hexited] at activity
    | delivering activity => simp [hexited] at activity
    | exited _ alone called => exact ⟨alone, called⟩
    | stopped activity => simp [hexited] at activity
  · intro halone hstopped later hlater heffort
    exact exited_of_effort_le hlater halone hstopped heffort

namespace Sample

def stuckFirst : List Notifier := [⟨"stuck", 3600000, false⟩, ⟨"recording", 0, false⟩]

/-- The second notification finds no room. Every call of the first notifier is cut off. -/
def crowded : List (Event Nat) :=
  [.dispatch 1, .dispatch 2, .advance 0 .delivered, .join, .dispatch 3, .leave, .advance 20 .timedOut,
    .advance 20 .delivered, .leave, .advance 20 .delivered, .advance 40 .timedOut, .advance 40 .refused]

end Sample

theorem delivered_in_order_past_stuck :
    (start Sample.stuckFirst 20 0).enqueued Sample.crowded = [1, 3] ∧
    ((start Sample.stuckFirst 20 0).run (Sample.crowded ++ [.advance 40 .delivered])).activity = .exited ∧
    ∀ place < 2, ((start Sample.stuckFirst 20 0).run
      (Sample.crowded ++ [.advance 40 .delivered])).attempts place = [1, 3] := by
  obtain ⟨-, -, -, -, -, -, hexit⟩ := delivered_in_order Sample.stuckFirst 20 0 Sample.crowded
  obtain ⟨-, -, -, -, -, hexited, -⟩ :=
    delivered_in_order Sample.stuckFirst 20 0 (Sample.crowded ++ [.advance 40 .delivered])
  have hlast : ((start Sample.stuckFirst 20 0).run
      (Sample.crowded ++ [.advance 40 .delivered])).activity = .exited := by
    rw [run_append]
    exact hexit rfl nofun [.advance 40 .delivered] (by simp) (by decide)
  exact ⟨by decide, hlast, (hexited hlast).2⟩

end Dispatcher

end Dossier
