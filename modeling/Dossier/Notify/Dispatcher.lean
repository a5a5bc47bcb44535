import Dossier.Notify.Queue

/-!
# Delivering notifications

One worker takes notifications from a queue and calls every notifier with each, one after the other. A
notifier that refuses, or takes longer than is allowed, does not keep the others from being called.

**The end.** Whoever holds the dispatcher can put notifications in. Once nobody does, the worker delivers
what still waits and exits. It can also be stopped in the middle of whatever it is doing; then what waits
is lost.

**Time.** The dispatcher has a clock in milliseconds. `work moment` lets the worker do everything that
is done by that moment. A notifier that needs exactly the time allowed is still in time.

**What is observed.** The log holds each call of a notifier when it begins, and when it ends. A call
that is cut off has no end.
-/

namespace Dossier

/-- Where notifications go: how long a call takes, and whether it is refused. -/
structure Notifier where
  name : String
  delay : Nat
  refuses : Bool

inductive Notifier.Outcome where
  | delivered
  | refused
  | timedOut
deriving DecidableEq

/-- What comes of a call that may take no longer than some time. -/
def Notifier.outcome (n : Notifier) (timeout : Nat) : Outcome :=
  if timeout < n.delay then .timedOut else if n.refuses then .refused else .delivered

inductive Sighting (α : Type) where
  /-- Notifiers are told apart by their places, since one may stand among them twice. -/
  | called {place : Nat} (notifier : Notifier) (subject : α) (time : Nat)
  | ended (notifier : Notifier) (subject : α) (calledAt time : Nat)

inductive Activity (α : Type) where
  | idle
  /-- A notifier was called at a time, and others are still to be called. -/
  | delivering (subject : α) (calledAt : Nat) (current : Notifier) (others : List Notifier)
  /-- Everything was delivered, and nobody was left to put more in. -/
  | exited
  | stopped

structure Dispatcher (α : Type) where
  notifiers : List Notifier
  /-- How long one call may take. -/
  timeout : Nat
  queue : Queue α
  activity : Activity α := .idle
  clock : Nat := 0
  /-- How many hold the dispatcher. -/
  senders : Nat := 1
  /-- What was seen, oldest first. -/
  log : List (Sighting α) := []

namespace Dispatcher

variable {α : Type}

def dispatch (d : Dispatcher α) (a : α) : Admission × Dispatcher α :=
  let (admission, queue) := d.queue.offer a
  (admission, { d with queue })

/-- Lets someone else hold the dispatcher too. -/
def join (d : Dispatcher α) : Dispatcher α := { d with senders := d.senders + 1 }

def leave (d : Dispatcher α) : Dispatcher α := { d with senders := d.senders - 1 }

def call (d : Dispatcher α) (a : α) (time : Nat) : List Notifier → Dispatcher α
  | [] => { d with activity := .idle, clock := time }
  | n :: others =>
    let place := d.notifiers.length - (others.length + 1)
    { d with
      activity := .delivering a time n others
      clock := time
      log := d.log ++ [@Sighting.called α place n a time] }

/-- Notes the end of a call, unless it was cut off. -/
def finish (d : Dispatcher α) (a : α) (calledAt : Nat) (n : Notifier) (time : Nat) :
    Notifier.Outcome → Dispatcher α
  | .delivered | .refused => { d with log := d.log ++ [.ended n a calledAt time] }
  | .timedOut => d

/-- Takes up the oldest notification; with none left and nobody to put one in, exits. -/
def takeUp? (d : Dispatcher α) (time : Nat) : Option (Dispatcher α) :=
  match d.queue.take? with
  | some (a, queue) => some ({ d with queue }.call a time d.notifiers)
  | none =>
    if d.senders = 0 then some { d with queue := d.queue.close, activity := .exited, clock := time }
    else none

/-- The next thing that the worker does, if there is any. A call under way ends at a time with some
outcome, and whatever this is, the next notifier is called. -/
def advance? (d : Dispatcher α) (time : Nat) (outcome : Notifier.Outcome) : Option (Dispatcher α) :=
  match d.activity with
  | .idle => d.takeUp? time
  | .delivering a calledAt n others => some ((d.finish a calledAt n time outcome).call a time others)
  | .exited | .stopped => none

def callEnd (d : Dispatcher α) (calledAt : Nat) (n : Notifier) : Nat := calledAt + min n.delay d.timeout

/-- The next thing that the worker does, if it can be done by a given time. -/
def step? (d : Dispatcher α) (moment : Nat) : Option (Dispatcher α) :=
  match d.activity with
  | .delivering _ calledAt n _ =>
    if d.callEnd calledAt n ≤ moment then d.advance? (d.callEnd calledAt n) (n.outcome d.timeout) else none
  | _ => d.advance? d.clock .delivered

/-- The calls that remain to be made or to end, and the exit. -/
def effort (d : Dispatcher α) : Nat :=
  d.queue.waiting.length * (d.notifiers.length + 1) +
    match d.activity with
    | .idle => 1
    | .delivering _ _ _ others => others.length + 2
    | .exited | .stopped => 0

theorem effort_call (d : Dispatcher α) (a : α) (time : Nat) (ns : List Notifier) :
    (d.call a time ns).effort = d.queue.waiting.length * (d.notifiers.length + 1) + (ns.length + 1) := by
  cases ns <;> rfl

theorem effort_takeUp? {d e : Dispatcher α} {time : Nat} (hidle : d.activity = .idle)
    (h : d.takeUp? time = some e) : e.effort < d.effort := by
  have hbefore : d.effort = d.queue.waiting.length * (d.notifiers.length + 1) + 1 := by
    simp [effort, hidle]
  unfold takeUp? at h
  split at h
  · next a queue htake =>
    cases h
    have hlen := Queue.length_take? htake
    rw [effort_call, hbefore, ← hlen, Nat.add_mul]
    simp
  · split at h
    · cases h
      rw [hbefore]
      simp [effort, Queue.close]
    · cases h

theorem effort_advance? {d e : Dispatcher α} {time : Nat} {outcome : Notifier.Outcome}
    (h : d.advance? time outcome = some e) : e.effort < d.effort := by
  unfold advance? at h
  split at h
  · next hidle => exact effort_takeUp? hidle h
  · next a calledAt n others hbusy =>
    cases h
    rw [effort_call]
    cases outcome <;> simp [effort, hbusy, finish]
  · cases h
  · cases h

theorem exists_advance?_of_step? {d e : Dispatcher α} {moment : Nat} (h : d.step? moment = some e) :
    ∃ time outcome, d.advance? time outcome = some e := by
  unfold step? at h
  split at h
  · split at h
    · exact ⟨_, _, h⟩
    · cases h
  · exact ⟨_, _, h⟩

theorem effort_step? {d e : Dispatcher α} {moment : Nat} (h : d.step? moment = some e) :
    e.effort < d.effort := by
  obtain ⟨_, _, h⟩ := exists_advance?_of_step? h
  exact effort_advance? h

/-- Everything that the worker does by a given time. -/
def work (d : Dispatcher α) (moment : Nat) : Dispatcher α :=
  match _h : d.step? moment with
  | some e => e.work moment
  | none => d
termination_by d.effort
decreasing_by exact effort_step? _h

/-- Lets the worker do all that takes no time. -/
def settle (d : Dispatcher α) : Dispatcher α := d.work d.clock

def wait (d : Dispatcher α) (milliseconds : Nat) : Dispatcher α :=
  let moment := d.clock + milliseconds
  { d.work moment with clock := moment }

/-- Stops the worker in the middle of whatever it is doing, unless it has exited. -/
def stop (d : Dispatcher α) : Dispatcher α :=
  match d.activity with
  | .exited => d
  | _ => { d with queue := d.queue.close, activity := .stopped }

end Dispatcher

end Dossier
