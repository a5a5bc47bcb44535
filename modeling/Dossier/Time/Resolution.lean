import Dossier.Time.Instant

/-!
# Instants to the microsecond

Databases count microseconds from the start of the year 2000. An instant between two counts moves to the
one nearer that start, and a leap second counts as the first second of the next minute.
-/

namespace Dossier

namespace Instant

def nanosPerMicro : Nat := 1000

/-- The year whose start is counted from. -/
def countedFrom : Int := 2000

/-- The same instant without a leap second. -/
def settled (t : Instant) : Instant := if nanosPerSecond ≤ t.nano then t.addSeconds 1 else t

def withNano (t : Instant) (nano : Nat) : Instant := (mk? t.date t.second nano).getD t

/-- The instant as a whole number of microseconds. -/
def toMicrosecond (t : Instant) : Instant :=
  let t := t.settled
  let whole := t.nano / nanosPerMicro * nanosPerMicro
  if whole = t.nano ∨ countedFrom ≤ t.date.year then t.withNano whole
  else if whole + nanosPerMicro < nanosPerSecond then t.withNano (whole + nanosPerMicro)
  else (t.withNano 0).addSeconds 1

end Instant

end Dossier
