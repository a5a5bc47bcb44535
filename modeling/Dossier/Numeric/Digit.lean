/-!
# Digits

Numbers written in the digits of a base up to sixteen. The letters from `a` to `f` are the digits after
nine, in either case.
-/

namespace Dossier

def digitValue? (c : Char) : Option Nat :=
  let n := c.toNat
  if 48 ≤ n ∧ n ≤ 57 then some (n - 48)
  else if 97 ≤ n ∧ n ≤ 102 then some (n - 87)
  else if 65 ≤ n ∧ n ≤ 70 then some (n - 55)
  else none

/-- The number written in digits of a base, most significant first; nothing stands for zero. -/
def numberIn? (base : Nat) (cs : List Char) : Option Nat :=
  cs.foldlM (fun n c => (digitValue? c).bind fun d => if d < base then some (base * n + d) else none) 0

end Dossier
