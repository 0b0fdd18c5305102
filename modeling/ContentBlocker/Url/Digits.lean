/-!
# Digits

Numbers in URLs are written in base 8, 10 or 16.
-/

namespace ContentBlocker.Url

/-- The value of a digit in a base up to 16. -/
def digit? (base : Nat) (c : Char) : Option Nat :=
  let value? : Option Nat :=
    if '0' ≤ c ∧ c ≤ '9' then some (c.toNat - '0'.toNat)
    else if 'a' ≤ c ∧ c ≤ 'f' then some (c.toNat - 'a'.toNat + 10)
    else if 'A' ≤ c ∧ c ≤ 'F' then some (c.toNat - 'A'.toNat + 10)
    else none
  value?.filter (· < base)

/-- The value of a text that has digits only. Where there are none it is zero. -/
def digits? (base : Nat) (s : List Char) : Option Nat :=
  s.foldl (fun sum c => sum.bind fun n => (digit? base c).map (base * n + ·)) (some 0)

end ContentBlocker.Url
