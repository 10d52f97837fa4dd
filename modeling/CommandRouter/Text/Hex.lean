/-!
# Hexadecimal digits

## Main definitions

* `hexDigit` and `hexDigits` write a number with a fixed count of lower-case digits.
* `hexValue?` and `hexValues?` read digits of either case back.
-/

namespace CommandRouter

/-- The lower-case hexadecimal digit of a number below sixteen. -/
def hexDigit (n : Nat) : Char :=
  if n < 10 then Char.ofNat (48 + n) else Char.ofNat (87 + n)

/-- The last `width` hexadecimal digits of a number, most significant first. -/
def hexDigits : Nat → Nat → List Char
  | 0, _ => []
  | width + 1, n => hexDigits width (n / 16) ++ [hexDigit (n % 16)]

/-- The value of a hexadecimal digit of either case. -/
def hexValue? (c : Char) : Option Nat :=
  if '0' ≤ c ∧ c ≤ '9' then some (c.toNat - 48)
  else if 'a' ≤ c ∧ c ≤ 'f' then some (c.toNat - 87)
  else if 'A' ≤ c ∧ c ≤ 'F' then some (c.toNat - 55)
  else none

/-- The number that hexadecimal digits spell, most significant first. -/
def hexValues? (cs : List Char) : Option Nat :=
  cs.foldl (fun value c => do return 16 * (← value) + (← hexValue? c)) (some 0)

end CommandRouter
