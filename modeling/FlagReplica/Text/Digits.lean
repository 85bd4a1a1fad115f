/-!
# Digits

The value of a run of digits in a base up to sixteen, and the runs a text starts with. `ofDigits?`
is the one reader of natural numbers in the library: what surrounds the digits (a sign, a point, an
escape) is the business of the format that calls it.
-/

namespace FlagReplica.Text

/-- The value of a digit in bases up to sixteen, in either case. -/
def digitValue? (c : Char) : Option Nat :=
  if '0' ≤ c ∧ c ≤ '9' then some (c.toNat - '0'.toNat)
  else if 'a' ≤ c ∧ c ≤ 'f' then some (c.toNat - 'a'.toNat + 10)
  else if 'A' ≤ c ∧ c ≤ 'F' then some (c.toNat - 'A'.toNat + 10)
  else none

/-- Whether the character is a digit in the base. -/
def isDigitOf (base : Nat) (c : Char) : Bool :=
  match digitValue? c with
  | some d => d < base
  | none => false

/-- The number that a run of digits adds to what the digits before it are worth. -/
def appendDigits (base : Nat) (acc : Nat) (ds : List Char) : Nat :=
  ds.foldl (fun n c => n * base + (digitValue? c).getD 0) acc

/-- The number that digits write in the base, the first digit the most significant. There is none
for an empty text or one that holds another character. -/
def ofDigits? (base : Nat) (ds : List Char) : Option Nat :=
  if ds.isEmpty || !ds.all (isDigitOf base) then none else some (appendDigits base 0 ds)

/-- The digits a text starts with, and the rest. -/
def spanDigits (base : Nat) (cs : List Char) : List Char × List Char :=
  (cs.takeWhile (isDigitOf base), cs.dropWhile (isDigitOf base))

/-- A number in lower-case hexadecimal, without leading zeros. -/
def hex (n : Nat) : String := String.ofList (Nat.toDigits 16 n)

/-- A number in decimal. -/
def decimal (n : Nat) : String := String.ofList (Nat.toDigits 10 n)

/-- An integer in decimal, with a minus sign if it is negative. -/
def decimalInt : Int → String
  | .ofNat n => decimal n
  | .negSucc n => "-" ++ decimal (n + 1)

/-- Nothing is lost: the digits and the rest are the text. -/
theorem spanDigits_append (base : Nat) (cs : List Char) :
    (spanDigits base cs).1 ++ (spanDigits base cs).2 = cs :=
  List.takeWhile_append_dropWhile

/-- What the rest starts with is no digit. -/
theorem spanDigits_rest_head (base : Nat) (cs : List Char) :
    ∀ c ∈ (spanDigits base cs).2.head?, isDigitOf base c = false := by
  induction cs with
  | nil => simp [spanDigits]
  | cons c cs ih =>
    by_cases h : isDigitOf base c
    · simpa [spanDigits, h] using ih
    · simp [spanDigits, h]

end FlagReplica.Text
